import Mathlib.Algebra.Order.Ring.Nat
import Mathlib.Order.Interval.Finset.Nat
import ScriptedDialog.Random.Generator

/-! Random choices are uniform. Below a bound each index is given by equally many of the
words that are accepted, and a choice goes by the first word of the keystream that is
accepted, so no item of a list is favoured. -/

namespace ScriptedDialog.Generator

/-! ### The words for an index -/

/-- A word is accepted for a bound if the low part of its scaled value is within the zone. -/
def Accepts (bound word : Nat) : Prop := word * bound % UInt32.size ≤ zone bound

instance (bound word : Nat) : Decidable (Accepts bound word) := Nat.decLe ..

/-- The words that are accepted for a bound and give an index. -/
def wordsFor (bound i : Nat) : Finset Nat :=
  {word ∈ Finset.range UInt32.size | Accepts bound word ∧ word * bound / UInt32.size = i}

/-- The quotient of a division is given and its remainder bounded on one stretch of numbers. -/
theorem mod_le_and_div_eq_iff {size low n i : Nat} (h : low < size) :
    n % size ≤ low ∧ n / size = i ↔ i * size ≤ n ∧ n < i * size + (low + 1) := by
  constructor
  · rintro ⟨hlow, rfl⟩
    have hsplit := Nat.div_add_mod' n size
    omega
  · rintro ⟨hlower, hupper⟩
    obtain ⟨r, rfl⟩ := Nat.exists_eq_add_of_le hlower
    have hr : r < size := by omega
    rw [Nat.mul_add_mod_self_right, Nat.mod_eq_of_lt hr, Nat.add_comm,
      Nat.add_mul_div_right _ _ (by omega), Nat.div_eq_of_lt hr]
    omega

section
variable {bound : Nat} (hb : 0 < bound)
include hb

theorem zone_add_one : zone bound + 1 = bound * 2 ^ (31 - Nat.log2 bound) := by
  have hpos : 0 < bound * 2 ^ (31 - Nat.log2 bound) := Nat.mul_pos hb (Nat.two_pow_pos _)
  rw [zone, Nat.shiftLeft_eq]
  omega

variable (hsize : bound < UInt32.size)
include hsize

theorem zone_lt : zone bound < UInt32.size := by
  have hlog : Nat.log2 bound < 32 := (Nat.log2_lt hb.ne').mpr hsize
  calc zone bound + 1 = bound * 2 ^ (31 - Nat.log2 bound) := zone_add_one hb
    _ ≤ 2 ^ (Nat.log2 bound + 1) * 2 ^ (31 - Nat.log2 bound) :=
      Nat.mul_le_mul_right _ Nat.lt_log2_self.le
    _ = UInt32.size := by
      rw [← Nat.pow_add, show Nat.log2 bound + 1 + (31 - Nat.log2 bound) = 32 by omega]

variable {i : Nat} (hi : i < bound)
include hi

/-- The words for an index are those whose multiples of the bound lie in one stretch. -/
theorem mem_wordsFor_iff {word : Nat} : word ∈ wordsFor bound i ↔
    i * UInt32.size ≤ word * bound ∧ word * bound < i * UInt32.size + (zone bound + 1) := by
  rw [wordsFor, Finset.mem_filter, Finset.mem_range, Accepts,
    mod_le_and_div_eq_iff (zone_lt hb hsize), and_iff_right_iff_imp]
  rintro ⟨-, hupper⟩
  refine Nat.lt_of_mul_lt_mul_right (a := bound) ?_
  calc word * bound < i * UInt32.size + UInt32.size :=
        hupper.trans_le (Nat.add_le_add_left (zone_lt hb hsize) _)
    _ = (i + 1) * UInt32.size := (Nat.succ_mul ..).symm
    _ ≤ bound * UInt32.size := Nat.mul_le_mul_right _ hi
    _ = UInt32.size * bound := Nat.mul_comm ..

/-- Every index below a bound is given by the same number of words. -/
theorem card_wordsFor : (wordsFor bound i).card = 2 ^ (31 - Nat.log2 bound) := by
  generalize hfirst : (i * UInt32.size + (bound - 1)) / bound = first
  have hlower (word : Nat) : i * UInt32.size ≤ word * bound ↔ first ≤ word := by
    rw [← hfirst, Nat.div_le_iff_le_mul_add_pred hb, Nat.mul_comm word]
    omega
  have hupper (word : Nat) : i * UInt32.size + bound * 2 ^ (31 - Nat.log2 bound) ≤ word * bound ↔
      first + 2 ^ (31 - Nat.log2 bound) ≤ word := by
    generalize 2 ^ (31 - Nat.log2 bound) = count
    rcases Nat.lt_or_ge word count with hlt | hge
    · have hmul := Nat.mul_lt_mul_of_pos_right hlt hb
      rw [Nat.mul_comm count] at hmul
      omega
    · obtain ⟨beyond, rfl⟩ := Nat.exists_eq_add_of_le' hge
      rw [Nat.add_mul, Nat.mul_comm count, Nat.add_le_add_iff_right, hlower,
        Nat.add_le_add_iff_right]
  -- The words are consecutive, from the first whose multiple reaches the stretch.
  have hstretch : wordsFor bound i = Finset.Ico first (first + 2 ^ (31 - Nat.log2 bound)) := by
    ext word
    rw [mem_wordsFor_iff hb hsize hi, Finset.mem_Ico, hlower, zone_add_one hb, ← Nat.not_le, hupper,
      Nat.not_le]
  rw [hstretch, Nat.card_Ico, Nat.add_sub_cancel_left]

end

/-! ### The word that decides -/

/-- The words that will be drawn, one after the other. -/
def ahead (g : Generator) (n : Nat) : Nat := (Random.keystream g.key (g.drawn + n)).toNat

theorem ahead_draw (g : Generator) (n : Nat) : g.draw.2.ahead n = g.ahead (n + 1) := by
  rw [ahead, ahead, draw, Nat.add_assoc, Nat.add_comm 1]

theorem indexWithin_succ (bound refusals : Nat) (g : Generator) :
    indexWithin bound (refusals + 1) g =
      if Accepts bound (g.ahead 0) then (g.ahead 0 * bound / UInt32.size, g.draw.2)
      else indexWithin bound refusals g.draw.2 := rfl

/-- An index goes by the first word that is accepted. -/
theorem indexWithin_eq (bound refusals : Nat) (g : Generator) :
    ∃ n ≤ refusals, (∀ m < n, ¬ Accepts bound (g.ahead m)) ∧
      (n < refusals → Accepts bound (g.ahead n)) ∧
      indexWithin bound refusals g =
        (g.ahead n * bound / UInt32.size, ⟨g.key, g.drawn + n + 1⟩) := by
  induction refusals generalizing g with
  | zero => exact ⟨0, Nat.le_refl 0, nofun, nofun, rfl⟩
  | succ refusals ih =>
    rw [indexWithin_succ]
    by_cases haccepts : Accepts bound (g.ahead 0)
    · rw [if_pos haccepts]
      exact ⟨0, Nat.zero_le _, nofun, fun _ => haccepts, rfl⟩
    · obtain ⟨n, hn, hrefused, haccepted, heq⟩ := ih g.draw.2
      simp only [ahead_draw] at hrefused haccepted heq
      refine ⟨n + 1, Nat.succ_le_succ hn, fun m hm => ?_,
        fun hlt => haccepted (Nat.lt_of_succ_lt_succ hlt), ?_⟩
      · cases m with
        | zero => exact haccepts
        | succ m => exact hrefused m (Nat.lt_of_succ_lt_succ hm)
      · rw [if_neg haccepts, heq, Nat.add_comm n, ← Nat.add_assoc]
        rfl

/-- The item is the one at an index, and the index is given by the first word ahead that is
accepted; a choice of each item is left to equally many words. -/
structure Fair (items : List α) : Prop where
  choose_eq (g : Generator) : ∃ i n item, items[i]? = some item ∧ n ≤ maxRefusals ∧
    (∀ m < n, ¬ Accepts items.length (g.ahead m)) ∧
    (n < maxRefusals → g.ahead n ∈ wordsFor items.length i) ∧
    g.choose items = (some item, ⟨g.key, g.drawn + n + 1⟩)
  card_wordsFor (i : Nat) (hi : i < items.length) :
    (wordsFor items.length i).card = 2 ^ (31 - Nat.log2 items.length)

theorem ahead_lt (g : Generator) (n : Nat) : g.ahead n < UInt32.size := UInt32.toNat_lt_size _

theorem fair {items : List α} (h : items ≠ []) (hsize : items.length < UInt32.size) :
    Fair items := by
  have hb : 0 < items.length := List.length_pos_iff.mpr h
  refine ⟨fun g => ?_, fun i hi => card_wordsFor hb hsize hi⟩
  obtain ⟨n, hn, hrefused, haccepted, heq⟩ := indexWithin_eq items.length maxRefusals g
  have hi := scaled_lt (g.ahead_lt n) hb
  refine ⟨_, n, _, List.getElem?_eq_getElem hi, hn, hrefused, fun hlt => ?_, ?_⟩
  · exact Finset.mem_filter.mpr ⟨Finset.mem_range.mpr (g.ahead_lt n), haccepted hlt, rfl⟩
  · cases items with
    | nil => exact absurd rfl h
    | cons x xs =>
      rw [choose, index, heq]
      exact congrArg (·, _) (List.getElem?_eq_getElem hi)

end ScriptedDialog.Generator
