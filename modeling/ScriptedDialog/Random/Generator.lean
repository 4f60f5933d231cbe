import ScriptedDialog.Random.Keystream

/-! Random choices. A generator is a keystream with the number of words drawn
from it so far. An index below a bound is drawn without bias: a draw is scaled
by the bound, and refused when its low part lies in the uneven rest. -/

namespace ScriptedDialog

structure Generator where
  key : Random.Key
  drawn : Nat
  deriving DecidableEq, Repr

namespace Generator

def ofSeed (seed : UInt64) : Generator := ⟨Random.Key.ofSeed seed, 0⟩

def draw (g : Generator) : Nat × Generator :=
  ((Random.keystream g.key g.drawn).toNat, ⟨g.key, g.drawn + 1⟩)

/-- The greatest low part that is accepted for a bound: one less than the largest
multiple of the bound by a power of two that fits in a word. -/
def zone (bound : Nat) : Nat := bound <<< (31 - Nat.log2 bound) - 1

/-- At least half of all draws are accepted, so this many refusals in a row do
not happen. -/
def maxRefusals : Nat := 1024

/-- Draws until a draw is accepted; the one after the last refusal is taken as
it comes. -/
def indexWithin (bound : Nat) : Nat → Generator → Nat × Generator
  | 0, g =>
    let (v, g) := g.draw
    (v * bound / UInt32.size, g)
  | refusals + 1, g =>
    let (v, g) := g.draw
    if v * bound % UInt32.size ≤ zone bound then (v * bound / UInt32.size, g)
    else indexWithin bound refusals g

def index (g : Generator) (bound : Nat) : Nat × Generator := indexWithin bound maxRefusals g

/-- Picks an item of a list. An empty list draws nothing. An index is drawn from single words, so
this stands for lists of fewer than 2 ^ 32 items; longer ones would need two words for an index. -/
def choose (g : Generator) (items : List α) : Option α × Generator :=
  match items with
  | [] => (none, g)
  | x :: xs =>
    let (i, g) := g.index (x :: xs).length
    ((x :: xs)[i]?, g)

theorem draw_lt (g : Generator) : g.draw.1 < UInt32.size := UInt32.toNat_lt_size _

theorem scaled_lt {v bound : Nat} (hv : v < UInt32.size) (hb : 0 < bound) :
    v * bound / UInt32.size < bound :=
  Nat.div_lt_of_lt_mul (Nat.mul_lt_mul_of_pos_right hv hb)

theorem indexWithin_lt {bound : Nat} (hb : 0 < bound) (refusals : Nat) (g : Generator) :
    (indexWithin bound refusals g).1 < bound := by
  induction refusals generalizing g with
  | zero => exact scaled_lt g.draw_lt hb
  | succ n ih =>
    simp only [indexWithin]
    split
    · exact scaled_lt g.draw_lt hb
    · exact ih _

theorem index_lt {bound : Nat} (hb : 0 < bound) (g : Generator) : (g.index bound).1 < bound :=
  indexWithin_lt hb _ g

theorem choose_nil (g : Generator) : g.choose ([] : List α) = (none, g) := rfl

/-- A list that is not empty always gives one of its items. -/
theorem exists_mem_choose {items : List α} (h : items ≠ []) (g : Generator) :
    ∃ x ∈ items, (g.choose items).1 = some x := by
  match items with
  | x :: xs =>
    have hi := index_lt (Nat.succ_pos xs.length) g
    exact ⟨_, List.getElem_mem hi, List.getElem?_eq_getElem hi⟩

end Generator

end ScriptedDialog
