import ScriptedDialog.Proofs.Text.Words
import ScriptedDialog.Text.Lines
import ScriptedDialog.Text.Quoted

/-! Texts without line feeds. They can be put together to larger ones, and numbers and
quoted texts are among them whatever they are made from. A text that does not end with a
carriage return either is read back as one line when it is written on a line of its own. -/

namespace ScriptedDialog.Text

def OneLine (s : String) : Prop := '\n' ∉ s.toList

instance (s : String) : Decidable (OneLine s) := inferInstanceAs (Decidable ('\n' ∉ s.toList))

section
variable {s t : String} {ss : List String}

@[simp] theorem oneLine_ofList_iff {cs : List Char} : OneLine (.ofList cs) ↔ '\n' ∉ cs := by
  rw [OneLine, String.toList_ofList]

@[simp] theorem oneLine_append_iff : OneLine (s ++ t) ↔ OneLine s ∧ OneLine t := by
  rw [OneLine, String.toList_append, List.mem_append, not_or, OneLine, OneLine]

@[simp] theorem oneLine_toString_iff : OneLine (toString s) ↔ OneLine s := Iff.rfl

theorem oneLine_of_isName (h : IsName s.toList) : OneLine s := fun hm =>
  absurd (not_isBlank_of_isName h '\n' hm) (by decide)

theorem oneLine_join (h : ∀ s ∈ ss, OneLine s) : OneLine (String.join ss) := by
  induction ss with
  | nil => exact List.not_mem_nil
  | cons s ss ih =>
    obtain ⟨hs, hss⟩ := List.forall_mem_cons.mp h
    rw [String.join_cons, oneLine_append_iff]
    exact ⟨hs, ih hss⟩

theorem oneLine_intercalate (hs : OneLine s) (h : ∀ t ∈ ss, OneLine t) :
    OneLine (String.intercalate s ss) := by
  induction ss with
  | nil => exact List.not_mem_nil
  | cons t ss ih =>
    obtain ⟨ht, hss⟩ := List.forall_mem_cons.mp h
    cases ss with
    | nil => exact ht
    | cons u ss =>
      rw [String.intercalate_cons_cons, oneLine_append_iff, oneLine_append_iff]
      exact ⟨⟨ht, hs⟩, ih hss⟩

end

/-! ### Numbers -/

theorem lineFeed_ne_digitChar : ∀ d < 16, '\n' ≠ Nat.digitChar d := by decide

theorem lineFeed_not_mem_toDigits {base : Nat} (h : 1 < base) (hle : base ≤ 16) (n : Nat) :
    '\n' ∉ Nat.toDigits base n := by
  induction n using Nat.strongRecOn with
  | ind n ih =>
    rw [Nat.toDigits_eq_if h]
    split
    · next hn =>
      rw [List.mem_singleton]
      exact lineFeed_ne_digitChar n (by omega)
    · next hn =>
      have hmod : n % base < base := Nat.mod_lt n (by omega)
      rw [List.mem_append, List.mem_singleton, not_or]
      exact ⟨ih (n / base) (Nat.div_lt_self (by omega) h), lineFeed_ne_digitChar _ (by omega)⟩

@[simp] theorem oneLine_repr (n : Nat) : OneLine n.repr := by
  show OneLine (toString n)
  rw [Nat.toString_eq_ofList_toDigits, oneLine_ofList_iff]
  exact lineFeed_not_mem_toDigits (by decide) (by decide) n

@[simp] theorem oneLine_hexadecimal (n : Nat) : OneLine (hexadecimal n) := by
  rw [hexadecimal, oneLine_ofList_iff]
  exact lineFeed_not_mem_toDigits (by decide) (by decide) n

/-! ### Quoted texts -/

/-- A line feed has an escape, and no escape has a line feed. -/
theorem oneLine_quoteChar (c : Char) : OneLine (quoteChar c) := by
  unfold quoteChar
  split
  case h_7 c _ _ hfeed _ _ _ =>
    split
    · simp only [oneLine_append_iff, oneLine_hexadecimal, and_true]
      decide
    · rw [OneLine, String.toList_singleton, List.mem_singleton]
      exact fun hc => hfeed hc.symm
  all_goals decide

@[simp] theorem oneLine_quoted (s : String) : OneLine (quoted s) := by
  have hjoin : OneLine (String.join (s.toList.map quoteChar)) := oneLine_join fun t ht => by
    obtain ⟨c, -, rfl⟩ := List.mem_map.mp ht
    exact oneLine_quoteChar c
  simp only [quoted, oneLine_append_iff, hjoin, and_true]
  decide

/-! ### Lines -/

/-- A text that is one line when a line feed is put behind it. -/
structure IsLine (s : String) : Prop where
  oneLine : OneLine s
  last : s.toList.getLast?.any (· ≠ '\r') = true

instance (s : String) : Decidable (IsLine s) :=
  decidable_of_iff (OneLine s ∧ s.toList.getLast?.any (· ≠ '\r') = true)
    ⟨fun ⟨hline, hlast⟩ => ⟨hline, hlast⟩, fun h => ⟨h.oneLine, h.last⟩⟩

theorem IsLine.exists_last {s : String} (h : IsLine s) :
    ∃ c, s.toList.getLast? = some c ∧ c ≠ '\r' := by
  simpa only [Option.any_eq_true, decide_eq_true_eq] using h.last

theorem IsLine.append {s t : String} (hs : OneLine s) (ht : IsLine t) : IsLine (s ++ t) where
  oneLine := oneLine_append_iff.mpr ⟨hs, ht.oneLine⟩
  last := by
    obtain ⟨c, hlast, hc⟩ := ht.exists_last
    rw [String.toList_append, List.getLast?_append, hlast, Option.some_or]
    exact decide_eq_true hc

theorem isLine_repr (n : Nat) : IsLine n.repr := by
  have hdigits : n.repr.toList = Nat.toDigits 10 n := by
    show (toString n).toList = _
    rw [Nat.toString_eq_ofList_toDigits, String.toList_ofList]
  have hlast := List.getLast?_eq_some_getLast (Nat.toDigits_ne_nil (n := n) (b := 10))
  refine ⟨oneLine_repr n, ?_⟩
  rw [hdigits, hlast]
  refine decide_eq_true fun hc => ?_
  have hdigit := Nat.isDigit_of_mem_toDigits (by decide) (by decide) (List.mem_of_getLast? hlast)
  rw [hc] at hdigit
  cases hdigit

theorem isLine_quotedList (ss : List String) : IsLine (quotedList ss) := by
  refine IsLine.append ?_ (by decide)
  refine oneLine_append_iff.mpr ⟨by decide, oneLine_intercalate (by decide) fun t ht => ?_⟩
  obtain ⟨s, -, rfl⟩ := List.mem_map.mp ht
  exact oneLine_quoted s

/-- Lines that are each ended are read back as they are. -/
theorem lines_join {ss : List String} (h : ∀ s ∈ ss, IsLine s) :
    lines (String.join (ss.map (· ++ "\n"))).toList = ss.map String.toList := by
  have hflat : (String.join (ss.map (· ++ "\n"))).toList =
      (ss.map String.toList).flatMap (· ++ ['\n']) := by
    simp [String.toList_join, List.flatMap_map]
  rw [hflat]
  refine lines_flatMap fun line hline => ?_
  obtain ⟨s, hs, rfl⟩ := List.mem_map.mp hline
  obtain ⟨c, hlast, hc⟩ := (h s hs).exists_last
  refine ⟨(h s hs).oneLine, ?_⟩
  rw [hlast, ne_eq, Option.some.injEq]
  exact hc

end ScriptedDialog.Text
