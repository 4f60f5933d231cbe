import ScriptedDialog.Script.SourceLine

/-! Emptying lines of a source. The characters of some lines are taken out and all else
stays, line ends included, so the other lines keep their numbers. What is left is the
instructions of the other lines. -/

namespace ScriptedDialog

namespace Text

/-- A text without what stands on some of its lines, which are counted from `n` on. -/
def emptyLines (which : Nat → Bool) (n : Nat) : List Char → List Char
  | [] => []
  | c :: cs =>
    if c = '\n' then c :: emptyLines which (n + 1) cs
    else if c = '\r' ∧ cs.head? = some '\n' then c :: emptyLines which n cs
    else if which n then emptyLines which n cs
    else c :: emptyLines which n cs

/-! ### Lines, character by character -/

theorem lines_lineFeed (cs : List Char) : lines ('\n' :: cs) = [] :: lines cs := rfl

theorem lines_return {cs : List Char} (h : cs.head? = some '\n') :
    lines ('\r' :: cs) = lines cs := by
  rw [lines, if_neg (by decide), if_pos ⟨rfl, h⟩]

theorem lines_cons {c : Char} {cs : List Char} (hc : c ≠ '\n')
    (hreturn : ¬ (c = '\r' ∧ cs.head? = some '\n')) :
    lines (c :: cs) = (c :: (lines cs).headD []) :: (lines cs).tail := by
  rw [lines, if_neg hc, if_neg hreturn]
  cases lines cs <;> rfl

theorem lines_eq_nil_iff {cs : List Char} : lines cs = [] ↔ cs = [] := by
  induction cs with
  | nil => exact iff_of_true rfl rfl
  | cons c cs ih =>
    refine iff_of_false ?_ (List.cons_ne_nil c cs)
    by_cases hc : c = '\n'
    · rw [hc, lines_lineFeed]
      nofun
    · by_cases hreturn : c = '\r' ∧ cs.head? = some '\n'
      · rw [hreturn.1, lines_return hreturn.2, ih]
        rintro rfl
        cases hreturn.2
      · rw [lines_cons hc hreturn]
        nofun

/-! ### The emptied text -/

theorem head?_emptyLines {which : Nat → Bool} {n : Nat} {cs : List Char}
    (h : which n = false ∨ cs.head? = some '\n') :
    (emptyLines which n cs).head? = cs.head? := by
  cases cs with
  | nil => rfl
  | cons c cs =>
    unfold emptyLines
    split
    · rfl
    · next hc =>
      split
      · rfl
      · rcases h with h | h
        · simp [h]
        · exact absurd (Option.some.inj h) hc

/-- The emptied text has the same lines, emptied, but for a last line that had no line
end. -/
theorem lines_emptyLines (which : Nat → Bool) (n : Nat) (cs : List Char) :
    ∃ last, (last = [] ∨ last = [[]]) ∧ lines (emptyLines which n cs) ++ last =
      ((lines cs).zipIdx n).map fun l => if which l.2 then [] else l.1 := by
  fun_induction emptyLines which n cs with
  | case1 => exact ⟨[], Or.inl rfl, rfl⟩
  | case2 n cs ih =>
    obtain ⟨last, hlast, h⟩ := ih
    exact ⟨last, hlast, by simp [lines_lineFeed, h]⟩
  | case3 n c cs hc hreturn ih =>
    obtain ⟨last, hlast, h⟩ := ih
    obtain ⟨rfl, hhead⟩ := hreturn
    refine ⟨last, hlast, ?_⟩
    rw [lines_return hhead, lines_return ((head?_emptyLines (Or.inr hhead)).trans hhead), h]
  | case4 n c cs hc hreturn hn ih =>
    obtain ⟨last, hlast, h⟩ := ih
    rw [lines_cons hc hreturn]
    cases hl : lines cs with
    | nil =>
      -- The character was the whole last line, which is gone with it.
      rw [hl] at h
      refine ⟨[[]], Or.inr rfl, ?_⟩
      simp [(List.append_eq_nil_iff.mp h).1, hn]
    | cons line later =>
      rw [hl] at h
      exact ⟨last, hlast, by simpa [hn] using h⟩
  | case5 n c cs hc hreturn hn ih =>
    obtain ⟨last, hlast, h⟩ := ih
    have hhead : (emptyLines which n cs).head? = cs.head? :=
      head?_emptyLines (Or.inl (Bool.eq_false_iff.mpr hn))
    have hreturn' : ¬ (c = '\r' ∧ (emptyLines which n cs).head? = some '\n') := hhead ▸ hreturn
    rw [lines_cons hc hreturn, lines_cons hc hreturn']
    cases hl : lines cs with
    | nil =>
      rw [hl] at h
      refine ⟨[], Or.inl rfl, ?_⟩
      simp [(List.append_eq_nil_iff.mp h).1, hn]
    | cons line later =>
      rw [hl] at h
      refine ⟨last, hlast, ?_⟩
      cases he : lines (emptyLines which n cs) with
      | nil =>
        rw [lines_eq_nil_iff.mp he] at hhead
        rw [List.head?_eq_none_iff.mp hhead.symm] at hl
        cases hl
      | cons line' later' =>
        rw [he] at h
        simpa [hn] using h

end Text

namespace Script

/-- A source without what stands on some of its lines. -/
def emptied (which : Nat → Bool) (source : String) : String :=
  String.ofList (Text.emptyLines which 1 source.toList)

example : emptied (· = 2) "u: (a) : b\r\nbad\r\nlast" = "u: (a) : b\r\n\r\nlast" := by decide

/-- The instruction of a line with its number. -/
def numbered? (l : List Char × Nat) : Option SourceLine :=
  (instruction? l.1).map fun text => ⟨l.2, String.ofList text⟩

theorem instructionLines_eq_filterMap (source : String) :
    instructionLines source = ((Text.lines source.toList).zipIdx 1).filterMap numbered? := rfl

theorem filterMap_numbered?_emptied (which : Nat → Bool) (n : Nat) (ls : List (List Char)) :
    (((ls.zipIdx n).map fun l => if which l.2 then [] else l.1).zipIdx n).filterMap numbered? =
      ((ls.zipIdx n).filterMap numbered?).filter fun line => !which line.number := by
  induction ls generalizing n with
  | nil => rfl
  | cons line later ih =>
    have hnil : instruction? [] = none := rfl
    have hlater := ih (n + 1)
    cases hw : which n with
    | true => cases hi : instruction? line <;> simpa [numbered?, hi, hw, hnil] using hlater
    | false => cases hi : instruction? line <;> simpa [numbered?, hi, hw] using hlater

theorem instructionLines_emptied (which : Nat → Bool) (source : String) :
    instructionLines (emptied which source) =
      (instructionLines source).filter fun line => !which line.number := by
  obtain ⟨last, hlast, h⟩ := Text.lines_emptyLines which 1 source.toList
  have hnone : ((last.zipIdx (1 + (Text.lines
      (Text.emptyLines which 1 source.toList)).length)).filterMap numbered?) = [] := by
    rcases hlast with rfl | rfl <;> rfl
  rw [instructionLines_eq_filterMap, instructionLines_eq_filterMap, emptied, String.toList_ofList,
    ← filterMap_numbered?_emptied, ← h, List.zipIdx_append, List.filterMap_append, hnone,
    List.append_nil]

end Script

end ScriptedDialog
