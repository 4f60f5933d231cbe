import Mathlib.Data.List.Basic
import ScriptedDialog.Proofs.Script.Declarations
import ScriptedDialog.Proofs.Script.Emptying

/-! Sources that go on. If all lines of a source are ended, what is appended to it is read
on lines of its own: the instruction lines of both come one after the other, and those of
the appended text are the ones that it has alone but for their numbers. -/

namespace ScriptedDialog

namespace Text

/-- Every line of the text has its line end. -/
def Ended (cs : List Char) : Prop := cs = [] ∨ cs.getLast? = some '\n'
  deriving Decidable

theorem Ended.of_cons {c : Char} {cs : List Char} (h : Ended (c :: cs)) : Ended cs := by
  cases cs with
  | nil => exact Or.inl rfl
  | cons d ds =>
    have hlast := h.resolve_left (List.cons_ne_nil _ _)
    exact Or.inr (by rwa [List.getLast?_cons_cons] at hlast)

theorem lines_append_of_ended {cs : List Char} (h : Ended cs) (more : List Char) :
    lines (cs ++ more) = lines cs ++ lines more := by
  induction cs with
  | nil => rfl
  | cons c cs ih =>
    have hlines := ih h.of_cons
    by_cases hc : c = '\n'
    · rw [hc, List.cons_append, lines_lineFeed, lines_lineFeed, hlines, List.cons_append]
    · have hne : cs ≠ [] := by
        rintro rfl
        have hlast := h.resolve_left (List.cons_ne_nil _ _)
        exact hc (Option.some.inj hlast)
      have hhead : (cs ++ more).head? = cs.head? := List.head?_append_of_ne_nil _ hne
      by_cases hreturn : c = '\r' ∧ cs.head? = some '\n'
      · rw [hreturn.1, List.cons_append, lines_return hreturn.2,
          lines_return (hhead.trans hreturn.2), hlines]
      · obtain ⟨line, later, hl⟩ := List.exists_cons_of_ne_nil (mt lines_eq_nil_iff.mp hne)
        rw [List.cons_append, lines_cons hc hreturn, lines_cons hc (hhead ▸ hreturn), hlines, hl]
        rfl

end Text

namespace Script

/-! ### Lines further down -/

/-- The same instruction some lines further down. -/
def SourceLine.moved (n : Nat) (line : SourceLine) : SourceLine :=
  { line with number := line.number + n }

theorem numbered?_add (n : Nat) (l : List Char × Nat) :
    numbered? (l.1, l.2 + n) = (numbered? l).map (·.moved n) := by
  unfold numbered?
  cases instruction? l.1 <;> rfl

theorem instructionLines_append {s : String} (h : Text.Ended s.toList) (t : String) :
    instructionLines (s ++ t) = instructionLines s ++
      (instructionLines t).map (·.moved (Text.lines s.toList).length) := by
  generalize hn : (Text.lines s.toList).length = n
  have hmoved : ((Text.lines t.toList).zipIdx 1).map (Prod.map id (· + n)) =
      (Text.lines t.toList).zipIdx (1 + n) := by
    rw [List.map_snd_add_zipIdx_eq_zipIdx, Nat.add_comm]
  rw [instructionLines_eq_filterMap, String.toList_append, Text.lines_append_of_ended h,
    List.zipIdx_append, List.filterMap_append, hn, ← hmoved, List.filterMap_map,
    instructionLines_eq_filterMap, instructionLines_eq_filterMap, List.map_filterMap]
  exact congrArg _ (List.filterMap_congr fun l _ => numbered?_add n l)

namespace Statement

/-- A line is read in the same way wherever it stands. -/
theorem Reading.moved {line : SourceLine} {r : Except Diagnostic Statement} (h : Reading line r)
    (n : Nat) :
    ∃ r', Reading (line.moved n) r' ∧ r'.toOption.bind declared? = r.toOption.bind declared? := by
  cases h with
  | declaration h => exact ⟨_, .declaration h, rfl⟩
  | malformed hd hc => exact ⟨_, .malformed hd hc, rfl⟩
  | badLevel hd hc hl => exact ⟨_, .badLevel hd hc hl, rfl⟩
  | blankTrigger hd hc hl ht => exact ⟨_, .blankTrigger hd hc hl ht, rfl⟩
  | command hd hc hl ht => exact ⟨_, .command hd hc hl ht, rfl⟩

theorem declared?_moved (n : Nat) (line : SourceLine) :
    (ofLine (line.moved n)).toOption.bind declared? = (ofLine line).toOption.bind declared? := by
  obtain ⟨r, hr, hdeclared⟩ := (ofLine_reading line).moved n
  rw [hr.eq, hdeclared]

end Statement

/-! ### Declarations -/

/-- The script declares a variable of a name. -/
def Declares (script : Script) (name : String) : Prop :=
  ∃ text n, .declaration name text n ∈ script.statements

/-- What the lines declare, in order. -/
def declarations (lines : List SourceLine) : List (String × Value) :=
  (ofLines lines).statements.filterMap (·.declared?)

theorem declares_of_mem_declarations {source name : String} {value : Value}
    (h : (name, value) ∈ declarations (instructionLines source)) :
    (ofSource source).Declares name := by
  obtain ⟨s, hs, hd⟩ := List.mem_filterMap.mp h
  cases s with
  | command => cases hd
  | declaration _ text n =>
    cases hd
    exact ⟨text, n, hs⟩

theorem declarations_eq_filterMap (lines : List SourceLine) :
    declarations lines =
      lines.filterMap fun line => (Statement.ofLine line).toOption.bind Statement.declared? :=
  List.filterMap_filterMap

theorem declarations_append (before after : List SourceLine) :
    declarations (before ++ after) = declarations before ++ declarations after := by
  simp only [declarations_eq_filterMap, List.filterMap_append]

theorem declarations_moved (n : Nat) (lines : List SourceLine) :
    declarations (lines.map (·.moved n)) = declarations lines := by
  rw [declarations_eq_filterMap, declarations_eq_filterMap, List.filterMap_map]
  exact List.filterMap_congr fun line _ => Statement.declared?_moved n line

end Script

end ScriptedDialog
