import ScriptedDialog.Text.Blank
import ScriptedDialog.Text.Lines

/-! The instruction lines of a script. A number sign starts a comment that runs
to the end of its line; what is left of a line, without the blanks around it, is
an instruction unless nothing is left. Lines keep their numbers in the source,
counted from one. -/

namespace ScriptedDialog.Script

structure SourceLine where
  number : Nat
  text : String
  deriving DecidableEq, Repr

/-- The instruction on a physical line. -/
def instruction? (line : List Char) : Option (List Char) :=
  let body := Text.trim line
  if body.head? = some '#' then none
  else
    let kept := Text.trimEnd (body.takeWhile (· ≠ '#'))
    if kept.isEmpty then none else some kept

def instructionLines (source : String) : List SourceLine :=
  ((Text.lines source.toList).zipIdx 1).filterMap fun (line, number) =>
    (instruction? line).map fun text => ⟨number, String.ofList text⟩

/-- The lines are numbered upwards. -/
theorem instructionLines_sorted (source : String) :
    (instructionLines source).Pairwise fun l m => l.number < m.number := by
  have hnumbers : ((Text.lines source.toList).zipIdx 1).Pairwise fun l m => l.2 < m.2 := by
    rw [← List.pairwise_map, List.zipIdx_map_snd]
    exact List.pairwise_lt_range'
  refine List.Pairwise.filterMap _ ?_ hnumbers
  rintro ⟨l, n⟩ ⟨l', n'⟩ hn line hline line' hline'
  obtain ⟨_, -, rfl⟩ := Option.map_eq_some_iff.mp hline
  obtain ⟨_, -, rfl⟩ := Option.map_eq_some_iff.mp hline'
  exact hn

end ScriptedDialog.Script
