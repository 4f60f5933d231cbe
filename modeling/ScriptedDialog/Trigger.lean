import ScriptedDialog.Fault
import ScriptedDialog.Text.Blank
import ScriptedDialog.Text.WordChar

/-! Triggers of commands. A reference stands for whatever values a variable has,
a trigger with an underscore among its words is a pattern with a hole for each
of them, and every other trigger is the one text that it accepts. -/

namespace ScriptedDialog

inductive Trigger where
  | literal (text : String)
  | wildcard (text : String)
  | reference (name : String)
  deriving DecidableEq, Repr

namespace Trigger

open Text

/-- The word of a pattern that stands for any word. -/
def hole : List Char := ['_']

/-- A pattern with more holes than this is refused. It stands for a limit of 10 MiB on the size of
the whole pattern when it is made ready for matching, which a pattern of holes alone passes at
this number. The other words of a pattern take room as well, so where they are many or long the
limit is met with fewer holes; this is left out here. -/
def maxHoles : Nat := 206

/-- The name, for a text that is a reference to a variable and nothing else. -/
def reference? : List Char → Option (List Char)
  | '~' :: name => if !name.isEmpty && name.all isWordChar then some name else none
  | _ => none

def ofText (text : String) : Except Fault Trigger :=
  match reference? text.toList with
  | some name => .ok (.reference (String.ofList name))
  | none =>
    match (words text.toList).count hole with
    | 0 => .ok (.literal text)
    | holes => if holes ≤ maxHoles then .ok (.wildcard text) else .error (.triggerPattern text)

/-- The trigger as it is written in a script. -/
def source : Trigger → String
  | .literal text => text
  | .wildcard text => text
  | .reference name => s!"~{name}"

def kind : Trigger → String
  | .literal _ => "literal"
  | .wildcard _ => "wildcard"
  | .reference _ => "variable"

end Trigger

end ScriptedDialog
