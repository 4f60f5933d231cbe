import ScriptedDialog.Fault
import ScriptedDialog.Text.Quoted

/-! Why a test case cannot be run, or fails. -/

namespace ScriptedDialog.TestCase

inductive Failure where
  | unreadable (path : String) (cause : Files.ReadFault)
  | malformed (path : String)
  | schemaVersion (expected found : String)
  | noCases (file root : String)
  | load (fault : Fault)
  | turn (index : Nat) (input : String) (fault : Fault)
  | diagnostics (expected actual : List String)
  | reply (index : Nat) (input expected actual : String)
  deriving DecidableEq, Repr

def Failure.code : Failure → String
  | .unreadable _ _ => "ReadFile"
  | .malformed _ => "ParseCase"
  | .schemaVersion _ _ => "InvalidSchemaVersion"
  | .noCases _ _ => "CasesEmpty"
  | .load _ => "Load"
  | .turn _ _ _ => "Engine"
  | .diagnostics _ _ => "DiagnosticsMismatch"
  | .reply _ _ _ _ => "ReplyMismatch"

def Failure.message : Failure → String
  | .unreadable path cause => s!"Failed to read file {path}: {cause.message}"
  | .malformed path => s!"Failed to parse testcase {path}"
  | .schemaVersion expected found =>
    s!"Invalid testcase schema version \"{found}\", expected \"{expected}\"."
  | .noCases file root => s!"No {file} found under {root}."
  | .load fault => s!"Script load failed: {fault.display}"
  | .turn index input fault =>
    s!"Engine error at turn {index} (input {Text.quoted input}): {fault.display}"
  | .diagnostics expected actual =>
    s!"Expected diagnostics {Text.quotedList expected}, actual {Text.quotedList actual}."
  | .reply index input expected actual =>
    s!"Reply mismatch at turn {index} (input {Text.quoted input}). " ++
      s!"expected={expected} actual={actual}"

end ScriptedDialog.TestCase
