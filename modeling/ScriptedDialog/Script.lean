import ScriptedDialog.Script.Statement

/-! A script as its statements, with a diagnostic for every line that is none. -/

namespace ScriptedDialog

structure Script where
  statements : List Script.Statement
  diagnostics : List Diagnostic

namespace Script

def ofLines (lines : List SourceLine) : Script where
  statements := lines.filterMap fun line => (Statement.ofLine line).toOption
  diagnostics := lines.filterMap fun line =>
    match Statement.ofLine line with
    | .ok _ => none
    | .error d => some d

def ofSource (source : String) : Script := ofLines (instructionLines source)

end Script

end ScriptedDialog
