import ScriptedDialog.Cli.Outcome

/-! Describing a script, for people or as JSON, with its diagnostics. -/

namespace ScriptedDialog.Cli

def diagnosticLine (d : Diagnostic) : String := s!"DIAGNOSTIC:{d.display}\n"

def describeOutput (d : Dialog) (json : Bool) : String :=
  (if json then d.summary.indented ++ "\n" else d.describe)
    ++ String.join (d.diagnostics.map diagnosticLine)

def describe (read : ReadFile) (script : String) (g : Generator) (json : Bool) : Outcome :=
  match Load.dialog read script g with
  | .error fault => ⟨1, faultBlock fault, Load.log read script⟩
  | .ok d => ⟨0, describeOutput d json, Load.log read script⟩

end ScriptedDialog.Cli
