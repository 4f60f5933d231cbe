import ScriptedDialog.Load
import ScriptedDialog.Text.Lowercase

/-! What a run of the program leaves: its output, its log and its exit code. -/

namespace ScriptedDialog.Cli

structure Outcome where
  code : Nat
  output : String
  log : List Log.Entry
  deriving DecidableEq, Repr

/-- A fault as the program reports it on its output. -/
def faultBlock (f : Fault) : String :=
  s!"RESULT:ERROR\nERROR_CODE:{f.code}\nERROR_MSG_JSON:{(Json.text f.message).compact}\n"

/-- A text without the line ends at its end. -/
def withoutLineEnd (s : String) : String :=
  String.ofList (s.toList.reverse.dropWhile fun c => c = '\r' || c = '\n').reverse

/-- An input as a dialog takes it. -/
def normalized (lowercase : Bool) (raw : String) : String :=
  if lowercase then Text.lowercase (withoutLineEnd raw) else withoutLineEnd raw

end ScriptedDialog.Cli
