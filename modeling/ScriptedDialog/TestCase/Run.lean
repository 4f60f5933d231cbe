import ScriptedDialog.Json.Reader
import ScriptedDialog.TestCase.Decode
import ScriptedDialog.TestCase.Failure

/-! Running test cases. A run takes all turns of a case on a fresh dialog and
stops at the first that fails. A check then compares the diagnostics of the
script and, turn by turn, the replies. -/

namespace ScriptedDialog.TestCase

def ofFile (read : ReadFile) (path : String) : Except Failure TestCase :=
  match read path with
  | .error cause => .error (.unreadable path cause)
  | .ok content =>
    match (Json.read? content).bind ofJson? with
    | none => .error (.malformed path)
    | some c =>
      if c.schemaVersion = schema then .ok c else .error (.schemaVersion schema c.schemaVersion)

structure Report where
  replies : List (Option String)
  diagnostics : List String
  deriving DecidableEq, Repr

/-- The replies to inputs, of which the first has the given index. -/
def replies (d : Dialog) (index : Nat) : List String → Except Failure (List (Option String))
  | [] => .ok []
  | input :: inputs =>
    match d.turn input with
    | (.error fault, _) => .error (.turn index input fault)
    | (.ok reply, d) => (replies d (index + 1) inputs).map (reply :: ·)

def run (read : ReadFile) (directory : String) (c : TestCase) : Except Failure Report :=
  match Load.dialog read (Files.Path.join directory c.script) (.ofSeed c.randomSeed) with
  | .error fault => .error (.load fault)
  | .ok d =>
    (replies d 0 (c.turns.map (·.input))).map fun replies =>
      ⟨replies, d.diagnostics.map (·.fault.code)⟩

/-- The first turn whose reply is not accepted. -/
def firstMismatch? (index : Nat) : List TestTurn → List (Option String) → Option Failure
  | turn :: turns, reply :: replies =>
    if turn.expect.accepts reply then firstMismatch? (index + 1) turns replies
    else some (.reply index turn.input turn.expect.toJson.compact (Json.ofText? reply).compact)
  | _, _ => none

def check (read : ReadFile) (directory : String) (c : TestCase) : Except Failure Unit :=
  match c.run read directory with
  | .error failure => .error failure
  | .ok report =>
    if report.diagnostics ≠ c.expectedDiagnostics then
      .error (.diagnostics c.expectedDiagnostics report.diagnostics)
    else match firstMismatch? 0 c.turns report.replies with
      | some failure => .error failure
      | none => .ok ()

def checkFile (read : ReadFile) (directory path : String) : Except Failure Unit :=
  (ofFile read path).bind (check read directory)

end ScriptedDialog.TestCase
