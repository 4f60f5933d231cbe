import ScriptedDialog.Cli.Outcome

/-! Asking: some turns are taken, and one line is put out for each reply. Nothing
but the fault is put out if any turn fails. -/

namespace ScriptedDialog.Cli

/-- The replies to inputs and the dialog afterwards, up to the first fault. -/
def askAll (d : Dialog) : List String → Except Fault (List (Option String) × Dialog)
  | [] => .ok ([], d)
  | input :: inputs =>
    match d.turn input with
    | (.error fault, _) => .error fault
    | (.ok reply, d) => (askAll d inputs).map fun (replies, d) => (reply :: replies, d)

/-- The log of the turns up to the first fault. -/
def askLog (d : Dialog) : List String → List Log.Entry
  | [] => []
  | input :: inputs =>
    d.turnLog input ++ match d.turn input with
      | (.error _, _) => []
      | (.ok _, d) => askLog d inputs

def replyLine (reply : Option String) : String :=
  s!"REPLY_JSON:{(Json.ofText? reply).compact}\n"

def askOutput (replies : List (Option String)) (d : Dialog) : String :=
  "RESULT:OK\n" ++ String.join (replies.map replyLine)
    ++ s!"CONTEXT_JSON:{(Json.ofText? d.contextTrigger?).compact}\n"

def ask (read : ReadFile) (script : String) (g : Generator) (lowercase : Bool)
    (texts : List String) : Outcome :=
  let inputs := texts.map (normalized lowercase)
  match Load.dialog read script g with
  | .error fault => ⟨1, faultBlock fault, Load.log read script⟩
  | .ok d =>
    let log := Load.log read script ++ askLog d inputs
    match askAll d inputs with
    | .error fault => ⟨1, faultBlock fault, log⟩
    | .ok (replies, d) => ⟨0, askOutput replies d, log⟩

end ScriptedDialog.Cli
