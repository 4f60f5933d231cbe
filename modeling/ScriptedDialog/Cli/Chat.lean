import ScriptedDialog.Cli.Outcome
import ScriptedDialog.Text.Lines

/-! Chatting line by line. A line that is one of four colon commands is obeyed,
any other is a turn. A turn that fails is reported, and the chat goes on. -/

namespace ScriptedDialog.Cli

def helpLine : String := "commands: :help :describe :reset :quit"

def greeting : String := s!"Tango dialog\n{helpLine}\n"

def prompt : String := " > "

/-- What one line does: its output, its log and the dialog to go on with, if the
chat goes on. -/
structure ChatStep where
  output : String
  log : List Log.Entry
  next : Option Dialog
  deriving DecidableEq, Repr

/-- The lines of a description, each ended. -/
def descriptionOutput (d : Dialog) : String :=
  String.join ((Text.lines d.describe.toList).map fun line => String.ofList line ++ "\n")

def chatTurn (lowercase : Bool) (d : Dialog) (raw : String) : ChatStep :=
  let input := normalized lowercase raw
  let log := d.turnLog input
  match d.turn input with
  | (.ok (some reply), d) => ⟨reply ++ "\n", log, some d⟩
  | (.ok none, d) => ⟨"", log, some d⟩
  | (.error fault, d) =>
    ⟨s!"[{fault.code}] {fault.message}\n",
      log ++ [⟨.warn, s!"reply failed for {Text.quoted input}: {fault.display}"⟩], some d⟩

def chatStep (lowercase : Bool) (d : Dialog) (line : String) : ChatStep :=
  let raw := withoutLineEnd line
  match Text.trimmed raw with
  | ":help" => ⟨helpLine ++ "\n", [], some d⟩
  | ":describe" => ⟨descriptionOutput d, [], some d⟩
  | ":reset" => ⟨"context cleared\n", [], some d.reset⟩
  | ":quit" => ⟨"bye\n", [], none⟩
  | _ => chatTurn lowercase d raw

/-- A line of the user's, or why it could not be read. -/
abbrev InputLine := Except Files.ReadFault String

/-- How a chat ends when there are no more lines. -/
def chatClosed : Outcome := ⟨0, "\n", [⟨.debug, "input closed"⟩]⟩

/-- How a chat ends when a line cannot be read. -/
def chatBroken (cause : Files.ReadFault) : Outcome := ⟨1, faultBlock (.inputUnreadable cause), []⟩

def Outcome.prompted (o : Outcome) : Outcome := { o with output := prompt ++ o.output }

/-- Takes lines until they end, one of them cannot be read, or the user quits. -/
def chatLines (lowercase : Bool) (d : Dialog) : List InputLine → Outcome
  | [] => chatClosed.prompted
  | .error cause :: _ => (chatBroken cause).prompted
  | .ok line :: lines =>
    let step := chatStep lowercase d line
    match step.next with
    | none => ⟨0, prompt ++ step.output, step.log⟩
    | some d =>
      let rest := chatLines lowercase d lines
      ⟨rest.code, prompt ++ step.output ++ rest.output, step.log ++ rest.log⟩

/-- The dialog to chat on, and what is logged before the first prompt. A script
that cannot be read leaves a dialog without replies. -/
def chatStart (read : ReadFile) (script : String) (g : Generator) : Dialog × List Log.Entry :=
  let started (d : Dialog) : Log.Entry :=
    ⟨.info, s!"chat started with {d.tree.size} commands from {script}"⟩
  match Load.dialog read script g with
  | .ok d => (d, Load.log read script ++ [started d])
  | .error fault =>
    let d := Dialog.inert g
    (d, Load.log read script
      ++ [⟨.warn, s!"continuing without commands: {fault.display}"⟩, started d])

def chat (read : ReadFile) (script : String) (g : Generator) (lowercase : Bool)
    (lines : List InputLine) : Outcome :=
  let (d, log) := chatStart read script g
  let rest := chatLines lowercase d lines
  ⟨rest.code, greeting ++ rest.output, log ++ rest.log⟩

/-! ### Lines from bytes -/

/-- Bytes in pieces that end with a line feed; the last need not. -/
def byteLines : List UInt8 → List (List UInt8)
  | [] => []
  | b :: bs =>
    if b = 10 then [b] :: byteLines bs
    else match byteLines bs with
      | [] => [[b]]
      | line :: later => (b :: line) :: later

/-- The lines of an input, each with its line feed. -/
def inputLines (input : ByteArray) : List InputLine :=
  (byteLines input.toList).map fun line =>
    match String.fromUTF8? line.toByteArray with
    | some text => .ok text
    | none => .error .invalidText

end ScriptedDialog.Cli
