import ScriptedDialog.Cli.Program

/-! The program itself: files are read, the chat goes line by line, and the log
goes to the error stream. -/

namespace ScriptedDialog.Main

open Cli

/-- The number and the wording of an error of the operating system. -/
def systemError? : IO.Error → Option (UInt32 × String)
  | .noFileOrDirectory _ n wording | .inappropriateType _ n wording
  | .invalidArgument _ n wording | .permissionDenied _ n wording
  | .resourceExhausted _ n wording | .noSuchThing _ n wording
  | .otherError n wording | .illegalOperation n wording => some (n, wording)
  | _ => none

/-- The cause of a failed read. Error numbers may come negated. -/
def readFault (e : IO.Error) : Files.ReadFault :=
  match systemError? e with
  | none => .other (toString e)
  | some (n, wording) =>
    match if n < 0x80000000 then n else 0 - n with
    | 2 => .notFound
    | 20 => .notDirectory
    | 21 => .isDirectory
    | 36 => .nameTooLong
    | n => .other s!"{wording} (os error {n})"

def readText (path : String) : IO (Except Files.ReadFault String) := do
  match ← (IO.FS.readBinFile path).toBaseIO with
  | .error e => return .error (readFault e)
  | .ok content =>
    match String.fromUTF8? content with
    | some text => return .ok text
    | none => return .error .invalidText

/-- Reads what a script path may stand for: the path itself and the default
script below it. -/
def readScript (path : String) : IO ReadFile := do
  let own ← readText path
  let below := Files.Path.join path Load.defaultScript
  let inside ← readText below
  return fun p => if p = path then own else if p = below then inside else .error .notFound

def freshSeed : IO UInt64 := do
  let bytes ← IO.getRandomBytes 8
  return bytes.toList.foldl (fun seed b => seed * 256 + b.toUInt64) 0

def emit (verbosity : Nat) (output : String) (log : List Log.Entry) : IO Unit := do
  let out ← IO.getStdout
  out.putStr output
  out.flush
  (← IO.getStderr).putStr (Log.render verbosity log)

/-- The bytes up to the next line feed, or to the end of the input. -/
partial def readLine (stdin : IO.FS.Stream) (bytes : ByteArray) : IO ByteArray := do
  let next ← stdin.read 1
  if next.isEmpty then return bytes
  else if next[0]! = 10 then return bytes.push 10
  else readLine stdin (bytes ++ next)

/-- Chats until the input ends, a line cannot be read or the user quits. -/
partial def chatLoop (verbosity : Nat) (lowercase : Bool) (d : Dialog) : IO Nat := do
  emit verbosity prompt []
  match inputLines (← readLine (← IO.getStdin) .empty) with
  | .ok line :: _ =>
    let step := chatStep lowercase d line
    emit verbosity step.output step.log
    match step.next with
    | none => return 0
    | some d => chatLoop verbosity lowercase d
  | .error cause :: _ => finish (chatBroken cause)
  | [] => finish chatClosed
where
  finish (o : Outcome) : IO Nat := do
    emit verbosity o.output o.log
    return o.code

def run (invocation : Invocation) : IO Nat := do
  let verbosity := invocation.verbosity
  let entropy ← freshSeed
  match invocation.command with
  | .chat source lowercase =>
    let (d, log) := chatStart (← readScript source.script) source.script (source.generator entropy)
    emit verbosity greeting log
    chatLoop verbosity lowercase d
  | command =>
    let outcome := command.run (← readScript command.source.script) entropy .empty
    emit verbosity outcome.output outcome.log
    return outcome.code

end ScriptedDialog.Main

open ScriptedDialog in
def main (args : List String) : IO UInt32 := do
  match Cli.Invocation.ofArguments args with
  | .error .help =>
    IO.print Cli.usage
    return Cli.Stop.help.code.toUInt32
  | .error .usage =>
    IO.eprint Cli.usage
    return Cli.Stop.usage.code.toUInt32
  | .ok invocation => return (← Main.run invocation).toUInt32
