import ScriptedDialog.Load
import ScriptedDialog.Text.Digit

/-! The command line. Options are read from left to right, and the first thing
that is wrong or asks for help ends the reading. -/

namespace ScriptedDialog.Cli

/-- Where the dialog comes from. -/
structure Source where
  script : String
  seed : Option UInt64
  deriving DecidableEq, Repr

inductive Command where
  | chat (source : Source) (lowercase : Bool)
  | ask (source : Source) (lowercase : Bool) (texts : List String)
  | describe (source : Source) (json : Bool)
  deriving DecidableEq, Repr

def Command.source : Command → Source
  | .chat source _ => source
  | .ask source _ _ => source
  | .describe source _ => source

structure Invocation where
  verbosity : Nat
  command : Command
  deriving DecidableEq, Repr

/-- Why no command is run. -/
inductive Stop where
  | usage
  | help
  deriving DecidableEq, Repr

inductive Mode where
  | chat | ask | describe
  deriving DecidableEq, Repr

def Mode.ofName? : String → Option Mode
  | "chat" => some .chat
  | "ask" => some .ask
  | "describe" => some .describe
  | _ => none

/-! ### Arguments -/

/-- An argument by its form. A lone dash is a plain argument. -/
inductive Argument where
  | option (name : String) (value : Option String)
  | flags (letters : List Char)
  | plain (text : String)
  deriving DecidableEq, Repr

def Argument.ofString (s : String) : Argument :=
  match s.toList with
  | '-' :: '-' :: name =>
    match name.dropWhile (· ≠ '=') with
    | [] => .option (String.ofList name) none
    | _ :: value =>
      .option (String.ofList (name.takeWhile (· ≠ '='))) (some (String.ofList value))
  | '-' :: c :: letters => .flags (c :: letters)
  | _ => .plain s

/-- Counts the verbosity flags in a cluster; asking for help ends it. -/
def countFlags (verbosity : Nat) : List Char → Except Stop Nat
  | [] => .ok verbosity
  | 'v' :: letters => countFlags (verbosity + 1) letters
  | 'h' :: _ => .error .help
  | _ :: _ => .error .usage

def digitsFrom? (value : Nat) : List Char → Option Nat
  | [] => some value
  | c :: cs => (Text.digitValue? c).bind fun d => digitsFrom? (10 * value + d) cs

/-- A seed: ASCII digits, with a plus sign before them or none, below two to the 64. -/
def seed? (s : String) : Option UInt64 :=
  let digits := match s.toList with
    | '+' :: digits => digits
    | digits => digits
  if digits.isEmpty then none
  else (digitsFrom? 0 digits).bind fun n => if n < UInt64.size then some n.toUInt64 else none

/-! ### Options of a command -/

/-- What the options read so far say. -/
structure Options where
  verbosity : Nat
  script : Option String
  seed : Option UInt64
  lowercase : Bool
  json : Bool
  texts : List String
  deriving DecidableEq, Repr

namespace Options

def none : Options := ⟨0, .none, .none, false, false, []⟩

/-- The options that take a value. -/
def takesValue (mode : Mode) (name : String) : Bool :=
  name = "script" || name = "seed" || (name = "text" && mode = .ask)

/-- Sets an option that takes a value. Only texts may be given again. -/
def setValue? (o : Options) (name value : String) : Option Options :=
  match name with
  | "script" => if o.script.isSome then .none else some { o with script := some value }
  | "seed" =>
    if o.seed.isSome then .none else (seed? value).map fun seed => { o with seed := some seed }
  | _ => some { o with texts := o.texts ++ [value] }

/-- Sets an option that takes no value. Only verbosity may be given again. -/
def setFlag (o : Options) (mode : Mode) (name : String) : Except Stop Options :=
  match name with
  | "help" => .error .help
  | "verbose" => .ok { o with verbosity := o.verbosity + 1 }
  | "lowercase" =>
    if o.lowercase || mode = .describe then .error .usage else .ok { o with lowercase := true }
  | "json" => if o.json || mode ≠ .describe then .error .usage else .ok { o with json := true }
  | _ => .error .usage

/-- An argument that can be the value of the option before it. -/
def isValue (s : String) : Bool :=
  match Argument.ofString s with
  | .plain _ => true
  | _ => false

/-- Reads the arguments after the command. Two dashes end the options, and
nothing may follow them. -/
def read (mode : Mode) (o : Options) : List String → Except Stop Options
  | [] => .ok o
  | arg :: rest =>
    match Argument.ofString arg with
    | .plain _ => .error .usage
    | .flags letters =>
      match countFlags o.verbosity letters with
      | .error stop => .error stop
      | .ok verbosity => read mode { o with verbosity } rest
    | .option name value =>
      if name.isEmpty && value.isNone then if rest.isEmpty then .ok o else .error .usage
      else if takesValue mode name then
        match value, rest with
        | some value, rest =>
          match o.setValue? name value with
          | some o => read mode o rest
          | .none => .error .usage
        | .none, value :: rest =>
          if isValue value then
            match o.setValue? name value with
            | some o => read mode o rest
            | .none => .error .usage
          else .error .usage
        | .none, [] => .error .usage
      else if value.isSome then .error .usage
      else match o.setFlag mode name with
        | .error stop => .error stop
        | .ok o => read mode o rest

/-- The command that the options make, which for `ask` have a text at least. -/
def command (o : Options) (mode : Mode) : Except Stop Command :=
  let source : Source := ⟨o.script.getD Load.defaultScript, o.seed⟩
  match mode with
  | .chat => .ok (.chat source o.lowercase)
  | .ask => if o.texts.isEmpty then .error .usage else .ok (.ask source o.lowercase o.texts)
  | .describe => .ok (.describe source o.json)

end Options

/-! ### The whole line -/

/-- Help on a command, of which at most one may be named. -/
def helpOn : List String → Stop
  | [] => .help
  | [name] => if name = "help" || (Mode.ofName? name).isSome then .help else .usage
  | _ => .usage

/-- Reads the arguments up to the command and those after it. Verbosity flags
after the command count alone if there are any. -/
def invocation (verbosity : Nat) : List String → Except Stop Invocation
  | [] => .error .usage
  | arg :: rest =>
    match Argument.ofString arg with
    | .option "help" none => .error .help
    | .option "verbose" none => invocation (verbosity + 1) rest
    | .option _ _ => .error .usage
    | .flags letters =>
      match countFlags verbosity letters with
      | .error stop => .error stop
      | .ok verbosity => invocation verbosity rest
    | .plain name =>
      match Mode.ofName? name with
      | none => .error (if name = "help" then helpOn rest else .usage)
      | some mode => do
        let o ← Options.none.read mode rest
        let command ← o.command mode
        return ⟨if o.verbosity = 0 then verbosity else o.verbosity, command⟩

def Invocation.ofArguments (args : List String) : Except Stop Invocation := invocation 0 args

end ScriptedDialog.Cli
