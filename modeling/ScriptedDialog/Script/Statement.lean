import ScriptedDialog.Fault
import ScriptedDialog.Script.Response
import ScriptedDialog.Script.SourceLine
import ScriptedDialog.Text.WordChar

/-! The two kinds of statement and their grammars: a declaration gives a variable
its value, and a command gives a trigger at some level its response. Blanks may
stand around every mark of punctuation. -/

namespace ScriptedDialog.Script

open Text

inductive Statement where
  | declaration (name value : String) (line : Nat)
  | command (level : Nat) (trigger response : String) (line : Nat)
  deriving DecidableEq, Repr

namespace Statement

def line : Statement → Nat
  | .declaration _ _ line => line
  | .command _ _ _ line => line

/-- The statement in source form. -/
def source : Statement → String
  | .declaration name value _ => s!"~{name}: {value}"
  | .command level trigger response _ => s!"u{level}: ({trigger}) : ({response})"

/-! ### The grammars -/

/-- Passes blanks and then one mark. -/
def afterMark? (mark : Char) (cs : List Char) : Option (List Char) :=
  match cs.dropWhile isBlank with
  | c :: rest => if c = mark then some rest else none
  | [] => none

/-- The text that closes a statement, without the blanks around it. It reaches to
the end of the line and is not empty, but blanks may be all that it holds. -/
def closing? (cs : List Char) : Option (List Char) :=
  match cs.dropWhile isBlank with
  | [] => if cs.getLast?.any (· ≠ '\n') then some [] else none
  | c :: rest => if '\n' ∈ c :: rest then none else some (trim (c :: rest))

/-- The name and the value of a declaration. -/
def declaration? : List Char → Option (List Char × List Char)
  | '~' :: cs => do
    let name := cs.takeWhile isWordChar
    guard !name.isEmpty
    let cs ← afterMark? ':' (cs.dropWhile isWordChar)
    return (name, ← closing? cs)
  | _ => none

/-- The parts of a command as they are written. -/
structure CommandShape where
  digits : List Char
  trigger : List Char
  response : List Char

def isTriggerChar (c : Char) : Bool := isWordChar c || isBlank c || c = '~'

def commandShape? : List Char → Option CommandShape
  | 'u' :: cs => do
    let digits := cs.takeWhile isDigit
    let cs ← afterMark? ':' (cs.dropWhile isDigit)
    let cs ← afterMark? '(' cs
    let trigger := cs.takeWhile isTriggerChar
    guard !trigger.isEmpty
    let cs ← match cs.dropWhile isTriggerChar with
      | ')' :: rest => some rest
      | _ => none
    let cs ← afterMark? ':' cs
    return ⟨digits, trigger, ← closing? cs⟩
  | _ => none

/-- Reads a line. A level that is no number is reported before a blank trigger. -/
def ofLine (line : SourceLine) : Except Diagnostic Statement :=
  let cs := line.text.toList
  match declaration? cs with
  | some (name, value) => .ok (.declaration (String.ofList name) (String.ofList value) line.number)
  | none =>
    match commandShape? cs with
    | none => .error ⟨.lineSyntax line.text, line.number⟩
    | some shape =>
      match level shape.digits with
      | .error cause => .error ⟨.lineLevel (String.ofList shape.digits) cause, line.number⟩
      | .ok level =>
        let trigger := trim shape.trigger
        if trigger.isEmpty then .error ⟨.lineTrigger line.text, line.number⟩
        else .ok (.command level (String.ofList trigger) (String.ofList (unwrap shape.response))
          line.number)

end Statement

end ScriptedDialog.Script
