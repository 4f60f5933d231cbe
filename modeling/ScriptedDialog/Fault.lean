import ScriptedDialog.Files.ReadFault
import ScriptedDialog.Script.Level

/-! Everything that can go wrong with a script or in a turn. A fault is its
cause; its code and its message are read off the cause. -/

namespace ScriptedDialog

inductive Fault where
  | lineSyntax (line : String)
  | lineLevel (digits : String) (cause : Script.LevelFault)
  | lineTrigger (line : String)
  | triggerPattern (trigger : String)
  | rootDuplicate (trigger : String) (previousLine : Nat)
  | parentMissing (level : Nat) (trigger : String)
  | attachMissing (parent child : Nat)
  | matchedMissing (command : Nat)
  | responseEmpty (response : String)
  | listEmpty (name : String)
  | variableUndefined (name : String)
  | listSubstitution (name : String)
  | scriptUnreadable (path : String) (cause : Files.ReadFault)
  | inputUnreadable (cause : Files.ReadFault)
  deriving DecidableEq, Repr

namespace Fault

def code : Fault → String
  | .lineSyntax _ => "LINE_SYNTAX_INVALID"
  | .lineLevel _ _ => "LINE_LEVEL_INVALID"
  | .lineTrigger _ => "LINE_TRIGGER_EMPTY"
  | .triggerPattern _ => "TRIGGER_PATTERN_INVALID"
  | .rootDuplicate _ _ => "ROOT_TRIGGER_DUPLICATE"
  | .parentMissing _ _ => "COMMAND_PARENT_MISSING"
  | .attachMissing _ _ | .matchedMissing _ => "TREE_NODE_MISSING"
  | .responseEmpty _ | .listEmpty _ => "RESPONSE_CHOICES_EMPTY"
  | .variableUndefined _ => "RESPONSE_VARIABLE_UNDEFINED"
  | .listSubstitution _ => "RESPONSE_LIST_SUBSTITUTION"
  | .scriptUnreadable _ _ => "SCRIPT_READ_FAILED"
  | .inputUnreadable _ => "CHAT_IO"

def message : Fault → String
  | .lineSyntax line => s!"Invalid command: {line}"
  | .lineLevel digits cause => s!"Invalid level \"{digits}\": {cause.message}"
  | .lineTrigger line => s!"Command has an empty trigger: {line}"
  | .triggerPattern trigger =>
    s!"Trigger \"{trigger}\" does not compile: Compiled regex exceeds size limit of 10485760 bytes."
  | .rootDuplicate trigger previousLine =>
    s!"Root trigger \"{trigger}\" redefined; replaces the one from line {previousLine}."
  | .parentMissing level trigger =>
    s!"Level {level} command \"{trigger}\" has no preceding lower-level command."
  | .attachMissing parent child => s!"Cannot attach command {child} to {parent}."
  | .matchedMissing command => s!"Matched command {command} is missing from the tree."
  | .responseEmpty response => s!"Response \"{response}\" lists no choices."
  | .listEmpty name => s!"List variable \"{name}\" has no values to choose from."
  | .variableUndefined name => s!"Variable \"{name}\" is not defined."
  | .listSubstitution name => s!"List variable \"{name}\" cannot fill a $ placeholder."
  | .scriptUnreadable path cause => s!"Unable to open \"{path}\": {cause.message}"
  | .inputUnreadable cause => cause.message

def display (f : Fault) : String := s!"{f.code}: {f.message}"

end Fault

/-- A fault of a script, at the line where it was found if it has one. -/
structure Diagnostic where
  fault : Fault
  line : Option Nat
  deriving DecidableEq, Repr

def Diagnostic.display (d : Diagnostic) : String := d.fault.display

end ScriptedDialog
