import ScriptedDialog.Fault
import ScriptedDialog.Random.Generator
import ScriptedDialog.Template.Basic
import ScriptedDialog.Value

/-! Resolving a response template to a reply. A template with a bracketed list is
a choice from the list, unless it mentions a variable that is defined. Otherwise
each reference is filled in, in one pass from left to right; what is filled in is
not looked at again. -/

namespace ScriptedDialog.Template

/-- What a lookup by name gives. -/
abbrev Lookup := String → Option Value

/-- Fills a piece in, or says why it has no text. A list gives a random item. -/
def Piece.fill (lookup : Lookup) (g : Generator) : Piece → Except Fault (List Char) × Generator
  | .text cs => (.ok cs, g)
  | .reference sigil name =>
    match sigil, lookup (String.ofList name) with
    | _, some (.scalar value) => (.ok value.toList, g)
    | .tilde, none => (.ok (sigil.char :: name), g)
    | .tilde, some (.list items) =>
      match g.choose items with
      | (some item, g) => (.ok item.toList, g)
      | (none, g) => (.error (.listEmpty (String.ofList name)), g)
    | .dollar, none => (.error (.variableUndefined (String.ofList name)), g)
    | .dollar, some (.list _) => (.error (.listSubstitution (String.ofList name)), g)

/-- Fills the pieces in one after the other, up to the first that has no text. -/
def fillAll (lookup : Lookup) : List Piece → Generator → Except Fault (List Char) × Generator
  | [], g => (.ok [], g)
  | piece :: later, g =>
    match piece.fill lookup g with
    | (.error fault, g) => (.error fault, g)
    | (.ok filled, g) =>
      match fillAll lookup later g with
      | (.error fault, g) => (.error fault, g)
      | (.ok rest, g) => (.ok (filled ++ rest), g)

/-- Picks a choice of a bracketed list. -/
def choose (template : String) (inner : List Char) (g : Generator) :
    Except Fault String × Generator :=
  match g.choose (Value.choiceList inner) with
  | (some choice, g) => (.ok choice, g)
  | (none, g) => (.error (.responseEmpty template), g)

/-- The bracketed list that a template stands for, if it is one. -/
def list? (template : String) (lookup : Lookup) : Option (List Char) :=
  if (mentions template).any (fun name => (lookup name).isSome) then none
  else Value.bracketed? template.toList

def resolve (template : String) (lookup : Lookup) (g : Generator) : Except Fault String × Generator :=
  match list? template lookup with
  | some inner => choose template inner g
  | none =>
    match fillAll lookup (pieces template.toList) g with
    | (.ok cs, g) => (.ok (String.ofList cs), g)
    | (.error fault, g) => (.error fault, g)

/-! ### Names left standing -/

/-- The reason why a piece has no text, whatever is drawn. -/
def Piece.fault? (lookup : Lookup) : Piece → Option Fault
  | .text _ => none
  | .reference sigil name =>
    match sigil, lookup (String.ofList name) with
    | _, some (.scalar _) => none
    | .tilde, some (.list []) => some (.listEmpty (String.ofList name))
    | .tilde, _ => none
    | .dollar, none => some (.variableUndefined (String.ofList name))
    | .dollar, some (.list _) => some (.listSubstitution (String.ofList name))

/-- The name of a mention that has no value, and is left as it is written. -/
def Piece.undefined? (lookup : Lookup) : Piece → Option String
  | .reference .tilde name =>
    match lookup (String.ofList name) with
    | none => some (String.ofList name)
    | some _ => none
  | _ => none

/-- The undefined names that are left standing before the first fault. -/
def undefinedNames (template : String) (lookup : Lookup) : List String :=
  match list? template lookup with
  | some _ => []
  | none =>
    ((pieces template.toList).takeWhile fun piece => (piece.fault? lookup).isNone).filterMap
      fun piece => piece.undefined? lookup

end ScriptedDialog.Template
