import ScriptedDialog.Json.Double
import ScriptedDialog.TestCase.Basic

/-! Test cases from JSON. A record is an object, whose unknown fields do not
matter and whose known ones stand at most once, or an array of its fields in
order. Fields that may be missing have defaults; null is never a value. -/

namespace ScriptedDialog

namespace Json

def string? : Json → Option String
  | .string s => s
  | _ => none

def list? (decode : Json → Option α) : Json → Option (List α)
  | .array items => items.mapM decode
  | _ => none

/-- An integer below two to the 64. -/
def word? : Json → Option UInt64
  | .number n =>
    match n.nat? with
    | some n => if n < UInt64.size then some n.toUInt64 else none
    | none => none
  | _ => none

/-- The values that stand under a name. -/
def valuesOf (name : String) (fields : List (Option String × Json)) : List Json :=
  (fields.filter fun f => f.1 = some name).map (·.2)

/-- A record's fields in their order: of an array the items, none missing but at
the end, and of an object what stands under the names. -/
def arrange? (names : List String) : Json → Option (List (Option Json))
  | .array items =>
    if items.length ≤ names.length then
      some (items.map some ++ List.replicate (names.length - items.length) none)
    else none
  | .object fields =>
    if fields.all (·.1.isSome) then
      names.mapM fun name =>
        match valuesOf name fields with
        | [] => some none
        | [value] => some (some value)
        | _ => none
    else none
  | _ => none

def required? (decode : Json → Option α) (field : Option Json) : Option α := field.bind decode

/-- A missing field has a default, but one that is there has to be right. -/
def optional? (decode : Json → Option α) (default : α) : Option Json → Option α
  | none => some default
  | some value => decode value

mutual

/-- How deep arrays and objects are nested in a value. -/
def depth : Json → Nat
  | .array items => itemsDepth items + 1
  | .object fields => fieldsDepth fields + 1
  | _ => 0

def itemsDepth : List Json → Nat
  | [] => 0
  | j :: js => max (depth j) (itemsDepth js)

def fieldsDepth : List (Option String × Json) → Nat
  | [] => 0
  | (_, j) :: fields => max (depth j) (fieldsDepth fields)

end

mutual

/-- Every string in the value stands for a text, and every number is in the range
of a double. -/
def isSound : Json → Bool
  | .string s => s.isSome
  | .number n => n.fitsDouble
  | .array items => itemsSound items
  | .object fields => fieldsSound fields
  | _ => true

def itemsSound : List Json → Bool
  | [] => true
  | j :: js => isSound j && itemsSound js

def fieldsSound : List (Option String × Json) → Bool
  | [] => true
  | (name, j) :: fields => name.isSome && isSound j && fieldsSound fields

end

end Json

namespace ExpectedReply

open Json

/-- Reads the reply of a kind from the record of its fields. -/
def ofKind? (kind : String) (record : Json) : Option ExpectedReply :=
  match kind with
  | "text" =>
    match arrange? ["text"] record with
    | some [wanted] => (required? string? wanted).map .exactly
    | _ => none
  | "oneOf" =>
    match arrange? ["choices"] record with
    | some [choices] => (required? (list? string?) choices).map .oneOf
    | _ => none
  | "none" =>
    match record with
    | .array (_ :: _) => none
    | _ => some .noReply
  | _ => none

/-- The kind stands first in an array and anywhere in an object. -/
def ofJson? : Json → Option ExpectedReply
  | .array (kind :: items) => (string? kind).bind fun kind => ofKind? kind (.array items)
  | .object fields =>
    match valuesOf "kind" fields with
    | [kind] => (string? kind).bind fun kind => ofKind? kind (.object fields)
    | _ => none
  | _ => none

/-- How deep an expected reply may be nested, of the 127 levels of a whole case. -/
def maxDepth : Nat := 124

/-- Reads an expected reply within a case. All of it is looked at, the fields that
do not matter too. -/
def ofCaseJson? (j : Json) : Option ExpectedReply :=
  if j.isSound ∧ j.depth ≤ maxDepth then ofJson? j else none

end ExpectedReply

open Json

def TestTurn.ofJson? (j : Json) : Option TestTurn :=
  match arrange? ["input", "expect"] j with
  | some [input, expect] => do
    return ⟨← required? string? input, ← required? ExpectedReply.ofCaseJson? expect⟩
  | _ => none

namespace TestCase

def ofJson? (j : Json) : Option TestCase :=
  match arrange? ["schemaVersion", "script", "randomSeed", "expectedDiagnostics", "turns"] j with
  | some [version, script, seed, diagnostics, turns] => do
    return ⟨← required? string? version, ← optional? string? Load.defaultScript script,
      ← optional? word? defaultSeed seed, ← optional? (list? string?) [] diagnostics,
      ← optional? (list? TestTurn.ofJson?) [] turns⟩
  | _ => none

end TestCase

end ScriptedDialog
