/-! JSON values. A number keeps its decimal parts, so that nothing is rounded,
and an object keeps its fields in order, repeated names included. A string is
absent when its escapes leave half of a surrogate pair: such a literal is well
formed but stands for no text. -/

namespace ScriptedDialog

/-- A decimal number; `fraction` holds the digits after the point and is empty
where there is no point. -/
structure Json.Number where
  negative : Bool
  whole : Nat
  fraction : List Char
  exponent : Option Int
  deriving DecidableEq, Repr

inductive Json where
  | null
  | bool (value : Bool)
  | number (value : Json.Number)
  | string (text : Option String)
  | array (items : List Json)
  | object (fields : List (Option String × Json))
  deriving Repr

namespace Json

def text (s : String) : Json := .string (some s)

def nat (n : Nat) : Json := .number ⟨false, n, [], none⟩

def texts (ss : List String) : Json := .array (ss.map text)

def record (fields : List (String × Json)) : Json := .object (fields.map fun f => (some f.1, f.2))

/-- The text, or null where there is none. -/
def ofText? (s : Option String) : Json := (s.map text).getD null

def ofNat? (n : Option Nat) : Json := (n.map nat).getD null

/-- The number of a literal that is a plain run of digits. -/
def Number.nat? (n : Number) : Option Nat :=
  if n.negative = false ∧ n.fraction = [] ∧ n.exponent = none then some n.whole else none

def digitsValue (ds : List Char) : Nat := ds.foldl (fun n d => 10 * n + (d.toNat - 48)) 0

end Json

end ScriptedDialog
