import ScriptedDialog.Value.Bracketed
import ScriptedDialog.Value.Choices

/-! Values of variables. A declaration whose text holds a bracketed part gives a
list of choices; any other text is a scalar. -/

namespace ScriptedDialog

inductive Value where
  | scalar (text : String)
  | list (items : List String)
  deriving DecidableEq, Repr

namespace Value

/-- The choices that a bracketed part lists. -/
def choiceList (inner : List Char) : List String := (choices inner).map String.ofList

def ofText (text : String) : Value :=
  let body := Text.trim text.toList
  match bracketed? body with
  | some inner => .list (choiceList inner)
  | none => .scalar (String.ofList body)

/-- The list of choices in source form: each choice in quotes, one blank between
two of them. -/
def listSource (items : List String) : String :=
  "[" ++ String.intercalate " " (items.map fun item => "\"" ++ item ++ "\"") ++ "]"

end Value

end ScriptedDialog
