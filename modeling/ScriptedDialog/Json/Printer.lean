import ScriptedDialog.Json.Token

/-! Writing JSON values: compact, as the tokens one after the other, or laid out
with one item to a line. -/

namespace ScriptedDialog.Json

mutual

def tokens : Json → List Token
  | .null => [.null]
  | .bool b => [.bool b]
  | .number n => [.number n]
  | .string s => [.string s]
  | .array items => .openArray :: itemTokens items ++ [.closeArray]
  | .object fields => .openObject :: fieldTokens fields ++ [.closeObject]

def itemTokens : List Json → List Token
  | [] => []
  | [j] => tokens j
  | j :: js => tokens j ++ .comma :: itemTokens js

def fieldTokens : List (Option String × Json) → List Token
  | [] => []
  | [(name, j)] => .string name :: .colon :: tokens j
  | (name, j) :: fields => .string name :: .colon :: tokens j ++ .comma :: fieldTokens fields

end

/-- The value on one line, without blanks between the tokens. -/
def compact (j : Json) : String := String.ofList (j.tokens.flatMap Token.render)

/-- A line end and the indentation of a depth. -/
def newline (depth : Nat) : List Char := '\n' :: List.replicate (2 * depth) ' '

mutual

/-- The value laid out at a depth: each item of an array or object on a line of
its own, two spaces further in; an empty one stays closed up. -/
def layOut (depth : Nat) : Json → List Char
  | .null => Token.null.render
  | .bool b => (Token.bool b).render
  | .number n => n.render
  | .string s => (Token.string s).render
  | .array [] => ['[', ']']
  | .array (j :: js) =>
    '[' :: newline (depth + 1) ++ layOut (depth + 1) j ++ layOutItems (depth + 1) js
      ++ newline depth ++ [']']
  | .object [] => ['\x7b', '\x7d']
  | .object ((name, j) :: fields) =>
    '\x7b' :: newline (depth + 1) ++ (Token.string name).render ++ [':', ' ']
      ++ layOut (depth + 1) j ++ layOutFields (depth + 1) fields ++ newline depth ++ ['\x7d']

/-- The items after the first. -/
def layOutItems (depth : Nat) : List Json → List Char
  | [] => []
  | j :: js => ',' :: newline depth ++ layOut depth j ++ layOutItems depth js

/-- The fields after the first. -/
def layOutFields (depth : Nat) : List (Option String × Json) → List Char
  | [] => []
  | (name, j) :: fields =>
    ',' :: newline depth ++ (Token.string name).render ++ [':', ' '] ++ layOut depth j
      ++ layOutFields depth fields

end

def indented (j : Json) : String := String.ofList (j.layOut 0)

end ScriptedDialog.Json
