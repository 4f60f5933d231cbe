import ScriptedDialog.Json.Token

/-! Reading JSON text. The reader goes over the tokens once and keeps the arrays
and objects that are still open on a stack. -/

namespace ScriptedDialog.Json

/-- A container that is still open, with what it holds so far, last first. A
member waits for the value of its name. -/
inductive Frame where
  | items (held : List Json)
  | member (held : List (Option String × Json)) (name : Option String)

/-- What may come next. -/
inductive Stage where
  | value
  | firstItem
  | firstName
  | name (held : List (Option String × Json))
  | colon (held : List (Option String × Json)) (name : Option String)
  | after (read : Json)

def readTokens : Stage → List Frame → List Token → Option Json
  | .after j, [], [] => some j
  | _, _, [] => none
  | .value, fs, t :: ts => readValue fs t ts
  | .firstItem, fs, .closeArray :: ts => readTokens (.after (.array [])) fs ts
  | .firstItem, fs, t :: ts => readValue (.items [] :: fs) t ts
  | .firstName, fs, .closeObject :: ts => readTokens (.after (.object [])) fs ts
  | .firstName, fs, .string name :: ts => readTokens (.colon [] name) fs ts
  | .name held, fs, .string name :: ts => readTokens (.colon held name) fs ts
  | .colon held name, fs, .colon :: ts => readTokens .value (.member held name :: fs) ts
  | .after j, .items held :: fs, .comma :: ts => readTokens .value (.items (j :: held) :: fs) ts
  | .after j, .items held :: fs, .closeArray :: ts =>
    readTokens (.after (.array (j :: held).reverse)) fs ts
  | .after j, .member held name :: fs, .comma :: ts => readTokens (.name ((name, j) :: held)) fs ts
  | .after j, .member held name :: fs, .closeObject :: ts =>
    readTokens (.after (.object ((name, j) :: held).reverse)) fs ts
  | _, _, _ => none
where
  /-- A value begins with the token `t`. -/
  readValue (fs : List Frame) (t : Token) (ts : List Token) : Option Json :=
    match t with
    | .null => readTokens (.after .null) fs ts
    | .bool b => readTokens (.after (.bool b)) fs ts
    | .number n => readTokens (.after (.number n)) fs ts
    | .string s => readTokens (.after (.string s)) fs ts
    | .openArray => readTokens .firstItem fs ts
    | .openObject => readTokens .firstName fs ts
    | _ => none

def read? (s : String) : Option Json :=
  (Token.scan? s.toList).bind (readTokens .value [])

end ScriptedDialog.Json
