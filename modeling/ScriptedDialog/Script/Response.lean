import ScriptedDialog.Text.Blank

/-! Responses may be written in parentheses. One pair that encloses the whole
response is taken off, so that both spellings mean the same. -/

namespace ScriptedDialog.Script

open Text

/-- Some closing parenthesis before the last character brings the depth to zero.
Below zero the depth does not go. -/
def closesEarly (depth : Nat) : List Char → Bool
  | [] => false
  | c :: cs =>
    if c = '(' then closesEarly (depth + 1) cs
    else if c = ')' then (depth - 1 = 0 && !cs.isEmpty) || closesEarly (depth - 1) cs
    else closesEarly depth cs

def unwrap (cs : List Char) : List Char :=
  let body := trim cs
  if body.head? = some '(' ∧ body.getLast? = some ')' ∧ closesEarly 0 body = false then
    trim body.tail.dropLast
  else body

def unwrapped (s : String) : String := String.ofList (unwrap s.toList)

end ScriptedDialog.Script
