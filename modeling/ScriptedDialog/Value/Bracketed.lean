/-! The bracketed part of a text: what stands between an opening bracket and the
last closing bracket after it on the same line. The leftmost opening bracket
that has such a partner decides. -/

namespace ScriptedDialog.Value

/-- The text up to the last closing bracket before the next line feed. -/
def upToClose? : List Char → Option (List Char)
  | [] => none
  | c :: cs =>
    if c = '\n' then none
    else match upToClose? cs with
      | some inner => some (c :: inner)
      | none => if c = ']' then some [] else none

def bracketed? : List Char → Option (List Char)
  | [] => none
  | c :: cs =>
    if c = '[' then
      match upToClose? cs with
      | some inner => some inner
      | none => bracketed? cs
    else bracketed? cs

end ScriptedDialog.Value
