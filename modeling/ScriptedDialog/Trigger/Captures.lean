import ScriptedDialog.Trigger

/-! Matching a pattern against an input. The pattern's words have to come first
in the input, in order, with blanks between them. A hole takes a whole run of
word characters; the last word need not end where a word of the input does, and
whatever follows the pattern is ignored. -/

namespace ScriptedDialog.Trigger

open Text

/-- What is left of a text after a word that stands at its front. -/
def after? : List Char → List Char → Option (List Char)
  | [], cs => some cs
  | _ :: _, [] => none
  | w :: ws, c :: cs => if w = c then after? ws cs else none

/-- Matches one word of a pattern: what it captures, and the input after it. -/
def takeWord? (word cs : List Char) : Option (List (List Char) × List Char) :=
  if word = hole then
    let run := cs.takeWhile isWordChar
    if run.isEmpty then none else some ([run], cs.dropWhile isWordChar)
  else (after? word cs).map ([], ·)

/-- The captures of a pattern, given by its words. -/
def captures? : List (List Char) → List Char → Option (List (List Char))
  | [], _ => some []
  | word :: [], cs => (takeWord? word cs).map (·.1)
  | word :: next :: later, cs =>
    match takeWord? word cs with
    | none => none
    | some (captured, rest) =>
      if rest.head?.any isBlank then
        (captures? (next :: later) (rest.dropWhile isBlank)).map (captured ++ ·)
      else none

/-- The captures of a wildcard trigger's text in an input. -/
def wildcardCaptures? (text input : String) : Option (List String) :=
  (captures? (words text.toList) input.toList).map (·.map String.ofList)

end ScriptedDialog.Trigger
