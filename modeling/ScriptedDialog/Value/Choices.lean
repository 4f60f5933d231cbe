import ScriptedDialog.Text.Blank

/-! The choices of a bracketed list. A choice is a bare run of ASCII letters or a
phrase of such letters and blanks in double quotes; blanks may stand between
choices, and reading stops at the first thing that is neither. -/

namespace ScriptedDialog.Value

open Text

def isLetter (c : Char) : Bool := ('a' ≤ c && c ≤ 'z') || ('A' ≤ c && c ≤ 'Z')

def isPhraseChar (c : Char) : Bool := isLetter c || isBlank c

/-- The choice at the front of a text, and the text after it. -/
def choice? : List Char → Option (List Char × List Char)
  | '"' :: cs =>
    match cs.takeWhile isPhraseChar, cs.dropWhile isPhraseChar with
    | c :: phrase, '"' :: rest => some (c :: phrase, rest)
    | _, _ => none
  | cs =>
    match cs.takeWhile isLetter with
    | [] => none
    | c :: word => some (c :: word, cs.dropWhile isLetter)

theorem length_choice? {cs token rest : List Char} (h : choice? cs = some (token, rest)) :
    rest.length < cs.length := by
  have split_length (p : Char → Bool) (cs : List Char) :
      (cs.takeWhile p).length + (cs.dropWhile p).length = cs.length := by
    rw [← List.length_append, List.takeWhile_append_dropWhile]
  unfold choice? at h
  split at h
  · next cs =>
    have hl := split_length isPhraseChar cs
    split at h
    · next ht hd =>
      obtain ⟨-, rfl⟩ := Prod.mk.inj (Option.some.inj h)
      rw [ht, hd] at hl
      simp only [List.length_cons] at hl ⊢; omega
    · simp at h
  · have hl := split_length isLetter cs
    split at h
    · simp at h
    · next ht =>
      obtain ⟨-, rfl⟩ := Prod.mk.inj (Option.some.inj h)
      rw [ht] at hl
      simp only [List.length_cons] at hl; omega

def choices (cs : List Char) : List (List Char) :=
  match _h : choice? (trimStart cs) with
  | none => []
  | some (token, rest) => token :: choices rest
termination_by cs.length
decreasing_by
  have h1 := length_choice? _h
  have h2 := length_trimStart_le cs
  omega

end ScriptedDialog.Value
