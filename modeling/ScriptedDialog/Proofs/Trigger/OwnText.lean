import ScriptedDialog.Proofs.Text.Words
import ScriptedDialog.Trigger.Captures

/-! A pattern accepts the text by which it is given. Its words come in that text in order
with blanks between them, and a hole, which is written as an underscore, is a word of word
characters itself. So the text is a way to speak to the command that holds whatever the
other words of the pattern are. -/

namespace ScriptedDialog.Trigger

open Text

/-! ### Words at the front of a text -/

theorem after?_append (word cs : List Char) : after? word (word ++ cs) = some cs := by
  induction word with
  | nil => rfl
  | cons w word ih => rw [List.cons_append, after?, if_pos rfl, ih]

/-- Before a blank and at the end of a text a word of a pattern takes itself. -/
theorem takeWord?_self (word : List Char) {cs : List Char}
    (h : ∀ c ∈ cs.head?, isBlank c = true) :
    takeWord? word (word ++ cs) = some (if word = hole then [hole] else [], cs) := by
  unfold takeWord?
  split
  · next hw =>
    have hunderscore : isWordChar '_' = true := by decide
    have hend : cs.takeWhile isWordChar = [] ∧ cs.dropWhile isWordChar = cs := by
      cases cs with
      | nil => exact ⟨rfl, rfl⟩
      | cons c cs =>
        have hc : isWordChar c = false := isWordChar_of_isBlank (h c rfl)
        simp [hc]
    simp [hw, hole, hunderscore, hend]
  · rw [after?_append]
    rfl

theorem head?_dropWhile_not_isBlank (cs : List Char) :
    ∀ c ∈ (cs.dropWhile (!isBlank ·)).head?, isBlank c = true := by
  intro c hc
  simpa using head?_dropWhile_eq_false (!isBlank ·) cs c hc

/-- In its own text a pattern captures an underscore for each of its holes. -/
theorem captures?_self {cs : List Char} (h : ∀ c ∈ cs.head?, isBlank c = false) :
    captures? (words cs) cs = some (List.replicate ((words cs).count hole) hole) := by
  -- Behind the first word and the blanks after it the text is again one that begins with none.
  generalize hlen : cs.length = n
  induction n using Nat.strongRecOn generalizing cs with
  | ind n ih =>
    cases cs with
    | nil => rfl
    | cons c cs =>
      have hc : isBlank c = false := h c rfl
      generalize hword : c :: cs.takeWhile (!isBlank ·) = word
      generalize hafter : cs.dropWhile (!isBlank ·) = after
      have hcs : c :: cs = word ++ after := by
        rw [← hword, ← hafter, List.cons_append, List.takeWhile_append_dropWhile]
      have hblank : ∀ d ∈ after.head?, isBlank d = true :=
        hafter ▸ head?_dropWhile_not_isBlank cs
      have htake := takeWord?_self word hblank
      have hwords : words (c :: cs) = word :: words after := by
        rw [words_cons hc, hword, hafter]
      rw [hwords, hcs]
      cases hlater : words after with
      | nil =>
        rw [captures?, htake]
        by_cases hw : word = hole <;> simp [hw]
      | cons next later =>
        have hhead : after.head?.any isBlank = true := by
          cases after with
          | nil => cases hlater
          | cons d ds => exact hblank d rfl
        have hshorter : (after.dropWhile isBlank).length < n := by
          have hle := (List.dropWhile_sublist (l := after) isBlank).length_le
          have hsplit := congrArg List.length hcs
          have hpos : 0 < word.length := by rw [← hword]; exact Nat.succ_pos _
          rw [List.length_append] at hsplit
          omega
        have hnext := ih _ hshorter (head?_dropWhile_eq_false isBlank after) rfl
        rw [words_dropWhile, hlater] at hnext
        rw [captures?, htake]
        simp only [hhead, ↓reduceIte, hnext, Option.map_some]
        by_cases hw : word = hole
        · simp [hw, List.replicate_succ]
        · simp [hw]

/-- A pattern without blanks in front accepts its own text. -/
theorem wildcardCaptures?_self {text : String}
    (h : ∀ c ∈ text.toList.head?, isBlank c = false) :
    wildcardCaptures? text text ≠ none := by
  rw [wildcardCaptures?, captures?_self h]
  nofun

end ScriptedDialog.Trigger
