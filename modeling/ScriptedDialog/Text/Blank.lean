import ScriptedDialog.Text.Ranges

/-! Blanks are the characters with the White_Space property. Trimming removes
them at the ends of a text, and the words of a text are its maximal runs of
other characters. -/

namespace ScriptedDialog.Text

/-- The White_Space code points. -/
def blankRanges : List (Nat × Nat) := [
  (0x9, 0xd), (0x20, 0x20), (0x85, 0x85), (0xa0, 0xa0), (0x1680, 0x1680), (0x2000, 0x200a),
  (0x2028, 0x2029), (0x202f, 0x202f), (0x205f, 0x205f), (0x3000, 0x3000)]

def isBlank (c : Char) : Bool := inRanges blankRanges c

def trimStart (cs : List Char) : List Char := cs.dropWhile isBlank

def trimEnd (cs : List Char) : List Char := (cs.reverse.dropWhile isBlank).reverse

def trim (cs : List Char) : List Char := trimEnd (trimStart cs)

/-- A text without the blanks around it. -/
def trimmed (s : String) : String := String.ofList (trim s.toList)

/-- The word that begins at the front of a text, empty before a blank, and the
words after it. -/
def frontWord : List Char → List Char × List (List Char)
  | [] => ([], [])
  | c :: cs =>
    let (word, later) := frontWord cs
    if isBlank c then ([], if word.isEmpty then later else word :: later) else (c :: word, later)

def words (cs : List Char) : List (List Char) :=
  let (word, later) := frontWord cs
  if word.isEmpty then later else word :: later

theorem trimStart_sublist (cs : List Char) : (trimStart cs).Sublist cs :=
  List.dropWhile_sublist _

theorem trim_nil : trim [] = [] := rfl

theorem length_trimStart_le (cs : List Char) : (trimStart cs).length ≤ cs.length :=
  (trimStart_sublist cs).length_le

theorem trimEnd_sublist (cs : List Char) : (trimEnd cs).Sublist cs := by
  have h := (List.dropWhile_sublist (l := cs.reverse) isBlank).reverse
  rwa [List.reverse_reverse] at h

theorem trimStart_eq_self_iff {cs : List Char} :
    trimStart cs = cs ↔ ∀ c ∈ cs.head?, isBlank c = false := by
  unfold trimStart
  cases cs with
  | nil => simp
  | cons c rest =>
    rw [List.dropWhile_cons]
    split
    · next hc =>
      have hne : rest.dropWhile isBlank ≠ c :: rest := fun h => by
        have hle := (List.dropWhile_sublist (l := rest) isBlank).length_le
        rw [h, List.length_cons] at hle
        omega
      simp [hne, hc]
    · next hc => simpa using hc

theorem trimEnd_eq_self_iff {cs : List Char} :
    trimEnd cs = cs ↔ ∀ c ∈ cs.getLast?, isBlank c = false := by
  have hstart := @trimStart_eq_self_iff cs.reverse
  rw [List.head?_reverse] at hstart
  rw [← hstart, trimEnd, trimStart, List.reverse_eq_iff]

/-- Trimming keeps a text that has no blank at its ends. -/
theorem trim_eq_self_iff {cs : List Char} : trim cs = cs ↔
    (∀ c ∈ cs.head?, isBlank c = false) ∧ ∀ c ∈ cs.getLast?, isBlank c = false := by
  rw [← trimStart_eq_self_iff, ← trimEnd_eq_self_iff]
  constructor
  · intro h
    have hle := (trimEnd_sublist (trimStart cs)).length_le
    have hstart : trimStart cs = cs := by
      refine (trimStart_sublist cs).eq_of_length_le ?_
      calc cs.length = (trim cs).length := by rw [h]
        _ ≤ (trimStart cs).length := hle
    exact ⟨hstart, by rwa [trim, hstart] at h⟩
  · rintro ⟨hstart, hend⟩
    rw [trim, hstart, hend]

/-- A text is trimmed if it begins with no blank and what it ends with is trimmed. -/
theorem trim_cons_of_suffix {c : Char} {cs ending : List Char} (hc : isBlank c = false)
    (hs : ending <:+ cs) (hne : ending ≠ []) (ht : trim ending = ending) :
    trim (c :: cs) = c :: cs := by
  obtain ⟨front, rfl⟩ := hs
  have hlast : (c :: (front ++ ending)).getLast? = ending.getLast? := by
    rw [← List.cons_append, List.getLast?_append, List.getLast?_eq_some_getLast hne, Option.some_or]
  rw [trim_eq_self_iff, hlast]
  refine ⟨?_, (trim_eq_self_iff.mp ht).2⟩
  rintro _ ⟨⟩
  exact hc

end ScriptedDialog.Text
