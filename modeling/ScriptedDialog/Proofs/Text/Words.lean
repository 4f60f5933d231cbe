import Mathlib.Data.List.TakeWhile
import ScriptedDialog.Text.Blank
import ScriptedDialog.Text.WordChar

/-! The words of a text one after the other. A text that begins with no blank is its first
word, and then blanks and the other words. No blank is a word character, so a run of word
characters ends with the word in which it stands. -/

namespace ScriptedDialog.Text

theorem isWordChar_of_isBlank {c : Char} (h : isBlank c = true) : isWordChar c = false := by
  have hapart : ∀ b ∈ blankRanges, ∀ w ∈ wordRanges, b.2 < w.1 ∨ w.2 < b.1 := by decide +kernel
  obtain ⟨b, hb, hlow, hhigh⟩ := inRanges_iff.mp h
  refine Bool.eq_false_iff.mpr fun hword => ?_
  obtain ⟨w, hw, hlow', hhigh'⟩ := inRanges_iff.mp hword
  rcases hapart b hb w hw with hlt | hlt <;> omega

theorem not_isBlank_of_isName {name : List Char} (h : IsName name) :
    ∀ c ∈ name, isBlank c = false := by
  refine fun c hc => Bool.eq_false_iff.mpr fun hblank => ?_
  have hword := h.2 c hc
  rw [isWordChar_of_isBlank hblank] at hword
  cases hword

/-! ### Runs of a class -/

section
variable {p : Char → Bool} {run cs : List Char}

/-- A run of a class up to a place where it cannot go on is what a scan for the class takes. -/
theorem takeWhile_run_append (hrun : ∀ c ∈ run, p c = true) (hcs : ∀ c ∈ cs.head?, p c = false) :
    (run ++ cs).takeWhile p = run := by
  rw [List.takeWhile_append_of_pos hrun]
  cases cs with
  | nil => exact List.append_nil run
  | cons c cs =>
    have hc : ¬ p c = true := Bool.eq_false_iff.mp (hcs c rfl)
    rw [List.takeWhile_cons_of_neg hc, List.append_nil]

/-- Behind such a run is what the scan leaves. -/
theorem dropWhile_run_append (hrun : ∀ c ∈ run, p c = true) (hcs : ∀ c ∈ cs.head?, p c = false) :
    (run ++ cs).dropWhile p = cs := by
  have hsplit := List.takeWhile_append_dropWhile (p := p) (l := run ++ cs)
  rw [takeWhile_run_append hrun hcs] at hsplit
  exact List.append_cancel_left hsplit

/-- What a scan leaves does not go on with the class. -/
theorem head?_dropWhile_eq_false (p : Char → Bool) (cs : List Char) :
    ∀ c ∈ (cs.dropWhile p).head?, p c = false := by
  intro c hc
  have hnot := List.head?_dropWhile_not p cs
  rwa [Option.mem_def.mp hc] at hnot

theorem takeWhile_eq_nil_iff_head? : cs.takeWhile p = [] ↔ ∀ c ∈ cs.head?, p c = false := by
  cases cs with
  | nil => exact iff_of_true rfl nofun
  | cons c cs => cases hc : p c <;> simp [hc]

end

/-! ### Trimming -/

theorem trimEnd_prefix (cs : List Char) : trimEnd cs <+: cs := by
  rw [← List.reverse_suffix, trimEnd, List.reverse_reverse]
  exact List.dropWhile_suffix _

theorem trim_sublist (cs : List Char) : (trim cs).Sublist cs :=
  (trimEnd_sublist _).trans (trimStart_sublist cs)

theorem not_isBlank_of_head?_trim {cs : List Char} {c : Char} (h : (trim cs).head? = some c) :
    isBlank c = false := by
  obtain ⟨after, hafter⟩ := trimEnd_prefix (trimStart cs)
  have hstart : (cs.dropWhile isBlank).head? = some c := by
    show (trimStart cs).head? = some c
    rw [← hafter, List.head?_append]
    exact Option.or_eq_some_iff.mpr (Or.inl h)
  exact head?_dropWhile_eq_false isBlank cs c hstart

theorem not_isBlank_of_getLast?_trimEnd (cs : List Char) :
    ∀ c ∈ (trimEnd cs).getLast?, isBlank c = false := by
  rw [trimEnd, List.getLast?_reverse]
  exact head?_dropWhile_eq_false isBlank cs.reverse

theorem trim_trim (cs : List Char) : trim (trim cs) = trim cs :=
  trim_eq_self_iff.mpr ⟨fun _ hc => not_isBlank_of_head?_trim hc,
    not_isBlank_of_getLast?_trimEnd (trimStart cs)⟩

theorem trim_dropWhile (cs : List Char) : trim (cs.dropWhile isBlank) = trim cs := by
  have hstart : trimStart (cs.dropWhile isBlank) = cs.dropWhile isBlank :=
    trimStart_eq_self_iff.mpr (head?_dropWhile_eq_false isBlank cs)
  rw [trim, hstart]
  rfl

theorem trim_eq_nil_iff {cs : List Char} : trim cs = [] ↔ ∀ c ∈ cs, isBlank c = true := by
  constructor
  · intro h c hc
    have hrest : (cs.dropWhile isBlank).reverse.dropWhile isBlank = [] :=
      List.reverse_eq_nil_iff.mp h
    rw [← List.takeWhile_append_dropWhile (p := isBlank) (l := cs)] at hc
    rcases List.mem_append.mp hc with hc | hc
    · exact List.mem_takeWhile_imp hc
    · exact List.dropWhile_eq_nil_iff.mp hrest c (List.mem_reverse.mpr hc)
  · intro h
    rw [← trim_dropWhile, List.dropWhile_eq_nil_iff.mpr h, trim_nil]

theorem trim_ne_nil_iff {cs : List Char} : trim cs ≠ [] ↔ ∃ c ∈ cs, isBlank c = false := by
  simp only [ne_eq, trim_eq_nil_iff, not_forall, exists_prop, Bool.not_eq_true]

/-! ### Blanks around a text -/

section
variable {blanks : List Char} (h : ∀ c ∈ blanks, isBlank c = true)
include h

theorem trim_blanks_append (cs : List Char) : trim (blanks ++ cs) = trim cs := by
  rw [trim, trimStart, List.dropWhile_append_of_pos h]
  rfl

theorem trimEnd_append_blanks (cs : List Char) : trimEnd (cs ++ blanks) = trimEnd cs := by
  have hreverse : ∀ c ∈ blanks.reverse, isBlank c = true := fun c hc => h c (List.mem_reverse.mp hc)
  rw [trimEnd, List.reverse_append, List.dropWhile_append_of_pos hreverse]
  rfl

theorem trim_append_blanks (cs : List Char) : trim (cs ++ blanks) = trim cs := by
  have hall : blanks.dropWhile isBlank = [] := List.dropWhile_eq_nil_iff.mpr h
  unfold trim trimStart
  rw [List.dropWhile_append]
  split
  · next hnil => rw [hall, List.isEmpty_iff.mp hnil]
  · exact trimEnd_append_blanks h _

end

/-- A text is what is left when it is trimmed, with blanks around it. -/
theorem exists_blanks_trim (cs : List Char) : ∃ left right, (∀ c ∈ left, isBlank c = true) ∧
    (∀ c ∈ right, isBlank c = true) ∧ cs = left ++ (trim cs ++ right) := by
  have hstart := List.takeWhile_append_dropWhile (p := isBlank) (l := cs)
  have hend := List.takeWhile_append_dropWhile (p := isBlank) (l := (trimStart cs).reverse)
  refine ⟨cs.takeWhile isBlank, ((trimStart cs).reverse.takeWhile isBlank).reverse,
    fun _ => List.mem_takeWhile_imp, fun _ hc => List.mem_takeWhile_imp (List.mem_reverse.mp hc), ?_⟩
  rw [trim, trimEnd, ← List.reverse_append, hend, List.reverse_reverse]
  exact hstart.symm

/-! ### Words -/

theorem frontWord_eq (cs : List Char) : frontWord cs =
    (cs.takeWhile (!isBlank ·), words (cs.dropWhile (!isBlank ·))) := by
  induction cs with
  | nil => rfl
  | cons c cs ih =>
    cases hc : isBlank c with
    | true => simp [words, frontWord, hc]
    | false => simp [frontWord, hc, ih]

theorem words_cons_of_blank {c : Char} (h : isBlank c = true) (cs : List Char) :
    words (c :: cs) = words cs := by
  simp [words, frontWord, h]

theorem words_dropWhile (cs : List Char) : words (cs.dropWhile isBlank) = words cs := by
  induction cs with
  | nil => rfl
  | cons c cs ih =>
    cases hc : isBlank c with
    | true => rw [List.dropWhile_cons_of_pos hc, ih, words_cons_of_blank hc]
    | false => rw [List.dropWhile_cons_of_neg (by simp [hc])]

theorem words_cons {c : Char} (h : isBlank c = false) (cs : List Char) : words (c :: cs) =
    (c :: cs.takeWhile (!isBlank ·)) :: words (cs.dropWhile (!isBlank ·)) := by
  rw [words, frontWord_eq]
  simp [h]

/-- A word up to a blank or the end of a text is its first word. -/
theorem words_append {word cs : List Char} (hne : word ≠ []) (hword : ∀ c ∈ word, isBlank c = false)
    (hcs : ∀ c ∈ cs.head?, isBlank c = true) : words (word ++ cs) = word :: words cs := by
  cases word with
  | nil => exact absurd rfl hne
  | cons c word =>
    obtain ⟨hc, hword⟩ := List.forall_mem_cons.mp hword
    have hrun : ∀ d ∈ word, (!isBlank d) = true := fun d hd => by rw [hword d hd]; rfl
    have hends : ∀ d ∈ cs.head?, (!isBlank d) = false := fun d hd => by rw [hcs d hd]; rfl
    rw [List.cons_append, words_cons hc, takeWhile_run_append hrun hends,
      dropWhile_run_append hrun hends]

theorem words_eq_singleton {word : List Char} (hne : word ≠ [])
    (hword : ∀ c ∈ word, isBlank c = false) : words word = [word] := by
  have hwords := @words_append word [] hne hword nofun
  rwa [List.append_nil] at hwords

theorem words_blanks_append {gap : List Char} (h : ∀ c ∈ gap, isBlank c = true) (cs : List Char) :
    words (gap ++ cs) = words cs := by
  rw [← words_dropWhile, List.dropWhile_append_of_pos h, words_dropWhile]

theorem frontWord_append {b : Char} (h : isBlank b = true) (cs ds : List Char) :
    frontWord (cs ++ b :: ds) = ((frontWord cs).1, (frontWord cs).2 ++ words ds) := by
  induction cs with
  | nil => simp [frontWord, words, h]
  | cons c cs ih =>
    rw [List.cons_append, frontWord, ih, frontWord]
    cases hc : isBlank c with
    | true => by_cases hw : (frontWord cs).1 = [] <;> simp [hw]
    | false => simp

/-- The words on both sides of a blank are the words of a text. -/
theorem words_append_cons {b : Char} (h : isBlank b = true) (cs ds : List Char) :
    words (cs ++ b :: ds) = words cs ++ words ds := by
  have hwords (ds : List Char) : words ds =
      if (frontWord ds).1.isEmpty then (frontWord ds).2 else (frontWord ds).1 :: (frontWord ds).2 :=
    rfl
  rw [hwords, hwords cs, frontWord_append h]
  split
  · rfl
  · rw [List.cons_append]

/-- A run without blanks that reaches from a blank or the beginning of a text to a blank or its
end. -/
structure IsWordOf (word cs : List Char) : Prop where
  ne_nil : word ≠ []
  not_isBlank : ∀ c ∈ word, isBlank c = false
  stands : ∃ before after, cs = before ++ (word ++ after) ∧
    (∀ c ∈ before.getLast?, isBlank c = true) ∧ ∀ c ∈ after.head?, isBlank c = true

section
variable {word cs ds : List Char} {b : Char}

theorem IsWordOf.append_cons (h : IsWordOf word cs) (hb : isBlank b = true) :
    IsWordOf word (cs ++ b :: ds) := by
  obtain ⟨hne, hword, before, after, rfl, hbefore, hafter⟩ := h
  refine ⟨hne, hword, before, after ++ b :: ds, by simp only [List.append_assoc], hbefore, ?_⟩
  cases after with
  | nil =>
    rintro _ ⟨⟩
    exact hb
  | cons c after => exact hafter

theorem IsWordOf.cons_append (h : IsWordOf word ds) (hb : isBlank b = true) :
    IsWordOf word (cs ++ b :: ds) := by
  obtain ⟨hne, hword, before, after, rfl, hbefore, hafter⟩ := h
  refine ⟨hne, hword, cs ++ b :: before, after, by simp, ?_, hafter⟩
  have hlast : (cs ++ b :: before).getLast? = some (before.getLast?.getD b) := by
    simp [List.getLast?_append, List.getLast?_cons]
  rw [hlast]
  rintro _ ⟨⟩
  cases hb' : before.getLast? with
  | none => exact hb
  | some c => exact hbefore c hb'

theorem isWordOf_of_mem_words (h : word ∈ words cs) : IsWordOf word cs := by
  -- A blank divides a text into two shorter ones, and a text without one is a single word.
  generalize hlen : cs.length = n
  induction n using Nat.strongRecOn generalizing cs with
  | ind n ih =>
    by_cases hblank : ∃ b ∈ cs, isBlank b = true
    · obtain ⟨b, hmem, hb⟩ := hblank
      obtain ⟨front, back, rfl⟩ := List.append_of_mem hmem
      rw [List.length_append, List.length_cons] at hlen
      rw [words_append_cons hb] at h
      rcases List.mem_append.mp h with h | h
      · exact (ih front.length (by omega) h rfl).append_cons hb
      · exact (ih back.length (by omega) h rfl).cons_append hb
    · have hword : ∀ c ∈ cs, isBlank c = false := fun c hc =>
        Bool.eq_false_iff.mpr fun hb => hblank ⟨c, hc, hb⟩
      have hne : cs ≠ [] := by
        rintro rfl
        cases h
      rw [words_eq_singleton hne hword] at h
      obtain rfl := List.mem_singleton.mp h
      exact ⟨hne, hword, [], [], by simp, nofun, nofun⟩

end

theorem mem_words_iff {cs word : List Char} : word ∈ words cs ↔ IsWordOf word cs := by
  refine ⟨isWordOf_of_mem_words, ?_⟩
  rintro ⟨hne, hword, before, after, rfl, hbefore, hafter⟩
  have hfirst := words_append hne hword hafter
  cases hlast : before.getLast? with
  | none =>
    obtain rfl := List.getLast?_eq_none_iff.mp hlast
    rw [List.nil_append, hfirst]
    exact List.mem_cons_self
  | some b =>
    obtain ⟨front, rfl⟩ := List.getLast?_eq_some_iff.mp hlast
    rw [List.append_assoc, List.singleton_append, words_append_cons (hbefore b hlast), hfirst]
    exact List.mem_append_right _ List.mem_cons_self

/-- Words are not empty and hold no blanks. -/
theorem of_mem_words {cs word : List Char} (h : word ∈ words cs) :
    word ≠ [] ∧ ∀ c ∈ word, isBlank c = false :=
  ⟨(isWordOf_of_mem_words h).ne_nil, (isWordOf_of_mem_words h).not_isBlank⟩

end ScriptedDialog.Text
