import Mathlib.Data.List.TakeWhile
import ScriptedDialog.Proofs.Text.Words
import ScriptedDialog.Value

/-! How a list of choices is read. A text is taken apart into the blanks at its front, a series
of choices with blanks behind each of them, and a residue, with which reading is over. Every
text can be taken apart, and in one way only: a bare run of letters is as long as it can be,
and so are the blanks, since neither a choice nor the residue begins with one. -/

namespace ScriptedDialog.Value

open Text

/-! ### Letters -/

theorem isWordChar_of_isLetter {c : Char} (h : isLetter c = true) : isWordChar c = true := by
  simp only [isLetter, Bool.or_eq_true, Bool.and_eq_true, decide_eq_true_eq] at h
  rcases h with h | h
  · exact inRanges_iff.mpr ⟨(0x61, 0x7a), by decide, h⟩
  · exact inRanges_iff.mpr ⟨(0x41, 0x5a), by decide, h⟩

theorem not_isLetter_of_isBlank {c : Char} (h : isBlank c = true) : isLetter c = false := by
  refine Bool.eq_false_iff.mpr fun hletter => ?_
  have hword := isWordChar_of_isLetter hletter
  rw [isWordChar_of_isBlank h] at hword
  cases hword

/-! ### One choice -/

/-- How a choice may be written: bare if it has letters only, or in quotes. -/
inductive Spelled : List Char → List Char → Prop where
  | bare {run} (ne_nil : run ≠ []) (letters : ∀ c ∈ run, isLetter c = true) : Spelled run run
  | quoted {phrase} (ne_nil : phrase ≠ []) (chars : ∀ c ∈ phrase, isPhraseChar c = true) :
      Spelled phrase ('"' :: (phrase ++ ['"']))

theorem Spelled.ne_nil {token written : List Char} (h : Spelled token written) :
    token ≠ [] ∧ written ≠ [] := by
  cases h with
  | bare ne_nil => exact ⟨ne_nil, ne_nil⟩
  | quoted ne_nil => exact ⟨ne_nil, List.cons_ne_nil _ _⟩

theorem Spelled.not_isBlank_head? {token written : List Char} (h : Spelled token written)
    (after : List Char) : ∀ c ∈ (written ++ after).head?, isBlank c = false := by
  cases h with
  | bare ne_nil letters =>
    cases token with
    | nil => exact absurd rfl ne_nil
    | cons d run =>
      rintro _ ⟨⟩
      refine Bool.eq_false_iff.mpr fun hblank => ?_
      have hletter := letters d List.mem_cons_self
      rw [not_isLetter_of_isBlank hblank] at hletter
      cases hletter
  | quoted =>
    rintro _ ⟨⟩
    decide

theorem quoted_ne (phrase : List Char) : '"' :: (phrase ++ ['"']) ≠ phrase := by
  intro he
  have hlen := congrArg List.length he
  rw [List.length_cons, List.length_append] at hlen
  omega

theorem takeWhile_isPhraseChar_quoted {phrase : List Char}
    (h : ∀ c ∈ phrase, isPhraseChar c = true) (after : List Char) :
    (phrase ++ '"' :: after).takeWhile isPhraseChar = phrase ∧
      (phrase ++ '"' :: after).dropWhile isPhraseChar = '"' :: after := by
  have hends : ∀ c ∈ ('"' :: after).head?, isPhraseChar c = false := by
    rintro _ ⟨⟩
    decide
  exact ⟨takeWhile_run_append h hends, dropWhile_run_append h hends⟩

/-- A text begins with a choice as it is spelled. A bare one goes on as far as there are
letters. -/
theorem spelled_of_choice? {cs token after : List Char} (h : choice? cs = some (token, after)) :
    ∃ written, cs = written ++ after ∧ Spelled token written ∧
      (written = token → ∀ c ∈ after.head?, isLetter c = false) := by
  unfold choice? at h
  split at h
  · next cs =>
    split at h
    · next c phrase rest ht hd =>
      obtain ⟨rfl, rfl⟩ := Prod.mk.inj (Option.some.inj h)
      have hcs : cs = (c :: phrase) ++ '"' :: rest := by
        rw [← ht, ← hd, List.takeWhile_append_dropWhile]
      refine ⟨'"' :: ((c :: phrase) ++ ['"']), by rw [hcs]; simp,
        .quoted (List.cons_ne_nil _ _) fun d hd => List.mem_takeWhile_imp (ht ▸ hd), fun he => ?_⟩
      exact absurd he (quoted_ne _)
    · cases h
  · split at h
    · cases h
    · next c word ht =>
      obtain ⟨rfl, rfl⟩ := Prod.mk.inj (Option.some.inj h)
      refine ⟨c :: word, by rw [← ht, List.takeWhile_append_dropWhile],
        .bare (List.cons_ne_nil _ _) fun d hd => List.mem_takeWhile_imp (ht ▸ hd),
        fun _ => head?_dropWhile_eq_false isLetter cs⟩

theorem Spelled.choice?_eq {token written after : List Char} (h : Spelled token written)
    (hends : written = token → ∀ c ∈ after.head?, isLetter c = false) :
    choice? (written ++ after) = some (token, after) := by
  cases h with
  | bare ne_nil letters =>
    have htake := takeWhile_run_append letters (hends rfl)
    have hdrop := dropWhile_run_append letters (hends rfl)
    cases token with
    | nil => exact absurd rfl ne_nil
    | cons c run =>
      have hquote : c ≠ '"' := by
        rintro rfl
        exact absurd (letters '"' List.mem_cons_self) (by decide)
      unfold choice?
      split
      · next hq =>
        exact absurd (List.cons.inj hq).1 hquote
      · rw [htake, hdrop]
  | quoted ne_nil chars =>
    obtain ⟨htake, hdrop⟩ := takeWhile_isPhraseChar_quoted chars after
    cases token with
    | nil => exact absurd rfl ne_nil
    | cons c phrase =>
      rw [List.cons_append, List.append_assoc, List.singleton_append]
      simp only [choice?, htake, hdrop]

/-- A text begins with no choice if it begins with none as it is spelled. -/
theorem choice?_eq_none_iff {cs : List Char} :
    choice? cs = none ↔ ∀ token written, Spelled token written → ¬ written <+: cs := by
  constructor
  · rintro h token written hspelled ⟨after, rfl⟩
    have hsome : ∃ r, choice? (written ++ after) = some r := by
      cases hspelled with
      | quoted ne_nil chars =>
        exact ⟨_, (Spelled.quoted ne_nil chars).choice?_eq fun he => absurd he (quoted_ne _)⟩
      | bare ne_nil letters =>
        -- The run may go on, and the whole of it is a choice.
        have hrun : (token ++ after).takeWhile isLetter = token ++ after.takeWhile isLetter :=
          List.takeWhile_append_of_pos letters
        have hne : (token ++ after).takeWhile isLetter ≠ [] := by
          rw [hrun]
          exact List.append_ne_nil_of_left_ne_nil ne_nil _
        have hwhole := (Spelled.bare hne fun _ => List.mem_takeWhile_imp).choice?_eq
          fun _ => head?_dropWhile_eq_false isLetter (token ++ after)
        rw [List.takeWhile_append_dropWhile] at hwhole
        exact ⟨_, hwhole⟩
    obtain ⟨r, hr⟩ := hsome
    rw [hr] at h
    cases h
  · intro h
    refine Option.eq_none_iff_forall_ne_some.mpr ?_
    rintro ⟨token, after⟩ hc
    obtain ⟨written, rfl, hspelled, -⟩ := spelled_of_choice? hc
    exact h token written hspelled (List.prefix_append written after)

/-! ### Texts taken apart -/

/-- Choices with blanks behind each of them, in front of a residue. -/
inductive Series (residue : List Char) : List Char → List (List Char) → Prop where
  | nil : Series residue [] []
  | cons {token written gap front tokens} (spelled : Spelled token written)
      (ends : written = token → ∀ c ∈ (gap ++ (front ++ residue)).head?, isLetter c = false)
      (gap_blank : ∀ c ∈ gap, isBlank c = true) (later : Series residue front tokens) :
      Series residue (written ++ (gap ++ front)) (token :: tokens)

/-- Reading is over here: the text begins neither with a blank nor with a choice. -/
structure IsResidue (cs : List Char) : Prop where
  start : ∀ c ∈ cs.head?, isBlank c = false
  stuck : ∀ token written, Spelled token written → ¬ written <+: cs

/-- A text taken apart: blanks, choices with blanks behind each, and a residue. -/
structure Parted (text lead front residue : List Char) (tokens : List (List Char)) : Prop where
  text_eq : text = lead ++ (front ++ residue)
  lead_blank : ∀ c ∈ lead, isBlank c = true
  series : Series residue front tokens
  isResidue : IsResidue residue

theorem Series.length_le {residue front : List Char} {tokens : List (List Char)}
    (h : Series residue front tokens) : tokens.length ≤ front.length := by
  induction h with
  | nil => exact Nat.le_refl 0
  | @cons token written gap front tokens spelled _ _ _ ih =>
    have hpos := List.length_pos_iff.mpr spelled.ne_nil.2
    simp only [List.length_cons, List.length_append]
    omega

/-- A series does not begin with a blank. -/
theorem Series.not_isBlank_head? {residue front : List Char} {tokens : List (List Char)}
    (h : Series residue front tokens) (hr : IsResidue residue) :
    ∀ c ∈ (front ++ residue).head?, isBlank c = false := by
  cases h with
  | nil => exact hr.start
  | cons spelled =>
    rw [List.append_assoc]
    exact spelled.not_isBlank_head? _

theorem parted_choices (text : List Char) :
    ∃ lead front residue, Parted text lead front residue (choices text) := by
  fun_induction choices text with
  | case1 text h =>
    refine ⟨text.takeWhile isBlank, [], trimStart text, ?_, fun c hc => List.mem_takeWhile_imp hc,
      .nil, head?_dropWhile_eq_false isBlank text, choice?_eq_none_iff.mp h⟩
    exact List.takeWhile_append_dropWhile.symm
  | case2 text token after h ih =>
    obtain ⟨gap, front, residue, hparted⟩ := ih
    obtain ⟨written, htext, hspelled, hends⟩ := spelled_of_choice? h
    rw [hparted.text_eq] at htext hends
    refine ⟨text.takeWhile isBlank, written ++ (gap ++ front), residue, ?_,
      fun c hc => List.mem_takeWhile_imp hc, .cons hspelled hends hparted.lead_blank hparted.series,
      hparted.isResidue⟩
    rw [List.append_assoc, List.append_assoc, ← htext]
    exact List.takeWhile_append_dropWhile.symm

/-- A series and a residue are what they are by the text that they make up. -/
theorem Series.unique {residue residue' front front' : List Char}
    {tokens tokens' : List (List Char)} (h : Series residue front tokens)
    (h' : Series residue' front' tokens') (hr : IsResidue residue) (hr' : IsResidue residue')
    (he : front ++ residue = front' ++ residue') :
    front = front' ∧ residue = residue' ∧ tokens = tokens' := by
  induction h generalizing front' tokens' with
  | nil =>
    cases h' with
    | nil => exact ⟨rfl, he, rfl⟩
    | cons spelled =>
      rw [List.nil_append, List.append_assoc] at he
      exact absurd ⟨_, he.symm⟩ (hr.stuck _ _ spelled)
  | @cons token written gap front tokens spelled ends gap_blank later ih =>
    cases h' with
    | nil =>
      rw [List.nil_append, List.append_assoc] at he
      exact absurd ⟨_, he⟩ (hr'.stuck _ _ spelled)
    | @cons token' written' gap' front' tokens' spelled' ends' gap_blank' later' =>
      simp only [List.append_assoc] at he
      have hchoice := spelled.choice?_eq ends
      rw [he, spelled'.choice?_eq ends'] at hchoice
      obtain ⟨rfl, hgap⟩ := Prod.mk.inj (Option.some.inj hchoice)
      -- Behind the blanks both go on with what begins with none.
      have hdrop := dropWhile_run_append gap_blank (later.not_isBlank_head? hr)
      rw [← hgap, dropWhile_run_append gap_blank' (later'.not_isBlank_head? hr')] at hdrop
      obtain ⟨rfl, rfl, rfl⟩ := ih later' hdrop.symm
      obtain rfl := List.append_cancel_right hgap
      rw [List.append_cancel_right he]
      exact ⟨rfl, rfl, rfl⟩

theorem Parted.unique {text lead lead' front front' residue residue' : List Char}
    {tokens tokens' : List (List Char)} (h : Parted text lead front residue tokens)
    (h' : Parted text lead' front' residue' tokens') :
    lead' = lead ∧ front' = front ∧ residue' = residue ∧ tokens' = tokens := by
  have he := h.text_eq.symm.trans h'.text_eq
  have hdrop := dropWhile_run_append h.lead_blank (h.series.not_isBlank_head? h.isResidue)
  rw [he, dropWhile_run_append h'.lead_blank (h'.series.not_isBlank_head? h'.isResidue)] at hdrop
  obtain ⟨rfl, rfl, rfl⟩ := h'.series.unique h.series h'.isResidue h.isResidue hdrop
  exact ⟨(List.append_cancel_right he).symm, rfl, rfl, rfl⟩

/-- What a text is taken apart into tells its choices. -/
theorem Parted.choices_eq {text lead front residue : List Char} {tokens : List (List Char)}
    (h : Parted text lead front residue tokens) : choices text = tokens := by
  obtain ⟨lead', front', residue', h'⟩ := parted_choices text
  exact (h.unique h').2.2.2

/-- Every text can be taken apart, in one way and in no more rounds than it has characters, and
its choices are those of the series. -/
theorem choiceList_parted (text : List Char) :
    ∃ lead front residue tokens, choiceList text = tokens.map String.ofList ∧
      tokens.length ≤ text.length ∧
      ∀ lead' front' residue' tokens', Parted text lead' front' residue' tokens' ↔
        lead' = lead ∧ front' = front ∧ residue' = residue ∧ tokens' = tokens := by
  obtain ⟨lead, front, residue, hparted⟩ := parted_choices text
  refine ⟨lead, front, residue, choices text, rfl, ?_, fun lead' front' residue' tokens' =>
    ⟨hparted.unique, ?_⟩⟩
  · calc (choices text).length ≤ front.length := hparted.series.length_le
      _ ≤ text.length := by
        rw [hparted.text_eq]
        simp only [List.length_append]
        omega
  · rintro ⟨rfl, rfl, rfl, rfl⟩
    exact hparted

end ScriptedDialog.Value
