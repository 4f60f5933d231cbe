import ScriptedDialog.Proofs.Script.Printing

/-! The shapes of instruction lines. A declaration and a command are told by marks of
punctuation with blanks around them, and a line is read by its shape: one of no shape is
malformed, a command has a level that is a number below two to the 64, and only then it matters
whether its trigger is blank. Instruction lines end with no blank, so that the text behind the
last mark is blank only if there is none. -/

namespace ScriptedDialog.Script

open Text

/-! ### Levels -/

/-- A level as it is written: ASCII digits of a number below two to the 64. No digits are
written for zero. -/
def IsLevel (digits : List Char) (n : Nat) : Prop :=
  (∀ c ∈ digits, c.isDigit = true) ∧ Nat.ofDigitChars 10 digits 0 = n ∧ n < UInt64.size

theorem digitValue?_eq_some_iff {c : Char} {d : Nat} :
    digitValue? c = some d ↔ c.isDigit = true ∧ d = c.toNat - 48 := by
  have hdigit : ('0' ≤ c ∧ c ≤ '9') ↔ c.isDigit = true := by
    simp only [Char.isDigit, ge_iff_le, Bool.and_eq_true, decide_eq_true_eq]
    exact Iff.rfl
  simp only [digitValue?, hdigit, Option.ite_none_right_eq_some, Option.some.injEq]
  exact and_congr_right fun _ => eq_comm

theorem isLevel_of_levelFrom {value n : Nat} {digits : List Char} (hv : value < UInt64.size)
    (h : levelFrom value digits = .ok n) : (∀ c ∈ digits, c.isDigit = true) ∧
      Nat.ofDigitChars 10 digits value = n ∧ n < UInt64.size := by
  induction digits generalizing value with
  | nil =>
    cases h
    exact ⟨nofun, Nat.ofDigitChars_nil, hv⟩
  | cons c cs ih =>
    unfold levelFrom at h
    split at h
    · cases h
    · next d hd =>
      obtain ⟨hc, rfl⟩ := digitValue?_eq_some_iff.mp hd
      split at h
      · next hlt =>
        obtain ⟨hcs, hvalue, hn⟩ := ih hlt h
        exact ⟨List.forall_mem_cons.mpr ⟨hc, hcs⟩, by rwa [Nat.ofDigitChars_cons], hn⟩
      · cases h

theorem level_eq_ok_iff {digits : List Char} {n : Nat} :
    level digits = .ok n ↔ IsLevel digits n := by
  constructor
  · exact isLevel_of_levelFrom (by decide)
  · rintro ⟨hdigits, rfl, hn⟩
    exact levelFrom_of_digits hdigits hn

/-! ### Texts at the end of a line -/

/-- A text that holds no line feed and ends with no blank. -/
structure IsEnding (cs : List Char) : Prop where
  one_line : '\n' ∉ cs
  last : ∀ c ∈ cs.getLast?, isBlank c = false

theorem IsPlain.isEnding {cs : List Char} (h : IsPlain cs) : IsEnding cs :=
  ⟨h.2.1, (trim_eq_self_iff.mp h.1).2⟩

theorem IsEnding.suffix {cs text : List Char} (h : IsEnding cs) (hs : text <:+ cs) :
    IsEnding text where
  one_line hmem := h.one_line (hs.subset hmem)
  last c hc := by
    obtain ⟨front, rfl⟩ := hs
    refine h.last c ?_
    rw [List.getLast?_append, Option.mem_def.mp hc]
    rfl

theorem IsEnding.eq_nil_of_blank {cs : List Char} (h : IsEnding cs)
    (hblank : ∀ c ∈ cs, isBlank c = true) : cs = [] := by
  refine List.getLast?_eq_none_iff.mp (Option.eq_none_iff_forall_ne_some.mpr fun c hc => ?_)
  have hlast := hblank c (List.mem_of_getLast? hc)
  rw [h.last c hc] at hlast
  cases hlast

/-- What is written on a line is taken from it as a plain text. -/
theorem isPlain_of_instruction? {line cs : List Char} (h : instruction? line = some cs)
    (hline : '\n' ∉ line) : cs ≠ [] ∧ IsPlain cs := by
  unfold instruction? at h
  simp only at h
  split at h
  · cases h
  · next hcomment =>
    split at h
    · cases h
    · next hne =>
      cases h
      have hne := mt List.isEmpty_iff.mpr hne
      have hkept := trimEnd_prefix ((trim line).takeWhile (· ≠ '#'))
      have hbody := List.takeWhile_prefix (l := trim line) (· ≠ '#')
      refine ⟨hne, trim_eq_self_iff.mpr ⟨fun c hc => ?_, not_isBlank_of_getLast?_trimEnd _⟩,
        fun hmem => ?_, fun hmem => ?_⟩
      · obtain ⟨after, hafter⟩ := hkept.trans hbody
        have hhead : (trim line).head? = some c := by
          rw [← hafter, List.head?_append, Option.mem_def.mp hc]
          rfl
        exact not_isBlank_of_head?_trim hhead
      · have htrim : '\n' ∈ trim line := (hkept.trans hbody).subset hmem
        exact hline ((trim_sublist line).subset htrim)
      · have hnot := List.mem_takeWhile_imp (hkept.subset hmem)
        simp at hnot

theorem isPlain_of_mem_instructionLines {source : String} {line : SourceLine}
    (h : line ∈ instructionLines source) : line.text.toList ≠ [] ∧ IsPlain line.text.toList := by
  obtain ⟨⟨cs, n⟩, hmem, hline⟩ := List.mem_filterMap.mp h
  obtain ⟨kept, hkept, rfl⟩ := Option.map_eq_some_iff.mp hline
  rw [String.toList_ofList]
  exact isPlain_of_instruction? hkept (not_mem_lines (List.fst_mem_of_mem_zipIdx hmem))

namespace Statement

theorem afterMark?_eq_some_iff {mark : Char} (hm : isBlank mark = false) {cs rest : List Char} :
    afterMark? mark cs = some rest ↔
      ∃ gap, (∀ c ∈ gap, isBlank c = true) ∧ cs = gap ++ mark :: rest := by
  constructor
  · intro h
    unfold afterMark? at h
    split at h
    · next c after hd =>
      split at h
      · next hc =>
        cases h
        refine ⟨cs.takeWhile isBlank, fun _ => List.mem_takeWhile_imp, ?_⟩
        rw [← hc, ← hd, List.takeWhile_append_dropWhile]
      · cases h
    · cases h
  · rintro ⟨gap, hgap, rfl⟩
    have hends : ∀ c ∈ (mark :: rest).head?, isBlank c = false := by
      rintro _ ⟨⟩
      exact hm
    simp only [afterMark?, dropWhile_run_append hgap hends, ↓reduceIte]

theorem suffix_of_afterMark? {mark : Char} (hm : isBlank mark = false) {cs rest : List Char}
    (h : afterMark? mark cs = some rest) : rest <:+ cs := by
  obtain ⟨gap, -, rfl⟩ := (afterMark?_eq_some_iff hm).mp h
  exact (List.suffix_cons mark rest).trans (List.suffix_append gap _)

/-- Behind the last mark there has to be a text that is not blank. -/
theorem closing?_eq_some_iff {cs value : List Char} (h : IsEnding cs) :
    closing? cs = some value ↔ (∃ c ∈ cs, isBlank c = false) ∧ value = trim cs := by
  have hsplit := List.takeWhile_append_dropWhile (p := isBlank) (l := cs)
  cases hd : cs.dropWhile isBlank with
  | nil =>
    obtain rfl := h.eq_nil_of_blank (List.dropWhile_eq_nil_iff.mp hd)
    simp [closing?]
  | cons c rest =>
    have hmem : c ∈ cs := by
      rw [← hsplit, hd]
      exact List.mem_append_right _ List.mem_cons_self
    have hc : isBlank c = false := head?_dropWhile_eq_false isBlank cs c (by rw [hd]; rfl)
    have hline : '\n' ∉ c :: rest := fun hm =>
      h.one_line (hsplit ▸ List.mem_append_right _ (hd ▸ hm))
    have htrim : trim (c :: rest) = trim cs := by rw [← hd, trim_dropWhile]
    simp only [closing?, hd, hline, htrim, ↓reduceIte, Option.some.injEq, eq_comm (a := value)]
    exact ⟨fun hv => ⟨⟨c, hmem, hc⟩, hv⟩, And.right⟩

/-! ### Shapes -/

/-- A declaration, with its name and the text behind the colon. The name is as long as it can
be, since neither a blank nor a colon is a word character. -/
inductive IsDeclaration : List Char → List Char → List Char → Prop where
  | intro {name gap text} (isName : IsName name) (gap_blank : ∀ c ∈ gap, isBlank c = true)
      (text_shown : ∃ c ∈ text, isBlank c = false) :
      IsDeclaration ('~' :: (name ++ (gap ++ ':' :: text))) name text

/-- The shape of a command, with its digits, what is in parentheses, and the text behind the
last colon. -/
inductive IsCommand : List Char → List Char → List Char → List Char → Prop where
  | intro {digits gap₁ gap₂ inner gap₃ text} (digits_all : ∀ c ∈ digits, isDigit c = true)
      (gap₁_blank : ∀ c ∈ gap₁, isBlank c = true) (gap₂_blank : ∀ c ∈ gap₂, isBlank c = true)
      (inner_ne_nil : inner ≠ []) (inner_all : ∀ c ∈ inner, isTriggerChar c = true)
      (gap₃_blank : ∀ c ∈ gap₃, isBlank c = true) (text_shown : ∃ c ∈ text, isBlank c = false) :
      IsCommand ('u' :: (digits ++ (gap₁ ++ ':' :: (gap₂ ++ '(' :: (inner ++
        ')' :: (gap₃ ++ ':' :: text)))))) digits inner text

/-- Neither a blank nor a mark goes on with a class that holds neither. -/
theorem head?_gap_mark {p : Char → Bool} (hp : ∀ c, isBlank c = true → p c = false) {mark : Char}
    (hm : p mark = false) {gap : List Char} (hgap : ∀ c ∈ gap, isBlank c = true)
    (rest : List Char) : ∀ c ∈ (gap ++ mark :: rest).head?, p c = false := by
  cases gap with
  | nil =>
    rintro _ ⟨⟩
    exact hm
  | cons b gap =>
    rintro _ ⟨⟩
    exact hp b (hgap b List.mem_cons_self)

theorem isDigit_of_isBlank {c : Char} (h : isBlank c = true) : isDigit c = false := by
  have hapart : ∀ b ∈ blankRanges, ∀ z ∈ zeros, b.2 < z ∨ z + 9 < b.1 := by decide +kernel
  obtain ⟨b, hb, hlow, hhigh⟩ := inRanges_iff.mp h
  refine Bool.eq_false_iff.mpr fun hdigit => ?_
  obtain ⟨z, hz, hc⟩ := List.any_eq_true.mp hdigit
  simp only [Bool.and_eq_true, decide_eq_true_eq] at hc
  rcases hapart b hb z hz with hlt | hlt <;> omega

theorem declaration?_eq_some_iff_shape {cs name value : List Char} (h : IsEnding cs) :
    declaration? cs = some (name, value) ↔
      ∃ text, IsDeclaration cs name text ∧ value = trim text := by
  have hcolon : isBlank ':' = false := by decide
  rw [declaration?_eq_some_iff]
  constructor
  · rintro ⟨after, text, rfl, rfl, hne, hmark, hclosing⟩
    have htext : IsEnding text := h.suffix ((suffix_of_afterMark? hcolon hmark).trans
      ((List.dropWhile_suffix _).trans (List.suffix_cons _ _)))
    obtain ⟨gap, hgap, hafter⟩ := (afterMark?_eq_some_iff hcolon).mp hmark
    obtain ⟨hshown, rfl⟩ := (closing?_eq_some_iff htext).mp hclosing
    have hshape := IsDeclaration.intro (isName_takeWhile hne) hgap hshown
    rw [← hafter, List.takeWhile_append_dropWhile] at hshape
    exact ⟨text, hshape, rfl⟩
  · rintro ⟨text, @⟨_, gap, _, isName, gap_blank, text_shown⟩, rfl⟩
    have hends := head?_gap_mark (fun _ => isWordChar_of_isBlank)
      (show isWordChar ':' = false by decide +kernel) gap_blank text
    have hmark : afterMark? ':' (gap ++ ':' :: text) = some text :=
      (afterMark?_eq_some_iff hcolon).mpr ⟨gap, gap_blank, rfl⟩
    have htext : IsEnding text := h.suffix ((suffix_of_afterMark? hcolon hmark).trans
      ((List.suffix_append name _).trans (List.suffix_cons _ _)))
    refine ⟨_, text, rfl, takeWhile_run_append isName.2 hends, isName.1, ?_,
      (closing?_eq_some_iff htext).mpr ⟨text_shown, rfl⟩⟩
    rwa [dropWhile_run_append isName.2 hends]

theorem commandShape?_eq_some_iff_shape {cs : List Char} {shape : CommandShape} (h : IsEnding cs) :
    commandShape? cs = some shape ↔
      ∃ text, IsCommand cs shape.digits shape.trigger text ∧ shape.response = trim text := by
  have hcolon : isBlank ':' = false := by decide
  have hopen : isBlank '(' = false := by decide
  rw [commandShape?_eq_some_iff]
  constructor
  · rintro ⟨after, opening, inner, closed, text, rfl, hdigits, hmark₁, hmark₂, htrigger, hne,
      hclosed, hmark₃, hclosing⟩
    have hsuffix : closed <:+ inner :=
      (List.suffix_cons _ _).trans (hclosed ▸ List.dropWhile_suffix isTriggerChar)
    have htext : IsEnding text := h.suffix <| (suffix_of_afterMark? hcolon hmark₃).trans <|
      hsuffix.trans <| (suffix_of_afterMark? hopen hmark₂).trans <|
      (suffix_of_afterMark? hcolon hmark₁).trans <|
      (List.dropWhile_suffix _).trans (List.suffix_cons _ _)
    obtain ⟨gap₁, hgap₁, hafter⟩ := (afterMark?_eq_some_iff hcolon).mp hmark₁
    obtain ⟨gap₂, hgap₂, rfl⟩ := (afterMark?_eq_some_iff hopen).mp hmark₂
    obtain ⟨gap₃, hgap₃, rfl⟩ := (afterMark?_eq_some_iff hcolon).mp hmark₃
    obtain ⟨hshown, hresponse⟩ := (closing?_eq_some_iff htext).mp hclosing
    have hafter' : after = shape.digits ++ (gap₁ ++ ':' :: (gap₂ ++ '(' :: inner)) := by
      rw [← hdigits, ← hafter, List.takeWhile_append_dropWhile]
    have hinner : inner = shape.trigger ++ ')' :: (gap₃ ++ ':' :: text) := by
      rw [← htrigger, ← hclosed, List.takeWhile_append_dropWhile]
    have hdigits_all : ∀ c ∈ shape.digits, isDigit c = true := fun c hc =>
      List.mem_takeWhile_imp (hdigits ▸ hc)
    have htrigger_all : ∀ c ∈ shape.trigger, isTriggerChar c = true := fun c hc =>
      List.mem_takeWhile_imp (htrigger ▸ hc)
    have hshape := IsCommand.intro hdigits_all hgap₁ hgap₂ hne htrigger_all hgap₃ hshown
    rw [← hinner, ← hafter'] at hshape
    exact ⟨text, hshape, hresponse⟩
  · obtain ⟨digits, inner, response⟩ := shape
    rintro ⟨text, @⟨_, gap₁, gap₂, _, gap₃, _, digits_all, gap₁_blank, gap₂_blank, inner_ne_nil,
      inner_all, gap₃_blank, text_shown⟩, hresponse⟩
    have hdigits := head?_gap_mark (fun _ => isDigit_of_isBlank)
      (show isDigit ':' = false by decide +kernel) gap₁_blank
        (gap₂ ++ '(' :: (inner ++ ')' :: (gap₃ ++ ':' :: text)))
    have hinner := takeWhile_dropWhile_append inner_all
      (show isTriggerChar ')' = false by decide +kernel) (gap₃ ++ ':' :: text)
    have htext : IsEnding text := h.suffix ⟨'u' :: (digits ++ (gap₁ ++ ':' :: (gap₂ ++ '(' ::
      (inner ++ ')' :: (gap₃ ++ [':']))))), by simp⟩
    refine ⟨_, _, _, _, text, rfl, takeWhile_run_append digits_all hdigits, ?_,
      (afterMark?_eq_some_iff hopen).mpr ⟨gap₂, gap₂_blank, rfl⟩, hinner.1, inner_ne_nil, hinner.2,
      (afterMark?_eq_some_iff hcolon).mpr ⟨gap₃, gap₃_blank, rfl⟩,
      (closing?_eq_some_iff htext).mpr ⟨text_shown, hresponse⟩⟩
    rw [dropWhile_run_append digits_all hdigits]
    exact (afterMark?_eq_some_iff hcolon).mpr ⟨gap₁, gap₁_blank, rfl⟩

theorem IsCommand.commandShape?_eq {cs digits inner text : List Char}
    (hs : IsCommand cs digits inner text) (h : IsEnding cs) :
    commandShape? cs = some ⟨digits, inner, trim text⟩ :=
  (commandShape?_eq_some_iff_shape h).mpr ⟨text, hs, rfl⟩

/-! ### Lines -/

/-- The line is reported with a fault that has the code. -/
def Refused (line : SourceLine) (code : String) : Prop :=
  ∃ d, ofLine line = .error d ∧ d.line = some line.number ∧ d.fault.code = code

theorem unwrap_trim (cs : List Char) : unwrap (trim cs) = unwrap cs := by
  unfold unwrap
  rw [trim_trim]

section
variable {line : SourceLine} (h : IsEnding line.text.toList)
include h

theorem declaration?_eq_none_iff : declaration? line.text.toList = none ↔
    ∀ name text, ¬ IsDeclaration line.text.toList name text := by
  rw [Option.eq_none_iff_forall_ne_some]
  constructor
  · intro hnone name text hshape
    exact hnone (name, trim text) ((declaration?_eq_some_iff_shape h).mpr ⟨text, hshape, rfl⟩)
  · rintro hshape ⟨name, value⟩ hsome
    obtain ⟨text, htext, -⟩ := (declaration?_eq_some_iff_shape h).mp hsome
    exact hshape name text htext

theorem commandShape?_eq_none_iff : commandShape? line.text.toList = none ↔
    ∀ digits inner text, ¬ IsCommand line.text.toList digits inner text := by
  rw [Option.eq_none_iff_forall_ne_some]
  constructor
  · intro hnone digits inner text hshape
    exact hnone _ (hshape.commandShape?_eq h)
  · intro hshape shape hsome
    obtain ⟨text, htext, -⟩ := (commandShape?_eq_some_iff_shape h).mp hsome
    exact hshape _ _ text htext

omit h in
/-- No line has the shapes of both a declaration and a command. -/
theorem IsCommand.declaration?_eq_none {cs digits inner text : List Char}
    (hs : IsCommand cs digits inner text) : declaration? cs = none := by
  cases hs
  rfl

theorem ofLine_eq_declaration_iff {name value : String} {n : Nat} :
    ofLine line = .ok (.declaration name value n) ↔ n = line.number ∧
      ∃ text, IsDeclaration line.text.toList name.toList text ∧ value.toList = trim text := by
  constructor
  · intro hread
    have hr := ofLine_reading line
    rw [hread] at hr
    cases hr with
    | declaration hd =>
      obtain ⟨text, hshape, rfl⟩ := (declaration?_eq_some_iff_shape h).mp hd
      exact ⟨rfl, text, by rwa [String.toList_ofList], String.toList_ofList⟩
  · rintro ⟨rfl, text, hshape, hvalue⟩
    have hd := (declaration?_eq_some_iff_shape h).mpr ⟨text, hshape, hvalue⟩
    have hr := (Reading.declaration hd).eq
    rwa [String.ofList_toList, String.ofList_toList] at hr

theorem ofLine_eq_command_iff {trigger response : String} {k n : Nat} :
    ofLine line = .ok (.command k trigger response n) ↔ n = line.number ∧
      ∃ digits inner text, IsCommand line.text.toList digits inner text ∧ IsLevel digits k ∧
        (∃ c ∈ inner, isBlank c = false) ∧ trigger.toList = trim inner ∧
        response.toList = unwrap text := by
  constructor
  · intro hread
    have hr := ofLine_reading line
    rw [hread] at hr
    cases hr with
    | @command shape _ hd hc hl ht =>
      obtain ⟨text, hshape, hresponse⟩ := (commandShape?_eq_some_iff_shape h).mp hc
      refine ⟨rfl, _, _, text, hshape, level_eq_ok_iff.mp hl, trim_ne_nil_iff.mp ht,
        String.toList_ofList, ?_⟩
      rw [String.toList_ofList, hresponse, unwrap_trim]
  · rintro ⟨rfl, digits, inner, text, hshape, hlevel, hinner, htrigger, hresponse⟩
    have hc := hshape.commandShape?_eq h
    have hr := (Reading.command hshape.declaration?_eq_none hc (level_eq_ok_iff.mpr hlevel)
      (trim_ne_nil_iff.mpr hinner)).eq
    rwa [unwrap_trim, ← htrigger, ← hresponse, String.ofList_toList, String.ofList_toList] at hr

theorem refused_level_iff : Refused line "LINE_LEVEL_INVALID" ↔
    ∃ digits inner text, IsCommand line.text.toList digits inner text ∧
      ∀ n, ¬ IsLevel digits n := by
  constructor
  · rintro ⟨d, hread, -, hcode⟩
    have hr := ofLine_reading line
    rw [hread] at hr
    cases hr with
    | malformed | blankTrigger => simp [Fault.code] at hcode
    | @badLevel shape cause hd hc hl =>
      obtain ⟨text, hshape, -⟩ := (commandShape?_eq_some_iff_shape h).mp hc
      refine ⟨_, _, text, hshape, fun n hn => ?_⟩
      rw [level_eq_ok_iff.mpr hn] at hl
      cases hl
  · rintro ⟨digits, inner, text, hshape, hlevel⟩
    have hc := hshape.commandShape?_eq h
    cases hl : level digits with
    | ok n => exact absurd (level_eq_ok_iff.mp hl) (hlevel n)
    | error cause => exact ⟨_, (Reading.badLevel hshape.declaration?_eq_none hc hl).eq, rfl, rfl⟩

theorem refused_trigger_iff : Refused line "LINE_TRIGGER_EMPTY" ↔
    ∃ digits inner text n, IsCommand line.text.toList digits inner text ∧ IsLevel digits n ∧
      ∀ c ∈ inner, isBlank c = true := by
  constructor
  · rintro ⟨d, hread, -, hcode⟩
    have hr := ofLine_reading line
    rw [hread] at hr
    cases hr with
    | malformed | badLevel => simp [Fault.code] at hcode
    | @blankTrigger shape n hd hc hl ht =>
      obtain ⟨text, hshape, -⟩ := (commandShape?_eq_some_iff_shape h).mp hc
      exact ⟨_, _, text, n, hshape, level_eq_ok_iff.mp hl, trim_eq_nil_iff.mp ht⟩
  · rintro ⟨digits, inner, text, n, hshape, hlevel, hinner⟩
    have hc := hshape.commandShape?_eq h
    exact ⟨_, (Reading.blankTrigger hshape.declaration?_eq_none hc (level_eq_ok_iff.mpr hlevel)
      (trim_eq_nil_iff.mpr hinner)).eq, rfl, rfl⟩

theorem refused_syntax_iff : Refused line "LINE_SYNTAX_INVALID" ↔
    (∀ name text, ¬ IsDeclaration line.text.toList name text) ∧
      ∀ digits inner text, ¬ IsCommand line.text.toList digits inner text := by
  rw [← declaration?_eq_none_iff h, ← commandShape?_eq_none_iff h]
  constructor
  · rintro ⟨d, hread, -, hcode⟩
    have hr := ofLine_reading line
    rw [hread] at hr
    cases hr with
    | badLevel | blankTrigger => simp [Fault.code] at hcode
    | malformed hd hc => exact ⟨hd, hc⟩
  · rintro ⟨hd, hc⟩
    exact ⟨_, (Reading.malformed hd hc).eq, rfl, rfl⟩

end

/-- An instruction line is a plain text that is not empty. It is read as a declaration or a
command if it has the shape of one, in a command with a level that is a number and a trigger
that is not blank. Any other line is refused: for its level, if that is no number, or else for
its blank trigger, if it has the shape of a command, and for its form if it has no shape. -/
theorem ofLine_by_shape {source : String} {line : SourceLine}
    (h : line ∈ instructionLines source) :
    let cs := line.text.toList
    (cs ≠ [] ∧ IsPlain cs) ∧
    (∀ name value n, ofLine line = .ok (.declaration name value n) ↔ n = line.number ∧
      ∃ text, IsDeclaration cs name.toList text ∧ value.toList = trim text) ∧
    (∀ k trigger response n, ofLine line = .ok (.command k trigger response n) ↔
      n = line.number ∧ ∃ digits inner text, IsCommand cs digits inner text ∧ IsLevel digits k ∧
        (∃ c ∈ inner, isBlank c = false) ∧ trigger.toList = trim inner ∧
        response.toList = unwrap text) ∧
    (Refused line "LINE_LEVEL_INVALID" ↔ ∃ digits inner text, IsCommand cs digits inner text ∧
      ∀ n, ¬ IsLevel digits n) ∧
    (Refused line "LINE_TRIGGER_EMPTY" ↔ ∃ digits inner text n, IsCommand cs digits inner text ∧
      IsLevel digits n ∧ ∀ c ∈ inner, isBlank c = true) ∧
    (Refused line "LINE_SYNTAX_INVALID" ↔ (∀ name text, ¬ IsDeclaration cs name text) ∧
      ∀ digits inner text, ¬ IsCommand cs digits inner text) := by
  obtain ⟨hne, hplain⟩ := isPlain_of_mem_instructionLines h
  have hending := hplain.isEnding
  exact ⟨⟨hne, hplain⟩, fun _ _ _ => ofLine_eq_declaration_iff hending,
    fun _ _ _ _ => ofLine_eq_command_iff hending, refused_level_iff hending,
    refused_trigger_iff hending, refused_syntax_iff hending⟩

/-- A digit that is not ASCII makes no level, and this is reported before the blank trigger. -/
theorem ofLine_by_shape_foreign_digit :
    (⟨2, "u٣ : ( ) : x"⟩ : SourceLine) ∈ instructionLines "#\n u٣ : ( ) : x # y" ∧
      Refused ⟨2, "u٣ : ( ) : x"⟩ "LINE_LEVEL_INVALID" := by
  have hmem : (⟨2, "u٣ : ( ) : x"⟩ : SourceLine) ∈ instructionLines "#\n u٣ : ( ) : x # y" := by
    decide +kernel
  obtain ⟨-, -, -, hlevel, -⟩ := ofLine_by_shape hmem
  refine ⟨hmem, hlevel.mpr ⟨['٣'], [' '], [' ', 'x'], ?_, ?_⟩⟩
  · have hblank : ∀ c ∈ [' '], isBlank c = true := List.forall_mem_singleton.mpr (by decide)
    have hdigit : ∀ c ∈ ['٣'], isDigit c = true := List.forall_mem_singleton.mpr (by decide +kernel)
    have hinner : ∀ c ∈ [' '], isTriggerChar c = true :=
      List.forall_mem_singleton.mpr (by decide +kernel)
    have htext : ∃ c ∈ [' ', 'x'], isBlank c = false :=
      ⟨'x', List.mem_cons_of_mem _ List.mem_cons_self, by decide⟩
    exact .intro hdigit hblank hblank (List.cons_ne_nil _ _) hinner hblank htext
  · rintro n ⟨hdigits, -⟩
    exact absurd (hdigits '٣' List.mem_cons_self) (by decide)

end Statement

end ScriptedDialog.Script
