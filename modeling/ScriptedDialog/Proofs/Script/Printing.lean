import Mathlib.Data.List.Infix
import Mathlib.Data.List.TakeWhile
import ScriptedDialog.Proofs.Script.Grammar
import ScriptedDialog.Proofs.Script.Unwrapping

/-! Statements in source form are read back as they are. A statement can be written on a
line of its own unless a part of it would be cut short there: by a line end, by a comment,
by the blanks around it, or by a parenthesis that closes the response too early. -/

namespace ScriptedDialog.Script

open Text

/-! ### Plain texts -/

/-- A text that stays as it is at the end of a line. -/
def IsPlain (cs : List Char) : Prop := trim cs = cs ∧ '\n' ∉ cs ∧ '#' ∉ cs
  deriving Decidable

theorem IsPlain.instruction? {cs : List Char} (h : IsPlain cs) (hne : cs ≠ []) :
    instruction? cs = some cs := by
  obtain ⟨htrim, -, hcomment⟩ := h
  have hhead : ¬ cs.head? = some '#' := fun h => hcomment (List.mem_of_head? h)
  have htake : cs.takeWhile (· ≠ '#') = cs := by
    refine List.takeWhile_eq_self_iff.mpr fun c hc => decide_eq_true ?_
    rintro rfl
    exact hcomment hc
  have hend : trimEnd cs = cs := trimEnd_eq_self_iff.mpr (trim_eq_self_iff.mp htrim).2
  have hkept : cs.isEmpty = false := List.isEmpty_eq_false_iff.mpr hne
  simp only [Script.instruction?, htrim, hhead, htake, hend, hkept, ↓reduceIte, Bool.false_eq_true]

theorem IsPlain.closing? {cs : List Char} (h : IsPlain cs) (hne : cs ≠ []) :
    Statement.closing? (' ' :: cs) = some cs := by
  obtain ⟨htrim, hline, -⟩ := h
  have hstart : cs.dropWhile isBlank = cs := trimStart_eq_self_iff.mpr (trim_eq_self_iff.mp htrim).1
  have hspace : (' ' :: cs).dropWhile isBlank = cs := hstart
  unfold Statement.closing?
  rw [hspace]
  cases cs with
  | nil => exact absurd rfl hne
  | cons c rest => simp only [hline, htrim, ↓reduceIte]

/-- A carriage return is a blank, so that it ends no plain text. -/
theorem IsPlain.getLast?_ne {cs : List Char} (h : IsPlain cs) : cs.getLast? ≠ some '\r' := by
  intro hr
  have hblank := (trim_eq_self_iff.mp h.1).2 '\r' hr
  exact absurd hblank (by decide)

/-- A class of characters ends where another character stands. -/
theorem takeWhile_dropWhile_append {p : Char → Bool} {c : Char} {cs : List Char}
    (h : ∀ d ∈ cs, p d = true) (hc : p c = false) (rest : List Char) :
    (cs ++ c :: rest).takeWhile p = cs ∧ (cs ++ c :: rest).dropWhile p = c :: rest := by
  have hends : ∀ d ∈ (c :: rest).head?, p d = false := by
    rintro _ ⟨⟩
    exact hc
  exact ⟨takeWhile_run_append h hends, dropWhile_run_append h hends⟩

theorem not_mem_of_forall {p : Char → Bool} {c : Char} {cs : List Char}
    (h : ∀ d ∈ cs, p d = true) (hc : p c = false) : c ∉ cs := fun hm =>
  Bool.false_ne_true (hc ▸ h c hm)

/-! ### Responses in parentheses -/

/-- No closing parenthesis is without an opening one before it. -/
def OpensFirst (cs : List Char) : Prop := ∀ p ∈ cs.inits, p.count ')' ≤ p.count '('
  deriving Decidable

theorem unwrap_parenthesized {cs : List Char} (h : IsPlain cs) (ho : OpensFirst cs) :
    unwrap ('(' :: (cs ++ [')'])) = cs := by
  have hopen : Enclosed ('(' :: (cs ++ [')'])) := enclosed_parenthesized_iff.mpr fun p hp =>
    ho p ((List.mem_inits p cs).mpr hp)
  rw [← trim_parenthesized cs] at hopen
  rw [unwrap_of_enclosed hopen (trim_parenthesized cs), h.1]

/-! ### Statements -/

namespace Statement

/-- A trigger that fits between its parentheses. -/
def IsTrigger (cs : List Char) : Prop :=
  cs ≠ [] ∧ trim cs = cs ∧ ∀ c ∈ cs, isTriggerChar c = true ∧ c ≠ '\n'

instance (cs : List Char) : Decidable (IsTrigger cs) :=
  decidable_of_iff (cs ≠ [] ∧ trim cs = cs ∧ cs.all (fun c => isTriggerChar c && c ≠ '\n') = true)
    (by simp only [IsTrigger, List.all_eq_true, Bool.and_eq_true, decide_eq_true_eq])

/-- A statement that can be written on a line of its own. -/
def Printable : Statement → Prop
  | .declaration name value _ => IsName name.toList ∧ value ≠ "" ∧ IsPlain value.toList
  | .command level trigger response _ => level < UInt64.size ∧ IsTrigger trigger.toList ∧
      IsPlain response.toList ∧ OpensFirst response.toList

instance : DecidablePred Printable
  | .declaration .. => inferInstanceAs (Decidable (_ ∧ _))
  | .command .. => inferInstanceAs (Decidable (_ ∧ _))

/-- The same statement on another line. -/
def onLine (n : Nat) : Statement → Statement
  | .declaration name value _ => .declaration name value n
  | .command level trigger response _ => .command level trigger response n

section
variable {name value trigger response : String} {level : Nat} (n : Nat)

theorem toList_declaration : (declaration name value n).source.toList =
    '~' :: (name.toList ++ ':' :: ' ' :: value.toList) := by
  simp [source, toString]

theorem toList_command : (command level trigger response n).source.toList =
    'u' :: (Nat.toDigits 10 level ++ ':' :: ' ' :: '(' :: (trigger.toList ++
      ')' :: ' ' :: ':' :: ' ' :: '(' :: (response.toList ++ [')']))) := by
  simp [source, toString]

end

theorem toList_source_ne_nil (s : Statement) : s.source.toList ≠ [] := by
  cases s with
  | declaration => simp [toList_declaration]
  | command => simp [toList_command]

theorem isPlain_source {s : Statement} (h : s.Printable) : IsPlain s.source.toList := by
  cases s with
  | declaration name value n =>
    obtain ⟨hname, hne, htrim, hline, hcomment⟩ := h
    have hvalue : value.toList ≠ [] := by simpa using hne
    have hn : '\n' ∉ name.toList := not_mem_of_forall hname.2 (by decide +kernel)
    have hc : '#' ∉ name.toList := not_mem_of_forall hname.2 (by decide +kernel)
    rw [toList_declaration]
    refine ⟨trim_cons_of_suffix (by decide) ⟨name.toList ++ [':', ' '], by simp⟩ hvalue htrim,
      by simp [hn, hline], by simp [hc, hcomment]⟩
  | command level trigger response n =>
    obtain ⟨-, ⟨-, -, htrigger⟩, ⟨-, hline, hcomment⟩, -⟩ := h
    have hdn : '\n' ∉ Nat.toDigits 10 level := not_mem_of_forall (isDigit_toDigits level) (by decide)
    have hdc : '#' ∉ Nat.toDigits 10 level := not_mem_of_forall (isDigit_toDigits level) (by decide)
    have htn : '\n' ∉ trigger.toList := fun hm => (htrigger _ hm).2 rfl
    have htc : '#' ∉ trigger.toList :=
      not_mem_of_forall (fun c hc => (htrigger c hc).1) (by decide +kernel)
    rw [toList_command]
    have hsuffix : [')'] <:+ Nat.toDigits 10 level ++ ':' :: ' ' :: '(' :: (trigger.toList ++
        ')' :: ' ' :: ':' :: ' ' :: '(' :: (response.toList ++ [')'])) :=
      ⟨Nat.toDigits 10 level ++ ':' :: ' ' :: '(' :: (trigger.toList ++
        ')' :: ' ' :: ':' :: ' ' :: '(' :: response.toList), by simp⟩
    exact ⟨trim_cons_of_suffix (by decide) hsuffix (List.cons_ne_nil _ _) rfl,
      by simp [hdn, htn, hline], by simp [hdc, htc, hcomment]⟩

theorem afterMark?_self {mark : Char} (hm : isBlank mark = false) (cs : List Char) :
    afterMark? mark (mark :: cs) = some cs := by
  simp only [afterMark?, List.dropWhile_cons, hm, Bool.false_eq_true, ↓reduceIte]

theorem afterMark?_space {mark : Char} (hm : isBlank mark = false) (cs : List Char) :
    afterMark? mark (' ' :: mark :: cs) = some cs :=
  afterMark?_self hm cs

theorem declaration?_source {name value : List Char} (hname : IsName name) (hv : IsPlain value)
    (hne : value ≠ []) :
    declaration? ('~' :: (name ++ ':' :: ' ' :: value)) = some (name, value) := by
  have hcolon : isWordChar ':' = false := by decide +kernel
  obtain ⟨htake, hdrop⟩ := takeWhile_dropWhile_append hname.2 hcolon (' ' :: value)
  refine declaration?_eq_some_iff.mpr ⟨_, ' ' :: value, rfl, htake, hname.1, ?_, hv.closing? hne⟩
  rw [hdrop]
  exact afterMark?_self (by decide) _

/-- Any response is plain in parentheses. -/
theorem closing?_parenthesized {response : List Char} (h : '\n' ∉ response) :
    closing? (' ' :: '(' :: (response ++ [')'])) = some ('(' :: (response ++ [')'])) := by
  have hline : '\n' ∉ '(' :: (response ++ [')']) := by simp [h]
  have hdrop : (' ' :: '(' :: (response ++ [')'])).dropWhile isBlank = '(' :: (response ++ [')']) :=
    rfl
  simp only [closing?, hdrop, hline, trim_parenthesized, ↓reduceIte]

theorem commandShape?_source {digits trigger response : List Char}
    (hd : ∀ c ∈ digits, c.isDigit = true) (ht : ∀ c ∈ trigger, isTriggerChar c = true)
    (hne : trigger ≠ []) (hr : '\n' ∉ response) :
    commandShape? ('u' :: (digits ++ ':' :: ' ' :: '(' :: (trigger ++
      ')' :: ' ' :: ':' :: ' ' :: '(' :: (response ++ [')'])))) =
    some ⟨digits, trigger, '(' :: (response ++ [')'])⟩ := by
  have hcolon : Text.isDigit ':' = false := by decide
  have hclose : isTriggerChar ')' = false := by decide +kernel
  have hdigit : ∀ c ∈ digits, Text.isDigit c = true := fun c hc => isDigit_of_ascii (hd c hc)
  obtain ⟨hdigits, hopening⟩ := takeWhile_dropWhile_append hdigit hcolon
    (' ' :: '(' :: (trigger ++ ')' :: ' ' :: ':' :: ' ' :: '(' :: (response ++ [')'])))
  obtain ⟨htrigger, hclosed⟩ := takeWhile_dropWhile_append ht hclose
    (' ' :: ':' :: ' ' :: '(' :: (response ++ [')']))
  refine commandShape?_eq_some_iff.mpr ⟨_, ' ' :: '(' :: _, _, _, _, rfl, hdigits, ?_,
    afterMark?_space (by decide) _, htrigger, hne, hclosed, afterMark?_space (by decide) _,
    closing?_parenthesized hr⟩
  rw [hopening]
  exact afterMark?_self (by decide) _

/-- A printable statement is read back from its source form. -/
theorem ofLine_source {s : Statement} (h : s.Printable) (n : Nat) :
    ofLine ⟨n, s.source⟩ = .ok (s.onLine n) := by
  apply Reading.eq
  cases s with
  | declaration name value m =>
    obtain ⟨hname, hne, hv⟩ := h
    have hread := declaration?_source hname hv (by simpa using hne)
    rw [← toList_declaration m] at hread
    have hreading := @Reading.declaration ⟨n, _⟩ _ _ hread
    rwa [String.ofList_toList, String.ofList_toList] at hreading
  | command level trigger response m =>
    obtain ⟨hlevel, ⟨hne, htrim, htrigger⟩, hr, ho⟩ := h
    have hread := commandShape?_source (isDigit_toDigits level) (fun c hc => (htrigger c hc).1) hne
      hr.2.1
    have hdeclaration : declaration? (command level trigger response m).source.toList = none := by
      rw [toList_command]
      rfl
    rw [← toList_command m] at hread
    have hreading := @Reading.command ⟨n, _⟩ _ _ hdeclaration hread (level_toDigits hlevel)
      (by rwa [htrim])
    rwa [htrim, unwrap_parenthesized hr ho, String.ofList_toList, String.ofList_toList] at hreading

end Statement

/-! ### Scripts -/

/-- Statements on lines of their own, counted from one. -/
def numbered (statements : List Statement) : List Statement :=
  (statements.zipIdx 1).map fun (s, n) => s.onLine n

/-- If all lines of a source are instructions as they stand, they are its instruction
lines. -/
theorem instructionLines_eq {source : String} {ls : List (List Char)}
    (hl : lines source.toList = ls) (h : ∀ cs ∈ ls, instruction? cs = some cs) :
    instructionLines source = (ls.zipIdx 1).map fun (cs, n) => ⟨n, String.ofList cs⟩ := by
  unfold instructionLines
  rw [hl, ← List.filterMap_eq_map']
  apply List.filterMap_congr
  rintro ⟨cs, n⟩ hmem
  simp only [h cs (List.fst_mem_of_mem_zipIdx hmem), Option.map_some]

section
variable {statements : List Statement} (h : ∀ s ∈ statements, s.Printable)
include h

theorem instructionLines_of_printable {source : String}
    (hl : lines source.toList = statements.map (·.source.toList)) :
    instructionLines source = (statements.zipIdx 1).map fun (s, n) => ⟨n, s.source⟩ := by
  have hkept : ∀ cs ∈ statements.map (·.source.toList), instruction? cs = some cs := by
    intro cs hcs
    obtain ⟨s, hs, rfl⟩ := List.mem_map.mp hcs
    exact (Statement.isPlain_source (h s hs)).instruction? s.toList_source_ne_nil
  rw [instructionLines_eq hl hkept, List.zipIdx_map, List.map_map]
  refine List.map_congr_left fun ⟨s, n⟩ _ => ?_
  simp only [Function.comp_apply, Prod.map_apply, id_eq, String.ofList_toList]

theorem ofSource_of_printable {source : String}
    (hl : lines source.toList = statements.map (·.source.toList)) :
    ofSource source = ⟨numbered statements, []⟩ := by
  have hread : ∀ p ∈ statements.zipIdx 1,
      Statement.ofLine ⟨p.2, p.1.source⟩ = .ok (p.1.onLine p.2) := fun p hp =>
    Statement.ofLine_source (h p.1 (List.fst_mem_of_mem_zipIdx hp)) p.2
  unfold ofSource ofLines
  rw [instructionLines_of_printable h hl, List.filterMap_map, List.filterMap_map]
  congr 1
  · rw [numbered, ← List.filterMap_eq_map']
    refine List.filterMap_congr fun p hp => ?_
    simp only [Function.comp_apply, hread p hp, Except.toOption]
  · refine List.filterMap_eq_nil_iff.mpr fun p hp => ?_
    simp only [Function.comp_apply, hread p hp]

theorem plain_lines : ∀ line ∈ statements.map (·.source.toList),
    '\n' ∉ line ∧ line.getLast? ≠ some '\r' := by
  intro line hline
  obtain ⟨s, hs, rfl⟩ := List.mem_map.mp hline
  have hplain := Statement.isPlain_source (h s hs)
  exact ⟨hplain.2.1, hplain.getLast?_ne⟩

/-- Statements that are written one per line, with a line feed between them or after each
of them, are read back in their order and without diagnostics. -/
theorem ofSource_source :
    ofSource ("\n".intercalate (statements.map (·.source))) = ⟨numbered statements, []⟩ ∧
    ofSource (String.join (statements.map (·.source ++ "\n"))) = ⟨numbered statements, []⟩ := by
  constructor
  · apply ofSource_of_printable h
    have hne : [] ∉ statements.map (·.source.toList) := fun hnil => by
      obtain ⟨s, -, hs⟩ := List.mem_map.mp hnil
      exact s.toList_source_ne_nil hs
    rw [String.toList_intercalate, List.map_map]
    exact lines_intercalate hne (plain_lines h)
  · apply ofSource_of_printable h
    have hjoin : (String.join (statements.map (·.source ++ "\n"))).toList =
        (statements.map (·.source.toList)).flatMap (· ++ ['\n']) := by
      simp [List.flatMap_map]
    rw [hjoin]
    exact lines_flatMap (plain_lines h)

end

/-- The greatest level, a carriage return in a text, colons, unbalanced parentheses and an
empty response are no obstacle. -/
theorem ofSource_source_corners :
    let statements : List Statement :=
      [.declaration "A" ":)\r(" 7, .command 18446744073709551615 "~A hi" "((a) b: [c" 7,
        .command 0 "u" "" 7]
    (∀ s ∈ statements, s.Printable) ∧
    ofSource ("\n".intercalate (statements.map (·.source))) = ⟨numbered statements, []⟩ ∧
    ofSource (String.join (statements.map (·.source ++ "\n"))) = ⟨numbered statements, []⟩ :=
  ⟨by decide +kernel, ofSource_source (by decide +kernel)⟩

end ScriptedDialog.Script
