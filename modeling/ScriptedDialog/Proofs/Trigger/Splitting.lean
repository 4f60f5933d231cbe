import ScriptedDialog.Proofs.Trigger.OwnText
import ScriptedDialog.Proofs.Trigger.Captures
import ScriptedDialog.Proofs.Trigger.Shapes

/-! The inputs of a pattern. An input is accepted if it splits into a value for each word of
the pattern, blanks between neighbouring values, and a rest behind the last. A hole has any
word of word characters for its value and every other word has itself. An input splits in one
way at most, and the captures are the values of the holes. -/

namespace ScriptedDialog.Trigger

open Text

/-! ### Splits -/

/-- What may stand in an input for a word of a pattern. -/
inductive Stands : List Char → List Char → Prop where
  | hole {value} (isName : IsName value) : Stands hole value
  | literal {word} (h : word ≠ hole) : Stands word word

/-- An input splits by the words of a pattern: values with gaps of blanks between them, and a
rest, which does not go on with the value of a hole. -/
inductive Splits : List (List Char) → List Char → List (List Char) → List (List Char) →
    List Char → Prop where
  | last {word value rest} (stands : Stands word value)
      (ends : word = hole → ∀ c ∈ rest.head?, isWordChar c = false) :
      Splits [word] (value ++ rest) [value] [] rest
  | next {word value gap next later cs values gaps rest} (stands : Stands word value)
      (gap_ne_nil : gap ≠ []) (gap_blank : ∀ c ∈ gap, isBlank c = true)
      (tail : Splits (next :: later) cs values gaps rest) :
      Splits (word :: next :: later) (value ++ (gap ++ cs)) (value :: values) (gap :: gaps) rest

/-- The values that stand for the holes of a pattern. -/
def heldBy (words values : List (List Char)) : List (List Char) :=
  ((words.zip values).filter (·.1 = hole)).map (·.2)

/-- What a word of a pattern adds to the captures. -/
def held (word value : List Char) : List (List Char) := if word = hole then [value] else []

theorem heldBy_cons (word value : List Char) (words values : List (List Char)) :
    heldBy (word :: words) (value :: values) = held word value ++ heldBy words values := by
  by_cases h : word = hole <;> simp [heldBy, held, h]

theorem length_held (word value : List Char) :
    (held word value).length = [word].count hole := by
  by_cases h : word = hole <;> simp [held, h]

/-! ### One word -/

theorem takeWord?_of_stands {word value rest : List Char} (h : Stands word value)
    (hends : word = hole → ∀ c ∈ rest.head?, isWordChar c = false) :
    takeWord? word (value ++ rest) = some (held word value, rest) := by
  cases h with
  | hole isName =>
    have hends := hends rfl
    have hne : value.isEmpty = false := List.isEmpty_eq_false_iff.mpr isName.1
    simp only [takeWord?, takeWhile_run_append isName.2 hends, dropWhile_run_append isName.2 hends,
      hne, held, ↓reduceIte, Bool.false_eq_true]
  | literal hne => simp only [takeWord?, hne, held, ↓reduceIte, after?_append, Option.map_some]

theorem stands_of_takeWord? {word cs rest : List Char} {captured : List (List Char)}
    (h : takeWord? word cs = some (captured, rest)) :
    ∃ value, cs = value ++ rest ∧ Stands word value ∧ captured = held word value ∧
      (word = hole → ∀ c ∈ rest.head?, isWordChar c = false) := by
  unfold takeWord? at h
  split at h
  · next hw =>
    subst hw
    simp only at h
    split at h
    · cases h
    · next hne =>
      cases h
      refine ⟨_, List.takeWhile_append_dropWhile.symm,
        .hole (isName_takeWhile fun hnil => hne (List.isEmpty_iff.mpr hnil)), rfl,
        fun _ => head?_dropWhile_eq_false isWordChar cs⟩
  · next hw =>
    obtain ⟨rest', hr, he⟩ := Option.map_eq_some_iff.mp h
    cases he
    exact ⟨word, after?_eq_some hr, .literal hw, (if_neg hw).symm, fun h => absurd h hw⟩

theorem Stands.not_isBlank {word value : List Char} (h : Stands word value)
    (hw : word ≠ [] ∧ ∀ c ∈ word, isBlank c = false) :
    value ≠ [] ∧ ∀ c ∈ value, isBlank c = false := by
  cases h with
  | literal => exact hw
  | hole isName => exact ⟨isName.1, not_isBlank_of_isName isName⟩

section
variable {gap : List Char} (hne : gap ≠ []) (hblank : ∀ c ∈ gap, isBlank c = true)
include hne hblank

theorem isBlank_of_head?_gap (cs : List Char) : ∀ c ∈ (gap ++ cs).head?, isBlank c = true := by
  cases gap with
  | nil => exact absurd rfl hne
  | cons b gap =>
    rintro _ ⟨⟩
    exact hblank b List.mem_cons_self

theorem any_isBlank_head?_gap (cs : List Char) : (gap ++ cs).head?.any isBlank = true := by
  cases gap with
  | nil => exact absurd rfl hne
  | cons b gap => exact hblank b List.mem_cons_self

/-- In front of a gap the value of a hole ends, as no blank is a word character. -/
theorem takeWord?_of_gap {word value : List Char} (h : Stands word value) (cs : List Char) :
    takeWord? word (value ++ (gap ++ cs)) = some (held word value, gap ++ cs) :=
  takeWord?_of_stands h fun _ c hc =>
    isWordChar_of_isBlank (isBlank_of_head?_gap hne hblank cs c hc)

end

/-! ### Whole patterns -/

section
variable {ws : List (List Char)} {cs rest : List Char} {values gaps : List (List Char)}

theorem Splits.exists_eq_append (h : Splits ws cs values gaps rest) :
    ∃ word value after, word ∈ ws ∧ Stands word value ∧ cs = value ++ after := by
  cases h with
  | last stands => exact ⟨_, _, _, List.mem_cons_self, stands, rfl⟩
  | next stands => exact ⟨_, _, _, List.mem_cons_self, stands, rfl⟩

theorem splits_of_captures? {captures : List (List Char)} (hws : ws ≠ [])
    (h : captures? ws cs = some captures) :
    ∃ values gaps rest, Splits ws cs values gaps rest ∧ captures = heldBy ws values := by
  fun_induction captures? ws cs generalizing captures with
  | case1 => exact absurd rfl hws
  | case2 word cs =>
    obtain ⟨⟨captured, rest⟩, ht, rfl⟩ := Option.map_eq_some_iff.mp h
    obtain ⟨value, rfl, hstands, hcaptured, hends⟩ := stands_of_takeWord? ht
    refine ⟨_, _, _, .last hstands hends, ?_⟩
    rw [heldBy_cons, hcaptured]
    exact (List.append_nil _).symm
  | case3 => cases h
  | case4 word cs next later captured after ht hb ih =>
    obtain ⟨captures', hc, rfl⟩ := Option.map_eq_some_iff.mp h
    obtain ⟨value, rfl, hstands, hcaptured, -⟩ := stands_of_takeWord? ht
    obtain ⟨values, gaps, rest, hsplits, rfl⟩ := ih (List.cons_ne_nil _ _) hc
    have hgap : after.takeWhile isBlank ≠ [] := by
      cases after with
      | nil => cases hb
      | cons c after =>
        have hc : isBlank c = true := hb
        rw [List.takeWhile_cons_of_pos hc]
        exact List.cons_ne_nil _ _
    have hafter := List.takeWhile_append_dropWhile (p := isBlank) (l := after)
    refine ⟨value :: values, after.takeWhile isBlank :: gaps, rest, ?_, ?_⟩
    · have hnext := Splits.next hstands hgap (fun c hc => List.mem_takeWhile_imp hc) hsplits
      rwa [hafter] at hnext
    · rw [heldBy_cons, hcaptured]
  | case5 => cases h

variable (hws : ∀ w ∈ ws, w ≠ [] ∧ ∀ c ∈ w, isBlank c = false)
include hws

/-- An input with a blank in front does not split. -/
theorem Splits.not_isBlank_head? (h : Splits ws cs values gaps rest) :
    ∀ c ∈ cs.head?, isBlank c = false := by
  obtain ⟨word, value, after, hword, hstands, rfl⟩ := h.exists_eq_append
  obtain ⟨hne, hblank⟩ := hstands.not_isBlank (hws word hword)
  intro c hc
  cases value with
  | nil => exact absurd rfl hne
  | cons d value => exact hblank c (Option.mem_some.mp hc ▸ List.mem_cons_self)

theorem Splits.captures?_eq (h : Splits ws cs values gaps rest) :
    captures? ws cs = some (heldBy ws values) := by
  induction h with
  | last stands ends =>
    rw [captures?, takeWord?_of_stands stands ends, heldBy_cons]
    exact congrArg some (List.append_nil _).symm
  | @next word value gap next later cs values gaps rest stands gap_ne_nil gap_blank tail ih =>
    have htail := (List.forall_mem_cons.mp hws).2
    have hdrop := dropWhile_run_append gap_blank (tail.not_isBlank_head? htail)
    rw [captures?, takeWord?_of_gap gap_ne_nil gap_blank stands, heldBy_cons]
    simp only [any_isBlank_head?_gap gap_ne_nil gap_blank, hdrop, ih htail, ↓reduceIte,
      Option.map_some]

/-- An input splits in one way at most. -/
theorem Splits.unique (h : Splits ws cs values gaps rest) {values' gaps' : List (List Char)}
    {rest' : List Char} (h' : Splits ws cs values' gaps' rest') :
    values' = values ∧ gaps' = gaps ∧ rest' = rest := by
  generalize hcs : cs = cs' at h'
  induction h generalizing values' gaps' rest' cs' with
  | last stands ends =>
    cases h' with
    | last stands' ends' =>
      have htake := takeWord?_of_stands stands ends
      rw [hcs, takeWord?_of_stands stands' ends'] at htake
      obtain ⟨-, rfl⟩ := Prod.mk.inj (Option.some.inj htake)
      rw [List.append_cancel_right hcs]
      exact ⟨rfl, rfl, rfl⟩
  | @next word value gap next later cs values gaps rest stands gap_ne_nil gap_blank tail ih =>
    have htail := (List.forall_mem_cons.mp hws).2
    cases h' with
    | @next _ value' gap' _ _ cs' values' gaps' _ stands' gap_ne_nil' gap_blank' tail' =>
      -- Both gaps end in front of the next value, which does not begin with a blank.
      have htake := takeWord?_of_gap gap_ne_nil gap_blank stands cs
      rw [hcs, takeWord?_of_gap gap_ne_nil' gap_blank' stands'] at htake
      obtain ⟨-, hgap⟩ := Prod.mk.inj (Option.some.inj htake)
      have hdrop := dropWhile_run_append gap_blank (tail.not_isBlank_head? htail)
      rw [← hgap, dropWhile_run_append gap_blank' (tail'.not_isBlank_head? htail)] at hdrop
      subst hdrop
      obtain ⟨rfl, rfl, rfl⟩ := ih htail _ rfl tail'
      obtain rfl := List.append_cancel_right hgap
      rw [List.append_cancel_right hcs]
      exact ⟨rfl, rfl, rfl⟩

/-- Every value but the last is a whole word of the input. -/
theorem Splits.dropLast_prefix (h : Splits ws cs values gaps rest) :
    values.dropLast <+: words cs := by
  induction h with
  | last => exact List.nil_prefix
  | @next word value gap next later cs values gaps rest stands gap_ne_nil gap_blank tail ih =>
    obtain ⟨hword, htail⟩ := List.forall_mem_cons.mp hws
    obtain ⟨hne, hblank⟩ := stands.not_isBlank hword
    rw [words_append hne hblank (isBlank_of_head?_gap gap_ne_nil gap_blank cs),
      words_blanks_append gap_blank]
    cases tail with
    | last => exact List.prefix_cons_inj value |>.mpr (ih htail)
    | next => exact List.prefix_cons_inj value |>.mpr (ih htail)

omit hws in
/-- Behind the pattern anything may follow that does not go on with the value of a hole. -/
theorem Splits.exists_with_rest (h : Splits ws cs values gaps rest) :
    ∃ front, cs = front ++ rest ∧ ∀ rest' : List Char,
      (ws.getLast? = some hole → ∀ c ∈ rest'.head?, isWordChar c = false) →
        Splits ws (front ++ rest') values gaps rest' := by
  induction h with
  | last stands => exact ⟨_, rfl, fun rest' h => .last stands fun hw => h (congrArg some hw)⟩
  | @next word value gap next later cs values gaps rest stands gap_ne_nil gap_blank tail ih =>
    obtain ⟨front, rfl, hfront⟩ := ih
    refine ⟨value ++ (gap ++ front), by simp only [List.append_assoc], fun rest' h => ?_⟩
    rw [List.append_assoc, List.append_assoc]
    exact .next stands gap_ne_nil gap_blank (hfront rest' h)

theorem captures?_eq_some_iff (hne : ws ≠ []) {captures : List (List Char)} :
    captures? ws cs = some captures ↔
      ∃ values gaps rest, Splits ws cs values gaps rest ∧ captures = heldBy ws values := by
  constructor
  · exact splits_of_captures? hne
  · rintro ⟨values, gaps, rest, h, rfl⟩
    exact h.captures?_eq hws

omit hws in
/-- There is a capture for each hole. -/
theorem Splits.length_heldBy (h : Splits ws cs values gaps rest) :
    (heldBy ws values).length = ws.count hole := by
  induction h with
  | last =>
    rw [heldBy_cons, List.length_append, length_held]
    rfl
  | next _ _ _ _ ih =>
    rw [heldBy_cons, List.length_append, length_held, ih, ← List.count_append]
    rfl

end

/-! ### Triggers with a hole -/

section
variable {text input : String} {values gaps : List (List Char)} {rest : List Char}

theorem wildcardCaptures?_eq_some_iff (hhole : hole ∈ words text.toList)
    {captures : List String} : wildcardCaptures? text input = some captures ↔
      ∃ values gaps rest, Splits (words text.toList) input.toList values gaps rest ∧
        captures = (heldBy (words text.toList) values).map String.ofList := by
  have hiff := @captures?_eq_some_iff _ input.toList (fun _ => of_mem_words)
    (List.ne_nil_of_mem hhole)
  simp only [wildcardCaptures?, Option.map_eq_some_iff, hiff]
  constructor
  · rintro ⟨_, ⟨values, gaps, rest, h, rfl⟩, rfl⟩
    exact ⟨values, gaps, rest, h, rfl⟩
  · rintro ⟨values, gaps, rest, h, rfl⟩
    exact ⟨_, ⟨values, gaps, rest, h, rfl⟩, rfl⟩

theorem Splits.wildcardCaptures?_eq
    (h : Splits (words text.toList) input.toList values gaps rest) :
    wildcardCaptures? text input =
      some ((heldBy (words text.toList) values).map String.ofList) := by
  rw [wildcardCaptures?, h.captures?_eq fun _ => of_mem_words]
  rfl

end

/-- A pattern accepts just the inputs that split by its words. An input does so in one way: its
captures are the values of the holes, one for each; every value but the last is a whole word of
the input, which begins with no blank; and of the rest it matters only that it does not go on
with the value of a last hole. -/
theorem wildcard_splits {text : String} {t : Trigger} (h : ofText text = .ok t)
    (hhole : hole ∈ words text.toList) :
    t = .wildcard text ∧
    ∀ input : String,
      (∀ (c : Command) (store : Store), c.trigger = t →
        (c.bindings? store input ≠ none ↔ ∃ values gaps rest,
          Splits (words text.toList) input.toList values gaps rest)) ∧
      (∀ captures, wildcardCaptures? text input = some captures ↔ ∃ values gaps rest,
        Splits (words text.toList) input.toList values gaps rest ∧
          captures = (heldBy (words text.toList) values).map String.ofList) ∧
      (∀ captures, wildcardCaptures? text input = some captures →
        captures.length = (words text.toList).count hole) ∧
      (∀ c ∈ input.toList.head?, isBlank c = true → wildcardCaptures? text input = none) ∧
      ∀ values gaps rest, Splits (words text.toList) input.toList values gaps rest →
        (∀ values' gaps' rest', Splits (words text.toList) input.toList values' gaps' rest' →
          values' = values ∧ gaps' = gaps ∧ rest' = rest) ∧
        values.dropLast <+: words input.toList ∧
        ∃ front, input.toList = front ++ rest ∧ ∀ rest' : List Char,
          ((words text.toList).getLast? = some hole → ∀ c ∈ rest'.head?, isWordChar c = false) →
          wildcardCaptures? text (String.ofList (front ++ rest')) =
            wildcardCaptures? text input := by
  have hws : ∀ w ∈ words text.toList, w ≠ [] ∧ ∀ c ∈ w, isBlank c = false := fun _ => of_mem_words
  have hpattern := eq_wildcard_of_hole h hhole
  refine ⟨hpattern, fun input => ⟨fun c store hc => ?_,
    fun _ => wildcardCaptures?_eq_some_iff hhole, fun captures hcaptures => ?_,
    fun c hc hblank => ?_, fun values gaps rest hsplits => ⟨fun _ _ _ => hsplits.unique hws,
      hsplits.dropLast_prefix hws, ?_⟩⟩⟩
  · simp only [Command.bindings?, hc.trans hpattern, ne_eq, Option.map_eq_none_iff]
    rw [← ne_eq, Option.ne_none_iff_exists']
    constructor
    · rintro ⟨captures, hcaptures⟩
      obtain ⟨values, gaps, rest, hsplits, -⟩ := (wildcardCaptures?_eq_some_iff hhole).mp hcaptures
      exact ⟨values, gaps, rest, hsplits⟩
    · rintro ⟨values, gaps, rest, hsplits⟩
      exact ⟨_, hsplits.wildcardCaptures?_eq⟩
  · obtain ⟨values, gaps, rest, hsplits, rfl⟩ := (wildcardCaptures?_eq_some_iff hhole).mp hcaptures
    rw [List.length_map, hsplits.length_heldBy]
  · refine Option.eq_none_iff_forall_ne_some.mpr fun captures hcaptures => ?_
    obtain ⟨values, gaps, rest, hsplits, -⟩ := (wildcardCaptures?_eq_some_iff hhole).mp hcaptures
    rw [hsplits.not_isBlank_head? hws c hc] at hblank
    cases hblank
  · obtain ⟨front, hfront, hrest⟩ := hsplits.exists_with_rest
    refine ⟨front, hfront, fun rest' hends => ?_⟩
    have hsplits' := hrest rest' hends
    rw [← @String.toList_ofList (front ++ rest')] at hsplits'
    rw [hsplits'.wildcardCaptures?_eq, hsplits.wildcardCaptures?_eq]

theorem wildcard_splits_two_holes :
    ofText "_ likes _" = .ok (.wildcard "_ likes _") ∧ hole ∈ words "_ likes _".toList ∧
    (∃ values gaps rest,
      Splits (words "_ likes _".toList) "Ann  likes tea!".toList values gaps rest ∧
        ["Ann", "tea"] = (heldBy (words "_ likes _".toList) values).map String.ofList) ∧
    wildcardCaptures? "_ likes _" " Ann likes tea" = none := by
  have htext : ofText "_ likes _" = .ok (.wildcard "_ likes _") := by decide +kernel
  have hhole : hole ∈ words "_ likes _".toList := by decide +kernel
  have hsplits := (wildcard_splits htext hhole).2
  refine ⟨htext, hhole, ?_, ?_⟩
  · obtain ⟨-, hcaptures, -⟩ := hsplits "Ann  likes tea!"
    exact (hcaptures ["Ann", "tea"]).mp (by decide +kernel)
  · obtain ⟨-, -, -, hblank, -⟩ := hsplits " Ann likes tea"
    exact hblank ' ' (by decide +kernel) (by decide)

end ScriptedDialog.Trigger
