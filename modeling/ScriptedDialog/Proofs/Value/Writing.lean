import ScriptedDialog.Proofs.Value.Brackets
import ScriptedDialog.Proofs.Value.Series

/-! Lists of choices are read back as they are written. A list can be written if each of its
choices is made of letters and blanks; then every choice may be in quotes, and bare if it has
letters only, and any blanks may stand between neighbours. What is read from a text can always
be written again. -/

namespace ScriptedDialog.Value

open Text

/-! ### Written lists -/

/-- What a choice is made of. -/
def IsPhrase (cs : List Char) : Prop := cs ≠ [] ∧ ∀ c ∈ cs, isPhraseChar c = true

theorem Spelled.isPhrase {token written : List Char} (h : Spelled token written) :
    IsPhrase token := by
  refine ⟨h.ne_nil.1, ?_⟩
  cases h with
  | bare _ letters =>
    intro c hc
    rw [isPhraseChar, letters c hc, Bool.true_or]
  | quoted _ chars => exact chars

/-- Choices as they may be written, each in a spelling of its own, with gaps of blanks between
neighbours. -/
inductive Written : List String → List (List Char) → List Char → Prop where
  | nil : Written [] [] []
  | last {item written} (spelled : Spelled item.toList written) : Written [item] [] written
  | cons {item next items written gap gaps text} (spelled : Spelled item.toList written)
      (gap_ne_nil : gap ≠ []) (gap_blank : ∀ c ∈ gap, isBlank c = true)
      (later : Written (next :: items) gaps text) :
      Written (item :: next :: items) (gap :: gaps) (written ++ (gap ++ text))

section
variable {items : List String} {gaps : List (List Char)} {text : List Char}

theorem Written.series (h : Written items gaps text) :
    Series [] text (items.map String.toList) := by
  induction h with
  | nil => exact .nil
  | @last item written spelled =>
    have hseries : Series [] (written ++ ([] ++ [])) [item.toList] :=
      .cons spelled (fun _ => nofun) nofun .nil
    simpa using hseries
  | @cons item next items written gap gaps text spelled gap_ne_nil gap_blank later ih =>
    refine .cons spelled (fun _ => ?_) gap_blank ih
    cases gap with
    | nil => exact absurd rfl gap_ne_nil
    | cons b gap =>
      rintro _ ⟨⟩
      exact not_isLetter_of_isBlank (gap_blank b List.mem_cons_self)

theorem isResidue_nil : IsResidue [] where
  start := nofun
  stuck _ _ h hp := h.ne_nil.2 (List.prefix_nil.mp hp)

theorem Written.choiceList_eq (h : Written items gaps text) : choiceList text = items := by
  have hparted : Parted text [] text [] (items.map String.toList) :=
    ⟨by simp, nofun, h.series, isResidue_nil⟩
  rw [choiceList, hparted.choices_eq, List.map_map]
  have hid : String.ofList ∘ String.toList = id := funext fun _ => String.ofList_toList
  rw [hid, List.map_id]

theorem Written.isPhrase (h : Written items gaps text) : ∀ item ∈ items, IsPhrase item.toList := by
  induction h with
  | nil => nofun
  | last spelled => exact List.forall_mem_singleton.mpr spelled.isPhrase
  | cons spelled _ _ _ ih => exact List.forall_mem_cons.mpr ⟨spelled.isPhrase, ih⟩

theorem Spelled.not_mem {c : Char} (hc : c ≠ '"') {token written : List Char}
    (h : Spelled token written) (ht : c ∉ token) : c ∉ written := by
  cases h with
  | bare => exact ht
  | quoted => simp [hc, ht]

/-- But for its quotes a list holds nothing that is neither in a choice nor in a gap. -/
theorem Written.not_mem {c : Char} (hc : c ≠ '"') (h : Written items gaps text)
    (hitems : ∀ item ∈ items, c ∉ item.toList) (hgaps : ∀ gap ∈ gaps, c ∉ gap) : c ∉ text := by
  induction h with
  | nil => exact List.not_mem_nil
  | last spelled => exact spelled.not_mem hc (hitems _ List.mem_cons_self)
  | cons spelled _ _ _ ih =>
    obtain ⟨hitem, hlater⟩ := List.forall_mem_cons.mp hitems
    obtain ⟨hgap, hrest⟩ := List.forall_mem_cons.mp hgaps
    simp only [List.mem_append, not_or]
    exact ⟨spelled.not_mem hc hitem, hgap, ih hlater hrest⟩

end

/-! ### Brackets -/

/-- A line between brackets gives the choices that it lists. -/
theorem ofText_brackets {inner : List Char} (h : '\n' ∉ inner) :
    ofText ("[" ++ String.ofList inner ++ "]") = .list (choiceList inner) := by
  have htext : ("[" ++ String.ofList inner ++ "]").toList = '[' :: (inner ++ [']']) := by simp
  have htrim : trim ('[' :: (inner ++ [']'])) = '[' :: (inner ++ [']']) :=
    trim_cons_of_suffix (by decide) (List.suffix_append _ _) (List.cons_ne_nil _ _) rfl
  have hlast : LastClosing (inner ++ [']']) inner [] := ⟨rfl, h, List.not_mem_nil⟩
  have hinner : bracketed? ('[' :: (inner ++ [']'])) = some inner :=
    bracketed?_eq_some_iff.mpr ⟨[], [], bounds_nil_iff.mpr hlast⟩
  unfold ofText
  rw [htext, htrim]
  simp only [hinner]

/-! ### Writing what has been read -/

theorem written_intercalate {items : List String} (h : ∀ item ∈ items, IsPhrase item.toList) :
    ∃ gaps, Written items gaps
      ([' '].intercalate (items.map fun item => '"' :: (item.toList ++ ['"']))) := by
  induction items with
  | nil => exact ⟨[], .nil⟩
  | cons item later ih =>
    obtain ⟨⟨hne, hchars⟩, hlater⟩ := List.forall_mem_cons.mp h
    have hspelled := Spelled.quoted hne hchars
    cases later with
    | nil => exact ⟨[], by simpa using Written.last hspelled⟩
    | cons next later =>
      obtain ⟨gaps, hwritten⟩ := ih hlater
      refine ⟨[' '] :: gaps, ?_⟩
      rw [List.map_cons, List.map_cons, List.intercalate_cons_cons, List.append_assoc]
      exact .cons hspelled (List.cons_ne_nil _ _)
        (List.forall_mem_singleton.mpr (by decide)) hwritten

/-- The source form of a list of phrases is the list as it is written with all of them in quotes
and a space between neighbours. -/
theorem written_listSource {items : List String} (h : ∀ item ∈ items, IsPhrase item.toList) :
    ∃ gaps text, Written items gaps text ∧ listSource items = "[" ++ String.ofList text ++ "]" := by
  obtain ⟨gaps, hwritten⟩ := written_intercalate h
  refine ⟨gaps, _, hwritten, ?_⟩
  rw [listSource, ← String.toList_inj]
  simp [String.toList_intercalate, Function.comp_def]

theorem Series.isPhrase {residue front : List Char} {tokens : List (List Char)}
    (h : Series residue front tokens) : ∀ token ∈ tokens, IsPhrase token := by
  induction h with
  | nil => nofun
  | cons spelled _ _ _ ih => exact List.forall_mem_cons.mpr ⟨spelled.isPhrase, ih⟩

theorem isPhrase_of_mem_choiceList (text : List Char) :
    ∀ item ∈ choiceList text, IsPhrase item.toList := by
  obtain ⟨lead, front, residue, hparted⟩ := parted_choices text
  intro item hitem
  obtain ⟨token, htoken, rfl⟩ := List.mem_map.mp hitem
  rw [String.toList_ofList]
  exact hparted.series.isPhrase token htoken

/-- In whatever way choices are written, they are what is read, and so is the list that they
make in brackets on one line. The lists of phrases are those that can be written, and what is
read from any text is such a list, of which the source form is read back. -/
theorem choiceList_written :
    (∀ items gaps text, Written items gaps text → choiceList text = items ∧
      ((∀ item ∈ items, '\n' ∉ item.toList) → (∀ gap ∈ gaps, '\n' ∉ gap) →
        ofText ("[" ++ String.ofList text ++ "]") = .list items)) ∧
    (∀ items, (∃ gaps text, Written items gaps text) ↔ ∀ item ∈ items, IsPhrase item.toList) ∧
    ∀ text, (∀ item ∈ choiceList text, IsPhrase item.toList) ∧
      ∃ inner, listSource (choiceList text) = "[" ++ String.ofList inner ++ "]" ∧
        choiceList inner = choiceList text := by
  refine ⟨fun items gaps text h => ⟨h.choiceList_eq, fun hitems hgaps => ?_⟩, fun items => ?_,
    fun text => ⟨isPhrase_of_mem_choiceList text, ?_⟩⟩
  · have hline : '\n' ∉ text := h.not_mem (by decide) hitems hgaps
    rw [ofText_brackets hline, h.choiceList_eq]
  · constructor
    · rintro ⟨gaps, text, h⟩
      exact h.isPhrase
    · intro h
      obtain ⟨gaps, text, hwritten, -⟩ := written_listSource h
      exact ⟨gaps, text, hwritten⟩
  · obtain ⟨gaps, inner, hwritten, hsource⟩ :=
      written_listSource (isPhrase_of_mem_choiceList text)
    exact ⟨inner, hsource, hwritten.choiceList_eq⟩

end ScriptedDialog.Value
