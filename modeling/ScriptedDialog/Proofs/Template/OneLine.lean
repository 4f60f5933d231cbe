import ScriptedDialog.Proofs.Template.Resolution
import ScriptedDialog.Proofs.Text.OneLine
import ScriptedDialog.Proofs.Value.Brackets
import ScriptedDialog.Proofs.Value.Series

/-! Replies without line feeds. A bracketed part ends on the line on which it begins, so
that no choice of a list has a line feed, however the list is written. What takes the
place of a reference is a scalar, a choice or the reference as it stands. So a reply has
a line feed only if its template or a scalar has one. -/

namespace ScriptedDialog

theorem Generator.mem_of_choose {α : Type} {items : List α} {item : α} {g g' : Generator}
    (h : g.choose items = (some item, g')) : item ∈ items := by
  have hne : items ≠ [] := by
    rintro rfl
    cases h
  obtain ⟨x, hx, hpicked⟩ := exists_mem_choose hne g
  rw [h] at hpicked
  cases hpicked
  exact hx

/-! ### Values -/

namespace Value

open Text

theorem Series.subset {residue front : List Char} {tokens : List (List Char)}
    (h : Series residue front tokens) : ∀ token ∈ tokens, token ⊆ front := by
  induction h with
  | nil => nofun
  | @cons token written gap front tokens spelled _ _ _ ih =>
    have hwritten : token ⊆ written := by
      cases spelled with
      | bare => exact List.Subset.refl token
      | quoted =>
        exact List.subset_cons_of_subset _ (List.subset_append_left token _)
    refine List.forall_mem_cons.mpr ⟨List.subset_append_of_subset_left _ hwritten, ?_⟩
    intro later hlater
    exact List.subset_append_of_subset_right _
      (List.subset_append_of_subset_right _ (ih later hlater))

theorem oneLine_of_mem_choiceList {cs inner : List Char} (h : bracketed? cs = some inner)
    {item : String} (hitem : item ∈ choiceList inner) : Text.OneLine item := by
  obtain ⟨token, htoken, rfl⟩ := List.mem_map.mp hitem
  obtain ⟨lead, front, residue, hparted⟩ := parted_choices inner
  rw [oneLine_ofList_iff]
  intro hfeed
  have hfront : '\n' ∈ front := hparted.series.subset token htoken hfeed
  obtain ⟨before, after, hbounds⟩ := bracketed?_eq_some_iff.mp h
  refine hbounds.oneLine ?_
  rw [hparted.text_eq]
  exact List.mem_append_right lead (List.mem_append_left residue hfront)

/-- No text of the value has a line feed. -/
def OneLine : Value → Prop
  | .scalar text => Text.OneLine text
  | .list items => ∀ item ∈ items, Text.OneLine item

theorem oneLine_ofText {text : String} (h : Text.OneLine text) : (ofText text).OneLine := by
  unfold ofText
  simp only
  split
  · next hpart => exact fun item hitem => oneLine_of_mem_choiceList hpart hitem
  · exact oneLine_ofList_iff.mpr fun hfeed => h ((trim_sublist _).subset hfeed)

end Value

/-! ### Replies -/

namespace Template

open Text

section
variable {lookup : Lookup} (hlookup : ∀ name value, lookup name = some value → value.OneLine)
include hlookup

theorem Reference.Fills.oneLine {r : Reference} {g g' : Generator} {value : List Char}
    (h : r.Fills lookup g value g') (hr : '\n' ∉ r.source) : '\n' ∉ value := by
  cases h with
  | scalar value => exact hlookup _ _ value
  | item value picked => exact hlookup _ _ value _ (Generator.mem_of_choose picked)
  | standing => exact hr

theorem FillsAll.oneLine {rs : List Reference} {g g' : Generator} {values : List (List Char)}
    (h : FillsAll lookup rs g values g') (hrs : ∀ r ∈ rs, '\n' ∉ r.source) :
    ∀ value ∈ values, '\n' ∉ value := by
  induction h with
  | nil => nofun
  | cons first later ih =>
    obtain ⟨hr, hrs⟩ := List.forall_mem_cons.mp hrs
    exact List.forall_mem_cons.mpr ⟨first.oneLine hlookup hr, ih hrs⟩

omit hlookup in
/-- The characters of a text with its references replaced are from the text or the values. -/
theorem Layout.mem_filled {l : Layout} {values : List (List Char)} {c : Char}
    (h : c ∈ l.filled values) : c ∈ l.source ∨ ∃ value ∈ values, c ∈ value := by
  rcases List.mem_append.mp h with hfront | hspans
  · exact Or.inl (List.mem_append_left _ hfront)
  · obtain ⟨⟨⟨r, text⟩, value⟩, hzip, hc⟩ := List.mem_flatMap.mp hspans
    obtain ⟨hspan, hvalue⟩ := List.of_mem_zip hzip
    rcases List.mem_append.mp hc with hc | hc
    · exact Or.inr ⟨value, hvalue, hc⟩
    · refine Or.inl (List.mem_append_right _ (List.mem_flatMap.mpr ⟨_, hspan, ?_⟩))
      exact List.mem_append_right _ hc

theorem oneLine_of_resolve {template reply : String} {g g' : Generator}
    (ht : OneLine template) (h : resolve template lookup g = (.ok reply, g')) :
    OneLine reply := by
  have hreads := Layout.reads_pieces template.toList
  cases (resolve_eq_iff hreads).mp h with
  | choice _ part picked =>
    exact Value.oneLine_of_mem_choiceList part (Generator.mem_of_choose picked)
  | filled _ fills =>
    rw [oneLine_ofList_iff]
    intro hfeed
    rcases Layout.mem_filled hfeed with hsource | ⟨value, hvalue, hc⟩
    · exact ht (hreads.source_eq ▸ hsource)
    · refine fills.oneLine hlookup (fun r hr hc => ht ?_) value hvalue hc
      obtain ⟨⟨_, text⟩, hspan, rfl⟩ := List.mem_map.mp hr
      rw [← hreads.source_eq]
      refine List.mem_append_right _ (List.mem_flatMap.mpr ⟨_, hspan, ?_⟩)
      exact List.mem_append_left _ hc

end

end Template

end ScriptedDialog
