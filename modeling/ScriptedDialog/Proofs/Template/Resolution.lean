import ScriptedDialog.Proofs.Random.Uniform
import ScriptedDialog.Proofs.Template.References
import ScriptedDialog.Template.Resolve

/-! Resolving as a rule on the reading of a template. The rule says for each reference what
takes its place or why nothing can, and for a whole template which of its two forms it has:
a choice of its list, or its text with the references replaced. It has one result for each
generator, and that is what resolving gives. -/

namespace ScriptedDialog.Template

open Text

/-! ### The rule -/

/-- What takes the place of a reference, and the generator after it. -/
inductive Reference.Fills (lookup : Lookup) :
    Reference → Generator → List Char → Generator → Prop where
  | scalar {sigil name text g} (value : lookup (String.ofList name) = some (.scalar text)) :
      Fills lookup ⟨sigil, name⟩ g text.toList g
  | item {name items item g g'} (value : lookup (String.ofList name) = some (.list items))
      (picked : g.choose items = (some item, g')) :
      Fills lookup ⟨.tilde, name⟩ g item.toList g'
  | standing {name g} (value : lookup (String.ofList name) = none) :
      Fills lookup ⟨.tilde, name⟩ g (Reference.source ⟨.tilde, name⟩) g

/-- Why nothing can take the place of a reference. -/
inductive Reference.Fails (lookup : Lookup) : Reference → Fault → Prop where
  | listEmpty {name} (value : lookup (String.ofList name) = some (.list [])) :
      Fails lookup ⟨.tilde, name⟩ (.listEmpty (String.ofList name))
  | undefined {name} (value : lookup (String.ofList name) = none) :
      Fails lookup ⟨.dollar, name⟩ (.variableUndefined (String.ofList name))
  | listSubstitution {name items} (value : lookup (String.ofList name) = some (.list items)) :
      Fails lookup ⟨.dollar, name⟩ (.listSubstitution (String.ofList name))

/-- What takes the places of references, one after the other. -/
inductive FillsAll (lookup : Lookup) :
    List Reference → Generator → List (List Char) → Generator → Prop where
  | nil (g) : FillsAll lookup [] g [] g
  | cons {r g value g' rs values g''} (first : r.Fills lookup g value g')
      (later : FillsAll lookup rs g' values g'') : FillsAll lookup (r :: rs) g (value :: values) g''

namespace Layout

/-- The text of a layout with values in the places of its references. -/
def filled (l : Layout) (values : List (List Char)) : List Char :=
  l.front ++ (l.spans.zip values).flatMap fun s => s.2 ++ s.1.2

/-- A name behind a tilde is defined. -/
def MentionsDefined (l : Layout) (lookup : Lookup) : Prop :=
  ∃ name, ⟨.tilde, name⟩ ∈ l.references ∧ lookup (String.ofList name) ≠ none

end Layout

/-- The result of resolving a template with a given layout, and the generator afterwards. -/
inductive Resolves (template : String) (lookup : Lookup) (g : Generator) (l : Layout) :
    Except Fault String × Generator → Prop where
  | choice {inner item g'} (list : ¬ l.MentionsDefined lookup)
      (part : Value.bracketed? template.toList = some inner)
      (picked : g.choose (Value.choiceList inner) = (some item, g')) :
      Resolves template lookup g l (.ok item, g')
  | noChoice {inner} (list : ¬ l.MentionsDefined lookup)
      (part : Value.bracketed? template.toList = some inner)
      (empty : Value.choiceList inner = []) :
      Resolves template lookup g l (.error (.responseEmpty template), g)
  | filled {values g'}
      (text : l.MentionsDefined lookup ∨ Value.bracketed? template.toList = none)
      (fills : FillsAll lookup l.references g values g') :
      Resolves template lookup g l (.ok (String.ofList (l.filled values)), g')
  | failed {before r after values g' f}
      (text : l.MentionsDefined lookup ∨ Value.bracketed? template.toList = none)
      (references : l.references = before ++ r :: after)
      (fills : FillsAll lookup before g values g') (fails : r.Fails lookup f) :
      Resolves template lookup g l (.error f, g')

/-! ### One reference -/

section
variable {lookup : Lookup}

theorem Reference.fills_or_fails (lookup : Lookup) (r : Reference) (g : Generator) :
    (∃ value g', r.Fills lookup g value g') ∨ ∃ f, r.Fails lookup f := by
  obtain ⟨sigil, name⟩ := r
  cases hv : lookup (String.ofList name) with
  | none =>
    cases sigil with
    | tilde => exact Or.inl ⟨_, _, .standing hv⟩
    | dollar => exact Or.inr ⟨_, .undefined hv⟩
  | some v =>
    cases v with
    | scalar text => exact Or.inl ⟨_, _, .scalar hv⟩
    | list items =>
      cases sigil with
      | dollar => exact Or.inr ⟨_, .listSubstitution hv⟩
      | tilde =>
        by_cases he : items = []
        · exact Or.inr ⟨_, .listEmpty (he ▸ hv)⟩
        · obtain ⟨item, -, hitem⟩ := Generator.exists_mem_choose he g
          exact Or.inl ⟨_, _, .item hv (Prod.ext hitem rfl)⟩

theorem Reference.Fills.fill_eq {r : Reference} {g g' : Generator} {value : List Char}
    (h : r.Fills lookup g value g') :
    Piece.fill lookup g (.reference r.sigil r.name) = (.ok value, g') := by
  cases h with
  | @scalar sigil name text g value => cases sigil <;> simp only [Piece.fill, value]
  | item value picked => simp only [Piece.fill, value, picked]
  | standing value => simp only [Piece.fill, value]; rfl

theorem Reference.Fails.fill_eq {r : Reference} {f : Fault} (h : r.Fails lookup f)
    (g : Generator) : Piece.fill lookup g (.reference r.sigil r.name) = (.error f, g) := by
  cases h with
  | listEmpty value => simp only [Piece.fill, value, Generator.choose_nil]
  | undefined value => simp only [Piece.fill, value]
  | listSubstitution value => simp only [Piece.fill, value]

/-! ### All references -/

theorem fillsAll_or_fails (lookup : Lookup) (rs : List Reference) (g : Generator) :
    (∃ values g', FillsAll lookup rs g values g') ∨
      ∃ before r after values g' f, rs = before ++ r :: after ∧
        FillsAll lookup before g values g' ∧ r.Fails lookup f := by
  induction rs generalizing g with
  | nil => exact Or.inl ⟨[], g, .nil g⟩
  | cons r rs ih =>
    rcases r.fills_or_fails lookup g with ⟨value, g₁, hfirst⟩ | ⟨f, hfails⟩
    · rcases ih g₁ with ⟨values, g₂, hlater⟩ |
        ⟨before, r', after, values, g₂, f, rfl, hbefore, hfails⟩
      · exact Or.inl ⟨_, _, .cons hfirst hlater⟩
      · exact Or.inr ⟨r :: before, r', after, _, _, f, rfl, .cons hfirst hbefore, hfails⟩
    · exact Or.inr ⟨[], r, rs, [], g, f, rfl, .nil g, hfails⟩

open Layout in
theorem FillsAll.fillAll_eq {ps : List Piece} {g g' : Generator} {values : List (List Char)}
    (h : FillsAll lookup (ofPieces ps).references g values g') :
    fillAll lookup ps g = (.ok ((ofPieces ps).filled values), g') := by
  induction ps generalizing g values with
  | nil =>
    cases h
    rfl
  | cons p later ih =>
    cases p with
    | text cs =>
      simp only [fillAll, Piece.fill, ih h]
      simp only [ofPieces, filled, List.append_assoc]
    | reference sigil name =>
      cases h with
      | cons first rest =>
        simp only [fillAll, first.fill_eq, ih rest]
        simp only [ofPieces, filled, List.zip_cons_cons, List.flatMap_cons, List.nil_append,
          List.append_assoc]

open Layout in
theorem Reference.Fails.fillAll_eq {ps : List Piece} {g g' : Generator} {r : Reference} {f : Fault}
    {before after : List Reference} {values : List (List Char)} (hf : r.Fails lookup f)
    (hps : (ofPieces ps).references = before ++ r :: after)
    (h : FillsAll lookup before g values g') : fillAll lookup ps g = (.error f, g') := by
  induction ps generalizing before g values with
  | nil => cases before <;> cases hps
  | cons p later ih =>
    cases p with
    | text cs => simp only [fillAll, Piece.fill, ih hps h]
    | reference sigil name =>
      cases h with
      | nil =>
        obtain ⟨rfl, -⟩ := List.cons.inj hps
        rw [fillAll, hf.fill_eq]
      | cons first rest =>
        obtain ⟨rfl, hlater⟩ := List.cons.inj hps
        simp only [fillAll, first.fill_eq, ih hlater rest]

/-! ### Whole templates -/

theorem mentionsDefined_iff {template : String} {l : Layout} (h : l.Reads template.toList) :
    ((mentions template).any fun name => (lookup name).isSome) = true ↔
      l.MentionsDefined lookup := by
  simp only [mentions, List.any_map, List.any_eq_true, h.names_eq, Layout.mem_names_iff,
    Function.comp_apply, Option.isSome_iff_ne_none, Layout.MentionsDefined]

theorem list?_eq_some_iff {template : String} {l : Layout} (h : l.Reads template.toList)
    {inner : List Char} : list? template lookup = some inner ↔
      ¬ l.MentionsDefined lookup ∧ Value.bracketed? template.toList = some inner := by
  rw [list?, ← mentionsDefined_iff h]
  split
  · next hm => simp [hm]
  · next hm => simp [hm]

theorem list?_eq_none_iff {template : String} {l : Layout} (h : l.Reads template.toList) :
    list? template lookup = none ↔
      l.MentionsDefined lookup ∨ Value.bracketed? template.toList = none := by
  rw [list?, ← mentionsDefined_iff h]
  split
  · next hm => simp [hm]
  · next hm => simp [hm]

theorem Resolves.resolve_eq {template : String} {g : Generator} {l : Layout}
    {r : Except Fault String × Generator} (hl : l.Reads template.toList)
    (h : Resolves template lookup g l r) : resolve template lookup g = r := by
  have hpieces : Layout.ofPieces (pieces template.toList) = l :=
    hl.unique (Layout.reads_pieces template.toList)
  cases h with
  | choice list part picked =>
    simp only [resolve, (list?_eq_some_iff hl).mpr ⟨list, part⟩, choose, picked]
  | noChoice list part empty =>
    simp only [resolve, (list?_eq_some_iff hl).mpr ⟨list, part⟩, choose, empty,
      Generator.choose_nil]
  | filled text fills =>
    rw [← hpieces] at fills
    simp only [resolve, (list?_eq_none_iff hl).mpr text, fills.fillAll_eq, hpieces]
  | failed text references fills fails =>
    rw [← hpieces] at references
    simp only [resolve, (list?_eq_none_iff hl).mpr text, fails.fillAll_eq references fills]

theorem exists_resolves (template : String) (lookup : Lookup) (g : Generator) (l : Layout) :
    ∃ r, Resolves template lookup g l r := by
  by_cases htext : l.MentionsDefined lookup ∨ Value.bracketed? template.toList = none
  · rcases fillsAll_or_fails lookup l.references g with ⟨values, g', hfills⟩ |
      ⟨before, r, after, values, g', f, hreferences, hfills, hfails⟩
    · exact ⟨_, .filled htext hfills⟩
    · exact ⟨_, .failed htext hreferences hfills hfails⟩
  · obtain ⟨hlist, hpart⟩ := not_or.mp htext
    obtain ⟨inner, hinner⟩ := Option.ne_none_iff_exists'.mp hpart
    by_cases he : Value.choiceList inner = []
    · exact ⟨_, .noChoice hlist hinner he⟩
    · obtain ⟨item, -, hitem⟩ := Generator.exists_mem_choose he g
      exact ⟨_, .choice hlist hinner (Prod.ext hitem rfl)⟩

end

/-- Resolving gives what the rule gives for the reading of the template. -/
theorem resolve_eq_iff {template : String} {lookup : Lookup} {g : Generator} {l : Layout}
    (h : l.Reads template.toList) {r : Except Fault String × Generator} :
    resolve template lookup g = r ↔ Resolves template lookup g l r := by
  constructor
  · rintro rfl
    obtain ⟨r, hr⟩ := exists_resolves template lookup g l
    rwa [hr.resolve_eq h]
  · exact fun hr => hr.resolve_eq h

/-- A template has one reading, and resolving it is the rule for that reading: a choice of the
bracketed list if no name behind a tilde is defined, and otherwise the text with what takes the
places of its references from left to right, or the fault of the first reference whose place
nothing can take. Every choice in it is fair. -/
theorem resolve_by_reading (template : String) (lookup : Lookup) (g : Generator) :
    (∃ l : Layout, l.Reads template.toList ∧ (∀ l' : Layout, l'.Reads template.toList → l' = l) ∧
      ∀ r, resolve template lookup g = r ↔ Resolves template lookup g l r) ∧
    (∀ items : List String, items ≠ [] → items.length < UInt32.size → Generator.Fair items) ∧
    (Fault.responseEmpty template).code = "RESPONSE_CHOICES_EMPTY" ∧
    ∀ name, (Fault.listEmpty name).code = "RESPONSE_CHOICES_EMPTY" ∧
      (Fault.variableUndefined name).code = "RESPONSE_VARIABLE_UNDEFINED" ∧
      (Fault.listSubstitution name).code = "RESPONSE_LIST_SUBSTITUTION" := by
  have hreads := Layout.reads_pieces template.toList
  exact ⟨⟨_, hreads, fun _ h' => hreads.unique h', fun _ => resolve_eq_iff hreads⟩,
    fun _ hne hsize => Generator.fair hne hsize, rfl, fun _ => ⟨rfl, rfl, rfl⟩⟩

end ScriptedDialog.Template
