import ScriptedDialog.Proofs.Dialog.Run
import ScriptedDialog.Proofs.Script.Declarations
import ScriptedDialog.Proofs.Trigger.Captures

/-! The variables of a dialog. The store after a run is the store before it with all
that was bound in turns with a reply, in the order of the turns. So a variable never
becomes undefined, its value is the one that it had at first or a word that was captured
later, and what has become a scalar is never a list again. -/

namespace ScriptedDialog.Dialog

/-- What a step binds. Only a turn with a reply binds anything. -/
def Step.bound (s : Step) : Bindings :=
  match s.result? with
  | some (.ok (some _)) => ((s.answer?).map (·.2)).getD []
  | _ => []

theorem Step.result?_of_bound {s : Step} {name text : String} (h : (name, text) ∈ s.bound) :
    ∃ reply, s.result? = some (.ok (some reply)) := by
  unfold bound at h
  split at h
  · next reply hr => exact ⟨reply, hr⟩
  · cases h

theorem Step.answer?_of_bound {s : Step} {name text : String} (h : (name, text) ∈ s.bound) :
    ∃ id b, s.answer? = some (id, b) ∧ (name, text) ∈ b := by
  unfold bound at h
  split at h
  · cases ha : s.answer? with
    | none =>
      rw [ha] at h
      cases h
    | some answer =>
      rw [ha] at h
      exact ⟨answer.1, answer.2, rfl, h⟩
  · cases h

/-- What is bound is a word of the input, and the name is a name. -/
theorem Step.isName_of_bound {s : Step} {name text : String} (h : (name, text) ∈ s.bound) :
    ∃ input, s.move = .say input ∧ Text.IsName name.toList ∧ Text.IsName text.toList ∧
      text.toList <:+: input.toList := by
  obtain ⟨id, b, ha, hb⟩ := answer?_of_bound h
  obtain ⟨d, m⟩ := s
  cases m with
  | reset => cases ha
  | say input =>
    obtain ⟨-, node, -, hbindings⟩ := answer?_eq_some ha
    exact ⟨input, rfl, Command.isName_of_bindings? hbindings hb⟩

/-! ### The store -/

theorem store_after (d : Dialog) (m : Move) :
    (d.after m).store = d.store.setAll (Step.bound ⟨d, m⟩).assignments := by
  cases m with
  | reset => rfl
  | say input =>
    have ht := d.turn_spec input
    simp only [Step.bound, Step.result?, Step.answer?, after]
    generalize d.turn input = t at ht ⊢
    cases ht with
    | unmatched | failed => rfl
    | answered h =>
      rw [h]
      rfl

/-- All that a run binds, in order. -/
def boundAll (d : Dialog) (moves : List Move) : Bindings := (d.steps moves).flatMap Step.bound

theorem store_afterAll (d : Dialog) (moves : List Move) :
    (d.afterAll moves).store = d.store.setAll (d.boundAll moves).assignments := by
  induction moves generalizing d with
  | nil => rfl
  | cons m moves ih =>
    have hlater : (d.afterAll (m :: moves)).store = _ := ih (d.after m)
    rw [hlater, store_after, ← Store.setAll_append]
    simp only [boundAll, steps, List.flatMap_cons, Bindings.assignments, List.map_append]

theorem mem_assignments {b : Bindings} {name : String} {value : Value} :
    (name, value) ∈ b.assignments ↔ ∃ text, (name, text) ∈ b ∧ value = .scalar text := by
  simp only [Bindings.assignments, List.mem_map, Prod.mk.injEq, Prod.exists]
  constructor
  · rintro ⟨_, text, hb, rfl, rfl⟩
    exact ⟨text, hb, rfl⟩
  · rintro ⟨text, hb, rfl⟩
    exact ⟨name, text, hb, rfl, rfl⟩

section
variable {d : Dialog} {moves : List Move} {name : String}

/-- A value after a run is one that the run bound or the one from before. -/
theorem get?_afterAll {value : Value} (h : (d.afterAll moves).store.get? name = some value) :
    (∃ s ∈ d.steps moves, ∃ text, (name, text) ∈ s.bound ∧ value = .scalar text) ∨
      d.store.get? name = some value := by
  rw [store_afterAll] at h
  refine (Store.mem_of_get?_setAll h).imp_left fun hm => ?_
  obtain ⟨text, hb, rfl⟩ := mem_assignments.mp hm
  obtain ⟨s, hs, hb⟩ := List.mem_flatMap.mp hb
  exact ⟨s, hs, text, hb, rfl⟩

theorem get?_afterAll_of_bound {s : Step} {text : String} (hs : s ∈ d.steps moves)
    (hb : (name, text) ∈ s.bound) : (d.afterAll moves).store.get? name ≠ none := by
  rw [store_afterAll]
  have hall : (name, text) ∈ d.boundAll moves := List.mem_flatMap.mpr ⟨s, hs, hb⟩
  exact Store.get?_setAll_ne_none (Or.inl ⟨_, mem_assignments.mpr ⟨text, hall, rfl⟩⟩)

theorem get?_afterAll_ne_none (h : d.store.get? name ≠ none) :
    (d.afterAll moves).store.get? name ≠ none := by
  rw [store_afterAll]
  exact Store.get?_setAll_ne_none (Or.inr h)

/-- A list is never assigned. -/
theorem get?_of_list_afterAll {items : List String}
    (h : (d.afterAll moves).store.get? name = some (.list items)) :
    d.store.get? name = some (.list items) := by
  rcases get?_afterAll h with ⟨s, -, text, -, he⟩ | h
  · cases he
  · exact h

theorem scalar_afterAll {text : String} (h : d.store.get? name = some (.scalar text)) :
    ∃ text', (d.afterAll moves).store.get? name = some (.scalar text') := by
  have hdefined : d.store.get? name ≠ none := by
    rw [h]
    nofun
  obtain ⟨value, hv⟩ := Option.ne_none_iff_exists'.mp (get?_afterAll_ne_none hdefined)
  cases value with
  | scalar text' => exact ⟨text', hv⟩
  | list items =>
    have hlist := get?_of_list_afterAll hv
    rw [h] at hlist
    cases hlist

end

/-- After any run from a source the variables are those that the script declares and
those that turns with a reply have bound. Each has a name, and for its value the one
from the script or a word of the input of such a turn. A list is as it was in the
script, and a scalar stays a scalar. -/
theorem ofSource_variables (source : String) (g : Generator) (moves : List Move) :
    let start := ofSource source g
    let d := start.afterAll moves
    (∀ name value n, .declaration name value n ∈ (Script.ofSource source).statements →
      start.store.get? name ≠ none) ∧
    (∀ name, start.store.get? name ≠ none → d.store.get? name ≠ none) ∧
    (∀ s ∈ start.steps moves, ∀ name text, (name, text) ∈ s.bound →
      d.store.get? name ≠ none ∧ (∃ reply, s.result? = some (.ok (some reply))) ∧
      ∃ input, s.move = .say input ∧ Text.IsName text.toList ∧ text.toList <:+: input.toList) ∧
    (∀ name value, d.store.get? name = some value → Text.IsName name.toList ∧
      ((∃ s ∈ start.steps moves, ∃ text, (name, text) ∈ s.bound ∧ value = .scalar text) ∨
        start.store.get? name = some value)) ∧
    (∀ name items, d.store.get? name = some (.list items) →
      start.store.get? name = some (.list items)) ∧
    ∀ name text, d.store.get? name = some (.scalar text) →
      ∀ later, ∃ text', (d.afterAll later).store.get? name = some (.scalar text') := by
  intro start d
  refine ⟨fun name value n h => Compiled.get?_ofSource_of_declaration h,
    fun name h => get?_afterAll_ne_none h, ?_, ?_,
    fun name items h => get?_of_list_afterAll h, fun name text h later => scalar_afterAll h⟩
  · intro s hs name text hb
    obtain ⟨input, hm, -, htext⟩ := Step.isName_of_bound hb
    exact ⟨get?_afterAll_of_bound hs hb, Step.result?_of_bound hb, input, hm, htext⟩
  · intro name value h
    have horigin := get?_afterAll h
    refine ⟨?_, horigin⟩
    rcases horigin with ⟨s, -, text, hb, -⟩ | hstart
    · obtain ⟨input, -, hname, -⟩ := Step.isName_of_bound hb
      exact hname
    · refine @Compiled.isName_of_get?_ofSource source name ?_
      show start.store.get? name ≠ none
      rw [hstart]
      nofun

end ScriptedDialog.Dialog
