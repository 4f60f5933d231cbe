import ScriptedDialog.Dialog.Turn
import ScriptedDialog.Proofs.Template.Faults

/-! Turns and runs. A turn has one of three outcomes: no command answers, the one
that answers has no reply, or it has a reply and the dialog moves on. A run is its
steps, each a move with the dialog in which it is made. -/

namespace ScriptedDialog

namespace Dialog

/-! ### Matching -/

theorem firstMatch?_eq_some {d : Dialog} {input : String} {ids : List CommandId} {id : CommandId}
    {b : Bindings} (h : d.firstMatch? input ids = some (id, b)) :
    id ∈ ids ∧ ∃ node, d.tree.get? id = some node ∧ node.bindings? d.store input = some b := by
  induction ids with
  | nil => cases h
  | cons i ids ih =>
    rw [firstMatch?] at h
    cases hb : (d.tree.get? i).bind (·.bindings? d.store input) with
    | none =>
      rw [hb] at h
      exact ⟨List.mem_cons_of_mem _ (ih h).1, (ih h).2⟩
    | some b' =>
      rw [hb] at h
      obtain ⟨rfl, rfl⟩ := Prod.mk.inj (Option.some.inj h)
      exact ⟨List.mem_cons_self, Option.bind_eq_some_iff.mp hb⟩

/-- The command that answers is a child of the context or a root, and it accepts. -/
theorem answer?_eq_some {d : Dialog} {input : String} {id : CommandId} {b : Bindings}
    (h : d.answer? input = some (id, b)) :
    (id ∈ d.contextual ∨ id ∈ d.tree.roots) ∧
      ∃ node, d.tree.get? id = some node ∧ node.bindings? d.store input = some b := by
  rcases Option.or_eq_some_iff.mp h with h | ⟨-, h⟩
  · exact ⟨Or.inl (firstMatch?_eq_some h).1, (firstMatch?_eq_some h).2⟩
  · exact ⟨Or.inr (firstMatch?_eq_some h).1, (firstMatch?_eq_some h).2⟩

/-! ### Turns -/

/-- The three outcomes of a turn, each with its result and the dialog afterwards. -/
inductive Turn (d : Dialog) (input : String) : Except Fault (Option String) × Dialog → Prop where
  | unmatched (h : d.answer? input = none) : Turn d input (.ok none, d)
  | failed {id b node f g} (h : d.answer? input = some (id, b)) (hn : d.tree.get? id = some node)
      (hr : Template.resolve node.response (d.store.view b.assignments) d.generator =
        (.error f, g)) :
      Turn d input (.error f, { d with generator := g })
  | answered {id b node reply g} (h : d.answer? input = some (id, b))
      (hn : d.tree.get? id = some node)
      (hr : Template.resolve node.response (d.store.view b.assignments) d.generator =
        (.ok reply, g)) :
      Turn d input (.ok (some reply), d.advance id node b g)

section
variable {d : Dialog} {input : String} {id : CommandId} {b : Bindings} {node : Node}

theorem turn_unmatched (h : d.answer? input = none) : d.turn input = (.ok none, d) := by
  rw [turn, h]

theorem turn_failed {f : Fault} (h : d.answer? input = some (id, b))
    (hn : d.tree.get? id = some node)
    (hf : Template.fault? node.response (d.store.view b.assignments) = some f) :
    ∃ g, d.turn input = (.error f, { d with generator := g }) := by
  obtain ⟨g, hr⟩ := Template.exists_resolve_of_fault hf d.generator
  exact ⟨g, by simp only [turn, h, hn, hr]⟩

theorem turn_answered (h : d.answer? input = some (id, b)) (hn : d.tree.get? id = some node)
    (hf : Template.fault? node.response (d.store.view b.assignments) = none) :
    ∃ reply g, d.turn input = (.ok (some reply), d.advance id node b g) := by
  obtain ⟨reply, g, hr⟩ := Template.exists_resolve_of_no_fault hf d.generator
  exact ⟨reply, g, by simp only [turn, h, hn, hr]⟩

end

/-- A command that answers is there, so a turn has no other outcome. -/
theorem turn_spec (d : Dialog) (input : String) : d.Turn input (d.turn input) := by
  unfold turn
  cases h : d.answer? input with
  | none => exact .unmatched h
  | some answer =>
    obtain ⟨id, b⟩ := answer
    obtain ⟨-, node, hn, -⟩ := answer?_eq_some h
    simp only [hn]
    cases hr : Template.resolve node.response (d.store.view b.assignments) d.generator with
    | mk r g =>
      cases r with
      | error f => exact .failed h hn hr
      | ok reply => exact .answered h hn hr

/-! ### Runs -/

/-- One move of a run, with the dialog in which it is made. -/
structure Step where
  before : Dialog
  move : Move

/-- The run of some moves, step by step. -/
def steps (d : Dialog) : List Move → List Step
  | [] => []
  | m :: moves => ⟨d, m⟩ :: (d.after m).steps moves

namespace Step

/-- The dialog after the move. -/
def after (s : Step) : Dialog := s.before.after s.move

/-- The command that answers, and what it captures. A reset has none. -/
def answer? (s : Step) : Option (CommandId × Bindings) :=
  match s.move with
  | .say input => s.before.answer? input
  | .reset => none

/-- The result of a turn. A reset has none. -/
def result? (s : Step) : Option (Except Fault (Option String)) :=
  match s.move with
  | .say input => some (s.before.turn input).1
  | .reset => none

end Step

/-- What every move preserves holds after every run. -/
theorem afterAll_induction {P : Dialog → Prop} (move : ∀ d m, P d → P (d.after m)) {d : Dialog}
    (h : P d) (moves : List Move) : P (d.afterAll moves) := by
  induction moves generalizing d with
  | nil => exact h
  | cons m moves ih => exact ih (move d m h)

/-- A step is made in the dialog to which the moves before it have led. -/
theorem before_of_mem_steps {d : Dialog} {moves : List Move} {s : Step} (h : s ∈ d.steps moves) :
    ∃ earlier later, moves = earlier ++ s.move :: later ∧ s.before = d.afterAll earlier := by
  induction moves generalizing d with
  | nil => cases h
  | cons m moves ih =>
    rcases List.mem_cons.mp h with rfl | h
    · exact ⟨[], moves, rfl, rfl⟩
    · obtain ⟨earlier, later, hmoves, hbefore⟩ := ih h
      exact ⟨m :: earlier, later, congrArg (m :: ·) hmoves, hbefore⟩

theorem tree_after (d : Dialog) (m : Move) : (d.after m).tree = d.tree := by
  cases m with
  | reset => rfl
  | say input =>
    have ht := d.turn_spec input
    show (d.turn input).2.tree = d.tree
    generalize d.turn input = t at ht ⊢
    cases ht with
    | unmatched | failed | answered => rfl

theorem tree_afterAll (d : Dialog) (moves : List Move) : (d.afterAll moves).tree = d.tree :=
  @afterAll_induction (fun e => e.tree = d.tree) (fun e m h => (e.tree_after m).trans h) d rfl moves

end Dialog

end ScriptedDialog
