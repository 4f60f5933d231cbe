import Mathlib.Data.List.Forall2
import ScriptedDialog.Proofs.Dialog.Run
import ScriptedDialog.Proofs.Template.Faults

/-! Two runs of the same moves from dialogs that differ only in their generators.
They stay in lockstep: at every step the same command answers with the same
captures, both turns have a reply or both fail for the same reason, and the
dialogs afterwards again differ only in their generators. What is drawn shows in
the text of a reply and nowhere else. -/

namespace ScriptedDialog.Dialog

/-- The dialogs differ at most in their generators. -/
structure SameState (d e : Dialog) : Prop where
  tree : d.tree = e.tree
  store : d.store = e.store
  context : d.context = e.context
  diagnostics : d.diagnostics = e.diagnostics

theorem SameState.refl (d : Dialog) : d.SameState d := ⟨rfl, rfl, rfl, rfl⟩

theorem SameState.trans {d e f : Dialog} (h : d.SameState e) (h' : e.SameState f) :
    d.SameState f :=
  ⟨h.tree.trans h'.tree, h.store.trans h'.store, h.context.trans h'.context,
    h.diagnostics.trans h'.diagnostics⟩

theorem SameState.eq {d e : Dialog} (h : d.SameState e) :
    e = { d with generator := e.generator } := by
  obtain ⟨ht, hs, hc, hd⟩ := h
  rw [ht, hs, hc, hd]

namespace Step

/-- Whether a turn has a reply, or why it fails. -/
def outcome? (s : Step) : Option (Except Fault Bool) := s.result?.map (·.map Option.isSome)

/-- The response that answers is no list to choose from and mentions none. -/
def Settled (s : Step) : Prop :=
  ∀ id b node, s.answer? = some (id, b) → s.before.tree.get? id = some node →
    Template.Settled node.response (s.before.store.view b.assignments)

/-- The steps are the same but for what is drawn. -/
structure Lockstep (s t : Step) : Prop where
  move : s.move = t.move
  before : s.before.SameState t.before
  answer : s.answer? = t.answer?
  outcome : s.outcome? = t.outcome?
  reply : s.Settled → s.result? = t.result?
  after : s.after.SameState t.after

end Step

/-! ### One step -/

theorem firstMatch?_generator (d : Dialog) (g : Generator) (input : String)
    (ids : List CommandId) :
    ({ d with generator := g } : Dialog).firstMatch? input ids = d.firstMatch? input ids := by
  induction ids with
  | nil => rfl
  | cons id ids ih => rw [firstMatch?, firstMatch?, ih]

/-- The generator has no part in the choice of the command. -/
theorem answer?_generator (d : Dialog) (g : Generator) (input : String) :
    ({ d with generator := g } : Dialog).answer? input = d.answer? input :=
  congrArg₂ Option.or (firstMatch?_generator d g input _) (firstMatch?_generator d g input _)

theorem turn_lockstep (d : Dialog) (g : Generator) (input : String) :
    (d.turn input).1.map Option.isSome =
        (({ d with generator := g } : Dialog).turn input).1.map Option.isSome ∧
      (d.turn input).2.SameState (({ d with generator := g } : Dialog).turn input).2 := by
  have ha := answer?_generator d g input
  cases h : d.answer? input with
  | none =>
    rw [turn_unmatched h, turn_unmatched (ha.trans h)]
    exact ⟨rfl, rfl, rfl, rfl, rfl⟩
  | some answer =>
    obtain ⟨id, b⟩ := answer
    obtain ⟨-, node, hn, -⟩ := answer?_eq_some h
    cases hf : Template.fault? node.response (d.store.view b.assignments) with
    | some f =>
      obtain ⟨g₁, h₁⟩ := turn_failed h hn hf
      obtain ⟨g₂, h₂⟩ := turn_failed (d := { d with generator := g }) (ha.trans h) hn hf
      rw [h₁, h₂]
      exact ⟨rfl, rfl, rfl, rfl, rfl⟩
    | none =>
      obtain ⟨reply₁, g₁, h₁⟩ := turn_answered h hn hf
      obtain ⟨reply₂, g₂, h₂⟩ := turn_answered (d := { d with generator := g }) (ha.trans h) hn hf
      rw [h₁, h₂]
      exact ⟨rfl, rfl, rfl, rfl, rfl⟩

/-- A settled response gives the same reply whatever the generator is. -/
theorem turn_settled {d : Dialog} {input : String}
    (h : ∀ id b node, d.answer? input = some (id, b) → d.tree.get? id = some node →
      Template.Settled node.response (d.store.view b.assignments)) (g : Generator) :
    (d.turn input).1 = (({ d with generator := g } : Dialog).turn input).1 := by
  have ha := answer?_generator d g input
  cases hd : d.answer? input with
  | none => rw [turn_unmatched hd, turn_unmatched (ha.trans hd)]
  | some answer =>
    obtain ⟨id, b⟩ := answer
    obtain ⟨-, node, hn, -⟩ := answer?_eq_some hd
    obtain ⟨r, hr⟩ := Template.resolve_settled (h id b node hd hn)
    simp only [turn, ha, hd, hn, hr]
    cases r <;> rfl

/-- A move made in two dialogs that differ only in their generators. -/
theorem lockstep_step {d e : Dialog} (h : d.SameState e) (m : Move) :
    Step.Lockstep ⟨d, m⟩ ⟨e, m⟩ := by
  have he := h.eq
  generalize e.generator = g at he
  subst he
  cases m with
  | reset => exact ⟨rfl, h, rfl, rfl, fun _ => rfl, h.tree, h.store, rfl, h.diagnostics⟩
  | say input =>
    obtain ⟨ho, hs⟩ := turn_lockstep d g input
    exact {
      move := rfl
      before := h
      answer := (answer?_generator d g input).symm
      outcome := congrArg some ho
      reply := fun hd => congrArg some (turn_settled hd g)
      after := hs }

/-! ### Whole runs -/

theorem steps_lockstep {d e : Dialog} (h : d.SameState e) (moves : List Move) :
    List.Forall₂ Step.Lockstep (d.steps moves) (e.steps moves) := by
  induction moves generalizing d e with
  | nil => exact .nil
  | cons m moves ih =>
    have hm := lockstep_step h m
    exact .cons hm (ih hm.after)

/-- Dialogs made from one source stay in lockstep, whatever their generators are. -/
theorem ofSource_lockstep (source : String) (g g' : Generator) (moves : List Move) :
    List.Forall₂ Step.Lockstep ((ofSource source g).steps moves)
      ((ofSource source g').steps moves) := by
  have h : (ofSource source g).SameState (ofSource source g') := ⟨rfl, rfl, rfl, rfl⟩
  exact steps_lockstep h moves

end ScriptedDialog.Dialog
