import ScriptedDialog.Proofs.Dialog.Run

/-! Resolving a response before the captures are assigned gives what resolving it
afterwards would give. So the reply of a turn can be read off the store that the turn
leaves, without its bindings. -/

namespace ScriptedDialog

theorem Store.view_nil (s : Store) : s.view [] = s.get? := rfl

/-- A view of pending assignments is the plain view of the store in which they are made. -/
theorem Store.view_eq_view_setAll (s : Store) (pending : List (String × Value)) :
    s.view pending = (s.setAll pending).view [] := by
  rw [view_nil, get?_setAll]

namespace Dialog

theorem store_advance (d : Dialog) (id : CommandId) (node : Node) (b : Bindings) (g : Generator) :
    (d.advance id node b g).store = d.store.setAll b.assignments := rfl

/-- Where a turn has a reply, the command that answers has resolved its response to it. -/
theorem turn_of_reply {d : Dialog} {input reply : String}
    (h : (d.turn input).1 = .ok (some reply)) :
    ∃ id b node g, d.answer? input = some (id, b) ∧ d.tree.get? id = some node ∧
      Template.resolve node.response (d.store.view b.assignments) d.generator = (.ok reply, g) ∧
      (d.turn input).2 = d.advance id node b g := by
  have ht := d.turn_spec input
  generalize d.turn input = t at h ht ⊢
  cases ht with
  | unmatched | failed => cases h
  | answered ha hn hr =>
    cases h
    exact ⟨_, _, _, _, ha, hn, hr, rfl⟩

/-- Pending assignments and assignments that are made resolve alike, whatever is drawn, and
draw alike. So the reply of a turn is what the response resolves to, from the generator
before the turn, in the store after it. -/
theorem resolve_commit :
    (∀ (store : Store) (pending : List (String × Value)) (template : String) (g : Generator),
      Template.resolve template (store.view pending) g =
        Template.resolve template ((store.setAll pending).view []) g) ∧
    ∀ (d : Dialog) (input reply : String), (d.turn input).1 = .ok (some reply) →
      ∃ id b node, d.answer? input = some (id, b) ∧ d.tree.get? id = some node ∧
        Template.resolve node.response ((d.turn input).2.store.view []) d.generator =
          (.ok reply, (d.turn input).2.generator) := by
  constructor
  · intro store pending template g
    rw [Store.view_eq_view_setAll]
  · intro d input reply h
    obtain ⟨id, b, node, g, ha, hn, hr, hafter⟩ := turn_of_reply h
    refine ⟨id, b, node, ha, hn, ?_⟩
    rw [hafter, store_advance, ← Store.view_eq_view_setAll, hr]
    rfl

end Dialog

end ScriptedDialog
