import ScriptedDialog.Proofs.Dialog.Commit
import ScriptedDialog.Proofs.Dialog.Variables
import ScriptedDialog.Proofs.Template.Advancing

/-! What has succeeded once succeeds again. The variables of a dialog only advance: they
are given words that were captured, and words are scalars. So a command that has answered
with a reply never fails afterwards, if its response is read in one way from then on. -/

namespace ScriptedDialog

open Template

/-! ### Advancing variables -/

/-- Bindings make every name that they have a scalar. -/
theorem Store.advances_setAll (s : Store) (b : Bindings) :
    Advances s.get? (s.setAll b.assignments).get? := by
  intro name
  rw [get?_setAll, view]
  cases hf : find? name b.assignments.reverse with
  | none => exact Or.inr rfl
  | some value =>
    obtain ⟨text, -, rfl⟩ :=
      Dialog.mem_assignments.mp (List.mem_reverse.mp (mem_of_find?_eq_some hf))
    exact Or.inl ⟨text, rfl⟩

namespace Dialog

theorem advances_afterAll (d : Dialog) (moves : List Move) :
    Advances d.store.get? (d.afterAll moves).store.get? := by
  rw [store_afterAll]
  exact d.store.advances_setAll _

/-- What a later turn looks up, with its captures, has advanced from what the turn with a
reply looked up. -/
theorem advances_view (d : Dialog) (id : CommandId) (node : Node) (b : Bindings) (g : Generator)
    (moves : List Move) (b' : Bindings) :
    Advances (d.store.view b.assignments)
      (((d.advance id node b g).afterAll moves).store.view b'.assignments) := by
  rw [← Store.get?_setAll, ← Store.get?_setAll, ← store_advance d id node b g]
  exact (advances_afterAll _ moves).trans (Store.advances_setAll _ b')

/-! ### Turns of one command -/

theorem turn_of_earlier_reply {d : Dialog} {input reply : String} {id : CommandId} {b : Bindings}
    {node : Node} (hr : (d.turn input).1 = .ok (some reply)) (ha : d.answer? input = some (id, b))
    (hn : d.tree.get? id = some node) (hs : Steady node.response (d.store.view b.assignments))
    (moves : List Move) {input' : String} {b' : Bindings}
    (ha' : ((d.turn input).2.afterAll moves).answer? input' = some (id, b')) :
    ∃ reply', (((d.turn input).2.afterAll moves).turn input').1 = .ok (some reply') := by
  obtain ⟨_, _, _, g, hanswer, hnode, hresolve, hafter⟩ := turn_of_reply hr
  cases ha.symm.trans hanswer
  cases hn.symm.trans hnode
  rw [hafter] at ha' ⊢
  have hnode' : ((d.advance id node b g).afterAll moves).tree.get? id = some node := by
    rw [tree_afterAll]
    exact hn
  have hfault := fault?_of_advances (d.advances_view id node b g moves b') hs
    (fault?_of_resolve hresolve)
  obtain ⟨reply', g', hturn⟩ := turn_answered ha' hnode' hfault
  exact ⟨reply', congrArg Prod.fst hturn⟩

/-- In a run, a turn with a reply is followed by no failure of the same command, unless the
response has a bracketed list and mentions names and none of them was defined in the turn
with the reply. -/
theorem ofSource_success_stable (source : String) (g : Generator) (moves : List Move) :
    ((ofSource source g).steps moves).Pairwise fun s t =>
      ∀ id b b' node reply, s.answer? = some (id, b) → s.result? = some (.ok (some reply)) →
        s.before.tree.get? id = some node →
        Steady node.response (s.before.store.view b.assignments) →
        t.answer? = some (id, b') → ∃ reply', t.result? = some (.ok (some reply')) := by
  generalize ofSource source g = d
  induction moves generalizing d with
  | nil => exact .nil
  | cons m moves ih =>
    refine List.pairwise_cons.mpr ⟨?_, ih _⟩
    rintro ⟨e, m'⟩ ht id b b' node reply ha hr hn hs ha'
    obtain ⟨between, _, -, rfl⟩ := before_of_mem_steps ht
    cases m with
    | reset => cases ha
    | say input =>
      cases m' with
      | reset => cases ha'
      | say input' =>
        obtain ⟨reply', hr'⟩ := turn_of_earlier_reply (Option.some.inj hr) ha hn hs between ha'
        exact ⟨reply', congrArg some hr'⟩

end Dialog

end ScriptedDialog
