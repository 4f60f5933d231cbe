import ScriptedDialog.Proofs.Command.Compiling
import ScriptedDialog.Proofs.Dialog.Run

/-! Where a dialog can be. A command answers as a child of the context or as a
registered root, so the context never leaves what is below the registered roots, and
what is below a displaced root is out of reach. -/

namespace ScriptedDialog.Dialog

/-- The context is a command with children that is at or below a registered root. -/
def Anchored (d : Dialog) : Prop :=
  ∀ id, d.context = some id → d.tree.Live id ∧
    ∃ node, d.tree.get? id = some node ∧ node.children ≠ []

theorem anchored_of_none {d : Dialog} (h : d.context = none) : d.Anchored := by
  intro id hid
  rw [h] at hid
  cases hid

theorem mem_contextual {d : Dialog} {id : CommandId} (h : id ∈ d.contextual) :
    ∃ p, d.context = some p ∧ id ∈ d.tree.children p := by
  unfold contextual at h
  cases hc : d.context with
  | none =>
    rw [hc] at h
    cases h
  | some p =>
    rw [hc] at h
    exact ⟨p, rfl, h⟩

/-- Only a command at or below a registered root answers. -/
theorem Anchored.live_of_answer? {d : Dialog} (hd : d.Anchored) {input : String} {id : CommandId}
    {b : Bindings} (h : d.answer? input = some (id, b)) : d.tree.Live id := by
  rcases (answer?_eq_some h).1 with hchild | hroot
  · obtain ⟨p, hp, hchild⟩ := mem_contextual hchild
    exact (hd p hp).1.child hchild
  · exact Tree.live_of_mem_roots hroot

theorem Anchored.after {d : Dialog} (hd : d.Anchored) (m : Move) : (d.after m).Anchored := by
  cases m with
  | reset => exact anchored_of_none rfl
  | say input =>
    have ht := d.turn_spec input
    show (d.turn input).2.Anchored
    generalize d.turn input = t at ht ⊢
    cases ht with
    | unmatched | failed => exact hd
    | @answered id b node reply g h hn hr =>
      intro i hi
      show d.tree.Live i ∧ ∃ node, d.tree.get? i = some node ∧ node.children ≠ []
      have hcontext : (if node.children.isEmpty then none else some id) = some i := hi
      split at hcontext
      · cases hcontext
      · next hchildren =>
        cases hcontext
        refine ⟨hd.live_of_answer? h, node, hn, ?_⟩
        intro hnil
        exact hchildren (List.isEmpty_iff.mpr hnil)

theorem code_of_error {d : Dialog} {input : String} {f : Fault}
    (h : (d.turn input).1 = .error f) : f.code ∈ Template.faultCodes := by
  have ht := d.turn_spec input
  generalize d.turn input = t at h ht
  cases ht with
  | unmatched | answered => cases h
  | failed _ _ hr =>
    cases h
    exact Template.code_fault? ((Template.resolve_eq_error_iff ..).mp (congrArg Prod.fst hr))

/-- After any run the context is a command with children at or below a registered root.
A displaced root and all that is below it are never the context and never answer, and
no turn fails for want of a command. -/
theorem ofSource_anchored (source : String) (g : Generator) (moves : List Move) :
    let d := (ofSource source g).afterAll moves
    d.Anchored ∧
    (∀ r id, d.tree.Displaced r → d.tree.Under r id →
      d.context ≠ some id ∧ ∀ input b, d.answer? input ≠ some (id, b)) ∧
    ∀ input f, (d.turn input).1 = .error f → f.code ≠ "TREE_NODE_MISSING" := by
  intro d
  have hd : d.Anchored := afterAll_induction (fun _ m h => h.after m) (anchored_of_none rfl) moves
  have hlinked : d.tree.Linked := by
    rw [tree_afterAll]
    exact Compiled.linked_ofSource source
  refine ⟨hd, ?_, ?_⟩
  · intro r id hr hid
    have hlive := hlinked.not_live_of_displaced hr hid
    exact ⟨fun h => hlive (hd id h).1, fun input b h => hlive (hd.live_of_answer? h)⟩
  · intro input f h hcode
    have hmem := code_of_error h
    rw [hcode] at hmem
    revert hmem
    decide

end ScriptedDialog.Dialog
