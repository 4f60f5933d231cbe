import ScriptedDialog.Dialog.Turn
import ScriptedDialog.Proofs.Command.Compiling
import ScriptedDialog.Proofs.Trigger.Shapes

/-! The keys of roots. The key under which a root is known is its trigger as it is written, and
from that text the trigger has been made. So roots of one key have one trigger and accept the
same inputs, and when a root is displaced there is a registered root in its place that accepts
whatever it would have accepted. -/

namespace ScriptedDialog

/-! ### Commands of one trigger -/

/-- The response has no influence on what a command accepts. -/
theorem Command.bindings?_eq_none_iff {c c' : Command} (h : c.trigger = c'.trigger) (store : Store)
    (input : String) : c.bindings? store input = none ↔ c'.bindings? store input = none := by
  unfold bindings?
  rw [h]
  cases c'.trigger with
  | literal | reference => rfl
  | wildcard text => simp only [Option.map_eq_none_iff]

namespace Tree

/-- Two commands have one trigger, and in every store they accept the same inputs. -/
def AcceptAlike (t : Tree) (i j : CommandId) : Prop :=
  ∃ c c', t.commands[i]? = some c ∧ t.commands[j]? = some c' ∧ c.trigger = c'.trigger ∧
    ∀ store input, c.bindings? store input = none ↔ c'.bindings? store input = none

/-- Some root of a key is the last one. -/
theorem IsRoot.exists_lastRoot {t : Tree} {key : String} {i : CommandId} (h : t.IsRoot key i) :
    ∃ j, t.LastRoot key j := by
  -- Every later root of the key is nearer to the end of the tree.
  generalize hn : t.size - i = n
  induction n using Nat.strongRecOn generalizing i with
  | ind n ih =>
    by_cases hlater : ∃ j, i < j ∧ t.IsRoot key j
    · obtain ⟨j, hij, hj⟩ := hlater
      have hnear : t.size - j < t.size - i :=
        Nat.sub_lt_sub_left (Nat.lt_trans hij hj.lt_size) hij
      exact ih _ (hn ▸ hnear) hj rfl
    · exact ⟨i, h, fun j hij hj => hlater ⟨j, hij, hj⟩⟩

end Tree

namespace Compiled

open Script

/-- A root is declared by a statement that has its key for a trigger. -/
theorem exists_statement_of_isRoot {source key : String} {i : CommandId}
    (h : (ofSource source).tree.IsRoot key i) :
    ∃ response n c, .command 0 key response n ∈ (Script.ofSource source).statements ∧
      (ofSource source).tree.commands[i]? = some c ∧
      (Statement.command 0 key response n).command? = some c := by
  obtain ⟨c, hc, hlevel, rfl⟩ := h
  obtain ⟨s, hs, hcommand⟩ := exists_statement_of_mem_commands (List.mem_of_getElem? hc)
  obtain ⟨text, rfl, htext⟩ := Statement.command?_eq_some_iff.mp hcommand
  have hkey : c.key = text := Trigger.source_ofText htext
  rw [hlevel, ← hkey] at hs hcommand
  exact ⟨c.response, c.line, c, hs, hc, hcommand⟩

/-- A root has the trigger that is made from its key. -/
theorem ofText_of_isRoot {source key : String} {i : CommandId}
    (h : (ofSource source).tree.IsRoot key i) :
    ∃ c, (ofSource source).tree.commands[i]? = some c ∧ Trigger.ofText key = .ok c.trigger := by
  obtain ⟨response, n, c, -, hc, hcommand⟩ := exists_statement_of_isRoot h
  obtain ⟨text, hs, htext⟩ := Statement.command?_eq_some_iff.mp hcommand
  obtain ⟨-, rfl, -, -⟩ := Statement.command.inj hs
  exact ⟨c, hc, htext⟩

theorem acceptAlike_of_isRoot {source key : String} {i j : CommandId}
    (hi : (ofSource source).tree.IsRoot key i) (hj : (ofSource source).tree.IsRoot key j) :
    (ofSource source).tree.AcceptAlike i j := by
  obtain ⟨c, hc, ht⟩ := ofText_of_isRoot hi
  obtain ⟨c', hc', ht'⟩ := ofText_of_isRoot hj
  have htrigger : c.trigger = c'.trigger := Except.ok.inj (ht.symm.trans ht')
  exact ⟨c, c', hc, hc', htrigger, Command.bindings?_eq_none_iff htrigger⟩

open Text in
/-- The trigger of a text tells the text again and is determined by what the text is. So a root
is declared with its key for a trigger, roots of one key accept the same inputs in every store,
and for a displaced root there is a registered one that accepts the same. -/
theorem ofSource_keys_agree :
    (∀ text t, Trigger.ofText text = .ok t → t.source = text ∧
      (∀ name, t = .reference name ↔ text.toList = '~' :: name.toList ∧ IsName name.toList) ∧
      (∀ s, t = .wildcard s ↔
        s = text ∧ (∀ name, t ≠ .reference name) ∧ IsWordOf ['_'] text.toList) ∧
      ∀ s, t = .literal s ↔
        s = text ∧ (∀ name, t ≠ .reference name) ∧ ¬ IsWordOf ['_'] text.toList) ∧
    ∀ source,
      let statements := (Script.ofSource source).statements
      let tree := (ofSource source).tree
      (∀ key i, tree.IsRoot key i → ∃ response n, .command 0 key response n ∈ statements ∧
        tree.commands[i]? = (Statement.command 0 key response n).command?) ∧
      (∀ key i j, tree.IsRoot key i → tree.IsRoot key j → tree.AcceptAlike i j) ∧
      ∀ i, tree.Displaced i → ∃ r ∈ tree.roots, tree.AcceptAlike i r := by
  refine ⟨fun text t h => ?_, fun source => ⟨fun key i h => ?_,
    fun _ _ _ => acceptAlike_of_isRoot, ?_⟩⟩
  · have hshape := Trigger.shape_ofText h
    exact ⟨Trigger.source_ofText h, fun _ => hshape.eq_reference_iff,
      fun _ => hshape.eq_wildcard_iff, fun _ => hshape.eq_literal_iff⟩
  · obtain ⟨response, n, c, hs, hc, hcommand⟩ := exists_statement_of_isRoot h
    exact ⟨response, n, hs, hc.trans hcommand.symm⟩
  · rintro i ⟨key, hi, -⟩
    obtain ⟨r, hr⟩ := hi.exists_lastRoot
    have hroot : r ∈ (ofSource source).tree.roots :=
      Tree.mem_roots.mpr ⟨key, ((linked_ofSource source).entries key r).mpr hr⟩
    exact ⟨r, hroot, acceptAlike_of_isRoot hi hr.1⟩

end Compiled

end ScriptedDialog
