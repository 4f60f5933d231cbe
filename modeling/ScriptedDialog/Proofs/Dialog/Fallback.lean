import ScriptedDialog.Proofs.Dialog.Automaton
import ScriptedDialog.Proofs.Dialog.Variables
import ScriptedDialog.Proofs.Trigger.OwnText
import ScriptedDialog.Proofs.Trigger.Shapes

/-! Roots are always a fallback. The roots are tried in every turn, whatever the context is,
so an input that a registered root accepts is answered by some command. A root accepts the
text of its own trigger, if that is a literal or a pattern, and it accepts every input once
its trigger refers to a scalar, which then stays one. -/

namespace ScriptedDialog

open Text

/-! ### Triggers as they are written -/

theorem Script.Statement.not_isBlank_of_head?_trigger {line : SourceLine} {level n : Nat}
    {trigger response : String} (h : ofLine line = .ok (.command level trigger response n)) :
    ∀ c ∈ trigger.toList.head?, isBlank c = false := by
  have hr := ofLine_reading line
  rw [h] at hr
  cases hr with
  | command =>
    intro c hc
    rw [String.toList_ofList] at hc
    exact not_isBlank_of_head?_trim hc

/-- The trigger of a command begins with no blank. -/
theorem Compiled.not_isBlank_of_head?_source {source : String} {c : Command}
    (h : c ∈ (ofSource source).tree.commands) :
    ∀ d ∈ c.trigger.source.toList.head?, isBlank d = false := by
  obtain ⟨s, hs, hc⟩ := exists_statement_of_mem_commands h
  obtain ⟨line, -, hline⟩ := Script.mem_statements.mp hs
  obtain ⟨text, rfl, htext⟩ := Script.Statement.command?_eq_some_iff.mp hc
  rw [Trigger.source_ofText htext]
  exact Script.Statement.not_isBlank_of_head?_trigger hline

namespace Dialog

open Automaton

variable {d : Dialog}

/-! ### Inputs that a root accepts -/

/-- The context may find another command for an input that a root accepts, but it does not
hide the root. -/
theorem turn_ne_none_of_root {input : String} {id : CommandId} {b : Bindings}
    (hid : id ∈ d.tree.roots) (h : AcceptsAt d.tree d.store input id b) :
    (d.turn input).1 ≠ .ok none := by
  have hanswer : d.answer? input ≠ none := by
    rw [answer?_eq_firstMatch?]
    exact fun hnone => firstMatch?_eq_none_iff.mp hnone id (List.mem_append_right _ hid) b h
  have ht := d.turn_spec input
  generalize d.turn input = t at ht ⊢
  cases ht with
  | unmatched hnone => exact absurd hnone hanswer
  | failed | answered => nofun

theorem exists_get?_of_mem_roots (h : d.tree.Linked) {id : CommandId} (hid : id ∈ d.tree.roots) :
    ∃ node, d.tree.get? id = some node := by
  obtain ⟨key, hkey⟩ := h.isRoot_of_mem_roots hid
  exact Tree.exists_get? hkey.lt_size

/-- In every dialog that a script leads to, every registered root is there. No turn in which
the text of its trigger is said is without an answer, if that is a literal or a pattern, and
no turn at all once it refers to a variable that is a scalar. -/
theorem ofSource_roots_fallback (source : String) (g : Generator) (moves : List Move) :
    let d := (ofSource source g).afterAll moves
    ∀ id ∈ d.tree.roots, ∃ node, d.tree.get? id = some node ∧
      (∀ text, node.trigger = .literal text ∨ node.trigger = .wildcard text →
        (d.turn text).1 ≠ .ok none) ∧
      ∀ name value, node.trigger = .reference name → d.store.get? name = some (.scalar value) →
        ∀ later input, ((d.afterAll later).turn input).1 ≠ .ok none := by
  intro d id hid
  have htree : d.tree = (Compiled.ofSource source).tree := tree_afterAll _ moves
  obtain ⟨node, hn⟩ := exists_get?_of_mem_roots (htree ▸ Compiled.linked_ofSource source) hid
  refine ⟨node, hn, ?_, ?_⟩
  · rintro text (ht | ht)
    · exact turn_ne_none_of_root hid ⟨node, hn, .literal ht⟩
    · have hcommand : node.toCommand ∈ (Compiled.ofSource source).tree.commands := by
        rw [← htree]
        exact Tree.mem_commands_of_get? hn
      have hhead := Compiled.not_isBlank_of_head?_source hcommand
      rw [ht] at hhead
      obtain ⟨captures, hc⟩ := Option.ne_none_iff_exists'.mp (Trigger.wildcardCaptures?_self hhead)
      exact turn_ne_none_of_root hid ⟨node, hn, .pattern ht hc⟩
  · intro name value ht hv later input
    obtain ⟨value', hv'⟩ : ∃ value', (d.afterAll later).store.get? name = some (.scalar value') :=
      scalar_afterAll hv
    rw [← tree_afterAll d later] at hid hn
    exact turn_ne_none_of_root hid ⟨node, hn, .scalar ht hv'⟩

end Dialog

end ScriptedDialog
