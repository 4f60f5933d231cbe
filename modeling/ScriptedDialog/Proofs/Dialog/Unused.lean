import ScriptedDialog.Proofs.Dialog.Automaton
import ScriptedDialog.Proofs.Dialog.Variables
import ScriptedDialog.Proofs.Template.References

/-! Variables that no command uses. A command uses the names to which its trigger and its
response refer. What a dialog looks up and what it assigns are used names, so dialogs that
differ in other variables have the same conversations, and those variables stay as they
are. -/

namespace ScriptedDialog

open Template

/-! ### Used names -/

/-- The trigger is a reference to the variable, or the response refers to it. -/
def Command.Uses (c : Command) (name : String) : Prop :=
  c.trigger = .reference name ∨ RefersTo c.response name

def Tree.Uses (t : Tree) (name : String) : Prop := ∃ c ∈ t.commands, c.Uses name

/-- The names that a command uses, some of them more than once. -/
def Command.usedNames (c : Command) : List String :=
  (match c.trigger with
    | .reference name => [name]
    | _ => []) ++ mentions c.response ++ placeholders c.response

theorem Command.uses_iff {c : Command} {name : String} : c.Uses name ↔ name ∈ c.usedNames := by
  rw [Uses, usedNames, refersTo_iff, List.append_assoc, List.mem_append, List.mem_append]
  refine or_congr_left ?_
  cases c.trigger <;> simp [eq_comm]

theorem Tree.uses_iff {t : Tree} {name : String} :
    t.Uses name ↔ name ∈ t.commands.flatMap (·.usedNames) := by
  simp only [Uses, Command.uses_iff, List.mem_flatMap]

theorem Tree.uses_of_get? {t : Tree} {id : CommandId} {node : Node} {name : String}
    (h : t.get? id = some node) (hname : node.toCommand.Uses name) : t.Uses name :=
  ⟨_, mem_commands_of_get? h, hname⟩

/-! ### Lookups -/

namespace Template

variable {lookup lookup' : Lookup}

theorem fill_congr {piece : Piece} (h : ∀ sigil name, piece = .reference sigil name →
      lookup (String.ofList name) = lookup' (String.ofList name)) (g : Generator) :
    piece.fill lookup g = piece.fill lookup' g := by
  cases piece with
  | text cs => rfl
  | reference sigil name => simp only [Piece.fill, h sigil name rfl]

theorem fillAll_congr {ps : List Piece} (h : ∀ sigil name, .reference sigil name ∈ ps →
      lookup (String.ofList name) = lookup' (String.ofList name)) (g : Generator) :
    fillAll lookup ps g = fillAll lookup' ps g := by
  induction ps generalizing g with
  | nil => rfl
  | cons p later ih =>
    have hp := fill_congr (fun sigil name he => h sigil name (he ▸ List.mem_cons_self)) g
    have hlater := ih fun sigil name hm => h sigil name (List.mem_cons_of_mem _ hm)
    simp only [fillAll, hp, hlater]

theorem list?_congr {template : String}
    (h : ∀ name, RefersTo template name → lookup name = lookup' name) :
    list? template lookup = list? template lookup' := by
  have hany : ((mentions template).any fun name => (lookup name).isSome) =
      (mentions template).any fun name => (lookup' name).isSome := by
    rw [Bool.eq_iff_iff, List.any_eq_true, List.any_eq_true]
    refine exists_congr fun name => and_congr_right fun hm => ?_
    rw [h name (refersTo_iff.mpr (Or.inl hm))]
  rw [list?, list?, hany]

/-- Resolving looks up the names to which the template refers, and nothing else. -/
theorem resolve_congr {template : String}
    (h : ∀ name, RefersTo template name → lookup name = lookup' name) (g : Generator) :
    resolve template lookup g = resolve template lookup' g := by
  have hfill := @fillAll_congr lookup lookup' (pieces template.toList) (fun sigil name hm =>
    h _ ⟨sigil, by rw [String.toList_ofList]; exact mem_pieces_iff.mp hm⟩) g
  simp only [resolve, list?_congr h, hfill]

end Template

/-- A trigger looks up the name to which it refers, and nothing else. -/
theorem Command.bindings?_congr {c : Command} {s s' : Store}
    (h : ∀ name, c.Uses name → s.get? name = s'.get? name) (input : String) :
    c.bindings? s input = c.bindings? s' input := by
  unfold bindings?
  split
  · rfl
  · next name ht => rw [h name (Or.inl ht)]
  · rfl

theorem Command.refersTo_of_bindings? {c : Command} {store : Store} {input name text : String}
    {b : Bindings} (h : c.bindings? store input = some b) (hb : (name, text) ∈ b) :
    RefersTo c.response name := by
  cases bindings?_eq_some_iff.mp h with
  | literal | scalar | item => cases hb
  | pattern trigger matched => exact refersTo_iff.mpr (Or.inr (List.of_mem_zip hb).1)

/-! ### Conversations -/

namespace Dialog

/-- The dialogs differ at most in variables that no command uses, and in their diagnostics. -/
structure Alike (d e : Dialog) : Prop where
  tree : d.tree = e.tree
  context : d.context = e.context
  generator : d.generator = e.generator
  store : ∀ name, d.tree.Uses name → d.store.get? name = e.store.get? name

section
variable {d e : Dialog} (h : d.Alike e)
include h

theorem Alike.firstMatch?_eq (input : String) (ids : List CommandId) :
    d.firstMatch? input ids = e.firstMatch? input ids := by
  induction ids with
  | nil => rfl
  | cons id ids ih =>
    have hb : (d.tree.get? id).bind (·.bindings? d.store input) =
        (e.tree.get? id).bind (·.bindings? e.store input) := by
      rw [← h.tree]
      cases hn : d.tree.get? id with
      | none => rfl
      | some node =>
        exact Command.bindings?_congr (fun name hname => h.store name (Tree.uses_of_get? hn hname))
          input
    rw [firstMatch?, firstMatch?, hb, ih]

theorem Alike.answer?_eq (input : String) : d.answer? input = e.answer? input := by
  have hcontextual : d.contextual = e.contextual := by
    rw [contextual, contextual, h.context, h.tree]
  rw [answer?, answer?, h.firstMatch?_eq, h.firstMatch?_eq, hcontextual, h.tree]

theorem Alike.view_eq {name : String} (hname : d.tree.Uses name)
    (pending : List (String × Value)) :
    d.store.view pending name = e.store.view pending name := by
  rw [Store.view, Store.view, h.store name hname]

theorem Alike.turn (input : String) :
    (d.turn input).1 = (e.turn input).1 ∧ (d.turn input).2.Alike (e.turn input).2 := by
  have ha := h.answer?_eq input
  cases hd : d.answer? input with
  | none =>
    rw [turn_unmatched hd, turn_unmatched (ha.symm.trans hd)]
    exact ⟨rfl, h⟩
  | some answer =>
    obtain ⟨id, b⟩ := answer
    obtain ⟨-, node, hn, -⟩ := answer?_eq_some hd
    have hn' : e.tree.get? id = some node := h.tree ▸ hn
    have hr : resolve node.response (d.store.view b.assignments) d.generator =
        resolve node.response (e.store.view b.assignments) e.generator := by
      rw [← h.generator]
      exact resolve_congr (fun name hname => h.view_eq (Tree.uses_of_get? hn (Or.inr hname)) _) _
    simp only [Dialog.turn, hd, hn, ha.symm.trans hd, hn', ← hr]
    cases resolve node.response (d.store.view b.assignments) d.generator with
    | mk r g =>
      cases r with
      | error f => exact ⟨rfl, h.tree, h.context, rfl, h.store⟩
      | ok reply =>
        refine ⟨rfl, h.tree, rfl, rfl, fun name hname => ?_⟩
        show (d.store.setAll b.assignments).get? name = (e.store.setAll b.assignments).get? name
        rw [Store.get?_setAll, Store.get?_setAll]
        exact h.view_eq hname _

end

/-- The steps have the same result and lead to dialogs that are alike. -/
structure Step.Alike (s t : Step) : Prop where
  move : s.move = t.move
  result : s.result? = t.result?
  after : s.after.Alike t.after

theorem Alike.step {d e : Dialog} (h : d.Alike e) (m : Move) : Step.Alike ⟨d, m⟩ ⟨e, m⟩ := by
  cases m with
  | reset => exact ⟨rfl, rfl, h.tree, rfl, h.generator, h.store⟩
  | say input =>
    obtain ⟨hresult, hafter⟩ := h.turn input
    exact ⟨rfl, congrArg some hresult, hafter⟩

theorem Alike.steps {d e : Dialog} (h : d.Alike e) (moves : List Move) :
    List.Forall₂ Step.Alike (d.steps moves) (e.steps moves) := by
  induction moves generalizing d e with
  | nil => exact .nil
  | cons m moves ih =>
    have hm := h.step m
    exact .cons hm (ih hm.after)

/-! ### Variables that stay as they are -/

theorem uses_of_bound {s : Step} {name text : String} (h : (name, text) ∈ s.bound) :
    s.before.tree.Uses name := by
  obtain ⟨id, b, ha, hb⟩ := Step.answer?_of_bound h
  obtain ⟨d, m⟩ := s
  cases m with
  | reset => cases ha
  | say input =>
    obtain ⟨-, node, hn, hbindings⟩ := answer?_eq_some ha
    exact Tree.uses_of_get? hn (Or.inr (Command.refersTo_of_bindings? hbindings hb))

theorem get?_after_of_unused {d : Dialog} {name : String} (h : ¬ d.tree.Uses name) (m : Move) :
    (d.after m).store.get? name = d.store.get? name := by
  rw [store_after]
  refine Store.get?_setAll_of_not_mem fun value hm => h ?_
  obtain ⟨text, hb, -⟩ := mem_assignments.mp hm
  exact uses_of_bound hb

theorem get?_afterAll_of_unused {d : Dialog} {name : String} (h : ¬ d.tree.Uses name)
    (moves : List Move) : (d.afterAll moves).store.get? name = d.store.get? name := by
  induction moves generalizing d with
  | nil => rfl
  | cons m moves ih =>
    have hlater := @ih (d.after m) (by rwa [tree_after])
    rw [get?_after_of_unused h] at hlater
    exact hlater

/-- Variables that the script does not use have no part in a conversation. From stores that
agree on the names that it uses, turns have the same results and lead to the same contexts and
generators, and the stores keep agreeing on those names; every other variable stays as it is. -/
theorem ofCompiled_unused (script : Compiled) (s s' : Store) (g : Generator)
    (h : ∀ name, script.tree.Uses name → s.get? name = s'.get? name) (moves : List Move) :
    let d := ofCompiled { script with store := s } g
    let e := ofCompiled { script with store := s' } g
    List.Forall₂ Step.Alike (d.steps moves) (e.steps moves) ∧
    ∀ name, ¬ script.tree.Uses name →
      (d.afterAll moves).store.get? name = s.get? name ∧
        (e.afterAll moves).store.get? name = s'.get? name := by
  intro d e
  have halike : d.Alike e := ⟨rfl, rfl, rfl, h⟩
  exact ⟨halike.steps moves, fun name hname =>
    ⟨@get?_afterAll_of_unused d name hname moves, @get?_afterAll_of_unused e name hname moves⟩⟩

theorem ofCompiled_unused_spare :
    let script := Compiled.ofSource "~spare: 1\n~b: [x y]\nu: (_ is _) : $a of ~b\n"
    let s := script.store
    let s' := s.set "spare" (.list ["z"])
    let moves := [.say "this is it", .reset, .say "what"]
    let d := ofCompiled { script with store := s } (.ofSeed 1)
    let e := ofCompiled { script with store := s' } (.ofSeed 1)
    (∀ name, script.tree.Uses name → s.get? name = s'.get? name) ∧
    ¬ script.tree.Uses "spare" ∧ s.get? "spare" ≠ s'.get? "spare" ∧
    List.Forall₂ Step.Alike (d.steps moves) (e.steps moves) ∧
    (d.afterAll moves).store.get? "spare" = some (.scalar "1") ∧
    (e.afterAll moves).store.get? "spare" = some (.list ["z"]) := by
  intro script s s' moves d e
  have hused : ∀ name ∈ script.tree.commands.flatMap (·.usedNames), s.get? name = s'.get? name := by
    decide +kernel
  have hspare : "spare" ∉ script.tree.commands.flatMap (·.usedNames) := by decide +kernel
  have hagree : ∀ name, script.tree.Uses name → s.get? name = s'.get? name :=
    fun name hname => hused name (Tree.uses_iff.mp hname)
  have hunused : ¬ script.tree.Uses "spare" := fun hname => hspare (Tree.uses_iff.mp hname)
  obtain ⟨hsteps, hkept⟩ := ofCompiled_unused script s s' (.ofSeed 1) hagree moves
  obtain ⟨hd, he⟩ := hkept "spare" hunused
  exact ⟨hagree, hunused, by decide +kernel, hsteps, hd.trans (by decide +kernel),
    he.trans (by decide +kernel)⟩

end Dialog

end ScriptedDialog
