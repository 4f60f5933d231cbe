import ScriptedDialog.Proofs.Compiled.Lines
import ScriptedDialog.Proofs.Script.Appending

/-! Loading is incremental. What is appended to a source after its last line end changes
nothing of what the source has given so far: the commands stay where they are and at most
get more children, the roots keep their places, the diagnostics come first, and a variable
has another value only if it is declared again. -/

namespace ScriptedDialog

open Script

/-! ### Trees -/

namespace Tree

/-- The tree `u` goes on from the tree `t`: it has all its commands, and the places of its
roots before all others. -/
structure Continues (t u : Tree) : Prop where
  commands : t.Extends u
  roots : t.rootEntries.map (·.1) <+: u.rootEntries.map (·.1)

theorem Continues.refl (t : Tree) : t.Continues t := ⟨.refl t, List.prefix_rfl⟩

theorem Continues.trans {t u v : Tree} (h : t.Continues u) (h' : u.Continues v) :
    t.Continues v :=
  ⟨h.commands.trans h'.commands, h.roots.trans h'.roots⟩

end Tree

theorem Hierarchy.Added.continues {h k : Hierarchy} {c : Command} {place : Option CommandId}
    (ha : h.Added c k place) : h.tree.Continues k.tree where
  commands := ha.extends
  roots := by
    cases ha with
    | root _ _ roots =>
      rw [roots, Tree.keys_enter]
      split
      · exact List.prefix_rfl
      · exact List.prefix_append _ _
    | child _ _ _ roots => exact roots ▸ List.prefix_rfl
    | orphan => exact List.prefix_rfl

namespace Assembly

theorem tree_continues_addAll {a : Assembly} (ha : a.Sound) (statements : List Statement) :
    a.hierarchy.tree.Continues (a.addAll statements).hierarchy.tree := by
  obtain ⟨places, hall⟩ := hierarchy_addAll ha.hierarchy statements
  exact Hierarchy.addAll_induction (P := a.hierarchy.tree.Continues)
    (fun _ _ _ _ hadded h => h.trans hadded.continues) ha.hierarchy (.refl _) hall

/-- The lines of a script have the outcomes that they have in the script up to them. -/
theorem outcomes_append (a : Assembly) (before after : List SourceLine) :
    a.outcomes (before ++ after) =
      a.outcomes before ++ (a.addAll (ofLines before).statements).outcomes after := by
  induction before generalizing a with
  | nil => rfl
  | cons line later ih =>
    rw [List.cons_append, outcomes, outcomes, ih, addAll_ofLines_cons, List.cons_append]

end Assembly

namespace Compiled

/-! ### Scripts -/

/-- The script `after` goes on from the script `before`, with declarations of some names. -/
structure Continues (before after : Compiled) (declared : String → Prop) : Prop where
  tree : before.tree.Continues after.tree
  diagnostics : before.diagnostics <+: after.diagnostics
  defined : ∀ name, before.store.get? name ≠ none → after.store.get? name ≠ none
  kept : ∀ name, ¬ declared name → after.store.get? name = before.store.get? name

section
variable {s : String} (h : Text.Ended s.toList) (t : String)
include h

theorem tree_append : (ofSource s).tree.Continues (ofSource (s ++ t)).tree := by
  show (Assembly.empty.addAll (ofLines (instructionLines s)).statements).hierarchy.tree.Continues
    (Assembly.empty.addAll (ofLines (instructionLines (s ++ t))).statements).hierarchy.tree
  rw [instructionLines_append h, Assembly.addAll_ofLines_append]
  exact Assembly.tree_continues_addAll (Assembly.sound_addAll Assembly.sound_empty _) _

theorem diagnostics_append : (ofSource s).diagnostics <+: (ofSource (s ++ t)).diagnostics := by
  rw [diagnostics_ofSource, diagnostics_ofSource, outcomes, outcomes, instructionLines_append h,
    Assembly.outcomes_append, List.filterMap_append]
  exact List.prefix_append _ _

/-- The variables are those of the source, and then those that the appended text declares. -/
theorem store_append :
    (ofSource (s ++ t)).store = (ofSource s).store.setAll (declarations (instructionLines t)) := by
  have hall : (ofSource (s ++ t)).store = Store.ofList (declarations (instructionLines (s ++ t))) :=
    store_ofSource (s ++ t)
  rw [hall, instructionLines_append h, declarations_append, declarations_moved, Store.ofList,
    Store.setAll_append]
  exact congrArg (Store.setAll · _) (store_ofSource s).symm

/-- If all lines of a source are ended, then with a text appended to it every command keeps
its place, its parent and the children that it has first, every root keeps its place among
the roots, the diagnostics are the first ones, and every variable is defined and has the
same value unless the text declares it. -/
theorem ofSource_append_continues :
    (ofSource s).Continues (ofSource (s ++ t)) (Script.ofSource t).Declares where
  tree := tree_append h t
  diagnostics := diagnostics_append h t
  defined name hname := by
    rw [store_append h t]
    exact Store.get?_setAll_ne_none (Or.inr hname)
  kept name hname := by
    have hnone : Store.find? name (declarations (instructionLines t)).reverse = none := by
      rw [Option.eq_none_iff_forall_ne_some]
      intro value hv
      have hmem := List.mem_reverse.mp (Store.mem_of_find?_eq_some hv)
      exact hname (declares_of_mem_declarations hmem)
    rw [store_append h t, Store.get?_setAll, Store.view, hnone, Option.none_or]

end

/-- A later child, a later root of the same trigger, a variable that is declared again and
lines that are none leave all that was there in its place. -/
theorem ofSource_append_continues_redefined :
    let s := "u: (a) : b\r\nu1: (c) : d\n~x: 1\nbad\n"
    let t := "u1: (e) : f\nu: (a) : g\n~x: [y]\nworse"
    Text.Ended s.toList ∧
      (ofSource s).Continues (ofSource (s ++ t)) (Script.ofSource t).Declares :=
  ⟨by decide, ofSource_append_continues (by decide) _⟩

end Compiled

end ScriptedDialog
