import ScriptedDialog.Compiled
import ScriptedDialog.Proofs.Command.Links

/-! Compiling a script is building a tree from those of its commands whose triggers
can be used, in the order of the script. What holds of every tree that is built
holds of the trees of scripts. -/

namespace ScriptedDialog

/-- The command that a statement declares, if its trigger can be used. -/
def Script.Statement.command? : Script.Statement → Option Command
  | .declaration .. => none
  | .command level trigger response line =>
    match Trigger.ofText trigger with
    | .error _ => none
    | .ok trigger => some ⟨level, trigger, response, line⟩

theorem Script.Statement.command?_eq_some_iff {s : Script.Statement} {c : Command} :
    s.command? = some c ↔ ∃ text, s = .command c.level text c.response c.line ∧
      Trigger.ofText text = .ok c.trigger := by
  constructor
  · intro h
    unfold command? at h
    split at h
    · cases h
    · next level text response line =>
      split at h
      · cases h
      · next t ht =>
        cases h
        exact ⟨text, rfl, ht⟩
  · rintro ⟨text, rfl, ht⟩
    simp only [command?, ht]

namespace Assembly

open Script

variable {a : Assembly}

theorem hierarchy_add_of_none {s : Statement} (h : s.command? = none) :
    (a.add s).hierarchy = a.hierarchy := by
  cases s with
  | declaration => rfl
  | command level trigger response line =>
    cases ht : Trigger.ofText trigger with
    | ok trigger => simp [Statement.command?, ht] at h
    | error fault =>
      simp only [add, addCommand, ht]
      rfl

theorem hierarchy_add_of_some (hs : a.hierarchy.Sound) {s : Statement} {c : Command}
    (h : s.command? = some c) :
    ∃ place, a.hierarchy.add c = .ok ((a.add s).hierarchy, place) := by
  obtain ⟨text, rfl, ht⟩ := Statement.command?_eq_some_iff.mp h
  obtain ⟨k, place, hadd, -⟩ := Hierarchy.add_spec hs c
  refine ⟨place, ?_⟩
  simp only [add, addCommand, ht, hadd, bind, pure, Except.bind, Except.pure]

/-- The hierarchy of a script is that of its commands with usable triggers. -/
theorem hierarchy_addAll (hs : a.hierarchy.Sound) (statements : List Statement) :
    ∃ places, a.hierarchy.addAll (statements.filterMap (·.command?)) =
      .ok ((a.addAll statements).hierarchy, places) := by
  induction statements generalizing a with
  | nil => exact ⟨[], rfl⟩
  | cons s later ih =>
    cases hc : s.command? with
    | none =>
      have hsame := @hierarchy_add_of_none a s hc
      rw [List.filterMap_cons_none hc, ← hsame]
      exact ih (hsame ▸ hs)
    | some c =>
      obtain ⟨place, hadd⟩ := hierarchy_add_of_some hs hc
      obtain ⟨k, place', hadd', -, hk⟩ := Hierarchy.add_spec hs c
      rw [hadd] at hadd'
      cases hadd'
      obtain ⟨places, hall⟩ := ih hk
      rw [List.filterMap_cons_some hc]
      exact ⟨_, Hierarchy.addAll_cons_of_ok hadd hall⟩

end Assembly

/-- What every addition of a command preserves holds of the trees of scripts. -/
theorem Compiled.tree_induction {P : Tree → Prop} (empty : P .empty)
    (step : ∀ h c k place, Hierarchy.Added h c k place → P h.tree → P k.tree) (source : String) :
    P (ofSource source).tree := by
  obtain ⟨places, hall⟩ := @Assembly.hierarchy_addAll .empty Hierarchy.sound_empty
    (Script.ofSource source).statements
  exact Hierarchy.addAll_induction step Hierarchy.sound_empty empty hall

/-- Every command of the tree is what a statement declares. -/
theorem Compiled.exists_statement_of_mem_commands {source : String} {c : Command}
    (h : c ∈ (ofSource source).tree.commands) :
    ∃ s ∈ (Script.ofSource source).statements, s.command? = some c := by
  obtain ⟨places, hall⟩ := @Assembly.hierarchy_addAll .empty Hierarchy.sound_empty
    (Script.ofSource source).statements
  obtain ⟨k, places', hall', -, -, hcommands, -⟩ := Hierarchy.addAll_spec Hierarchy.sound_empty
    ((Script.ofSource source).statements.filterMap (·.command?))
  cases hall.symm.trans hall'
  have hc : c ∈ Hierarchy.empty.tree.commands ++
      Hierarchy.placed ((Script.ofSource source).statements.filterMap (·.command?)) places :=
    hcommands ▸ h
  rcases List.mem_append.mp hc with hempty | hplaced
  · cases hempty
  · exact List.mem_filterMap.mp (Hierarchy.mem_of_mem_placed hplaced)

theorem Compiled.linked_ofSource (source : String) : (ofSource source).tree.Linked :=
  tree_induction Tree.linked_empty (fun _ _ _ _ ha => ha.linked) source

end ScriptedDialog
