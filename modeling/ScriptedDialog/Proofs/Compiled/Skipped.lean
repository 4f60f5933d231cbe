import Mathlib.Data.List.Basic
import ScriptedDialog.Proofs.Compiled.Lines
import ScriptedDialog.Proofs.Script.Emptying

/-! Skipped lines are inert. A line that is skipped adds its diagnostic and changes nothing
else, and what has been reported has no influence on the lines after it. So a source from
which all skipped lines are taken out gives the same tree and the same variables, and what
is left to report are the roots that take the place of others. -/

namespace ScriptedDialog

open Script

/-! ### Without reports -/

namespace Hierarchy

/-- The hierarchy without what has been reported. -/
def silent (h : Hierarchy) : Hierarchy := { h with diagnostics := [] }

theorem add_eq_add_silent (h : Hierarchy) (c : Command) :
    h.add c = (h.silent.add c).map fun r => (r.1.after h.diagnostics, r.2) := by
  have hafter : h.silent.after h.diagnostics = h := by simp [silent, after]
  rw [← add_after, hafter]

end Hierarchy

namespace Assembly

/-- The assembly without what has been reported. -/
def silent (a : Assembly) : Assembly := { a with refused := [], hierarchy := a.hierarchy.silent }

theorem tree_silent (a : Assembly) : a.silent.hierarchy.tree = a.hierarchy.tree := rfl

theorem store_silent (a : Assembly) : a.silent.store = a.store := rfl

theorem silent_add (a : Assembly) (s : Statement) : (a.silent.add s).silent = (a.add s).silent := by
  cases s with
  | declaration => rfl
  | command level trigger response n =>
    cases ht : Trigger.ofText trigger with
    | error fault =>
      simp only [add, addCommand, ht]
      rfl
    | ok trigger =>
      have hadd := a.hierarchy.add_eq_add_silent ⟨level, trigger, response, n⟩
      have hsilent : a.silent.hierarchy = a.hierarchy.silent := rfl
      simp only [add, addCommand, ht, hadd, hsilent, bind, Except.bind]
      cases a.hierarchy.silent.add ⟨level, trigger, response, n⟩ <;> rfl

theorem silent_addLine (a : Assembly) (line : SourceLine) :
    (a.silent.addLine line).silent = (a.addLine line).silent := by
  unfold addLine
  cases Statement.ofLine line with
  | error => rfl
  | ok s => exact a.silent_add s

theorem outcome_silent (a : Assembly) (line : SourceLine) :
    a.silent.outcome line = a.outcome line := rfl

section
variable {a b : Assembly}

theorem silent_addLine_eq (h : b.silent = a.silent) (line : SourceLine) :
    (b.addLine line).silent = (a.addLine line).silent := by
  rw [← silent_addLine b, h, silent_addLine]

theorem outcome_eq (h : b.silent = a.silent) (line : SourceLine) :
    b.outcome line = a.outcome line := by
  rw [← outcome_silent b, h, outcome_silent]

/-- A line that is skipped is only reported. -/
theorem Taken.silent_eq {line : SourceLine} {d : Diagnostic} (ha : a.Sound)
    (h : a.Taken line b (.skipped d)) : b.silent = a.silent := by
  generalize ho : LineOutcome.skipped d = o at h
  cases h with
  | declared => cases ho
  | malformed | refused => rfl
  | added _ _ hk =>
    unfold Hierarchy.outcome at ho
    cases hk with
    | root level =>
      rw [if_pos level] at ho
      cases ho
    | child level nearest =>
      rw [if_neg (Nat.ne_of_gt level), if_pos (ha.hierarchy.rooted nearest.levels_ne_nil)] at ho
      cases ho
    | orphan => rfl

/-- Without lines that are skipped the others have the same outcomes, and the end is the same
but for what is reported. -/
theorem outcomes_filter {keep : SourceLine → Bool} (ha : a.Sound) (hab : b.silent = a.silent)
    {lines : List SourceLine}
    (hkeep : ∀ p ∈ a.outcomes lines, keep p.1 = false → ∃ d, p.2 = .skipped d) :
    b.outcomes (lines.filter keep) = (a.outcomes lines).filter (fun p => keep p.1) ∧
      (b.addAll (ofLines (lines.filter keep)).statements).silent =
        (a.addAll (ofLines lines).statements).silent := by
  -- `a` takes every line and `b` the ones that are kept: all along they differ in reports only.
  induction lines generalizing a b with
  | nil => exact ⟨rfl, hab⟩
  | cons line later ih =>
    have ht := taken_spec ha line
    obtain ⟨hline, hlater⟩ := List.forall_mem_cons.mp hkeep
    rw [addAll_ofLines_cons, outcomes]
    cases hk : keep line with
    | false =>
      obtain ⟨d, hd⟩ : ∃ d, a.outcome line = .skipped d := hline hk
      have hsilent := (hd ▸ ht).silent_eq ha
      rw [List.filter_cons_of_neg (by simp [hk]), List.filter_cons_of_neg (by simp [hk])]
      exact ih (ht.sound ha) (hab.trans hsilent.symm) hlater
    | true =>
      obtain ⟨houtcomes, hend⟩ := ih (ht.sound ha) (silent_addLine_eq hab line) hlater
      rw [List.filter_cons_of_pos hk, List.filter_cons_of_pos (by exact hk), outcomes, houtcomes,
        outcome_eq hab, addAll_ofLines_cons]
      exact ⟨rfl, hend⟩

end

end Assembly

namespace LineOutcome

theorem At.code_ne {n : Nat} {d : Diagnostic} (h : At n (.skipped d)) :
    d.fault.code ≠ duplicateCode := by
  intro hcode
  have hmem := hcode ▸ h.2
  revert hmem
  decide

/-- The duplicates are what is reported of lines that are not skipped. -/
theorem At.filter_duplicates {n : Nat} {o : LineOutcome} (h : o.At n) :
    (if !o.skip?.isSome then o.diagnostic? else none) =
      o.diagnostic?.filter (·.fault.code = duplicateCode) := by
  cases o with
  | declared => rfl
  | placed c redefinition =>
    cases redefinition with
    | none => rfl
    | some d => simp [diagnostic?, skip?, Option.filter, (h.2 d rfl).2]
  | skipped d => simp [diagnostic?, skip?, Option.filter, h.code_ne]

end LineOutcome

namespace Compiled

/-- The assembly of all statements of a source. -/
def assembly (source : String) : Assembly :=
  Assembly.empty.addAll (Script.ofSource source).statements

theorem tree_ofSource (source : String) :
    (ofSource source).tree = (assembly source).hierarchy.tree := rfl

theorem store_ofSource_eq (source : String) : (ofSource source).store = (assembly source).store :=
  rfl

/-- A line has a diagnostic other than that of a duplicate. -/
def skips (script : Compiled) (n : Nat) : Bool :=
  script.diagnostics.any fun d => d.line = some n && d.fault.code ≠ LineOutcome.duplicateCode

theorem skips_ofSource {source : String} {line : SourceLine} {o : LineOutcome}
    (h : (line, o) ∈ outcomes source) : (ofSource source).skips line.number = o.skip?.isSome := by
  have hat : o.At line.number := at_of_mem source h
  have hskips : (ofSource source).skips line.number =
      ((ofSource source).diagnosticsAt line.number).any
        fun d => d.fault.code ≠ LineOutcome.duplicateCode := by
    rw [diagnosticsAt, List.any_filter]
    rfl
  rw [hskips, diagnosticsAt_ofSource h]
  cases o with
  | declared => rfl
  | placed c redefinition =>
    refine List.any_eq_false.mpr fun d hd => ?_
    simp [(hat.2 d (Option.mem_toList.mp hd)).2]
  | skipped d => simp [LineOutcome.diagnostic?, LineOutcome.skip?, hat.code_ne]

section
variable (source : String)

/-- The lines of a source that are not skipped. -/
def kept (line : SourceLine) : Bool := !(ofSource source).skips line.number

theorem skipped_of_not_kept {p : SourceLine × LineOutcome} (hp : p ∈ outcomes source)
    (h : kept source p.1 = false) : ∃ d, p.2 = .skipped d := by
  have hskips := skips_ofSource hp
  rw [kept, hskips] at h
  cases ho : p.2 with
  | declared | placed =>
    rw [ho] at h
    cases h
  | skipped d => exact ⟨d, rfl⟩

/-- A source in which every line with a diagnostic other than that of a duplicate is
emptied. -/
def withoutSkipped : String := emptied (ofSource source).skips source

/-- The emptied source has the outcomes of the lines that are kept, and its assembly is the
same but for what is reported. -/
theorem outcomes_withoutSkipped :
    outcomes (withoutSkipped source) = (outcomes source).filter (fun p => kept source p.1) ∧
      (assembly (withoutSkipped source)).silent = (assembly source).silent := by
  rw [outcomes, assembly, Script.ofSource, withoutSkipped, instructionLines_emptied]
  exact Assembly.outcomes_filter Assembly.sound_empty rfl fun p hp => skipped_of_not_kept source hp

/-- If every line with a diagnostic other than that of a duplicate is emptied, the tree and
the variables stay what they are, and of the diagnostics those of duplicates are left. -/
theorem ofSource_withoutSkipped :
    (ofSource (withoutSkipped source)).tree = (ofSource source).tree ∧
      (ofSource (withoutSkipped source)).store = (ofSource source).store ∧
      (ofSource (withoutSkipped source)).diagnostics =
        (ofSource source).diagnostics.filter (·.fault.code = LineOutcome.duplicateCode) := by
  obtain ⟨houtcomes, hsilent⟩ := outcomes_withoutSkipped source
  refine ⟨?_, ?_, ?_⟩
  · rw [tree_ofSource, tree_ofSource, ← Assembly.tree_silent, hsilent, Assembly.tree_silent]
  · rw [store_ofSource_eq, store_ofSource_eq, ← Assembly.store_silent, hsilent,
      Assembly.store_silent]
  · rw [diagnostics_ofSource, diagnostics_ofSource, houtcomes, List.filterMap_filter,
      List.filter_filterMap]
    apply List.filterMap_congr
    intro p hp
    have hat : p.2.At p.1.number := at_of_mem source hp
    rw [kept, skips_ofSource hp]
    exact hat.filter_duplicates

end

end Compiled

end ScriptedDialog
