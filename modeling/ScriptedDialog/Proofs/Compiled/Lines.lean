import Mathlib.Data.List.Pairwise
import ScriptedDialog.Proofs.Compiled.Outcomes
import ScriptedDialog.Proofs.Script.Declarations

/-! No line is lost and none counts twice. The diagnostics of a script are those of its
lines, in order, and so are the commands of its tree; a line has one of either at most,
so what a script shows of a line is what became of it. -/

namespace ScriptedDialog

open Script

/-! ### The order of diagnostics -/

namespace Compiled

theorem lineOrder_trans (a b c : Diagnostic) :
    lineOrder a b = true → lineOrder b c = true → lineOrder a c = true := by
  unfold lineOrder
  cases a.line <;> cases b.line <;> cases c.line <;> simp
  omega

theorem lineOrder_total (a b : Diagnostic) : (lineOrder a b || lineOrder b a) = true := by
  unfold lineOrder
  cases a.line <;> cases b.line <;> simp
  omega

/-- Of two diagnostics the first is of an earlier line. -/
def Before (a b : Diagnostic) : Prop := ∃ m n, a.line = some m ∧ b.line = some n ∧ m < n

theorem Before.lineOrder {a b : Diagnostic} (h : Before a b) : lineOrder a b = true := by
  obtain ⟨m, n, ha, hb, hlt⟩ := h
  simp [Compiled.lineOrder, ha, hb, Nat.le_of_lt hlt]

theorem Before.not_lineOrder {a b : Diagnostic} (h : Before a b) :
    ¬ Compiled.lineOrder b a = true := by
  obtain ⟨m, n, ha, hb, hlt⟩ := h
  simp [Compiled.lineOrder, ha, hb, hlt]

/-- Diagnostics of different lines have one order. -/
theorem mergeSort_eq {l m : List Diagnostic} (hp : l.Perm m) (hm : m.Pairwise Before) :
    l.mergeSort lineOrder = m := by
  have hperm := (List.mergeSort_perm l lineOrder).trans hp
  have hanti : ∀ a ∈ m, ∀ b ∈ m, lineOrder a b = true → lineOrder b a = true → a = b := by
    refine List.Pairwise.forall_of_forall_of_flip (fun _ _ _ _ => rfl) (hm.imp ?_) (hm.imp ?_)
    · intro a b h _ hba
      exact absurd hba h.not_lineOrder
    · intro a b h hba
      exact absurd hba h.not_lineOrder
  refine List.Perm.eq_of_pairwise ?_ (List.pairwise_mergeSort lineOrder_trans lineOrder_total l)
    (hm.imp Before.lineOrder) hperm
  intro a b ha hb
  exact hanti a (hperm.subset ha) b hb

/-! ### The lines of a source -/

/-- The instruction lines of a source, each with what becomes of it. -/
def outcomes (source : String) : List (SourceLine × LineOutcome) :=
  Assembly.empty.outcomes (instructionLines source)

section
variable (source : String)

theorem map_fst_outcomes : (outcomes source).map (·.1) = instructionLines source :=
  Assembly.map_fst_outcomes _ _

theorem commands_ofSource :
    (ofSource source).tree.commands = (outcomes source).filterMap (·.2.command?) :=
  Assembly.commands_addAll Assembly.sound_empty _

theorem pairwise_outcomes :
    (outcomes source).Pairwise fun p q => p.1.number < q.1.number := by
  have hlines := instructionLines_sorted source
  rw [← map_fst_outcomes source, List.pairwise_map] at hlines
  exact hlines

theorem at_of_mem {p : SourceLine × LineOutcome} (h : p ∈ outcomes source) : p.2.At p.1.number :=
  Assembly.at_of_mem_outcomes Assembly.sound_empty h

theorem exists_outcome {line : SourceLine} (h : line ∈ instructionLines source) :
    ∃ o, (line, o) ∈ outcomes source := by
  rw [← map_fst_outcomes source] at h
  obtain ⟨⟨_, o⟩, hp, rfl⟩ := List.mem_map.mp h
  exact ⟨o, hp⟩

theorem pairwise_commands :
    (ofSource source).tree.commands.Pairwise fun c e => c.line < e.line := by
  rw [commands_ofSource, List.pairwise_filterMap]
  refine (pairwise_outcomes source).imp_of_mem fun hp hq hlt c hc e he => ?_
  rw [(at_of_mem source hp).command hc, (at_of_mem source hq).command he]
  exact hlt

theorem pairwise_diagnostics :
    ((outcomes source).filterMap (·.2.diagnostic?)).Pairwise Before := by
  rw [List.pairwise_filterMap]
  refine (pairwise_outcomes source).imp_of_mem fun hp hq hlt c hc e he => ?_
  have hline := ((at_of_mem source hp).diagnostic hc).1
  exact ⟨_, _, hline, ((at_of_mem source hq).diagnostic he).1, hlt⟩

/-- The diagnostics of the stages are together those of the lines. -/
theorem diagnostics_ofSource :
    (ofSource source).diagnostics = (outcomes source).filterMap (·.2.diagnostic?) :=
  mergeSort_eq (Assembly.reports_addAll Assembly.sound_empty _) (pairwise_diagnostics source)

end

/-- The shown things of a line are those of its outcome. -/
theorem filter_shown {β : Type} {f : LineOutcome → Option β} {number : β → Option Nat}
    {os : List (SourceLine × LineOutcome)} (hs : os.Pairwise fun p q => p.1.number < q.1.number)
    (hf : ∀ p ∈ os, ∀ x, f p.2 = some x → number x = some p.1.number) {line : SourceLine}
    {o : LineOutcome} (h : (line, o) ∈ os) :
    (os.filterMap fun p => f p.2).filter (fun x => number x = some line.number) =
      (f o).toList := by
  induction os with
  | nil => cases h
  | cons p rest ih =>
    obtain ⟨hp, hrest⟩ := List.pairwise_cons.mp hs
    obtain ⟨hfp, hfrest⟩ := List.forall_mem_cons.mp hf
    rw [filterMap_cons_toList, List.filter_append]
    rcases List.mem_cons.mp h with rfl | hm
    · have hhead : (f o).toList.filter (fun x => number x = some line.number) = (f o).toList := by
        apply List.filter_eq_self.mpr
        intro x hx
        exact decide_eq_true (hfp x (Option.mem_toList.mp hx))
      have hlater : (rest.filterMap fun p => f p.2).filter
          (fun x => number x = some line.number) = [] := by
        apply List.filter_eq_nil_iff.mpr
        intro x hx
        obtain ⟨q, hq, hx⟩ := List.mem_filterMap.mp hx
        have hlt := hp q hq
        have hne : ¬ q.1.number = line.number := Nat.ne_of_gt hlt
        simp [hfrest q hq x hx, hne]
      rw [hhead, hlater, List.append_nil]
    · have hhead : (f p.2).toList.filter (fun x => number x = some line.number) = [] := by
        apply List.filter_eq_nil_iff.mpr
        intro x hx
        have hne : ¬ p.1.number = line.number := Nat.ne_of_lt (hp _ hm)
        simp [hfp x (Option.mem_toList.mp hx), hne]
      rw [hhead, List.nil_append, ih hrest hfrest hm]

/-! ### What a script shows of a line -/

/-- The commands that a line has given. -/
def commandsAt (script : Compiled) (n : Nat) : List Command :=
  script.tree.commands.filter (·.line = n)

/-- The diagnostics of a line. -/
def diagnosticsAt (script : Compiled) (n : Nat) : List Diagnostic :=
  script.diagnostics.filter (·.line = some n)

/-- The diagnostics that say why a line is skipped. -/
def skipsAt (script : Compiled) (n : Nat) : List Diagnostic :=
  (script.diagnosticsAt n).filter (·.fault.code ∈ LineOutcome.skipCodes)

section
variable {source : String} {line : SourceLine} {o : LineOutcome}

theorem commandsAt_ofSource (h : (line, o) ∈ outcomes source) :
    (ofSource source).commandsAt line.number = o.command?.toList := by
  have hshown := @filter_shown Command LineOutcome.command? (fun c => some c.line) _
    (pairwise_outcomes source)
    (fun p hp c hc => congrArg some ((at_of_mem source hp).command hc)) _ _ h
  simpa only [commandsAt, commands_ofSource, Option.some.injEq] using hshown

theorem diagnosticsAt_ofSource (h : (line, o) ∈ outcomes source) :
    (ofSource source).diagnosticsAt line.number = o.diagnostic?.toList := by
  rw [diagnosticsAt, diagnostics_ofSource]
  exact filter_shown (pairwise_outcomes source)
    (fun p hp d hd => ((at_of_mem source hp).diagnostic hd).1) h

theorem skipsAt_ofSource (h : (line, o) ∈ outcomes source) :
    (ofSource source).skipsAt line.number = o.skip?.toList := by
  rw [skipsAt, diagnosticsAt_ofSource h]
  exact (at_of_mem source h).filter_diagnostic

theorem declared_iff (h : (line, o) ∈ outcomes source) : o = .declared ↔ line.Declares := by
  obtain ⟨_, _, -, ht⟩ := Assembly.taken_of_mem_outcomes Assembly.sound_empty h
  exact ht.declared_iff

/-- The commands of the lines before a line are those of smaller lines. -/
theorem mem_commands_before {before after : List SourceLine}
    (hl : instructionLines source = before ++ line :: after) {e : Command} :
    e ∈ (Assembly.empty.addAll (ofLines before).statements).commands ↔
      e ∈ (ofSource source).tree.commands ∧ e.line < line.number := by
  have hsorted := instructionLines_sorted source
  rw [hl, List.pairwise_append] at hsorted
  obtain ⟨-, hafter, hbefore⟩ := hsorted
  have hs := Assembly.sound_addAll Assembly.sound_empty before
  have hcommands : (ofSource source).tree.commands = ((Assembly.empty.addAll
      (ofLines before).statements).addAll (ofLines (line :: after)).statements).commands := by
    rw [← Assembly.addAll_ofLines_append, ← hl]
    rfl
  rw [hcommands]
  constructor
  · intro he
    refine ⟨?_, ?_⟩
    · rw [Assembly.commands_addAll hs]
      exact List.mem_append_left _ he
    · rcases Assembly.line_of_mem_commands Assembly.sound_empty he with hempty | ⟨l, hm, hline⟩
      · cases hempty
      · exact hline ▸ hbefore l hm line List.mem_cons_self
  · rintro ⟨he, hlt⟩
    rcases Assembly.line_of_mem_commands hs he with he | ⟨l, hm, hline⟩
    · exact he
    · have hle : line.number ≤ l.number := by
        rcases List.mem_cons.mp hm with rfl | hm
        · exact Nat.le_refl _
        · exact Nat.le_of_lt (List.rel_of_pairwise_cons hafter hm)
      omega

theorem redefinition_iff {c : Command} {redefinition : Option Diagnostic}
    (h : (line, .placed c redefinition) ∈ outcomes source) :
    redefinition ≠ none ↔ c.level = 0 ∧ ∃ e ∈ (ofSource source).tree.commands,
      e.line < line.number ∧ e.level = 0 ∧ e.key = c.key := by
  obtain ⟨before, after, hl, ht⟩ := Assembly.taken_of_mem_outcomes Assembly.sound_empty h
  rw [ht.redefinition_iff (Assembly.sound_addAll Assembly.sound_empty before)]
  simp only [mem_commands_before hl, and_assoc]

/-- A line is reported as a duplicate if it gives a root with the trigger of an earlier
root. -/
theorem duplicate_iff (h : (line, o) ∈ outcomes source) :
    (∃ d ∈ (ofSource source).diagnosticsAt line.number,
      d.fault.code = LineOutcome.duplicateCode) ↔
    ∃ c ∈ (ofSource source).commandsAt line.number, c.level = 0 ∧
      ∃ e ∈ (ofSource source).tree.commands,
        e.line < c.line ∧ e.level = 0 ∧ e.key = c.key := by
  have hat : o.At line.number := at_of_mem source h
  rw [diagnosticsAt_ofSource h, commandsAt_ofSource h]
  simp only [Option.mem_toList]
  rw [hat.duplicate_iff]
  cases o with
  | placed c redefinition =>
    have hline : c.line = line.number := hat.1
    rw [LineOutcome.redefinition?, redefinition_iff h]
    simp [LineOutcome.command?, hline]
  | declared | skipped => simp [LineOutcome.redefinition?, LineOutcome.command?]

end

theorem line_of_mem_commands {source : String} {c : Command}
    (h : c ∈ (ofSource source).tree.commands) :
    ∃ line ∈ instructionLines source, c.line = line.number :=
  (Assembly.line_of_mem_commands Assembly.sound_empty h).resolve_left List.not_mem_nil

theorem line_of_mem_diagnostics {source : String} {d : Diagnostic}
    (h : d ∈ (ofSource source).diagnostics) :
    d.fault.code ∈ LineOutcome.duplicateCode :: LineOutcome.skipCodes ∧
      ∃ line ∈ instructionLines source, d.line = some line.number := by
  rw [diagnostics_ofSource] at h
  obtain ⟨p, hp, hd⟩ := List.mem_filterMap.mp h
  obtain ⟨hline, hcode⟩ := (at_of_mem source hp).diagnostic hd
  refine ⟨hcode, p.1, ?_, hline⟩
  rw [← map_fst_outcomes source]
  exact List.mem_map_of_mem hp

/-- Every instruction line of a source declares a variable, or gives one command, or is
skipped with one diagnostic that says why, and it is the only one of these. Besides, a line
has a diagnostic of a duplicate if it gives a root with the trigger of an earlier root.
Nothing else is in the tree or reported, and both are in the order of the lines. -/
theorem ofSource_lines (source : String) :
    let script := ofSource source
    (∀ line ∈ instructionLines source,
      (line.Declares ∧ script.commandsAt line.number = [] ∧ script.skipsAt line.number = []) ∨
      (¬ line.Declares ∧ (∃ c, script.commandsAt line.number = [c]) ∧
        script.skipsAt line.number = []) ∨
      (¬ line.Declares ∧ script.commandsAt line.number = [] ∧
        ∃ d, script.skipsAt line.number = [d])) ∧
    (∀ line ∈ instructionLines source,
      (∃ d ∈ script.diagnosticsAt line.number, d.fault.code = LineOutcome.duplicateCode) ↔
      ∃ c ∈ script.commandsAt line.number, c.level = 0 ∧
        ∃ e ∈ script.tree.commands, e.line < c.line ∧ e.level = 0 ∧ e.key = c.key) ∧
    (∀ c ∈ script.tree.commands, ∃ line ∈ instructionLines source, c.line = line.number) ∧
    (∀ d ∈ script.diagnostics, d.fault.code ∈ LineOutcome.duplicateCode :: LineOutcome.skipCodes ∧
      ∃ line ∈ instructionLines source, d.line = some line.number) ∧
    script.store = Store.ofList ((Script.ofSource source).statements.filterMap (·.declared?)) ∧
    script.tree.commands.Pairwise (fun c e => c.line < e.line) ∧
    script.diagnostics.Pairwise Before := by
  intro script
  refine ⟨fun line hline => ?_, fun line hline => ?_, fun c => line_of_mem_commands,
    fun d => line_of_mem_diagnostics, store_ofSource source, pairwise_commands source, ?_⟩
  · obtain ⟨o, ho⟩ := exists_outcome source hline
    rw [commandsAt_ofSource ho, skipsAt_ofSource ho, ← declared_iff ho]
    cases o with
    | declared => exact Or.inl ⟨rfl, rfl, rfl⟩
    | placed c => exact Or.inr (Or.inl ⟨nofun, ⟨c, rfl⟩, rfl⟩)
    | skipped d => exact Or.inr (Or.inr ⟨nofun, rfl, d, rfl⟩)
  · obtain ⟨o, ho⟩ := exists_outcome source hline
    exact duplicate_iff ho
  · rw [diagnostics_ofSource]
    exact pairwise_diagnostics source

end Compiled

end ScriptedDialog
