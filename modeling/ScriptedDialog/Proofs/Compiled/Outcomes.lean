import ScriptedDialog.Proofs.Command.Compiling
import ScriptedDialog.Proofs.Script.Grammar

/-! What becomes of the lines of a script. Every instruction line has one outcome: it
declares a variable, it gives the tree a command, or it is skipped with a diagnostic. The
tree holds the commands of all lines in order, and the diagnostics of a script, which
come from three stages, are together and in order those of its lines. -/

namespace ScriptedDialog

/-- A line that declares a variable. -/
def Script.SourceLine.Declares (line : SourceLine) : Prop :=
  ∃ name value, Statement.ofLine line = .ok (.declaration name value line.number)

/-- What becomes of an instruction line. -/
inductive LineOutcome where
  | declared
  | placed (c : Command) (redefinition : Option Diagnostic)
  | skipped (d : Diagnostic)

namespace LineOutcome

def command? : LineOutcome → Option Command
  | .placed c _ => some c
  | .declared | .skipped _ => none

def diagnostic? : LineOutcome → Option Diagnostic
  | .declared => none
  | .placed _ redefinition => redefinition
  | .skipped d => some d

/-- The diagnostic of a root that takes the place of another. -/
def redefinition? : LineOutcome → Option Diagnostic
  | .placed _ redefinition => redefinition
  | .declared | .skipped _ => none

/-- The diagnostic of a line that is skipped. -/
def skip? : LineOutcome → Option Diagnostic
  | .declared | .placed .. => none
  | .skipped d => some d

/-- The codes of the diagnostics with which lines are skipped. -/
def skipCodes : List String :=
  ["LINE_SYNTAX_INVALID", "LINE_LEVEL_INVALID", "LINE_TRIGGER_EMPTY", "TRIGGER_PATTERN_INVALID",
    "COMMAND_PARENT_MISSING"]

def duplicateCode : String := "ROOT_TRIGGER_DUPLICATE"

/-- What the outcome shows is of the line with a number. -/
def At (n : Nat) : LineOutcome → Prop
  | .declared => True
  | .placed c redefinition => c.line = n ∧
      ∀ d, redefinition = some d → d.line = some n ∧ d.fault.code = duplicateCode
  | .skipped d => d.line = some n ∧ d.fault.code ∈ skipCodes

theorem At.command {n : Nat} {o : LineOutcome} (h : o.At n) {c : Command}
    (hc : o.command? = some c) : c.line = n := by
  cases o with
  | placed =>
    cases hc
    exact h.1
  | declared | skipped => cases hc

theorem At.diagnostic {n : Nat} {o : LineOutcome} (h : o.At n) {d : Diagnostic}
    (hd : o.diagnostic? = some d) :
    d.line = some n ∧ d.fault.code ∈ duplicateCode :: skipCodes := by
  cases o with
  | declared => cases hd
  | placed c redefinition =>
    obtain ⟨hline, hcode⟩ := h.2 d hd
    exact ⟨hline, hcode ▸ List.mem_cons_self⟩
  | skipped =>
    cases hd
    exact ⟨h.1, List.mem_cons_of_mem _ h.2⟩

theorem At.filter_diagnostic {n : Nat} {o : LineOutcome} (h : o.At n) :
    o.diagnostic?.toList.filter (·.fault.code ∈ skipCodes) = o.skip?.toList := by
  cases o with
  | declared => rfl
  | placed c redefinition =>
    apply List.filter_eq_nil_iff.mpr
    intro d hd
    rw [(h.2 d (Option.mem_toList.mp hd)).2]
    decide
  | skipped d =>
    apply List.filter_eq_self.mpr
    intro e he
    cases Option.mem_toList.mp he
    exact decide_eq_true h.2

/-- Only a root that takes the place of another has the code of duplicates. -/
theorem At.duplicate_iff {n : Nat} {o : LineOutcome} (h : o.At n) :
    (∃ d, o.diagnostic? = some d ∧ d.fault.code = duplicateCode) ↔
      o.redefinition? ≠ none := by
  rw [Option.ne_none_iff_exists']
  cases o with
  | declared => simp [diagnostic?, redefinition?]
  | placed c redefinition => exact exists_congr fun d => and_iff_left_of_imp fun hd => (h.2 d hd).2
  | skipped d =>
    simp only [diagnostic?, Option.some.injEq, redefinition?, reduceCtorEq, exists_false, iff_false]
    rintro ⟨_, rfl, hcode⟩
    rw [At, hcode] at h
    exact absurd h.2 (by decide)

end LineOutcome

/-! ### Faults of lines -/

namespace Script.Statement

theorem code_of_error {line : SourceLine} {d : Diagnostic} (h : ofLine line = .error d) :
    d.fault.code ∈ LineOutcome.skipCodes := by
  have hr := ofLine_reading line
  rw [h] at hr
  cases hr with
  | malformed | badLevel | blankTrigger => simp [Fault.code, LineOutcome.skipCodes]

end Script.Statement

theorem Trigger.code_ofText {text : String} {f : Fault} (h : ofText text = .error f) :
    f.code ∈ LineOutcome.skipCodes := by
  unfold ofText at h
  split at h
  · cases h
  · split at h
    · cases h
    · split at h
      · cases h
      · cases h
        simp [Fault.code, LineOutcome.skipCodes]

/-! ### The roots by their keys -/

namespace Tree

/-- The keys of the registered roots are those of all commands of level zero. -/
def Keyed (t : Tree) : Prop :=
  ∀ key, key ∈ t.rootEntries.map (·.1) ↔ ∃ e ∈ t.commands, e.level = 0 ∧ e.key = key

theorem keyed_empty : Keyed empty := by
  intro key
  simp [empty, commands]

theorem rootIn_ne_none_iff {key : String} {entries : List (String × CommandId)} :
    rootIn key entries ≠ none ↔ key ∈ entries.map (·.1) := by
  induction entries with
  | nil => simp [rootIn]
  | cons e rest ih =>
    rw [rootIn, List.map_cons, List.mem_cons, ← ih]
    by_cases hk : e.1 = key
    · simp [hk]
    · simp [hk, Ne.symm hk]

theorem mem_keys_enter {key k : String} {id : CommandId} {entries : List (String × CommandId)} :
    k ∈ (enter key id entries).map (·.1) ↔ k = key ∨ k ∈ entries.map (·.1) := by
  rw [keys_enter]
  split
  · next hkey =>
    constructor
    · exact Or.inr
    · rintro (rfl | hk)
      · exact hkey
      · exact hk
  · rw [List.mem_append, List.mem_singleton, or_comm]

end Tree

namespace Hierarchy

theorem redefinition?_ne_none_iff {h : Hierarchy} (hk : h.tree.Keyed) {c : Command} :
    h.redefinition? c ≠ none ↔ ∃ e ∈ h.tree.commands, e.level = 0 ∧ e.key = c.key := by
  rw [← hk, ← Tree.rootIn_ne_none_iff, redefinition?, ne_eq, Option.map_eq_none_iff]
  rfl

theorem Added.keyed {h k : Hierarchy} {c : Command} {place : Option CommandId}
    (ha : h.Added c k place) (hk : h.tree.Keyed) : k.tree.Keyed := by
  intro key
  cases ha with
  | root level grown roots =>
    rw [roots, Tree.mem_keys_enter, hk, grown.commands]
    constructor
    · rintro (rfl | ⟨e, he, hzero, hkey⟩)
      · exact ⟨c, List.mem_append_right _ (List.mem_singleton_self c), level, rfl⟩
      · exact ⟨e, List.mem_append_left _ he, hzero, hkey⟩
    · rintro ⟨e, he, hzero, rfl⟩
      rcases List.mem_append.mp he with he | he
      · exact Or.inr ⟨e, he, hzero, rfl⟩
      · exact Or.inl (congrArg Command.key (List.mem_singleton.mp he))
  | child level _ grown roots =>
    have hne : c.level ≠ 0 := Nat.ne_of_gt level
    rw [roots, hk, grown.commands]
    simp [hne]
  | orphan => exact hk key

/-- What becomes of a command with a usable trigger. -/
def outcome (h : Hierarchy) (c : Command) : LineOutcome :=
  if c.level = 0 then .placed c (h.redefinition? c)
  else if 0 ∈ h.tree.levels then .placed c none
  else .skipped (orphan c)

theorem Added.outcome_eq {h k : Hierarchy} {c : Command} {place : Option CommandId}
    (ha : h.Added c k place) (hs : h.Sound) :
    k.tree.commands = h.tree.commands ++ (h.outcome c).command?.toList ∧
      k.diagnostics = h.diagnostics ++ (h.outcome c).diagnostic?.toList := by
  unfold outcome
  cases ha with
  | root level grown _ diagnostics =>
    rw [if_pos level]
    exact ⟨grown.commands, diagnostics⟩
  | child level nearest grown _ diagnostics =>
    rw [if_neg (Nat.ne_of_gt level), if_pos (hs.rooted nearest.levels_ne_nil)]
    exact ⟨grown.commands, diagnostics.trans (List.append_nil _).symm⟩
  | orphan level rootless =>
    rw [if_neg (Nat.ne_of_gt level), if_neg rootless]
    exact ⟨(List.append_nil _).symm, rfl⟩

theorem outcome_at (h : Hierarchy) (c : Command) : (h.outcome c).At c.line := by
  unfold outcome
  split
  · refine ⟨rfl, fun d hd => ?_⟩
    obtain ⟨previous, -, rfl⟩ := Option.map_eq_some_iff.mp hd
    exact ⟨rfl, rfl⟩
  · split
    · exact ⟨rfl, nofun⟩
    · exact ⟨rfl, by simp [orphan, Fault.code, LineOutcome.skipCodes]⟩

end Hierarchy

/-! ### The pass over the lines -/

theorem filterMap_cons_toList {α β : Type} (f : α → Option β) (x : α) (xs : List α) :
    (x :: xs).filterMap f = (f x).toList ++ xs.filterMap f := by
  cases hx : f x <;> simp [hx]

/-- The diagnostic of a line that is no statement. -/
def Script.malformed? (line : SourceLine) : Option Diagnostic :=
  match Statement.ofLine line with
  | .ok _ => none
  | .error d => some d

theorem Script.diagnostics_ofLines (lines : List SourceLine) :
    (ofLines lines).diagnostics = lines.filterMap malformed? := rfl

namespace Assembly

open Script

/-- The assembly after a line. -/
def addLine (a : Assembly) (line : SourceLine) : Assembly :=
  match Statement.ofLine line with
  | .error _ => a
  | .ok s => a.add s

/-- What becomes of a line. -/
def outcome (a : Assembly) (line : SourceLine) : LineOutcome :=
  match Statement.ofLine line with
  | .error d => .skipped d
  | .ok (.declaration ..) => .declared
  | .ok (.command level trigger response n) =>
    match Trigger.ofText trigger with
    | .error fault => .skipped ⟨fault, n⟩
    | .ok trigger => a.hierarchy.outcome ⟨level, trigger, response, n⟩

/-- The lines of a script, each with what becomes of it. -/
def outcomes (a : Assembly) : List SourceLine → List (SourceLine × LineOutcome)
  | [] => []
  | line :: later => (line, a.outcome line) :: (a.addLine line).outcomes later

/-- The commands so far. -/
def commands (a : Assembly) : List Command := a.hierarchy.tree.commands

/-- What has been reported so far, apart from lines that are no statements. -/
def reports (a : Assembly) : List Diagnostic := a.refused ++ a.hierarchy.diagnostics

structure Sound (a : Assembly) : Prop where
  hierarchy : a.hierarchy.Sound
  keyed : a.hierarchy.tree.Keyed

theorem sound_empty : Sound empty := ⟨Hierarchy.sound_empty, Tree.keyed_empty⟩

/-- The ways in which a line is taken up, each with what becomes of it. -/
inductive Taken (a : Assembly) (line : SourceLine) : Assembly → LineOutcome → Prop where
  | declared {name value} (hs : Statement.ofLine line = .ok (.declaration name value line.number))
      {store} : Taken a line { a with store } .declared
  | malformed {d} (hs : Statement.ofLine line = .error d) : Taken a line a (.skipped d)
  | refused {level trigger response fault}
      (hs : Statement.ofLine line = .ok (.command level trigger response line.number))
      (ht : Trigger.ofText trigger = .error fault) :
      Taken a line { a with refused := a.refused ++ [⟨fault, line.number⟩] }
        (.skipped ⟨fault, line.number⟩)
  | added {level trigger response t k place}
      (hs : Statement.ofLine line = .ok (.command level trigger response line.number))
      (ht : Trigger.ofText trigger = .ok t)
      (hk : a.hierarchy.Added ⟨level, t, response, line.number⟩ k place) (sound : k.Sound) :
      Taken a line { a with hierarchy := k }
        (a.hierarchy.outcome ⟨level, t, response, line.number⟩)

theorem taken_spec {a : Assembly} (ha : a.Sound) (line : SourceLine) :
    a.Taken line (a.addLine line) (a.outcome line) := by
  unfold addLine outcome
  cases hs : Statement.ofLine line with
  | error d => exact .malformed hs
  | ok s =>
    have hline := Statement.line_ofLine hs
    cases s with
    | declaration name value n =>
      obtain rfl : n = line.number := hline
      exact .declared hs
    | command level trigger response n =>
      obtain rfl : n = line.number := hline
      cases ht : Trigger.ofText trigger with
      | error fault =>
        simp only [add, addCommand, ht]
        exact .refused hs ht
      | ok t =>
        obtain ⟨k, place, hadd, hadded, hk⟩ :=
          Hierarchy.add_spec ha.hierarchy ⟨level, t, response, line.number⟩
        simp only [add, addCommand, ht, hadd, bind, pure, Except.bind, Except.pure]
        exact .added hs ht hadded hk

section
variable {a b : Assembly} {line : SourceLine} {o : LineOutcome}

theorem Taken.sound (h : a.Taken line b o) (ha : a.Sound) : b.Sound := by
  cases h with
  | declared | malformed | refused => exact ⟨ha.hierarchy, ha.keyed⟩
  | added _ _ hk sound => exact ⟨sound, hk.keyed ha.keyed⟩

theorem Taken.at (h : a.Taken line b o) : o.At line.number := by
  cases h with
  | declared => trivial
  | malformed hs => exact ⟨Statement.line_of_error hs, Statement.code_of_error hs⟩
  | refused _ ht => exact ⟨rfl, Trigger.code_ofText ht⟩
  | added => exact Hierarchy.outcome_at ..

theorem Taken.declared_iff (h : a.Taken line b o) : o = .declared ↔ line.Declares := by
  unfold SourceLine.Declares
  cases h with
  | declared hs => simp [hs]
  | malformed hs => simp [hs]
  | refused hs => simp [hs]
  | added hs =>
    simp only [hs, Except.ok.injEq, reduceCtorEq, exists_false, iff_false, Hierarchy.outcome]
    split
    · nofun
    · split <;> nofun

theorem Taken.commands_eq (h : a.Taken line b o) (ha : a.Sound) :
    b.commands = a.commands ++ o.command?.toList := by
  cases h with
  | declared | malformed | refused => exact (List.append_nil _).symm
  | added _ _ hk => exact (hk.outcome_eq ha.hierarchy).1

/-- A root takes the place of another if its key is that of an earlier root. -/
theorem Taken.redefinition_iff {c : Command} {redefinition : Option Diagnostic}
    (h : a.Taken line b (.placed c redefinition)) (ha : a.Sound) :
    redefinition ≠ none ↔ c.level = 0 ∧ ∃ e ∈ a.commands, e.level = 0 ∧ e.key = c.key := by
  generalize ho : LineOutcome.placed c redefinition = o at h
  cases h with
  | declared | malformed | refused => cases ho
  | added =>
    unfold Hierarchy.outcome at ho
    split at ho
    · next hzero =>
      cases ho
      rw [Hierarchy.redefinition?_ne_none_iff ha.keyed]
      exact (and_iff_right hzero).symm
    · next hzero =>
      split at ho
      · cases ho
        simp [hzero]
      · cases ho

/-- The diagnostic of a line is added, at whichever stage it comes up. -/
theorem Taken.reports_perm (h : a.Taken line b o) (ha : a.Sound) :
    ((Script.malformed? line).toList ++ b.reports).Perm (a.reports ++ o.diagnostic?.toList) := by
  unfold reports malformed?
  cases h with
  | declared hs =>
    rw [hs]
    exact List.Perm.of_eq (List.append_nil _).symm
  | malformed hs =>
    rw [hs]
    exact List.perm_append_comm
  | refused hs =>
    rw [hs]
    simp only [Option.toList_none, List.nil_append, List.append_assoc]
    exact List.Perm.append_left _ List.perm_append_comm
  | added hs _ hk =>
    simp only [hs, (hk.outcome_eq ha.hierarchy).2, Option.toList_none, List.nil_append]
    exact List.Perm.of_eq (List.append_assoc ..).symm

end

/-! ### Whole scripts -/

theorem addAll_ofLines_cons (a : Assembly) (line : SourceLine) (later : List SourceLine) :
    a.addAll (ofLines (line :: later)).statements =
      (a.addLine line).addAll (ofLines later).statements := by
  unfold ofLines addLine
  cases hs : Statement.ofLine line <;> simp [hs, Except.toOption, addAll]

theorem commands_addAll {a : Assembly} (ha : a.Sound) (lines : List SourceLine) :
    (a.addAll (ofLines lines).statements).commands =
      a.commands ++ (a.outcomes lines).filterMap (·.2.command?) := by
  induction lines generalizing a with
  | nil => exact (List.append_nil _).symm
  | cons line later ih =>
    have ht := taken_spec ha line
    rw [addAll_ofLines_cons, ih (ht.sound ha), ht.commands_eq ha, List.append_assoc, outcomes,
      filterMap_cons_toList]

theorem reports_addAll {a : Assembly} (ha : a.Sound) (lines : List SourceLine) :
    ((ofLines lines).diagnostics ++ (a.addAll (ofLines lines).statements).reports).Perm
      (a.reports ++ (a.outcomes lines).filterMap (·.2.diagnostic?)) := by
  induction lines generalizing a with
  | nil => exact List.Perm.of_eq (List.append_nil _).symm
  | cons line later ih =>
    have ht := taken_spec ha line
    have hline := ht.reports_perm ha
    have hlater := ih (ht.sound ha)
    rw [diagnostics_ofLines, filterMap_cons_toList, ← diagnostics_ofLines, addAll_ofLines_cons,
      outcomes, filterMap_cons_toList, List.append_assoc, ← List.append_assoc a.reports]
    refine (hlater.append_left _).trans ?_
    rw [← List.append_assoc]
    exact hline.append_right _

theorem map_fst_outcomes (a : Assembly) (lines : List SourceLine) :
    (a.outcomes lines).map (·.1) = lines := by
  induction lines generalizing a with
  | nil => rfl
  | cons line later ih => rw [outcomes, List.map_cons, ih]

theorem sound_addAll {a : Assembly} (ha : a.Sound) (lines : List SourceLine) :
    (a.addAll (ofLines lines).statements).Sound := by
  induction lines generalizing a with
  | nil => exact ha
  | cons line later ih =>
    rw [addAll_ofLines_cons]
    exact ih ((taken_spec ha line).sound ha)

theorem addAll_ofLines_append (a : Assembly) (before after : List SourceLine) :
    a.addAll (ofLines (before ++ after)).statements =
      (a.addAll (ofLines before).statements).addAll (ofLines after).statements := by
  simp only [ofLines, List.filterMap_append, addAll, List.foldl_append]

/-- An outcome is that of its line in the script up to it. -/
theorem taken_of_mem_outcomes {a : Assembly} (ha : a.Sound) {lines : List SourceLine}
    {line : SourceLine} {o : LineOutcome} (h : (line, o) ∈ a.outcomes lines) :
    ∃ before after, lines = before ++ line :: after ∧
      Taken (a.addAll (ofLines before).statements) line
        ((a.addAll (ofLines before).statements).addLine line) o := by
  induction lines generalizing a with
  | nil => cases h
  | cons l later ih =>
    have ht := taken_spec ha l
    rcases List.mem_cons.mp h with h | h
    · cases h
      exact ⟨[], later, rfl, ht⟩
    · obtain ⟨before, after, rfl, htaken⟩ := ih (ht.sound ha) h
      refine ⟨l :: before, after, rfl, ?_⟩
      rw [addAll_ofLines_cons]
      exact htaken

theorem at_of_mem_outcomes {a : Assembly} (ha : a.Sound) {lines : List SourceLine}
    {p : SourceLine × LineOutcome} (h : p ∈ a.outcomes lines) : p.2.At p.1.number := by
  obtain ⟨_, _, -, ht⟩ := taken_of_mem_outcomes ha h
  exact ht.at

/-- A command was there before or is that of one of the lines. -/
theorem line_of_mem_commands {a : Assembly} (ha : a.Sound) {lines : List SourceLine} {c : Command}
    (h : c ∈ (a.addAll (ofLines lines).statements).commands) :
    c ∈ a.commands ∨ ∃ line ∈ lines, c.line = line.number := by
  rw [commands_addAll ha] at h
  refine (List.mem_append.mp h).imp_right fun h => ?_
  obtain ⟨⟨line, o⟩, hp, hc⟩ := List.mem_filterMap.mp h
  refine ⟨line, ?_, (at_of_mem_outcomes ha hp).command hc⟩
  rw [← map_fst_outcomes a lines]
  exact List.mem_map.mpr ⟨_, hp, rfl⟩

end Assembly

end ScriptedDialog
