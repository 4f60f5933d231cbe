import ScriptedDialog.Proofs.Cli.Drivers
import ScriptedDialog.Proofs.TestCase.RoundTrip

/-! Verdicts on test cases. Each thing that can be wrong with a test case is a problem on
its own, and problems have an order: the script, the turns, the diagnostics, the replies,
and among turns and among replies the earlier. A check passes if there is no problem and
else reports the first. There is a result for each turn, so that no turn goes unchecked. -/

namespace ScriptedDialog

/-! ### Replies -/

/-- The reply is one that is expected. -/
inductive ExpectedReply.Allows : ExpectedReply → Option String → Prop
  | exactly (text : String) : Allows (.exactly text) (some text)
  | oneOf {choices text} (h : text ∈ choices) : Allows (.oneOf choices) (some text)
  | noReply : Allows .noReply none

theorem ExpectedReply.accepts_iff {expect : ExpectedReply} {reply : Option String} :
    expect.accepts reply = true ↔ expect.Allows reply := by
  constructor
  · intro h
    cases expect <;> cases reply <;> simp only [accepts, decide_eq_true_eq, Bool.false_eq_true] at h
    · exact h ▸ .exactly _
    · exact .oneOf h
    · exact .noReply
  · intro h
    cases h with
    | exactly | noReply => simp [accepts]
    | oneOf h => simp [accepts, h]

/-! ### Results -/

namespace TestCase

/-- The first reply that is not expected, with all replies before it as they should be. -/
theorem firstMismatch?_eq_some {turns : List TestTurn} {replies : List (Option String)}
    {start : Nat} {failure : Failure} (h : firstMismatch? start turns replies = some failure) :
    ∃ i turn reply, turns[i]? = some turn ∧ replies[i]? = some reply ∧
      ¬ turn.expect.Allows reply ∧
      (∀ j < i, ∀ t r, turns[j]? = some t → replies[j]? = some r → t.expect.Allows r) ∧
      failure = .reply (start + i) turn.input turn.expect.toJson.compact
        (Json.ofText? reply).compact := by
  induction turns generalizing replies start with
  | nil => cases h
  | cons turn turns ih =>
    cases replies with
    | nil => cases h
    | cons reply replies =>
      rw [firstMismatch?] at h
      split at h
      · next haccepts =>
        obtain ⟨i, t, r, ht, hr, hnot, hbefore, rfl⟩ := ih h
        refine ⟨i + 1, t, r, ht, hr, hnot, fun j hj => ?_, by rw [Nat.add_right_comm]; rfl⟩
        cases j with
        | zero =>
          rintro _ _ ⟨⟩ ⟨⟩
          exact ExpectedReply.accepts_iff.mp haccepts
        | succ j => exact hbefore j (Nat.lt_of_succ_lt_succ hj)
      · next haccepts =>
        exact ⟨0, turn, reply, rfl, rfl, mt ExpectedReply.accepts_iff.mpr haccepts,
          fun _ hj => absurd hj (Nat.not_lt_zero _), (Option.some.inj h).symm⟩

/-- With a reply for each turn, no turn goes unchecked. -/
theorem firstMismatch?_eq_none_iff {turns : List TestTurn} {replies : List (Option String)}
    (hlength : turns.length = replies.length) (start : Nat) :
    firstMismatch? start turns replies = none ↔
      List.Forall₂ (fun turn reply => turn.expect.Allows reply) turns replies := by
  induction turns generalizing replies start with
  | nil =>
    obtain rfl := List.eq_nil_of_length_eq_zero hlength.symm
    exact iff_of_true rfl .nil
  | cons turn turns ih =>
    cases replies with
    | nil => cases hlength
    | cons reply replies =>
      rw [firstMismatch?, List.forall₂_cons, ← ExpectedReply.accepts_iff,
        ← ih (Nat.succ.inj hlength) (start + 1)]
      split
      · next haccepts => simp [haccepts]
      · next haccepts => simp [haccepts]

/-! ### Problems -/

/-- The dialog in which the turns of a test case are taken. -/
def opening (c : TestCase) (read : ReadFile) (directory : String) : Except Fault Dialog :=
  Load.dialog read (Files.Path.join directory c.script) (.ofSeed c.randomSeed)

/-- The failure is one that a test case has, whatever other failures it has. -/
inductive Problem (c : TestCase) (read : ReadFile) (directory : String) : Failure → Prop
  | load {fault} (h : c.opening read directory = .error fault) :
      Problem c read directory (.load fault)
  | turn {d i turn fault} (h : c.opening read directory = .ok d) (hturn : c.turns[i]? = some turn)
      (hresult : (d.turnResults (c.turns.map (·.input)))[i]? = some (.error fault)) :
      Problem c read directory (.turn i turn.input fault)
  | diagnostics {d actual} (h : c.opening read directory = .ok d)
      (hactual : d.diagnostics.map (·.fault.code) = actual) (hne : actual ≠ c.expectedDiagnostics) :
      Problem c read directory (.diagnostics c.expectedDiagnostics actual)
  | reply {d i turn reply} (h : c.opening read directory = .ok d) (hturn : c.turns[i]? = some turn)
      (hresult : (d.turnResults (c.turns.map (·.input)))[i]? = some (.ok reply))
      (hnot : ¬ turn.expect.Allows reply) :
      Problem c read directory
        (.reply i turn.input turn.expect.toJson.compact (Json.ofText? reply).compact)

/-- The stage of a check that reports a failure, and the turn it is about. -/
def Failure.place : Failure → Nat × Nat
  | .unreadable _ _ | .malformed _ | .schemaVersion _ _ | .noCases _ _ => (0, 0)
  | .load _ => (1, 0)
  | .turn i _ _ => (2, i)
  | .diagnostics _ _ => (3, 0)
  | .reply i _ _ _ => (4, i)

/-- An earlier stage comes first, and within a stage the earlier turn. -/
def Failure.Precedes (f g : Failure) : Prop :=
  f.place.1 < g.place.1 ∨ f.place.1 = g.place.1 ∧ f.place.2 ≤ g.place.2

/-- The problem comes first of all that a test case has. -/
def FirstProblem (c : TestCase) (read : ReadFile) (directory : String) (f : Failure) : Prop :=
  c.Problem read directory f ∧ ∀ g, c.Problem read directory g → f.Precedes g

/-- The script is there, no turn fails, and the codes of the diagnostics and the replies are
as they should be. -/
def Passes (c : TestCase) (read : ReadFile) (directory : String) : Prop :=
  ∃ d, ∃ replies : List (Option String), c.opening read directory = .ok d ∧
    d.turnResults (c.turns.map (·.input)) = replies.map .ok ∧
    d.diagnostics.map (·.fault.code) = c.expectedDiagnostics ∧
    List.Forall₂ (fun turn reply => turn.expect.Allows reply) c.turns replies

section
variable {c : TestCase} {read : ReadFile} {directory : String} {f g : Failure} {fault : Fault}

/-- There is one problem at a place at most. -/
theorem FirstProblem.unique (hf : c.FirstProblem read directory f)
    (hg : c.FirstProblem read directory g) : f = g := by
  have hfg := hf.2 g hg.1
  have hgf := hg.2 f hf.1
  have hplace : f.place = g.place := by
    unfold Failure.Precedes at hfg hgf
    exact Prod.ext (by omega) (by omega)
  cases hf.1 <;> cases hg.1 <;> simp_all [Failure.place]

/-! ### Checks -/

theorem check_of_unloaded (hload : c.opening read directory = .error fault) :
    c.check read directory = .error (.load fault) ∧
      c.FirstProblem read directory (.load fault) := by
  have hrun : c.run read directory = .error (.load fault) := by
    unfold opening at hload
    rw [run, hload]
  refine ⟨by rw [check, hrun], .load hload, fun g hg => ?_⟩
  cases hg with
  | load => exact Or.inr ⟨rfl, Nat.le_refl 0⟩
  | turn h | diagnostics h | reply h => cases hload.symm.trans h

variable {d : Dialog} (hload : c.opening read directory = .ok d)
include hload

/-- The first turn that fails is reported, even if a reply before it is wrong. -/
theorem check_of_fault {earlier later : List String} {input : String}
    {replies : List (Option String)} (hturns : c.turns.map (·.input) = earlier ++ input :: later)
    (h : d.turnResults earlier = replies.map .ok)
    (hf : ((d.afterAll (earlier.map .say)).turn input).1 = .error fault) :
    c.check read directory = .error (.turn earlier.length input fault) ∧
      c.FirstProblem read directory (.turn earlier.length input fault) := by
  have hrun := run_of_fault hload hturns h hf
  have hresults : d.turnResults (c.turns.map (·.input)) = replies.map .ok ++ .error fault ::
      ((d.afterAll (earlier.map .say)).turn input).2.turnResults later := by
    rw [hturns, Dialog.turnResults_append, h, Dialog.turnResults, hf]
  have hlength : earlier.length = replies.length := (Dialog.length_of_turnResults h).symm
  have hinput : (c.turns.map (·.input))[earlier.length]? = some input := by
    rw [hturns]
    simp
  obtain ⟨turn, hturn, rfl⟩ := Option.map_eq_some_iff.mp (List.getElem?_map ▸ hinput)
  have hresult : (d.turnResults (c.turns.map (·.input)))[earlier.length]? =
      some (.error fault) := by
    rw [hresults, hlength]
    simp
  refine ⟨by rw [check, hrun], .turn hload hturn hresult, fun g hg => ?_⟩
  cases hg with
  | load h' => cases hload.symm.trans h'
  | @turn _ i _ fault' h' _ hother =>
    obtain rfl : d = _ := Except.ok.inj (hload.symm.trans h')
    refine Or.inr ⟨rfl, Nat.le_of_not_lt fun hlt => ?_⟩
    have hi : i < replies.length := hlength ▸ hlt
    rw [hresults, List.getElem?_append_left (by simpa using hi)] at hother
    simp [hi] at hother
  | diagnostics | reply => exact Or.inl (by simp [Failure.place])

variable {replies : List (Option String)}
  (h : d.turnResults (c.turns.map (·.input)) = replies.map .ok)
include h

/-- If no turn fails, the problem is with the diagnostics or with a reply. -/
theorem Problem.of_replies (hf : c.Problem read directory f) :
    (d.diagnostics.map (·.fault.code) ≠ c.expectedDiagnostics ∧
        f = .diagnostics c.expectedDiagnostics (d.diagnostics.map (·.fault.code))) ∨
      ∃ (i : Nat) (turn : TestTurn) (reply : Option String), c.turns[i]? = some turn ∧
        replies[i]? = some reply ∧ ¬ turn.expect.Allows reply ∧
        f = .reply i turn.input turn.expect.toJson.compact (Json.ofText? reply).compact := by
  cases hf with
  | load h' => cases hload.symm.trans h'
  | turn h' _ hresult =>
    obtain rfl : d = _ := Except.ok.inj (hload.symm.trans h')
    rw [h, List.getElem?_map] at hresult
    simp at hresult
  | diagnostics h' hactual hne =>
    obtain rfl : d = _ := Except.ok.inj (hload.symm.trans h')
    subst hactual
    exact Or.inl ⟨hne, rfl⟩
  | @reply _ i turn reply h' hturn hresult hnot =>
    obtain rfl : d = _ := Except.ok.inj (hload.symm.trans h')
    rw [h, List.getElem?_map, Option.map_eq_some_iff] at hresult
    obtain ⟨_, hreply, hsame⟩ := hresult
    obtain rfl := Except.ok.inj hsame
    exact Or.inr ⟨i, turn, _, hturn, hreply, hnot, rfl⟩

theorem check_of_replies : (c.Passes read directory ∧ c.check read directory = .ok ()) ∨
    ∃ f, c.check read directory = .error f ∧ c.FirstProblem read directory f := by
  have hrun := run_of_replies hload h
  have hlength : c.turns.length = replies.length := by
    rw [Dialog.length_of_turnResults h, List.length_map]
  by_cases heq : d.diagnostics.map (·.fault.code) = c.expectedDiagnostics
  · have hcodes : ¬ d.diagnostics.map (·.fault.code) ≠ c.expectedDiagnostics := not_not.mpr heq
    cases hfirst : firstMismatch? 0 c.turns replies with
    | none =>
      have hcheck : c.check read directory = .ok () := by
        simp only [check, hrun, if_neg hcodes, hfirst]
      have hall := (firstMismatch?_eq_none_iff hlength 0).mp hfirst
      exact Or.inl ⟨⟨d, replies, hload, h, heq, hall⟩, hcheck⟩
    | some f =>
      have hcheck : c.check read directory = .error f := by
        simp only [check, hrun, if_neg hcodes, hfirst]
      obtain ⟨i, turn, reply, hturn, hreply, hnot, hbefore, rfl⟩ := firstMismatch?_eq_some hfirst
      rw [Nat.zero_add] at hcheck
      refine Or.inr ⟨_, hcheck, .reply hload hturn (by simp [h, hreply]) hnot, fun g hg => ?_⟩
      rcases hg.of_replies hload h with ⟨hne, -⟩ | ⟨j, other, r, hother, hr, hnot', rfl⟩
      · exact absurd heq hne
      · exact Or.inr ⟨rfl, Nat.le_of_not_lt fun hlt => hnot' (hbefore j hlt other r hother hr)⟩
  · have hcheck : c.check read directory =
        .error (.diagnostics c.expectedDiagnostics (d.diagnostics.map (·.fault.code))) := by
      rw [check, hrun]
      exact if_pos heq
    refine Or.inr ⟨_, hcheck, .diagnostics hload rfl heq, fun g hg => ?_⟩
    rcases hg.of_replies hload h with ⟨-, rfl⟩ | ⟨j, other, r, -, -, -, rfl⟩
    · exact Or.inr ⟨rfl, Nat.le_refl 0⟩
    · exact Or.inl (by simp [Failure.place])

end

section
variable {c : TestCase} {read : ReadFile} {directory : String}

theorem Passes.not_problem (h : c.Passes read directory) (f : Failure) :
    ¬ c.Problem read directory f := by
  obtain ⟨d, replies, hload, hresults, hdiagnostics, hreplies⟩ := h
  intro hf
  rcases hf.of_replies hload hresults with ⟨hne, -⟩ | ⟨i, turn, reply, hturn, hreply, hnot, -⟩
  · exact hne hdiagnostics
  · obtain ⟨hi, rfl⟩ := List.getElem?_eq_some_iff.mp hturn
    obtain ⟨hi', rfl⟩ := List.getElem?_eq_some_iff.mp hreply
    exact hnot (hreplies.get hi hi')

/-- A check has one of two outcomes. -/
theorem check_spec (c : TestCase) (read : ReadFile) (directory : String) :
    (c.Passes read directory ∧ c.check read directory = .ok ()) ∨
      ∃ f, c.check read directory = .error f ∧ c.FirstProblem read directory f := by
  cases hload : c.opening read directory with
  | error fault => exact Or.inr ⟨_, check_of_unloaded hload⟩
  | ok d =>
    rcases d.exists_replies (c.turns.map (·.input)) with hall | hfirst
    · obtain ⟨replies, h⟩ := hall
      exact check_of_replies hload h
    · obtain ⟨earlier, input, later, replies, fault, hturns, h, hf⟩ := hfirst
      exact Or.inr ⟨_, check_of_fault hload hturns h hf⟩

theorem check_eq_ok_iff : c.check read directory = .ok () ↔ c.Passes read directory := by
  rcases check_spec c read directory with ⟨hpasses, hcheck⟩ | ⟨f, hcheck, hf⟩
  · exact iff_of_true hcheck hpasses
  · refine iff_of_false ?_ fun h => h.not_problem f hf.1
    rw [hcheck]
    exact nofun

theorem check_eq_error_iff {f : Failure} :
    c.check read directory = .error f ↔ c.FirstProblem read directory f := by
  rcases check_spec c read directory with ⟨hpasses, hcheck⟩ | ⟨g, hcheck, hg⟩
  · refine iff_of_false ?_ fun h => hpasses.not_problem f h.1
    rw [hcheck]
    exact nofun
  · rw [hcheck]
    exact ⟨fun h => Except.error.inj h ▸ hg, fun h => congrArg _ (hg.unique h)⟩

theorem length_of_run {report : Report} (h : c.run read directory = .ok report) :
    report.replies.length = c.turns.length := by
  cases hload : c.opening read directory with
  | error fault =>
    unfold opening at hload
    rw [run, hload] at h
    cases h
  | ok d =>
    rcases d.exists_replies (c.turns.map (·.input)) with hall | hfirst
    · obtain ⟨replies, hresults⟩ := hall
      cases (run_of_replies hload hresults).symm.trans h
      rw [Dialog.length_of_turnResults hresults, List.length_map]
    · obtain ⟨earlier, input, later, replies, fault, hturns, hresults, hf⟩ := hfirst
      cases (run_of_fault hload hturns hresults hf).symm.trans h

/-- A test case that can be read passes exactly if its script is there, no turn fails, and
the diagnostics and the replies are as expected. If it does not pass, its first problem is
reported: a script that is not there, else the first turn that fails, whatever the replies
before it, else wrong diagnostics, and else the first wrong reply. A run has a reply for
each turn. -/
theorem checkFile_verdict {path : String} (hread : ofFile read path = .ok c) :
    (checkFile read directory path = .ok () ↔ c.Passes read directory) ∧
    (∀ f, checkFile read directory path = .error f ↔ c.FirstProblem read directory f) ∧
    ∀ report, c.run read directory = .ok report → report.replies.length = c.turns.length := by
  have hcheck : checkFile read directory path = c.check read directory := by
    rw [checkFile, hread]
    rfl
  rw [hcheck]
  exact ⟨check_eq_ok_iff, fun f => check_eq_error_iff, fun report => length_of_run⟩

/-- The first reply is not the expected one, but what is reported is that the second turn
fails. -/
theorem checkFile_verdict_second_fails :
    let script := "u: (hi) : hello\nu: (who) : $name\n"
    let c : TestCase := ⟨schema, "dialog.txt", 7, ["LINE_SYNTAX_INVALID"],
      [⟨"hi", .noReply⟩, ⟨"who", .oneOf ["you"]⟩, ⟨"who", .noReply⟩]⟩
    let read : ReadFile := fun path => if path = "case/testcase.json" then .ok c.toJson.compact
      else .ok script
    let reported : Failure := .turn 1 "who" (.variableUndefined "name")
    ofFile read "case/testcase.json" = .ok c ∧
      checkFile read "case" "case/testcase.json" = .error reported ∧
      c.Problem read "case" (.reply 0 "hi" ExpectedReply.noReply.toJson.compact "\"hello\"") ∧
      c.FirstProblem read "case" reported := by
  intro script c read reported
  have hread : ofFile read "case/testcase.json" = .ok c :=
    ofFile_of_spells c.spells_toJson rfl (Json.written_compact c.toJson) rfl
  have hcheck : checkFile read "case" "case/testcase.json" = .error reported := by
    rw [checkFile, hread]
    decide +kernel
  have hresult : ((Dialog.ofSource script (.ofSeed 7)).turnResults (c.turns.map (·.input)))[0]? =
      some (.ok (some "hello")) := by decide +kernel
  have hload : c.opening read "case" = .ok (Dialog.ofSource script (.ofSeed 7)) := by
    decide +kernel
  have hnot : ¬ ExpectedReply.noReply.Allows (some "hello") := nofun
  have hreply := Problem.reply hload rfl hresult hnot
  exact ⟨hread, hcheck, hreply, ((checkFile_verdict hread).2.1 reported).mp hcheck⟩

end

end TestCase

end ScriptedDialog
