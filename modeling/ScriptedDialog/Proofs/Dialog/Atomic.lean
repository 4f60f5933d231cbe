import ScriptedDialog.Proofs.Dialog.Lockstep

/-! Turns are atomic. A turn without a reply leaves the dialog as it was, but for the
draws of a turn that fails, so such turns can be struck from a run: without the
unmatched turns the rest of the run is the same, and without the failed turns it is
the same up to what is drawn. -/

namespace ScriptedDialog.Dialog

namespace Step

/-- The step is a turn that no command answers. -/
def unmatched (s : Step) : Bool :=
  match s.result? with
  | some (.ok none) => true
  | _ => false

/-- The step is a turn that fails. -/
def failed (s : Step) : Bool :=
  match s.result? with
  | some (.error _) => true
  | _ => false

end Step

/-- The steps of a run that are not of a kind. -/
def stepsWithout (kind : Step → Bool) (d : Dialog) (moves : List Move) : List Step :=
  (d.steps moves).filter fun s => !kind s

theorem stepsWithout_cons_of_pos {kind : Step → Bool} {d : Dialog} {m : Move}
    (h : kind ⟨d, m⟩ = true) (moves : List Move) :
    stepsWithout kind d (m :: moves) = stepsWithout kind (d.after m) moves := by
  simp [stepsWithout, steps, h]

theorem stepsWithout_cons_of_neg {kind : Step → Bool} {d : Dialog} {m : Move}
    (h : kind ⟨d, m⟩ = false) (moves : List Move) :
    stepsWithout kind d (m :: moves) = ⟨d, m⟩ :: stepsWithout kind (d.after m) moves := by
  simp [stepsWithout, steps, h]

/-! ### One turn -/

theorem turn_of_error {d : Dialog} {input : String} {f : Fault}
    (h : (d.turn input).1 = .error f) : d.SameState (d.turn input).2 := by
  have ht := d.turn_spec input
  generalize d.turn input = t at h ht
  cases ht with
  | unmatched | answered => cases h
  | failed => exact ⟨rfl, rfl, rfl, rfl⟩

theorem turn_of_no_reply {d : Dialog} {input : String} (h : (d.turn input).1 = .ok none) :
    (d.turn input).2 = d := by
  have ht := d.turn_spec input
  generalize d.turn input = t at h ht
  cases ht with
  | unmatched => rfl
  | failed | answered => cases h

theorem after_of_unmatched {d : Dialog} {m : Move} (h : Step.unmatched ⟨d, m⟩ = true) :
    d.after m = d := by
  cases m with
  | reset => cases h
  | say input =>
    apply turn_of_no_reply
    unfold Step.unmatched Step.result? at h
    split at h
    · next hr => exact Option.some.inj hr
    · cases h

theorem after_of_failed {d : Dialog} {m : Move} (h : Step.failed ⟨d, m⟩ = true) :
    d.SameState (d.after m) := by
  cases m with
  | reset => cases h
  | say input =>
    unfold Step.failed Step.result? at h
    split at h
    · next hr => exact turn_of_error (Option.some.inj hr)
    · cases h

/-! ### Runs without turns that leave no trace -/

theorem steps_without_unmatched (d : Dialog) (moves : List Move) :
    d.steps ((d.stepsWithout Step.unmatched moves).map Step.move) =
      d.stepsWithout Step.unmatched moves := by
  induction moves generalizing d with
  | nil => rfl
  | cons m moves ih =>
    cases hu : Step.unmatched ⟨d, m⟩ with
    | true =>
      rw [stepsWithout_cons_of_pos hu, after_of_unmatched hu]
      exact ih d
    | false =>
      rw [stepsWithout_cons_of_neg hu, List.map_cons, steps, ih]

theorem steps_without_failed {d e : Dialog} (h : d.SameState e) (moves : List Move) :
    List.Forall₂ Step.Lockstep (d.steps ((e.stepsWithout Step.failed moves).map Step.move))
      (e.stepsWithout Step.failed moves) := by
  induction moves generalizing d e with
  | nil => exact .nil
  | cons m moves ih =>
    cases hf : Step.failed ⟨e, m⟩ with
    | true =>
      rw [stepsWithout_cons_of_pos hf]
      exact ih (h.trans (after_of_failed hf))
    | false =>
      rw [stepsWithout_cons_of_neg hf]
      have hm := lockstep_step h m
      exact .cons hm (ih hm.after)

/-- A turn without a reply changes nothing, save that a failed one may have drawn. So
a run without its unmatched turns consists of the other steps as they were, and a run
without its failed turns has the other steps up to what is drawn. -/
theorem turns_atomic (d : Dialog) :
    (∀ input f, (d.turn input).1 = .error f → d.SameState (d.turn input).2) ∧
    (∀ input, (d.turn input).1 = .ok none → (d.turn input).2 = d) ∧
    (∀ moves, d.steps ((d.stepsWithout Step.unmatched moves).map Step.move) =
      d.stepsWithout Step.unmatched moves) ∧
    ∀ moves, List.Forall₂ Step.Lockstep
      (d.steps ((d.stepsWithout Step.failed moves).map Step.move))
      (d.stepsWithout Step.failed moves) :=
  ⟨fun _ _ h => turn_of_error h, fun _ h => turn_of_no_reply h,
    fun moves => steps_without_unmatched d moves,
    fun moves => steps_without_failed (.refl d) moves⟩

end ScriptedDialog.Dialog
