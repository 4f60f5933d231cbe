import ScriptedDialog.Value.Bracketed

/-! The brackets that bound the bracketed part of a text. An opening bracket has for partners
the closing ones behind it on its line. The leftmost opening bracket with a partner decides,
and the part goes on to its last partner. On a text without line feeds every closing bracket
is a partner of all the opening ones before it, so that these two are simply the first opening
bracket and the last closing one. -/

namespace ScriptedDialog.Value

variable {c : Char} {text cs before inner after : List Char}

/-! ### The last closing bracket of a line -/

/-- The closing bracket between `inner` and `after` is the last one on the first line. -/
structure LastClosing (cs inner after : List Char) : Prop where
  text_eq : cs = inner ++ ']' :: after
  oneLine : '\n' ∉ inner
  last : ']' ∉ after.takeWhile (· ≠ '\n')

theorem LastClosing.cons (h : LastClosing cs inner after) (hc : c ≠ '\n') :
    LastClosing (c :: cs) (c :: inner) after where
  text_eq := by rw [h.text_eq, List.cons_append]
  oneLine := List.not_mem_cons_of_ne_of_not_mem hc.symm h.oneLine
  last := h.last

theorem closing_mem_takeWhile (h : '\n' ∉ inner) (after : List Char) :
    ']' ∈ (inner ++ ']' :: after).takeWhile (· ≠ '\n') := by
  have hinner : ∀ d ∈ inner, decide (d ≠ '\n') = true := fun d hd =>
    decide_eq_true fun he => h (he ▸ hd)
  rw [List.takeWhile_append_of_pos hinner, List.takeWhile_cons_of_pos (by decide)]
  exact List.mem_append_right _ List.mem_cons_self

theorem upToClose?_eq_none_iff : upToClose? cs = none ↔ ']' ∉ cs.takeWhile (· ≠ '\n') := by
  induction cs with
  | nil => simp [upToClose?]
  | cons c cs ih =>
    unfold upToClose?
    split
    · next hc => simp [hc]
    · next hc =>
      have htake : (c :: cs).takeWhile (· ≠ '\n') = c :: cs.takeWhile (· ≠ '\n') :=
        List.takeWhile_cons_of_pos (decide_eq_true hc)
      rw [htake, List.mem_cons, not_or, ← ih]
      cases upToClose? cs with
      | none => simp [eq_comm]
      | some later => simp

theorem upToClose?_ne_none (h : '\n' ∉ inner) (after : List Char) :
    upToClose? (inner ++ ']' :: after) ≠ none := fun hnone =>
  upToClose?_eq_none_iff.mp hnone (closing_mem_takeWhile h after)

theorem lastClosing_of_upToClose? (h : upToClose? cs = some inner) :
    ∃ after, LastClosing cs inner after := by
  induction cs generalizing inner with
  | nil => cases h
  | cons c cs ih =>
    unfold upToClose? at h
    split at h
    · cases h
    · next hc =>
      split at h
      · next later hlater =>
        cases h
        obtain ⟨after, hlast⟩ := ih hlater
        exact ⟨after, hlast.cons hc⟩
      · next hnone =>
        split at h
        · next hclose =>
          cases h
          exact ⟨cs, by rw [hclose, List.nil_append], List.not_mem_nil,
            upToClose?_eq_none_iff.mp hnone⟩
        · cases h

theorem LastClosing.upToClose?_eq (h : LastClosing cs inner after) :
    upToClose? cs = some inner := by
  obtain ⟨rfl, oneLine, last⟩ := h
  induction inner with
  | nil =>
    rw [List.nil_append, upToClose?, if_neg (by decide), upToClose?_eq_none_iff.mpr last]
    rfl
  | cons c inner ih =>
    obtain ⟨hc, hinner⟩ := not_or.mp (mt List.mem_cons.mpr oneLine)
    rw [List.cons_append, upToClose?, if_neg (Ne.symm hc), ih hinner]

/-! ### Partners -/

/-- An opening bracket and a closing one behind it on its line, with what stands before,
between and behind them. -/
structure Partners (text before inner after : List Char) : Prop where
  text_eq : text = before ++ '[' :: (inner ++ ']' :: after)
  oneLine : '\n' ∉ inner

/-- No opening bracket further to the left has a partner, and of the partners that this one
has the last is taken. -/
structure Bounds (text before inner after : List Char) : Prop
    extends Partners text before inner after where
  leftmost : ∀ before' inner' after', Partners text before' inner' after' →
    before.length ≤ before'.length
  last : ']' ∉ after.takeWhile (· ≠ '\n')

theorem Partners.cons (h : Partners cs before inner after) (c : Char) :
    Partners (c :: cs) (c :: before) inner after :=
  ⟨by rw [h.text_eq, List.cons_append], h.oneLine⟩

theorem Partners.of_cons {b : Char} (h : Partners (c :: cs) (b :: before) inner after) :
    Partners cs before inner after :=
  ⟨(List.cons.inj h.text_eq).2, h.oneLine⟩

theorem partners_nil_iff : Partners (c :: cs) [] inner after ↔
    c = '[' ∧ cs = inner ++ ']' :: after ∧ '\n' ∉ inner := by
  constructor
  · rintro ⟨text_eq, oneLine⟩
    obtain ⟨hc, hcs⟩ := List.cons.inj text_eq
    exact ⟨hc, hcs, oneLine⟩
  · rintro ⟨rfl, rfl, oneLine⟩
    exact ⟨rfl, oneLine⟩

theorem bounds_nil_iff : Bounds ('[' :: cs) [] inner after ↔ LastClosing cs inner after := by
  constructor
  · intro h
    obtain ⟨-, text_eq, oneLine⟩ := partners_nil_iff.mp h.toPartners
    exact ⟨text_eq, oneLine, h.last⟩
  · intro h
    exact ⟨partners_nil_iff.mpr ⟨rfl, h.text_eq, h.oneLine⟩, fun _ _ _ _ => Nat.zero_le _, h.last⟩

/-- A character that opens no part leaves the bounds where they are. -/
theorem bounds_cons_iff (hc : ∀ inner after, ¬ Partners (c :: cs) [] inner after) :
    (∃ before after, Bounds (c :: cs) before inner after) ↔
      ∃ before after, Bounds cs before inner after := by
  constructor
  · rintro ⟨before, after, h⟩
    cases before with
    | nil => exact absurd h.toPartners (hc inner after)
    | cons b before =>
      refine ⟨before, after, h.toPartners.of_cons, fun before' inner' after' h' => ?_, h.last⟩
      exact Nat.le_of_succ_le_succ (h.leftmost _ _ _ (h'.cons c))
  · rintro ⟨before, after, h⟩
    refine ⟨c :: before, after, h.toPartners.cons c, fun before' inner' after' h' => ?_, h.last⟩
    cases before' with
    | nil => exact absurd h' (hc inner' after')
    | cons b before' => exact Nat.succ_le_succ (h.leftmost _ _ _ h'.of_cons)

/-! ### The bracketed part -/

theorem Partners.bracketed?_ne_none (h : Partners text before inner after) :
    bracketed? text ≠ none := by
  obtain ⟨rfl, oneLine⟩ := h
  induction before with
  | nil =>
    obtain ⟨part, hpart⟩ := Option.ne_none_iff_exists'.mp (upToClose?_ne_none oneLine after)
    rw [List.nil_append, bracketed?, if_pos rfl, hpart]
    exact Option.some_ne_none part
  | cons c before ih =>
    rw [List.cons_append, bracketed?]
    split
    · split
      · exact Option.some_ne_none _
      · exact ih
    · exact ih

theorem bracketed?_eq_some_iff :
    bracketed? text = some inner ↔ ∃ before after, Bounds text before inner after := by
  induction text with
  | nil =>
    refine iff_of_false nofun ?_
    rintro ⟨before, after, h⟩
    exact List.append_ne_nil_of_right_ne_nil before (List.cons_ne_nil _ _) h.text_eq.symm
  | cons c cs ih =>
    unfold bracketed?
    split
    · next hc =>
      subst hc
      split
      · next part hpart =>
        obtain ⟨after', hlast⟩ := lastClosing_of_upToClose? hpart
        have hbounds := bounds_nil_iff.mpr hlast
        constructor
        · rintro ⟨⟩
          exact ⟨[], after', hbounds⟩
        · rintro ⟨before, after, h⟩
          -- No opening bracket is further to the left than the first character.
          have hle := h.leftmost _ _ _ hbounds.toPartners
          obtain rfl := List.eq_nil_of_length_eq_zero (Nat.le_zero.mp hle)
          rw [← hpart, (bounds_nil_iff.mp h).upToClose?_eq]
      · next hnone =>
        rw [ih]
        refine (bounds_cons_iff fun inner after h => ?_).symm
        obtain ⟨-, rfl, oneLine⟩ := partners_nil_iff.mp h
        exact upToClose?_ne_none oneLine after hnone
    · next hc =>
      rw [ih]
      exact (bounds_cons_iff fun inner after h => hc (partners_nil_iff.mp h).1).symm

theorem exists_bracketed?_iff : (∃ inner, bracketed? text = some inner) ↔
    ∃ before inner after, Partners text before inner after := by
  constructor
  · rintro ⟨inner, h⟩
    obtain ⟨before, after, hbounds⟩ := bracketed?_eq_some_iff.mp h
    exact ⟨before, inner, after, hbounds.toPartners⟩
  · rintro ⟨before, inner, after, h⟩
    exact Option.ne_none_iff_exists'.mp h.bracketed?_ne_none

/-- On a single line the first opening bracket and the last closing one are the bounds, if they
stand in this order. -/
theorem bounds_iff_of_oneLine (hline : '\n' ∉ text) : Bounds text before inner after ↔
    text = before ++ '[' :: (inner ++ ']' :: after) ∧ '[' ∉ before ∧ ']' ∉ after := by
  constructor
  · rintro ⟨⟨rfl, hinner⟩, leftmost, last⟩
    simp only [List.mem_append, List.mem_cons, not_or] at hline
    obtain ⟨hbefore, -, -, -, hafter⟩ := hline
    refine ⟨rfl, fun hopen => ?_, fun hclose => ?_⟩
    -- An opening bracket further to the left would have the same partner.
    · obtain ⟨front, back, rfl⟩ := List.append_of_mem hopen
      have hback : '\n' ∉ back ++ '[' :: inner := by
        simp only [List.mem_append, List.mem_cons, not_or] at hbefore ⊢
        exact ⟨hbefore.2.2, hbefore.2.1, hinner⟩
      have hle := leftmost front (back ++ '[' :: inner) after ⟨by simp, hback⟩
      rw [List.length_append, List.length_cons] at hle
      omega
    · obtain ⟨front, back, rfl⟩ := List.append_of_mem hclose
      have hfront : '\n' ∉ front := fun hfeed => hafter (List.mem_append_left _ hfeed)
      exact last (closing_mem_takeWhile hfront back)
  · rintro ⟨rfl, hopen, hclose⟩
    have hinner : '\n' ∉ inner := fun hfeed => hline (by simp [hfeed])
    refine ⟨⟨rfl, hinner⟩, fun before' inner' after' h => ?_, fun hlast =>
      hclose (List.takeWhile_subset _ hlast)⟩
    rcases List.append_eq_append_iff.mp h.text_eq with ⟨more, rfl, -⟩ | ⟨more, rfl, hmore⟩
    · rw [List.length_append]
      omega
    · cases more with
      | nil => simp
      | cons d more =>
        obtain ⟨rfl, -⟩ := List.cons.inj hmore
        exact absurd (List.mem_append_right _ List.mem_cons_self) hopen

/-- A text has a bracketed part exactly if an opening bracket has a closing one behind it on
its line. The part stands between the leftmost opening bracket of this kind and the last
closing one behind it on its line. On a single line it stands between the first opening
bracket and the last closing one. -/
theorem bracketed_iff_bounds (text : List Char) :
    ((∃ inner, bracketed? text = some inner) ↔
      ∃ before inner after, Partners text before inner after) ∧
    (∀ inner, bracketed? text = some inner ↔ ∃ before after, Bounds text before inner after) ∧
    ('\n' ∉ text → ∀ inner, bracketed? text = some inner ↔ ∃ before after,
      text = before ++ '[' :: (inner ++ ']' :: after) ∧ '[' ∉ before ∧ ']' ∉ after) := by
  refine ⟨exists_bracketed?_iff, fun _ => bracketed?_eq_some_iff, fun hline inner => ?_⟩
  rw [bracketed?_eq_some_iff]
  exact exists₂_congr fun _ _ => bounds_iff_of_oneLine hline

/-- Reversed, nested and repeated brackets on a single line. -/
theorem bracketed_iff_bounds_nested :
    '\n' ∉ "a] [b [c] d] e [f".toList ∧
      bracketed? "a] [b [c] d] e [f".toList = some "b [c] d".toList :=
  ⟨by decide, ((bracketed_iff_bounds _).2.2 (by decide) _).mpr
    ⟨"a] ".toList, " e [f".toList, by decide⟩⟩

-- The first opening bracket has no partner, since its line ends before a closing one.
example : bracketed? "[a\n[b] c]\n[d]".toList = some "b] c".toList := by decide

end ScriptedDialog.Value
