import Mathlib.Data.Option.Basic
import ScriptedDialog.Script

/-! The grammars of lines, step by step, and the five ways in which a line is read. -/

namespace ScriptedDialog.Script.Statement

open Text

/-- The steps of the grammar of declarations. -/
theorem declaration?_eq_some_iff {cs name value : List Char} :
    declaration? cs = some (name, value) ↔ ∃ after text, cs = '~' :: after ∧
      after.takeWhile isWordChar = name ∧ name ≠ [] ∧
      afterMark? ':' (after.dropWhile isWordChar) = some text ∧ closing? text = some value := by
  unfold declaration?
  split
  · next after =>
    simp only [Option.bind_eq_bind, Option.bind_eq_some_iff, Option.guard_eq_some',
      Option.pure_def, Option.some.injEq, Prod.mk.injEq, List.cons.injEq, true_and,
      Bool.not_eq_true', List.isEmpty_eq_false_iff]
    constructor
    · rintro ⟨-, hne, text, ht, value, hv, rfl, rfl⟩
      exact ⟨after, text, rfl, rfl, hne, ht, hv⟩
    · rintro ⟨_, text, rfl, rfl, hne, ht, hv⟩
      exact ⟨(), hne, text, ht, value, hv, rfl, rfl⟩
  · next hne =>
    simp only [reduceCtorEq, false_iff]
    rintro ⟨after, -, rfl, -⟩
    exact hne after rfl

/-- The steps of the grammar of commands. -/
theorem commandShape?_eq_some_iff {cs : List Char} {shape : CommandShape} :
    commandShape? cs = some shape ↔ ∃ after opening text closed mark, cs = 'u' :: after ∧
      after.takeWhile isDigit = shape.digits ∧
      afterMark? ':' (after.dropWhile isDigit) = some opening ∧
      afterMark? '(' opening = some text ∧ text.takeWhile isTriggerChar = shape.trigger ∧
      shape.trigger ≠ [] ∧ text.dropWhile isTriggerChar = ')' :: closed ∧
      afterMark? ':' closed = some mark ∧ closing? mark = some shape.response := by
  unfold commandShape?
  split
  · next after =>
    simp only [Option.bind_eq_bind, Option.bind_eq_some_iff, Option.guard_eq_some',
      Option.pure_def, List.cons.injEq, true_and, Bool.not_eq_true', List.isEmpty_eq_false_iff]
    constructor
    · rintro ⟨opening, ho, text, ht, -, hne, h⟩
      split at h
      · next closed hc =>
        simp only [Option.bind_some, Option.bind_eq_some_iff, Option.some.injEq] at h
        obtain ⟨mark, hm, response, hr, rfl⟩ := h
        exact ⟨after, opening, text, closed, mark, rfl, rfl, ho, ht, rfl, hne, hc, hm, hr⟩
      · cases h
    · rintro ⟨_, opening, text, closed, mark, rfl, hd, ho, ht, htrigger, hne, hc, hm, hr⟩
      refine ⟨opening, ho, text, ht, (), htrigger ▸ hne, ?_⟩
      rw [hc]
      simp only [Option.bind_some, hm, hr, hd, htrigger]
  · next hne =>
    simp only [reduceCtorEq, false_iff]
    rintro ⟨after, -, -, -, -, rfl, -⟩
    exact hne after rfl

/-- The ways in which a line is read. -/
inductive Reading (line : SourceLine) : Except Diagnostic Statement → Prop where
  | declaration {name value} (h : declaration? line.text.toList = some (name, value)) :
      Reading line
        (.ok (.declaration (String.ofList name) (String.ofList value) line.number))
  | malformed (hd : declaration? line.text.toList = none)
      (hc : commandShape? line.text.toList = none) :
      Reading line (.error ⟨.lineSyntax line.text, line.number⟩)
  | badLevel {shape cause} (hd : declaration? line.text.toList = none)
      (hc : commandShape? line.text.toList = some shape) (hl : level shape.digits = .error cause) :
      Reading line (.error ⟨.lineLevel (String.ofList shape.digits) cause, line.number⟩)
  | blankTrigger {shape n} (hd : declaration? line.text.toList = none)
      (hc : commandShape? line.text.toList = some shape) (hl : level shape.digits = .ok n)
      (ht : trim shape.trigger = []) :
      Reading line (.error ⟨.lineTrigger line.text, line.number⟩)
  | command {shape n} (hd : declaration? line.text.toList = none)
      (hc : commandShape? line.text.toList = some shape) (hl : level shape.digits = .ok n)
      (ht : trim shape.trigger ≠ []) :
      Reading line (.ok (.command n (String.ofList (trim shape.trigger))
        (String.ofList (unwrap shape.response)) line.number))

theorem ofLine_reading (line : SourceLine) : Reading line (ofLine line) := by
  unfold ofLine
  simp only
  split
  · next h => exact .declaration h
  · next hd =>
    split
    · next hc => exact .malformed hd hc
    · next hc =>
      split
      · next hl => exact .badLevel hd hc hl
      · next hl =>
        split
        · next ht => exact .blankTrigger hd hc hl (List.isEmpty_iff.mp ht)
        · next ht => exact .command hd hc hl fun h => ht (List.isEmpty_iff.mpr h)

/-- A line is read in one way. -/
theorem Reading.eq {line : SourceLine} {r : Except Diagnostic Statement} (h : Reading line r) :
    ofLine line = r := by
  unfold ofLine
  cases h with
  | declaration h => simp only [h]
  | malformed hd hc => simp only [hd, hc]
  | badLevel hd hc hl => simp only [hd, hc, hl]
  | blankTrigger hd hc hl ht => simp only [hd, hc, hl, ht, List.isEmpty_nil, ↓reduceIte]
  | command hd hc hl ht =>
    have hne : (trim _).isEmpty = false := List.isEmpty_eq_false_iff.mpr ht
    simp only [hd, hc, hl, hne, Bool.false_eq_true, ↓reduceIte]

theorem isName_of_ofLine {line : SourceLine} {name value : String} {n : Nat}
    (h : ofLine line = .ok (.declaration name value n)) : IsName name.toList := by
  have hr := ofLine_reading line
  rw [h] at hr
  cases hr with
  | declaration hd =>
    obtain ⟨after, text, -, rfl, hne, -⟩ := declaration?_eq_some_iff.mp hd
    rw [String.toList_ofList]
    exact isName_takeWhile hne

theorem line_ofLine {line : SourceLine} {s : Statement} (h : ofLine line = .ok s) :
    s.line = line.number := by
  have hr := ofLine_reading line
  rw [h] at hr
  cases hr with
  | declaration | command => rfl

theorem line_of_error {line : SourceLine} {d : Diagnostic} (h : ofLine line = .error d) :
    d.line = some line.number := by
  have hr := ofLine_reading line
  rw [h] at hr
  cases hr with
  | malformed | badLevel | blankTrigger => rfl

end ScriptedDialog.Script.Statement
