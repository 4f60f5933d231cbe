import ScriptedDialog.Text.Digit

/-! Levels of commands: natural numbers below two to the 64, written in ASCII
digits. An absent level is zero. -/

namespace ScriptedDialog.Script

inductive LevelFault where
  | tooLarge
  | invalidDigit
  deriving DecidableEq, Repr

def LevelFault.message : LevelFault → String
  | .tooLarge => "number too large to fit in target type"
  | .invalidDigit => "invalid digit found in string"

/-- Reads on from the value of the digits already passed. Of a foreign digit and
an overflow the one further left is reported. -/
def levelFrom (value : Nat) : List Char → Except LevelFault Nat
  | [] => .ok value
  | c :: cs =>
    match Text.digitValue? c with
    | none => .error .invalidDigit
    | some d => if 10 * value + d < UInt64.size then levelFrom (10 * value + d) cs else .error .tooLarge

def level (digits : List Char) : Except LevelFault Nat := levelFrom 0 digits

theorem levelFrom_of_digits {value : Nat} {digits : List Char} (h : ∀ c ∈ digits, c.isDigit = true)
    (hs : Nat.ofDigitChars 10 digits value < UInt64.size) :
    levelFrom value digits = .ok (Nat.ofDigitChars 10 digits value) := by
  induction digits generalizing value with
  | nil => rw [levelFrom, Nat.ofDigitChars_nil]
  | cons c cs ih =>
    obtain ⟨hc, hcs⟩ := List.forall_mem_cons.mp h
    rw [Nat.ofDigitChars_cons] at hs ⊢
    -- The value only grows, so that no overflow is on the way to a value without one.
    have hle : 10 * value + (c.toNat - 48) ≤
        Nat.ofDigitChars 10 cs (10 * value + (c.toNat - '0'.toNat)) := by
      rw [Nat.ofDigitChars_eq_ofDigitChars_zero]
      exact Nat.le_add_right_of_le (Nat.le_mul_of_pos_left _ (Nat.pow_pos (by decide)))
    simp only [levelFrom, Text.digitValue?_of_ascii hc]
    rw [if_pos (Nat.lt_of_le_of_lt hle hs)]
    exact ih hcs hs

theorem isDigit_toDigits (n : Nat) : ∀ c ∈ Nat.toDigits 10 n, c.isDigit = true :=
  fun _ => Nat.isDigit_of_mem_toDigits (by decide) (by decide)

/-- A level is read back from its decimal digits. -/
theorem level_toDigits {n : Nat} (h : n < UInt64.size) : level (Nat.toDigits 10 n) = .ok n := by
  have hn : Nat.ofDigitChars 10 (Nat.toDigits 10 n) 0 = n := Nat.ofDigitChars_ten_toDigits
  rw [level, levelFrom_of_digits (isDigit_toDigits n) (hn.symm ▸ h), hn]

end ScriptedDialog.Script
