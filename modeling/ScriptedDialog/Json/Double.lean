import ScriptedDialog.Json.Basic

/-! Numbers in the range of a double. A number is taken as its leading digits, as
many as fit in a word of 64 bits, times a power of ten. Both factors are rounded
to doubles, and the number is in range when their product rounds to a finite one.
Rounding three times lets numbers next to the bound fall on the other side of it
than their exact values do. -/

namespace ScriptedDialog.Json

/-- The nearest natural number that needs 53 binary digits at most, up to a power
of two as a factor. Of two that are as near, it is the one with the even digits. -/
def nearestDouble (n : Nat) : Nat :=
  let unit := 1 <<< (Nat.log2 n - 52)
  let digits := n / unit
  let rest := n % unit
  if 2 * rest < unit ∨ (2 * rest = unit ∧ digits % 2 = 0) then digits * unit
  else (digits + 1) * unit

/-- The least natural number that rounds past the greatest double: that double
and half of its last unit more. -/
def doubleBound : Nat := (1 <<< 1024) - (1 <<< 970)

/-- Reads on from a value as long as it stays below two to the 64. What is left
begins with the first digit that is not taken. -/
def leadingDigits (value : Nat) : List Char → Nat × List Char
  | [] => (value, [])
  | c :: cs =>
    let next := 10 * value + (c.toNat - 48)
    if next < UInt64.size then leadingDigits next cs else (value, c :: cs)

namespace Number

/-- The leading digits and the power of ten. A digit not taken before the point
counts as one more power, and a digit taken after it as one less. -/
def scaled (n : Number) : Nat × Int :=
  let (value, whole) := leadingDigits 0 (Nat.toDigits 10 n.whole)
  let (value, fraction) := leadingDigits value n.fraction
  (value, n.exponent.getD 0 + whole.length + fraction.length - n.fraction.length)

/-- No power of ten above the 308th is a double, and no word reaches the bound
without a power. -/
def fitsDouble (n : Number) : Bool :=
  let (value, power) := n.scaled
  value = 0 || power < 0
    || (power ≤ 308 && nearestDouble value * nearestDouble (Nat.pow 10 power.toNat) < doubleBound)

end Number

end ScriptedDialog.Json
