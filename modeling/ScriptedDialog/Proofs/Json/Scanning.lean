import Mathlib.Data.List.Chain
import Mathlib.Data.List.TakeWhile
import ScriptedDialog.Json.Token

/-! Scanning what has been written. A token that stands for itself is read back from
its written form, whatever follows it, but a number must not be followed by what could
go on with it. So tokens with blanks before, between and after them are read back from
the text, as long as no number is next to a number. -/

namespace ScriptedDialog.Json

/-! ### Strings -/

theorem stringUnits?_code {a b c d : Char} {n : Nat} (h : codeUnit? a b c d = some n)
    (rest : List Char) :
    stringUnits? ('\\' :: 'u' :: a :: b :: c :: d :: rest) =
      (stringUnits? rest).map fun (units, rest) => (.code n :: units, rest) := by
  rw [stringUnits?, h]
  cases stringUnits? rest <;> rfl

theorem stringUnits?_letter {e c : Char} (h : unescape? e = some c) (rest : List Char) :
    stringUnits? ('\\' :: e :: rest) =
      (stringUnits? rest).map fun (units, rest) => (.char c :: units, rest) := by
  rw [stringUnits?, h]
  · cases stringUnits? rest <;> rfl
  · rintro _ _ _ _ _ rfl
    cases h

theorem stringUnits?_char {c : Char} (hquote : c ≠ '"') (hslash : c ≠ '\\')
    (hc : ¬ c.toNat < 0x20) (rest : List Char) :
    stringUnits? (c :: rest) =
      (stringUnits? rest).map fun (units, rest) => (.char c :: units, rest) := by
  rw [stringUnits?, if_neg (not_or.mpr ⟨hslash, hc⟩)]
  · cases stringUnits? rest <;> rfl
  · exact hquote
  · rintro _ _ _ _ _ rfl
    exact absurd rfl hslash
  · rintro _ _ rfl
    exact absurd rfl hslash

theorem codeUnit?_control : ∀ n < 0x20,
    codeUnit? '0' '0' (Nat.digitChar (n / 16)) (Nat.digitChar (n % 16)) = some n := by
  decide

/-- The escape of a character is read as one unit, which stands for the character. -/
theorem stringUnits?_escapeChar (c : Char) : ∃ unit,
    (∀ rest, stringUnits? (escapeChar c ++ rest) =
      (stringUnits? rest).map fun (units, rest) => (unit :: units, rest)) ∧
    ∀ units, unitsText? (unit :: units) = (unitsText? units).map (c :: ·) := by
  unfold escapeChar
  split
  case h_8 hquote hslash _ _ _ _ _ =>
    split
    · next hc =>
      refine ⟨.code c.toNat, stringUnits?_code (codeUnit?_control c.toNat hc), fun units => ?_⟩
      have hhigh : isHighSurrogate c.toNat = false :=
        Bool.and_eq_false_iff.mpr (Or.inl (decide_eq_false (by omega)))
      have hlow : isLowSurrogate c.toNat = false :=
        Bool.and_eq_false_iff.mpr (Or.inl (decide_eq_false (by omega)))
      rw [unitsText?.eq_def]
      simp only [hhigh, hlow, Char.ofNat_toNat]
      rfl
    · next hc => exact ⟨.char c, stringUnits?_char hquote hslash hc, fun _ => rfl⟩
  all_goals exact ⟨_, stringUnits?_letter rfl, fun _ => rfl⟩

theorem stringUnits?_quote (cs rest : List Char) : ∃ units,
    stringUnits? (cs.flatMap escapeChar ++ '"' :: rest) = some (units, rest) ∧
      unitsText? units = some cs := by
  induction cs with
  | nil => exact ⟨[], by rw [List.flatMap_nil, List.nil_append, stringUnits?], rfl⟩
  | cons c cs ih =>
    obtain ⟨units, hread, htext⟩ := ih
    obtain ⟨unit, hunit, hc⟩ := stringUnits?_escapeChar c
    refine ⟨unit :: units, ?_, ?_⟩
    · rw [List.flatMap_cons, List.append_assoc, hunit, hread]
      rfl
    · rw [hc, htext]
      rfl

/-! ### Numbers -/

/-- The text does not go on with a number. -/
def EndsNumber (rest : List Char) : Prop :=
  ∀ c ∈ rest.head?, isAsciiDigit c = false ∧ c ≠ '.' ∧ c ≠ 'e' ∧ c ≠ 'E'

theorem isAsciiDigit_of_mem_toDigits {n : Nat} {c : Char} (h : c ∈ Nat.toDigits 10 n) :
    isAsciiDigit c = true :=
  Nat.isDigit_of_mem_toDigits (by decide) (by decide) h

/-- The digits of a number other than zero do not begin with a zero. -/
theorem toDigits_eq_cons (n : Nat) : ∃ d ds, Nat.toDigits 10 n = d :: ds ∧
    isAsciiDigit d = true ∧ (0 < n → d ≠ '0') := by
  induction n using Nat.strongRecOn with
  | ind n ih =>
    by_cases hn : n < 10
    · have hall : ∀ m < 10, isAsciiDigit (Nat.digitChar m) = true ∧
          (0 < m → Nat.digitChar m ≠ '0') := by decide
      exact ⟨Nat.digitChar n, [], Nat.toDigits_of_lt_base hn, hall n hn⟩
    · obtain ⟨d, ds, heq, hd, hne⟩ := ih (n / 10) (by omega)
      rw [Nat.toDigits_of_base_le (by decide) (by omega), heq]
      exact ⟨d, ds ++ [Nat.digitChar (n % 10)], rfl, hd, fun _ => hne (by omega)⟩

theorem takeWhile_dropWhile_toDigits (n : Nat) {rest : List Char} (h : EndsNumber rest) :
    (Nat.toDigits 10 n ++ rest).takeWhile isAsciiDigit = Nat.toDigits 10 n ∧
      (Nat.toDigits 10 n ++ rest).dropWhile isAsciiDigit = rest := by
  have hdigits : ∀ c ∈ Nat.toDigits 10 n, isAsciiDigit c = true :=
    fun c hc => isAsciiDigit_of_mem_toDigits hc
  rw [List.takeWhile_append_of_pos hdigits, List.dropWhile_append_of_pos hdigits]
  cases rest with
  | nil => exact ⟨List.append_nil _, rfl⟩
  | cons c cs =>
    have hc : ¬ isAsciiDigit c = true := by simp [(h c rfl).1]
    rw [List.takeWhile_cons_of_neg hc, List.dropWhile_cons_of_neg hc]
    exact ⟨List.append_nil _, rfl⟩

theorem whole?_toDigits (n : Nat) {rest : List Char} (h : EndsNumber rest) :
    whole? (Nat.toDigits 10 n ++ rest) = some (n, rest) := by
  obtain ⟨htake, hdrop⟩ := takeWhile_dropWhile_toDigits n h
  have hvalue : digitsValue (Nat.toDigits 10 n) = n := Nat.ofDigitChars_ten_toDigits
  rcases Nat.eq_zero_or_pos n with rfl | hn
  · rfl
  · obtain ⟨d, ds, heq, hd, hne⟩ := toDigits_eq_cons n
    rw [whole?]
    · simp only [htake, hdrop, hvalue]
      rw [heq]
      rfl
    · rintro cs hcs
      rw [heq] at hcs
      exact hne hn (List.cons.inj hcs).1

theorem fraction?_of_endsNumber {rest : List Char} (h : EndsNumber rest) :
    fraction? rest = some ([], rest) := by
  rw [fraction?]
  rintro cs rfl
  exact (h '.' rfl).2.1 rfl

theorem exponent?_of_endsNumber {rest : List Char} (h : EndsNumber rest) :
    exponent? rest = some (none, rest) := by
  cases rest with
  | nil => rfl
  | cons c cs =>
    rw [exponent?.eq_def]
    exact if_neg (not_or.mpr (h c rfl).2.2)

theorem number?_toDigits (n : Nat) {rest : List Char} (h : EndsNumber rest) :
    number? (Nat.toDigits 10 n ++ rest) = some (⟨false, n, [], none⟩, rest) := by
  obtain ⟨d, ds, heq, hd, -⟩ := toDigits_eq_cons n
  rw [number?]
  · simp [magnitude?, whole?_toDigits n h, fraction?_of_endsNumber h, exponent?_of_endsNumber h]
  · rintro cs hcs
    rw [heq] at hcs
    exact absurd ((List.cons.inj hcs).1 ▸ hd) (by decide)

/-! ### Tokens -/

namespace Token

def isNumber : Token → Bool
  | .number _ => true
  | _ => false

/-- The token is read back from its written form: a string has a text, and a number is
a run of digits. -/
def Plain : Token → Prop
  | .number n => ∃ m, n = ⟨false, m, [], none⟩
  | .string s => s.isSome
  | _ => True

theorem first?_number (n : Nat) {rest : List Char} (h : EndsNumber rest) :
    first? (Nat.toDigits 10 n ++ rest) = some (.number ⟨false, n, [], none⟩, rest) := by
  have hread := number?_toDigits n h
  obtain ⟨d, ds, heq, hd, -⟩ := toDigits_eq_cons n
  rw [heq, List.cons_append] at hread ⊢
  unfold first?
  split
  case h_11 => rw [hread]; rfl
  all_goals
    next hcs =>
    obtain ⟨rfl, -⟩ := List.cons.inj hcs
    exact absurd hd (by decide)

theorem render_nat (n : Nat) : (number ⟨false, n, [], none⟩).render = Nat.toDigits 10 n := by
  simp [render, Number.render]

theorem first?_render {t : Token} (ht : t.Plain) {rest : List Char}
    (h : t.isNumber = true → EndsNumber rest) : first? (t.render ++ rest) = some (t, rest) := by
  cases t with
  | openArray | closeArray | openObject | closeObject | comma | colon | null => rfl
  | bool b => cases b <;> rfl
  | number n =>
    obtain ⟨m, rfl⟩ := ht
    rw [render_nat]
    exact first?_number m (h rfl)
  | string s =>
    cases s with
    | none => cases ht
    | some s =>
      obtain ⟨units, hread, htext⟩ := stringUnits?_quote s.toList rest
      show first? ('"' :: (s.toList.flatMap escapeChar ++ ['"'] ++ rest)) = _
      rw [first?, List.append_assoc, List.singleton_append, hread]
      simp [htext]

theorem not_isSpace_of_isAsciiDigit {c : Char} (h : isAsciiDigit c = true) : isSpace c = false := by
  rw [Bool.eq_false_iff]
  intro hc
  simp only [isSpace, Bool.or_eq_true, decide_eq_true_eq] at hc
  rcases hc with ((rfl | rfl) | rfl) | rfl <;> exact absurd h (by decide)

/-- What a token begins with, which is no blank and goes on with no number, unless the
token is one. -/
theorem render_eq_cons {t : Token} (ht : t.Plain) : ∃ c cs, t.render = c :: cs ∧
    isSpace c = false ∧ (t.isNumber = false → ∀ rest, EndsNumber (c :: rest)) := by
  have hends {c : Char} (hc : isAsciiDigit c = false ∧ c ≠ '.' ∧ c ≠ 'e' ∧ c ≠ 'E')
      (rest : List Char) : EndsNumber (c :: rest) := by
    rintro _ ⟨⟩
    exact hc
  cases t with
  | openArray | closeArray | openObject | closeObject | comma | colon | null =>
    exact ⟨_, _, rfl, by decide, fun _ => hends (by decide)⟩
  | bool b =>
    cases b
    all_goals exact ⟨_, _, rfl, by decide, fun _ => hends (by decide)⟩
  | number n =>
    obtain ⟨m, rfl⟩ := ht
    obtain ⟨d, ds, heq, hd, -⟩ := toDigits_eq_cons m
    refine ⟨d, ds, (render_nat m).trans heq, not_isSpace_of_isAsciiDigit hd, nofun⟩
  | string s =>
    cases s with
    | none => cases ht
    | some s => exact ⟨'"', _, rfl, by decide, fun _ => hends (by decide)⟩

end Token

/-! ### Layouts -/

/-- Tokens are written one after the other, with any blanks before, between and after
them. -/
inductive Laid : List Token → List Char → Prop
  | nil {blanks} (hb : ∀ c ∈ blanks, isSpace c = true) : Laid [] blanks
  | cons {blanks t ts cs} (hb : ∀ c ∈ blanks, isSpace c = true) (h : Laid ts cs) :
      Laid (t :: ts) (blanks ++ t.render ++ cs)

/-- No number is next to a number. -/
def Apart (ts : List Token) : Prop :=
  ts.IsChain fun t u => t.isNumber = true → u.isNumber = false

theorem laid_flatMap_render (ts : List Token) : Laid ts (ts.flatMap Token.render) := by
  induction ts with
  | nil => exact .nil (by simp)
  | cons t ts ih => exact @Laid.cons [] t ts _ (by simp) ih

namespace Token

theorem scan?_blanks {cs : List Char} (h : ∀ c ∈ cs, isSpace c = true) : scan? cs = some [] := by
  have hdrop : cs.dropWhile isSpace = [] := List.dropWhile_eq_nil_iff.mpr h
  rw [scan?]
  split
  · rfl
  · next hcs => cases hdrop.symm.trans hcs

theorem scan?_cons {blanks cs rest : List Char} {c : Char} {t : Token}
    (hb : ∀ c ∈ blanks, isSpace c = true) (hc : isSpace c = false)
    (hf : first? (c :: cs) = some (t, rest)) :
    scan? (blanks ++ c :: cs) = (scan? rest).map (t :: ·) := by
  have hdrop : (blanks ++ c :: cs).dropWhile isSpace = c :: cs := by
    rw [List.dropWhile_append_of_pos hb, List.dropWhile_cons_of_neg (by simp [hc])]
  rw [scan?]
  split
  · next h => cases hdrop.symm.trans h
  · next h =>
    obtain ⟨rfl, rfl⟩ := List.cons.inj (hdrop.symm.trans h)
    split
    · next hnone => cases hf.symm.trans hnone
    · next hsome =>
      obtain ⟨rfl, rfl⟩ := Prod.mk.inj (Option.some.inj (hf.symm.trans hsome))
      rfl

/-- Behind a number comes a blank, the end or a token that does not go on with it. -/
theorem endsNumber_of_laid {ts : List Token} {cs : List Char} (h : Laid ts cs)
    (hplain : ∀ t ∈ ts, t.Plain) (hhead : ∀ t ∈ ts.head?, t.isNumber = false) : EndsNumber cs := by
  have hblank {c : Char} (hc : isSpace c = true) (rest : List Char) : EndsNumber (c :: rest) := by
    simp only [isSpace, Bool.or_eq_true, decide_eq_true_eq] at hc
    rintro _ ⟨⟩
    rcases hc with ((rfl | rfl) | rfl) | rfl <;> decide
  cases h with
  | nil hb =>
    cases cs with
    | nil => nofun
    | cons b cs => exact hblank (hb b List.mem_cons_self) cs
  | @cons blanks t ts cs hb h =>
    cases blanks with
    | cons b blanks => exact hblank (hb b List.mem_cons_self) _
    | nil =>
      obtain ⟨c, cs', heq, -, hends⟩ := render_eq_cons (hplain t List.mem_cons_self)
      rw [List.nil_append, heq]
      exact hends (hhead t rfl) _

/-- The tokens are read back from any layout of them. -/
theorem scan?_laid {ts : List Token} {cs : List Char} (h : Laid ts cs) (hplain : ∀ t ∈ ts, t.Plain)
    (hapart : Apart ts) : scan? cs = some ts := by
  induction h with
  | nil hb => exact scan?_blanks hb
  | @cons blanks t ts cs hb h ih =>
    obtain ⟨ht, hts⟩ := List.forall_mem_cons.mp hplain
    obtain ⟨hnext, hrest⟩ := List.isChain_cons.mp hapart
    have hread : first? (t.render ++ cs) = some (t, cs) :=
      first?_render ht fun hnumber => endsNumber_of_laid h hts fun u hu => hnext u hu hnumber
    obtain ⟨c, cs', heq, hc, -⟩ := render_eq_cons ht
    rw [heq, List.cons_append] at hread
    rw [heq, List.append_assoc, List.cons_append, scan?_cons hb hc hread, ih hts hrest]
    rfl

end Token

end ScriptedDialog.Json
