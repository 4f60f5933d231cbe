import Mathlib.Data.List.Infix
import ScriptedDialog.Proofs.Text.Words
import ScriptedDialog.Script.Response

/-! Responses in parentheses. A pair is taken off a response if it encloses all of it, so
that no beginning of the response has as many closing parentheses as opening ones. The
depth that is counted finds this out, although it never goes below zero: up to the place
where it comes to zero it is what is open. The pair is one byte at either end. -/

namespace ScriptedDialog.Script

open Text

/-! ### Depth -/

section
variable {c : Char} {cs : List Char} {P : List Char → Prop}

theorem forall_beginning_cons_iff :
    (∀ p, p <+: c :: cs → p ≠ c :: cs → P p) ↔ P [] ∧ ∀ p, p <+: cs → p ≠ cs → P (c :: p) := by
  constructor
  · intro h
    refine ⟨h [] List.nil_prefix (List.cons_ne_nil c cs).symm, fun p hp hne => ?_⟩
    exact h (c :: p) (List.cons_prefix_cons.mpr ⟨rfl, hp⟩) fun he => hne (List.cons.inj he).2
  · rintro ⟨hnil, hcons⟩ p hp hne
    rcases List.prefix_cons_iff.mp hp with rfl | ⟨q, rfl, hq⟩
    · exact hnil
    · exact hcons q hq fun he => hne (congrArg (c :: ·) he)

theorem forall_beginning_concat_iff :
    (∀ p, p <+: cs ++ [c] → p ≠ cs ++ [c] → P p) ↔ ∀ p, p <+: cs → P p := by
  constructor
  · refine fun h p hp => h p (hp.trans (List.prefix_append cs [c])) ?_
    rintro rfl
    have hle := hp.length_le
    rw [List.length_append, List.length_singleton] at hle
    omega
  · intro h p hp hne
    exact h p ((List.prefix_concat_iff.mp hp).resolve_left hne)

/-- The depth comes to zero early if a beginning closes all that has been open before it and
one more. Nothing is counted from there on. -/
theorem closesEarly_eq_false_iff {depth : Nat} : closesEarly (depth + 1) cs = false ↔
    ∀ p, p <+: cs → p ≠ cs → p.count ')' ≤ depth + p.count '(' := by
  induction cs generalizing depth with
  | nil => simp [closesEarly]
  | cons c cs ih =>
    rw [forall_beginning_cons_iff, closesEarly]
    split
    · next hc =>
      subst hc
      simp only [ih, List.count_nil, Nat.zero_le, true_and]
      refine forall₃_congr fun p _ _ => ?_
      rw [List.count_cons_of_ne (by decide), List.count_cons_self]
      omega
    · split
      · next hc =>
        subst hc
        cases depth with
        | zero =>
          cases cs with
          | nil => simp [closesEarly]
          | cons d ds => simpa using ⟨[], by simp⟩
        | succ outer =>
          simp only [Nat.add_sub_cancel, ih, Nat.add_eq_zero_iff, Nat.one_ne_zero, and_false,
            decide_false, Bool.false_and, Bool.false_or, List.count_nil, Nat.zero_le, true_and]
          refine forall₃_congr fun p _ _ => ?_
          rw [List.count_cons_self, List.count_cons_of_ne (by decide)]
          omega
      · next hopen hclose => simp [ih, hopen, hclose]

/-- A text that closes more than is open has a beginning that closes just one more. -/
theorem count_le_of_forall_ne (h : ∀ p, p <+: cs → p.count ')' ≠ p.count '(' + 1) :
    cs.count ')' ≤ cs.count '(' := by
  induction cs using List.reverseRecOn with
  | nil => simp
  | append_singleton cs c ih =>
    have hrest := ih fun p hp => h p (hp.trans (List.prefix_append cs [c]))
    have hall := h (cs ++ [c]) (List.prefix_refl _)
    have hclose : [c].count ')' ≤ 1 := List.count_le_length
    simp only [List.count_append] at hall ⊢
    omega

end

/-! ### Enclosing pairs -/

/-- The first and the last character are parentheses, and the first is not closed before the
last: no beginning of the text between nothing and all of it is balanced. -/
structure Enclosed (cs : List Char) : Prop where
  opens : cs.head? = some '('
  closes : cs.getLast? = some ')'
  unbalanced : ∀ p, p <+: cs → p ≠ [] → p ≠ cs → p.count ')' ≠ p.count '('

section
variable {cs inner : List Char}

theorem exists_inner (hopen : cs.head? = some '(') (hclose : cs.getLast? = some ')') :
    ∃ inner, cs = '(' :: (inner ++ [')']) := by
  obtain ⟨rest, rfl⟩ := List.head?_eq_some_iff.mp hopen
  cases rest with
  | nil => cases hclose
  | cons c rest =>
    rw [List.getLast?_cons_cons] at hclose
    obtain ⟨inner, hinner⟩ := List.getLast?_eq_some_iff.mp hclose
    exact ⟨inner, congrArg ('(' :: ·) hinner⟩

theorem getLast?_parenthesized (inner : List Char) :
    ('(' :: (inner ++ [')'])).getLast? = some ')' := by
  rw [← List.cons_append, List.getLast?_concat]

/-- A pair encloses a text that never closes more than is open. -/
theorem enclosed_parenthesized_iff : Enclosed ('(' :: (inner ++ [')'])) ↔
    ∀ p, p <+: inner → p.count ')' ≤ p.count '(' := by
  have hcounts : (∀ p, p <+: '(' :: (inner ++ [')']) → p ≠ '(' :: (inner ++ [')']) →
      p ≠ [] → p.count ')' ≠ p.count '(') ↔ ∀ p, p <+: inner → p.count ')' ≠ p.count '(' + 1 := by
    rw [forall_beginning_cons_iff, forall_beginning_concat_iff]
    simp
  constructor
  · intro h p hp
    have hne := hcounts.mp fun p hp hall hnil => h.unbalanced p hp hnil hall
    exact count_le_of_forall_ne fun q hq => hne q (hq.trans hp)
  · intro h
    have hne := hcounts.mpr fun p hp => by have hle := h p hp; omega
    exact ⟨rfl, getLast?_parenthesized inner, fun p hp hnil hall => hne p hp hall hnil⟩

theorem closesEarly_parenthesized_iff : closesEarly 0 ('(' :: (inner ++ [')'])) = false ↔
    ∀ p, p <+: inner → p.count ')' ≤ p.count '(' := by
  rw [closesEarly, if_pos rfl, closesEarly_eq_false_iff, forall_beginning_concat_iff]
  simp

/-- The depth that is counted decides whether a pair encloses a text. -/
theorem enclosed_iff : Enclosed cs ↔
    cs.head? = some '(' ∧ cs.getLast? = some ')' ∧ closesEarly 0 cs = false := by
  constructor
  · intro h
    obtain ⟨inner, rfl⟩ := exists_inner h.opens h.closes
    exact ⟨h.opens, h.closes, closesEarly_parenthesized_iff.mpr (enclosed_parenthesized_iff.mp h)⟩
  · rintro ⟨hopen, hclose, hearly⟩
    obtain ⟨inner, rfl⟩ := exists_inner hopen hclose
    exact enclosed_parenthesized_iff.mpr (closesEarly_parenthesized_iff.mp hearly)

theorem unwrap_of_enclosed (h : Enclosed (trim cs)) (hinner : trim cs = '(' :: (inner ++ [')'])) :
    unwrap cs = trim inner := by
  unfold unwrap
  simp only [if_pos (enclosed_iff.mp h)]
  rw [hinner, List.tail_cons, List.dropLast_concat]

theorem unwrap_of_not_enclosed (h : ¬ Enclosed (trim cs)) : unwrap cs = trim cs := by
  unfold unwrap
  simp only [if_neg (mt enclosed_iff.mpr h)]

theorem trim_parenthesized (cs : List Char) : trim ('(' :: (cs ++ [')'])) = '(' :: (cs ++ [')']) :=
  trim_cons_of_suffix (by decide) (List.suffix_append _ _) (List.cons_ne_nil _ _) rfl

/-! ### What is kept -/

/-- A text that is not enclosed keeps its ends, so it is longer than what they enclose. -/
theorem enclosed_of_unwrap_eq {first last : Char} (hbody : trim cs = first :: (inner ++ [last]))
    (h : unwrap cs = trim inner) : Enclosed (trim cs) := by
  by_contra hnot
  rw [unwrap_of_not_enclosed hnot, hbody] at h
  have hle := (trim_sublist inner).length_le
  rw [← h, List.length_cons, List.length_append] at hle
  omega

/-- What of a text is no blank. -/
def inked (cs : List Char) : List Char := cs.filter (!isBlank ·)

theorem inked_trim (cs : List Char) : inked (trim cs) = inked cs := by
  have hblanks {blanks : List Char} (h : ∀ c ∈ blanks, isBlank c = true) : inked blanks = [] :=
    List.filter_eq_nil_iff.mpr fun c hc => by simp [h c hc]
  have happend (cs ds : List Char) : inked (cs ++ ds) = inked cs ++ inked ds :=
    List.filter_append _ _
  obtain ⟨left, right, hleft, hright, heq⟩ := exists_blanks_trim cs
  conv_rhs => rw [heq, happend, happend, hblanks hleft, hblanks hright]
  simp

/-- Besides blanks, at most one pair is lost. -/
theorem inked_unwrap (cs : List Char) : inked (trim cs) = inked (unwrap cs) ∨
    inked (trim cs) = '(' :: (inked (unwrap cs) ++ [')']) := by
  by_cases h : Enclosed (trim cs)
  · obtain ⟨inner, hinner⟩ := exists_inner h.opens h.closes
    right
    rw [unwrap_of_enclosed h hinner, inked_trim inner, hinner, inked, inked]
    simp +decide
  · exact Or.inl (by rw [unwrap_of_not_enclosed h])

end

/-! ### Bytes -/

/-- What a pair encloses is a slice of the text, from behind the first byte to before the
last. -/
theorem exists_slice {s : String} {inner : List Char} (h : s.toList = '(' :: (inner ++ [')'])) :
    ∃ (start stop : s.Pos) (hle : start ≤ stop), start.offset.byteIdx = 1 ∧
      stop.offset.byteIdx + 1 = s.utf8ByteSize ∧ (s.slice start stop hle).copy.toList = inner := by
  have hfront : s = "(" ++ (String.ofList inner ++ ")") := String.toList_injective (by simp [h])
  have hback : s = "(" ++ String.ofList inner ++ ")" := by rw [hfront, String.append_assoc]
  have hstart := String.Pos.splits_ofEqAppend hfront
  have hstop := String.Pos.splits_ofEqAppend hback
  obtain ⟨hle, hcopy⟩ := String.copy_slice_eq_iff_splits.mpr ⟨_, _, hstart, hstop⟩
  refine ⟨_, _, hle, ?_, ?_, ?_⟩
  · rw [hstart.offset_eq_rawEndPos]
    rfl
  · rw [hstop.offset_eq_rawEndPos]
    conv_rhs => rw [hback]
    simp
    rfl
  · rw [hcopy, String.toList_ofList]

/-! ### Texts -/

theorem toList_unwrapped (s : String) : (unwrapped s).toList = unwrap s.toList :=
  String.toList_ofList

theorem toList_trimmed (s : String) : (trimmed s).toList = trim s.toList :=
  String.toList_ofList

theorem toList_parenthesized (s : String) :
    ("(" ++ s ++ ")").toList = '(' :: (s.toList ++ [')']) := by
  simp

/-- What is made of a response is the trimmed text between its ends exactly if these are a
pair that encloses it, and else it is the trimmed response. So nothing is lost but blanks
and one pair at most, and around any text a pair is taken off exactly if the text never
closes more than is open. Whether it is taken off or not, a pair at the ends is one byte at
either end, and what is between is a slice. -/
theorem unwrapped_iff_enclosed (raw : String) :
    ((∃ first inner last, (trimmed raw).toList = first :: (inner ++ [last]) ∧
        unwrapped raw = trimmed (String.ofList inner)) ↔ Enclosed (trimmed raw).toList) ∧
    (¬ Enclosed (trimmed raw).toList → unwrapped raw = trimmed raw) ∧
    (inked (trimmed raw).toList = inked (unwrapped raw).toList ∨
      inked (trimmed raw).toList = '(' :: (inked (unwrapped raw).toList ++ [')'])) ∧
    (∀ inner, (trimmed raw).toList = '(' :: (inner ++ [')']) →
      ∃ (start stop : (trimmed raw).Pos) (h : start ≤ stop), start.offset.byteIdx = 1 ∧
        stop.offset.byteIdx + 1 = (trimmed raw).utf8ByteSize ∧
        ((trimmed raw).slice start stop h).copy.toList = inner) ∧
    ∀ text : String, unwrapped ("(" ++ text ++ ")") = trimmed text ↔
      ∀ p, p <+: text.toList → p.count ')' ≤ p.count '(' := by
  have hbody : (trimmed raw).toList = trim raw.toList := toList_trimmed raw
  have hresult : (unwrapped raw).toList = unwrap raw.toList := toList_unwrapped raw
  refine ⟨?_, fun h => ?_, ?_, fun inner => exists_slice, fun text => ?_⟩
  · rw [hbody]
    constructor
    · rintro ⟨first, inner, last, hends, heq⟩
      refine enclosed_of_unwrap_eq hends ?_
      rw [← hresult, heq, toList_trimmed, String.toList_ofList]
    · intro h
      obtain ⟨inner, hinner⟩ := exists_inner h.opens h.closes
      refine ⟨'(', inner, ')', hinner, String.toList_injective ?_⟩
      rw [hresult, toList_trimmed, String.toList_ofList, unwrap_of_enclosed h hinner]
  · rw [hbody] at h
    exact String.toList_injective (by rw [hresult, hbody, unwrap_of_not_enclosed h])
  · rw [hbody, hresult]
    exact inked_unwrap raw.toList
  · have htrim : trim ("(" ++ text ++ ")").toList = '(' :: (text.toList ++ [')']) := by
      rw [toList_parenthesized, trim_parenthesized]
    rw [← enclosed_parenthesized_iff, ← htrim, ← String.toList_inj, toList_unwrapped,
      toList_trimmed]
    exact ⟨enclosed_of_unwrap_eq htrim, fun h => unwrap_of_enclosed h htrim⟩

-- The first parenthesis of the second text is closed before the end, and that of the third never.
example : unwrapped "((a) b)" = "(a) b" ∧ unwrapped " (a) (b) " = "(a) (b)" ∧
    unwrapped "(()" = "(" := by decide +kernel

end ScriptedDialog.Script
