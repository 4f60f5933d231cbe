import ScriptedDialog.Proofs.Text.Words
import ScriptedDialog.Trigger

/-! What a text is as a trigger. A tilde with a name behind it is a reference, any other text
with a hole among its words is a pattern, and what is neither is a literal. The trigger tells
its text again, so that a text is the trigger of no other one. -/

namespace ScriptedDialog.Trigger

open Text

theorem reference?_eq_some_iff {cs name : List Char} :
    reference? cs = some name ↔ cs = '~' :: name ∧ IsName name := by
  unfold reference?
  constructor
  · intro h
    split at h
    · split at h
      · next hname =>
        cases h
        simp only [Bool.and_eq_true, Bool.not_eq_true', List.isEmpty_eq_false_iff,
          List.all_eq_true] at hname
        exact ⟨rfl, hname⟩
      · cases h
    · cases h
  · rintro ⟨rfl, hne, hname⟩
    have hall : (!name.isEmpty && name.all isWordChar) = true := by
      simp only [Bool.and_eq_true, Bool.not_eq_true', List.isEmpty_eq_false_iff, List.all_eq_true]
      exact ⟨hne, hname⟩
    exact if_pos hall

/-- A reference is one word, and no hole. -/
theorem hole_not_mem_words_of_reference {cs name : List Char} (h : reference? cs = some name) :
    hole ∉ words cs := by
  obtain ⟨rfl, hname⟩ := reference?_eq_some_iff.mp h
  have htilde : isBlank '~' = false := by decide
  have hblank : ∀ c ∈ '~' :: name, isBlank c = false :=
    List.forall_mem_cons.mpr ⟨htilde, not_isBlank_of_isName hname⟩
  rw [words_eq_singleton (List.cons_ne_nil _ _) hblank]
  intro hmem
  cases List.mem_singleton.mp hmem

/-- What a text is as a trigger, if it can be used as one. -/
inductive Shape (text : String) : Trigger → Prop where
  | reference {name} (text_eq : text.toList = '~' :: name.toList) (isName : IsName name.toList) :
      Shape text (.reference name)
  | wildcard (no_reference : ∀ name, text.toList = '~' :: name → ¬ IsName name)
      (hole_mem : hole ∈ words text.toList) : Shape text (.wildcard text)
  | literal (no_reference : ∀ name, text.toList = '~' :: name → ¬ IsName name)
      (hole_not_mem : hole ∉ words text.toList) : Shape text (.literal text)

theorem shape_ofText {text : String} {t : Trigger} (h : ofText text = .ok t) : Shape text t := by
  unfold ofText at h
  split at h
  · next name hr =>
    cases h
    obtain ⟨htext, hname⟩ := reference?_eq_some_iff.mp hr
    rw [← @String.toList_ofList name] at htext hname
    exact .reference htext hname
  · next hr =>
    have hne : ∀ name, text.toList = '~' :: name → ¬ IsName name := fun name htext hname =>
      Option.eq_none_iff_forall_ne_some.mp hr name (reference?_eq_some_iff.mpr ⟨htext, hname⟩)
    split at h
    · next hcount =>
      cases h
      exact .literal hne (List.count_eq_zero.mp hcount)
    · next hcount =>
      split at h
      · cases h
        exact .wildcard hne (List.count_pos_iff.mp (Nat.pos_of_ne_zero hcount))
      · cases h

theorem source_ofText {text : String} {t : Trigger} (h : ofText text = .ok t) :
    t.source = text := by
  cases shape_ofText h with
  | @reference name text_eq =>
    have hsource : ("~" ++ name).toList = text.toList := by
      rw [String.toList_append, text_eq]
      rfl
    exact String.toList_inj.mp hsource
  | wildcard => rfl
  | literal => rfl

/-- A text with a hole among its words is a pattern, if it can be used. -/
theorem eq_wildcard_of_hole {text : String} {t : Trigger} (h : ofText text = .ok t)
    (hhole : hole ∈ words text.toList) : t = .wildcard text := by
  cases shape_ofText h with
  | reference text_eq isName =>
    exact absurd hhole (hole_not_mem_words_of_reference
      (reference?_eq_some_iff.mpr ⟨text_eq, isName⟩))
  | wildcard => rfl
  | literal _ hole_not_mem => exact absurd hhole hole_not_mem

section
variable {text : String} {t : Trigger} (h : Shape text t)
include h

theorem Shape.eq_reference_iff {name : String} :
    t = .reference name ↔ text.toList = '~' :: name.toList ∧ IsName name.toList := by
  cases h with
  | @reference name' text_eq isName =>
    constructor
    · rintro ⟨⟩
      exact ⟨text_eq, isName⟩
    · rintro ⟨htext, -⟩
      rw [text_eq] at htext
      rw [String.toList_inj.mp (List.cons.inj htext).2]
  | wildcard no_reference | literal no_reference =>
    refine ⟨nofun, ?_⟩
    rintro ⟨htext, hname⟩
    exact absurd hname (no_reference _ htext)

theorem Shape.eq_wildcard_iff {s : String} : t = .wildcard s ↔
    s = text ∧ (∀ name, t ≠ .reference name) ∧ IsWordOf hole text.toList := by
  rw [← mem_words_iff]
  cases h with
  | @reference name => exact ⟨nofun, fun ⟨_, hne, _⟩ => absurd rfl (hne name)⟩
  | wildcard _ hole_mem =>
    constructor
    · rintro ⟨⟩
      exact ⟨rfl, nofun, hole_mem⟩
    · rintro ⟨rfl, -⟩
      rfl
  | literal _ hole_not_mem => exact ⟨nofun, fun ⟨_, _, hmem⟩ => absurd hmem hole_not_mem⟩

theorem Shape.eq_literal_iff {s : String} : t = .literal s ↔
    s = text ∧ (∀ name, t ≠ .reference name) ∧ ¬ IsWordOf hole text.toList := by
  rw [← mem_words_iff]
  cases h with
  | @reference name => exact ⟨nofun, fun ⟨_, hne, _⟩ => absurd rfl (hne name)⟩
  | wildcard _ hole_mem => exact ⟨nofun, fun ⟨_, _, hmem⟩ => absurd hole_mem hmem⟩
  | literal _ hole_not_mem =>
    constructor
    · rintro ⟨⟩
      exact ⟨rfl, nofun, hole_not_mem⟩
    · rintro ⟨rfl, -⟩
      rfl

end

end ScriptedDialog.Trigger
