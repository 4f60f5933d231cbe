import ScriptedDialog.Proofs.Template.Faults

/-! Lookups that advance: a name is given a scalar, or keeps what it had. A template
that has a text then keeps having one, unless it could change from a choice of a list
to a text with references, which it can only while it has a bracketed list and mentions
names of which none is defined. -/

namespace ScriptedDialog.Template

/-- Each name has a scalar in the later lookup, or what it had in the earlier one. -/
def Advances (earlier later : Lookup) : Prop :=
  ∀ name, (∃ text, later name = some (.scalar text)) ∨ later name = earlier name

/-- The template does not both have a bracketed list and mention names, or one of the names
is defined. So it is a choice of the list from here on, or it never is. -/
def Steady (template : String) (lookup : Lookup) : Prop :=
  Value.bracketed? template.toList = none ∨ mentions template = [] ∨
    ∃ name ∈ mentions template, lookup name ≠ none

theorem Advances.trans {l m n : Lookup} (h : Advances l m) (h' : Advances m n) :
    Advances l n := by
  intro name
  rcases h' name with hscalar | hsame
  · exact Or.inl hscalar
  · rw [hsame]
    exact h name

section
variable {earlier later : Lookup}

theorem Advances.ne_none (h : Advances earlier later) {name : String}
    (hname : earlier name ≠ none) : later name ≠ none := by
  rcases h name with ⟨text, hscalar⟩ | hsame
  · rw [hscalar]
    nofun
  · rwa [hsame]

theorem Piece.fault?_of_advances (h : Advances earlier later) {piece : Piece}
    (hp : piece.fault? earlier = none) : piece.fault? later = none := by
  cases piece with
  | text cs => rfl
  | reference sigil name =>
    rcases h (String.ofList name) with ⟨text, hscalar⟩ | hsame
    · cases sigil <;> simp only [fault?, hscalar]
    · simpa only [fault?, hsame] using hp

theorem any_isSome_of_defined {template name : String} {lookup : Lookup}
    (hm : name ∈ mentions template) (hname : lookup name ≠ none) :
    ((mentions template).any fun name => (lookup name).isSome) = true :=
  List.any_eq_true.mpr ⟨name, hm, Option.isSome_iff_ne_none.mpr hname⟩

theorem list?_of_advances (h : Advances earlier later) {template : String}
    (hs : Steady template earlier) : list? template later = list? template earlier := by
  unfold list?
  rcases hs with hplain | hnone | ⟨name, hm, hname⟩
  · simp only [hplain, ite_self]
  · simp only [hnone, List.any_nil]
  · rw [if_pos (any_isSome_of_defined hm hname),
      if_pos (any_isSome_of_defined hm (h.ne_none hname))]

/-- A template that has a text keeps having one. -/
theorem fault?_of_advances (h : Advances earlier later) {template : String}
    (hs : Steady template earlier) (hf : fault? template earlier = none) :
    fault? template later = none := by
  unfold fault? at hf ⊢
  rw [list?_of_advances h hs]
  cases hl : list? template earlier with
  | some inner => simpa only [hl] using hf
  | none =>
    simp only [hl, List.findSome?_eq_none_iff] at hf ⊢
    exact fun piece hp => Piece.fault?_of_advances h (hf piece hp)

end

-- A template that is not steady can come to fail: as soon as a name that it mentions is
-- defined, it is no choice of the list any more, and its other references count.
example : fault? "[yes] ~x $y" (fun _ => none) = none ∧
    fault? "[yes] ~x $y" (fun name => if name = "x" then some (.scalar "1") else none) =
      some (.variableUndefined "y") := by decide +kernel

theorem fault?_of_resolve {template reply : String} {lookup : Lookup} {g g' : Generator}
    (h : resolve template lookup g = (.ok reply, g')) : fault? template lookup = none := by
  cases hf : fault? template lookup with
  | none => rfl
  | some f =>
    have herror := (resolve_eq_error_iff template lookup g f).mpr hf
    rw [h] at herror
    cases herror

end ScriptedDialog.Template
