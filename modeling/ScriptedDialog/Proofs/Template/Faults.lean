import ScriptedDialog.Template.Resolve

/-! Why a template has no text. Whether resolving fails, and with which fault, is
decided by the template and the lookup: no draw has a part in it. A template that
takes nothing from a list has its text decided as well, and draws nothing. -/

namespace ScriptedDialog.Template

/-! ### Faults -/

/-- The fault with which a template fails, whatever is drawn. -/
def fault? (template : String) (lookup : Lookup) : Option Fault :=
  match list? template lookup with
  | some inner => if Value.choiceList inner = [] then some (.responseEmpty template) else none
  | none => (pieces template.toList).findSome? fun piece => piece.fault? lookup

theorem Piece.fill_eq_error_iff (lookup : Lookup) (g : Generator) (piece : Piece) (f : Fault) :
    (piece.fill lookup g).1 = .error f ↔ piece.fault? lookup = some f := by
  cases piece with
  | text cs => simp [fill, fault?]
  | reference sigil name =>
    cases hv : lookup (String.ofList name) with
    | none => cases sigil <;> simp [fill, fault?, hv]
    | some v =>
      cases v with
      | scalar value => cases sigil <;> simp [fill, fault?, hv]
      | list items =>
        cases sigil with
        | dollar => simp [fill, fault?, hv]
        | tilde =>
          cases items with
          | nil => simp [fill, fault?, hv, Generator.choose_nil]
          | cons x xs =>
            obtain ⟨y, _, hy⟩ := Generator.exists_mem_choose (List.cons_ne_nil x xs) g
            have hg : g.choose (x :: xs) = (some y, (g.choose (x :: xs)).2) := Prod.ext hy rfl
            simp only [fill, fault?, hv]
            rw [hg]
            simp

theorem fillAll_eq_error_iff (lookup : Lookup) (ps : List Piece) (g : Generator) (f : Fault) :
    (fillAll lookup ps g).1 = .error f ↔
      ps.findSome? (fun piece => piece.fault? lookup) = some f := by
  induction ps generalizing g with
  | nil => simp [fillAll]
  | cons piece later ih =>
    have hp := Piece.fill_eq_error_iff lookup g piece
    rw [fillAll, List.findSome?_cons]
    cases hf : piece.fill lookup g with
    | mk r g' =>
      rw [hf] at hp
      cases r with
      | error e => simp [(hp e).mp rfl]
      | ok filled =>
        have hnone : piece.fault? lookup = none := by
          cases ho : piece.fault? lookup with
          | none => rfl
          | some e => cases (hp e).mpr ho
        have hl := ih g'
        simp only [hnone]
        cases hr : fillAll lookup later g' with
        | mk r' g'' =>
          rw [hr] at hl
          cases r' with
          | error e => simpa using hl
          | ok rest => simpa using hl

theorem choose_eq_error_iff (template : String) (inner : List Char) (g : Generator) (f : Fault) :
    (choose template inner g).1 = .error f ↔
      Value.choiceList inner = [] ∧ f = .responseEmpty template := by
  unfold choose
  by_cases he : Value.choiceList inner = []
  · simp [he, Generator.choose_nil, eq_comm]
  · obtain ⟨y, _, hy⟩ := Generator.exists_mem_choose he g
    have hg : g.choose (Value.choiceList inner) = (some y, _) := Prod.ext hy rfl
    rw [hg]
    simp [he]

/-- Resolving fails exactly with the fault of the template. -/
theorem resolve_eq_error_iff (template : String) (lookup : Lookup) (g : Generator) (f : Fault) :
    (resolve template lookup g).1 = .error f ↔ fault? template lookup = some f := by
  unfold resolve fault?
  cases list? template lookup with
  | some inner =>
    rw [choose_eq_error_iff]
    by_cases he : Value.choiceList inner = []
    · simp [he, eq_comm]
    · simp [he]
  | none =>
    rw [← fillAll_eq_error_iff lookup _ g]
    cases hr : fillAll lookup (pieces template.toList) g with
    | mk r g' => cases r <;> simp

theorem exists_resolve_of_fault {template : String} {lookup : Lookup} {f : Fault}
    (h : fault? template lookup = some f) (g : Generator) :
    ∃ g', resolve template lookup g = (.error f, g') :=
  ⟨_, Prod.ext ((resolve_eq_error_iff template lookup g f).mpr h) rfl⟩

/-- A template without a fault has a text. -/
theorem exists_resolve_of_no_fault {template : String} {lookup : Lookup}
    (h : fault? template lookup = none) (g : Generator) :
    ∃ reply g', resolve template lookup g = (.ok reply, g') := by
  cases hr : resolve template lookup g with
  | mk r g' =>
    cases r with
    | ok reply => exact ⟨reply, g', rfl⟩
    | error f =>
      rw [(resolve_eq_error_iff template lookup g f).mp (congrArg Prod.fst hr)] at h
      cases h

/-- The codes of the faults of templates. -/
def faultCodes : List String :=
  ["RESPONSE_CHOICES_EMPTY", "RESPONSE_VARIABLE_UNDEFINED", "RESPONSE_LIST_SUBSTITUTION"]

theorem Piece.code_fault? {lookup : Lookup} {piece : Piece} {f : Fault}
    (h : piece.fault? lookup = some f) : f.code ∈ faultCodes := by
  unfold fault? at h
  split at h
  · cases h
  · split at h
    all_goals cases h
    all_goals simp [Fault.code, faultCodes]

theorem code_fault? {template : String} {lookup : Lookup} {f : Fault}
    (h : fault? template lookup = some f) : f.code ∈ faultCodes := by
  unfold fault? at h
  split at h
  · split at h
    · cases h
      simp [Fault.code, faultCodes]
    · cases h
  · obtain ⟨piece, -, hp⟩ := List.exists_of_findSome?_eq_some h
    exact piece.code_fault? hp

/-! ### Texts without a choice -/

/-- No choice is made for the template: it is no list itself, and it mentions none. -/
structure Settled (template : String) (lookup : Lookup) : Prop where
  list?_eq : list? template lookup = none
  mention : ∀ name items, .reference .tilde name ∈ pieces template.toList →
    lookup (String.ofList name) ≠ some (.list items)

theorem Piece.fill_settled {lookup : Lookup} {piece : Piece}
    (h : ∀ name items, piece = .reference .tilde name →
      lookup (String.ofList name) ≠ some (.list items)) :
    ∃ r, ∀ g, piece.fill lookup g = (r, g) := by
  cases piece with
  | text cs => exact ⟨.ok cs, fun _ => rfl⟩
  | reference sigil name =>
    cases hv : lookup (String.ofList name) with
    | none => cases sigil <;> exact ⟨_, fun g => by simp only [fill, hv]; rfl⟩
    | some v =>
      cases v with
      | scalar value => cases sigil <;> exact ⟨_, fun g => by simp only [fill, hv]; rfl⟩
      | list items =>
        cases sigil with
        | dollar => exact ⟨_, fun g => by simp only [fill, hv]; rfl⟩
        | tilde => exact absurd hv (h name items rfl)

theorem fillAll_settled {lookup : Lookup} {ps : List Piece}
    (h : ∀ name items, .reference .tilde name ∈ ps →
      lookup (String.ofList name) ≠ some (.list items)) :
    ∃ r, ∀ g, fillAll lookup ps g = (r, g) := by
  induction ps with
  | nil => exact ⟨.ok [], fun _ => rfl⟩
  | cons piece later ih =>
    obtain ⟨r, hr⟩ := @Piece.fill_settled lookup piece fun name items he =>
      h name items (he ▸ List.mem_cons_self)
    obtain ⟨r', hr'⟩ := ih fun name items hm => h name items (List.mem_cons_of_mem _ hm)
    cases r with
    | error e => exact ⟨.error e, fun g => by rw [fillAll, hr]⟩
    | ok filled =>
      cases r' with
      | error e => exact ⟨.error e, fun g => by rw [fillAll, hr]; simp only [hr']⟩
      | ok rest => exact ⟨.ok (filled ++ rest), fun g => by rw [fillAll, hr]; simp only [hr']⟩

/-- The result is the same for every generator, and the generator stays where it is. -/
theorem resolve_settled {template : String} {lookup : Lookup} (h : Settled template lookup) :
    ∃ r, ∀ g, resolve template lookup g = (r, g) := by
  obtain ⟨r, hr⟩ := fillAll_settled h.mention
  cases r with
  | error e => exact ⟨.error e, fun g => by simp only [resolve, h.list?_eq, hr]⟩
  | ok cs => exact ⟨.ok (String.ofList cs), fun g => by simp only [resolve, h.list?_eq, hr]⟩

end ScriptedDialog.Template
