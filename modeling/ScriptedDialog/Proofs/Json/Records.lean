import Mathlib.Data.List.Perm.Basic
import ScriptedDialog.Proofs.Json.Reading
import ScriptedDialog.TestCase.Decode

/-! Records read from objects. An object may hold the fields of a record in any order
and texts under other names between them: what stands under the names of the record is
the same, and so is all that is read from it. -/

namespace ScriptedDialog.Json

/-- An object that holds some fields, in any order, and else only texts under names that
do not matter. -/
def Holds (names : List String) (fields : List (String × Json)) (j : Json) : Prop :=
  ∃ all others, j = record all ∧ all.Perm (fields ++ others) ∧
    ∀ f ∈ others, f.1 ∉ names ∧ ∃ s, f.2 = text s

theorem holds_record (names : List String) (fields : List (String × Json)) :
    (record fields).Holds names fields :=
  ⟨fields, [], rfl, by rw [List.append_nil], nofun⟩

/-! ### What stands under a name -/

theorem filter_fst_eq_nil {fields : List (String × Json)} {name : String}
    (h : ∀ f ∈ fields, f.1 ≠ name) : fields.filter (·.1 = name) = [] :=
  List.filter_eq_nil_iff.mpr fun f hf => by simpa using h f hf

theorem map_filter_fst {fields : List (String × Json)} (hd : (fields.map (·.1)).Nodup)
    (name : String) :
    (fields.filter (·.1 = name)).map (·.2) = (fields.lookup name).toList := by
  induction fields with
  | nil => rfl
  | cons f fields ih =>
    obtain ⟨k, value⟩ := f
    obtain ⟨hk, hd⟩ := List.nodup_cons.mp hd
    by_cases hname : k = name
    · subst hname
      have hnone : fields.filter (·.1 = k) = [] :=
        filter_fst_eq_nil fun f hf hname => hk (List.mem_map.mpr ⟨f, hf, hname⟩)
      simp [hnone]
    · have hbeq : (name == k) = false := by simpa using Ne.symm hname
      simp [List.lookup_cons, hname, hbeq, ih hd]

theorem valuesOf_record (name : String) (fields : List (String × Json)) :
    valuesOf name (fields.map fun f => (some f.1, f.2)) =
      (fields.filter (·.1 = name)).map (·.2) := by
  rw [valuesOf, List.filter_map, List.map_map]
  simp [Function.comp_def]

section
variable {names : List String} {fields : List (String × Json)} {j : Json} (h : j.Holds names fields)
include h

/-- Under a name that matters stands what the fields have there. -/
theorem Holds.exists_valuesOf (hd : (fields.map (·.1)).Nodup) : ∃ all, j = record all ∧
    ∀ name ∈ names, valuesOf name (all.map fun f => (some f.1, f.2)) =
      (fields.lookup name).toList := by
  obtain ⟨all, others, rfl, hperm, hothers⟩ := h
  refine ⟨all, rfl, fun name hname => ?_⟩
  have hnone : others.filter (·.1 = name) = [] :=
    filter_fst_eq_nil fun f hf hf' => (hothers f hf).1 (hf' ▸ hname)
  have hvalues := (hperm.filter (·.1 = name)).map (·.2)
  rw [List.filter_append, hnone, List.append_nil, map_filter_fst hd] at hvalues
  rw [valuesOf_record]
  cases hl : fields.lookup name with
  | none =>
    rw [hl] at hvalues
    exact hvalues.eq_nil
  | some value =>
    rw [hl] at hvalues
    exact List.perm_singleton.mp hvalues

theorem Holds.arrange? (hd : (fields.map (·.1)).Nodup) {wanted : List String}
    (hw : ∀ name ∈ wanted, name ∈ names) :
    arrange? wanted j = some (wanted.map (fields.lookup ·)) := by
  obtain ⟨all, rfl, hvalues⟩ := h.exists_valuesOf hd
  have hnames : (all.map fun f => (some f.1, f.2)).all (·.1.isSome) = true := by simp
  rw [record, Json.arrange?, if_pos hnames]
  induction wanted with
  | nil => rfl
  | cons name wanted ih =>
    obtain ⟨hname, hw⟩ := List.forall_mem_cons.mp hw
    rw [List.mapM_cons, ih hw, hvalues name hname, List.map_cons]
    cases fields.lookup name <;> rfl

/-- What all texts and all fields have in common, all values of the object have. -/
theorem Holds.forall {P : Json → Prop} (htext : ∀ s, P (text s)) (hfields : ∀ f ∈ fields, P f.2) :
    ∃ all, j = record all ∧ ∀ f ∈ all, P f.2 := by
  obtain ⟨all, others, rfl, hperm, hothers⟩ := h
  refine ⟨all, rfl, fun f hf => ?_⟩
  rcases List.mem_append.mp (hperm.mem_iff.mp hf) with hf | hf
  · exact hfields f hf
  · obtain ⟨-, s, hs⟩ := hothers f hf
    exact hs ▸ htext s

theorem Holds.plain (hfields : ∀ f ∈ fields, f.2.Plain) : j.Plain := by
  obtain ⟨all, rfl, hall⟩ := h.forall plain_text hfields
  exact plain_record hall

theorem Holds.isSound (hfields : ∀ f ∈ fields, f.2.isSound = true) : j.isSound = true := by
  obtain ⟨all, rfl, hall⟩ := h.forall (P := fun j => j.isSound = true) (fun _ => rfl) hfields
  show fieldsSound (all.map fun f => (some f.1, f.2)) = true
  clear h hfields
  induction all with
  | nil => rfl
  | cons f all ih =>
    obtain ⟨hf, hall⟩ := List.forall_mem_cons.mp hall
    simp [fieldsSound, hf, ih hall]

theorem Holds.depth_le {n : Nat} (hfields : ∀ f ∈ fields, f.2.depth ≤ n) : j.depth ≤ n + 1 := by
  obtain ⟨all, rfl, hall⟩ := h.forall (P := fun j => j.depth ≤ n) (fun _ => Nat.zero_le n) hfields
  show fieldsDepth (all.map fun f => (some f.1, f.2)) + 1 ≤ n + 1
  clear h hfields
  induction all with
  | nil => simp [fieldsDepth]
  | cons f all ih =>
    obtain ⟨hf, hall⟩ := List.forall_mem_cons.mp hall
    have hrest := ih hall
    simp only [List.map_cons, fieldsDepth]
    omega

end

/-! ### Fields that are left out -/

theorem lookup_filter_not_mem (fields : List (String × Json)) (omitted : List String)
    (name : String) :
    (fields.filter (·.1 ∉ omitted)).lookup name =
      if name ∈ omitted then none else fields.lookup name := by
  induction fields with
  | nil => simp
  | cons f fields ih =>
    obtain ⟨k, value⟩ := f
    by_cases hk : k ∈ omitted
    · rw [List.filter_cons_of_neg (by simpa using hk), ih]
      split
      · rfl
      · next hname =>
        have hne : (name == k) = false := by
          rw [beq_eq_false_iff_ne]
          rintro rfl
          exact hname hk
        rw [List.lookup_cons, hne]
    · rw [List.filter_cons_of_pos (by simpa using hk), List.lookup_cons, List.lookup_cons, ih]
      cases hname : name == k with
      | false => rfl
      | true =>
        obtain rfl : name = k := by simpa using hname
        exact (if_neg hk).symm

theorem optional?_ite {decode : Json → Option α} {default a : α} {value : Json} {omitted : Prop}
    [Decidable omitted] (hdefault : omitted → a = default) (hvalue : decode value = some a) :
    optional? decode default (if omitted then none else some value) = some a := by
  split
  · next h => rw [hdefault h]; rfl
  · exact hvalue

/-! ### Values -/

theorem list?_forall₂ {decode : Json → Option α} {as : List α} {items : List Json}
    (h : List.Forall₂ (fun a j => decode j = some a) as items) :
    list? decode (array items) = some as := by
  show items.mapM decode = some as
  induction h with
  | nil => rfl
  | cons ha _ ih => rw [List.mapM_cons, ha, ih]; rfl

theorem list?_texts (ss : List String) : list? string? (texts ss) = some ss := by
  apply list?_forall₂
  rw [List.forall₂_map_right_iff]
  exact List.forall₂_same.mpr fun _ _ => rfl

theorem word?_nat (w : UInt64) : word? (nat w.toNat) = some w := by
  have hlt : w.toNat < UInt64.size := w.toNat_lt_size
  show (if w.toNat < UInt64.size then some w.toNat.toUInt64 else none) = some w
  rw [if_pos hlt]
  simp

theorem isSound_texts (ss : List String) : (texts ss).isSound = true := by
  show itemsSound (ss.map text) = true
  induction ss with
  | nil => rfl
  | cons s ss ih => exact ih

theorem depth_texts_le (ss : List String) : (texts ss).depth ≤ 1 := by
  show itemsDepth (ss.map text) + 1 ≤ 1
  induction ss with
  | nil => exact Nat.le_refl 1
  | cons s ss ih => simpa [itemsDepth, text, depth] using ih

end ScriptedDialog.Json
