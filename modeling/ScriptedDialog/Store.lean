import ScriptedDialog.Value

/-! The variables of a conversation: values by name, each name once, in the order
of the names. A view puts assignments that are not made yet in front of a store.
Setting a name changes what is found under it and nothing else. -/

namespace ScriptedDialog

structure Store where
  entries : List (String × Value)
  sorted : entries.Pairwise fun a b => a.1 < b.1
  deriving DecidableEq, Repr

namespace Store

/-! ### Lists of entries -/

def find? (name : String) : List (String × Value) → Option Value
  | [] => none
  | (n, v) :: rest => if n = name then some v else find? name rest

/-- Puts an entry where its name belongs, in place of the one that has the name. -/
def insert (name : String) (value : Value) : List (String × Value) → List (String × Value)
  | [] => [(name, value)]
  | (n, v) :: rest =>
    if n = name then (name, value) :: rest
    else if name < n then (name, value) :: (n, v) :: rest
    else (n, v) :: insert name value rest

theorem find?_insert (name : String) (value : Value) (entries : List (String × Value))
    (other : String) : find? other (insert name value entries) =
      if name = other then some value else find? other entries := by
  induction entries with
  | nil => rfl
  | cons e rest ih =>
    obtain ⟨n, v⟩ := e
    by_cases hn : n = name
    · subst hn
      by_cases ho : n = other <;> simp [insert, find?, ho]
    · by_cases hlt : name < n
      · rw [insert, if_neg hn, if_pos hlt, find?]
      · rw [insert, if_neg hn, if_neg hlt, find?, ih, find?]
        by_cases ho : n = other
        · rw [if_pos ho, if_neg fun h => hn (ho.trans h.symm), if_pos ho]
        · rw [if_neg ho, if_neg ho]

theorem mem_insert {name : String} {value : Value} {entries : List (String × Value)}
    {e : String × Value} (h : e ∈ insert name value entries) : e = (name, value) ∨ e ∈ entries := by
  induction entries with
  | nil => exact Or.inl (List.mem_singleton.mp h)
  | cons first rest ih =>
    obtain ⟨n, v⟩ := first
    by_cases hn : n = name
    · rw [insert, if_pos hn] at h
      exact (List.mem_cons.mp h).imp_right (List.mem_cons_of_mem _)
    · by_cases hlt : name < n
      · rw [insert, if_neg hn, if_pos hlt] at h
        exact List.mem_cons.mp h
      · rw [insert, if_neg hn, if_neg hlt] at h
        rcases List.mem_cons.mp h with h | h
        · exact Or.inr (h ▸ List.mem_cons_self ..)
        · exact (ih h).imp_right (List.mem_cons_of_mem _)

theorem lt_of_not_lt {a b : String} (h : ¬ a < b) (hne : b ≠ a) : b < a :=
  Std.lt_of_le_of_ne (String.not_lt.mp h) hne

theorem sorted_insert {entries : List (String × Value)}
    (h : entries.Pairwise fun a b => a.1 < b.1) (name : String) (value : Value) :
    (insert name value entries).Pairwise fun a b => a.1 < b.1 := by
  induction entries with
  | nil => exact List.pairwise_singleton ..
  | cons first rest ih =>
    obtain ⟨n, v⟩ := first
    obtain ⟨hfirst, hrest⟩ := List.pairwise_cons.mp h
    by_cases hn : n = name
    · rw [insert, if_pos hn]
      exact List.pairwise_cons.mpr ⟨fun e he => hn ▸ hfirst e he, hrest⟩
    · by_cases hlt : name < n
      · rw [insert, if_neg hn, if_pos hlt]
        refine List.pairwise_cons.mpr ⟨fun e he => ?_, h⟩
        rcases List.mem_cons.mp he with rfl | he
        · exact hlt
        · exact String.lt_trans hlt (hfirst e he)
      · rw [insert, if_neg hn, if_neg hlt]
        refine List.pairwise_cons.mpr ⟨fun e he => ?_, ih hrest⟩
        rcases mem_insert he with rfl | he
        · exact lt_of_not_lt hlt hn
        · exact hfirst e he

/-! ### Stores -/

def empty : Store := ⟨[], .nil⟩

def get? (s : Store) (name : String) : Option Value := find? name s.entries

def set (s : Store) (name : String) (value : Value) : Store :=
  ⟨insert name value s.entries, sorted_insert s.sorted name value⟩

/-- Makes assignments from left to right. -/
def setAll (s : Store) (assignments : List (String × Value)) : Store :=
  assignments.foldl (fun s a => s.set a.1 a.2) s

def ofList (assignments : List (String × Value)) : Store := empty.setAll assignments

def size (s : Store) : Nat := s.entries.length

def isEmpty (s : Store) : Bool := s.entries.isEmpty

/-- Looks a name up among pending assignments, the later ones first, and then in
the store. -/
def view (s : Store) (pending : List (String × Value)) (name : String) : Option Value :=
  (find? name pending.reverse).or (s.get? name)

theorem get?_set (s : Store) (name : String) (value : Value) (other : String) :
    (s.set name value).get? other = if name = other then some value else s.get? other :=
  find?_insert name value s.entries other

theorem get?_empty (name : String) : empty.get? name = none := rfl

theorem find?_append (name : String) (earlier later : List (String × Value)) :
    find? name (earlier ++ later) = (find? name earlier).or (find? name later) := by
  induction earlier with
  | nil => rfl
  | cons e earlier ih =>
    rw [List.cons_append, find?, find?, ih]
    split <;> rfl

theorem mem_of_find?_eq_some {name : String} {value : Value} {entries : List (String × Value)}
    (h : find? name entries = some value) : (name, value) ∈ entries := by
  induction entries with
  | nil => cases h
  | cons e rest ih =>
    rw [find?] at h
    split at h
    · next hn =>
      cases h
      exact hn ▸ List.mem_cons_self
    · exact List.mem_cons_of_mem _ (ih h)

theorem find?_eq_none {name : String} {entries : List (String × Value)}
    (h : ∀ value, (name, value) ∉ entries) : find? name entries = none :=
  Option.eq_none_iff_forall_ne_some.mpr fun value hvalue => h value (mem_of_find?_eq_some hvalue)

theorem find?_ne_none_of_mem {name : String} {value : Value} {entries : List (String × Value)}
    (h : (name, value) ∈ entries) : find? name entries ≠ none := by
  induction entries with
  | nil => cases h
  | cons e rest ih =>
    rw [find?]
    split
    · nofun
    · next hn =>
      rcases List.mem_cons.mp h with rfl | h
      · exact absurd rfl hn
      · exact ih h

/-! ### Assignments -/

/-- The view is the store as it will be once the assignments are made. -/
theorem get?_setAll (s : Store) (assignments : List (String × Value)) :
    (s.setAll assignments).get? = s.view assignments := by
  funext name
  induction assignments generalizing s with
  | nil => rfl
  | cons a later ih =>
    have hset := ih (s.set a.1 a.2)
    rw [view, get?_set] at hset
    rw [view, List.reverse_cons, find?_append, Option.or_assoc, find?, find?]
    refine hset.trans (congrArg _ ?_)
    split <;> rfl

theorem setAll_append (s : Store) (earlier later : List (String × Value)) :
    s.setAll (earlier ++ later) = (s.setAll earlier).setAll later :=
  List.foldl_append

/-- A value that is found was assigned or was there before. -/
theorem mem_of_get?_setAll {s : Store} {assignments : List (String × Value)} {name : String}
    {value : Value} (h : (s.setAll assignments).get? name = some value) :
    (name, value) ∈ assignments ∨ s.get? name = some value := by
  rw [get?_setAll] at h
  rcases Option.or_eq_some_iff.mp h with h | ⟨-, h⟩
  · exact Or.inl (List.mem_reverse.mp (mem_of_find?_eq_some h))
  · exact Or.inr h

/-- A name that is not assigned keeps what it had. -/
theorem get?_setAll_of_not_mem {s : Store} {assignments : List (String × Value)} {name : String}
    (h : ∀ value, (name, value) ∉ assignments) :
    (s.setAll assignments).get? name = s.get? name := by
  have hnone : find? name assignments.reverse = none :=
    find?_eq_none fun value hm => h value (List.mem_reverse.mp hm)
  rw [get?_setAll, view, hnone, Option.none_or]

/-- What is assigned is defined, and what was defined stays so. -/
theorem get?_setAll_ne_none {s : Store} {assignments : List (String × Value)} {name : String}
    (h : (∃ value, (name, value) ∈ assignments) ∨ s.get? name ≠ none) :
    (s.setAll assignments).get? name ≠ none := by
  rw [get?_setAll, view, ne_eq, Option.or_eq_none_iff]
  rintro ⟨hnone, hs⟩
  rcases h with ⟨value, h⟩ | h
  · exact find?_ne_none_of_mem (List.mem_reverse.mpr h) hnone
  · exact h hs

end Store

end ScriptedDialog
