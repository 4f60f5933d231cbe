import ScriptedDialog.Proofs.Command.Compiling

/-! The children of a command are the commands that have it as their parent, in the
order of their declaration. So the lists of children hold nothing that could not be
read off the parents. -/

namespace ScriptedDialog

namespace Tree

/-- The parent of a command, if it has one. -/
def parent? (t : Tree) (i : CommandId) : Option CommandId := (t.get? i).bind (·.parent)

/-- The commands with a parent, in the order of their declaration. -/
def attached (t : Tree) (p : CommandId) : List CommandId :=
  (List.range t.size).filter fun i => t.parent? i = some p

/-- The lists of children are in the order of declaration and complete. -/
def Ordered (t : Tree) : Prop := ∀ p, t.children p = t.attached p

section
variable {t u : Tree} {c : Command} {parent : Option CommandId}

theorem children_of_size_le {p : CommandId} (h : t.size ≤ p) : t.children p = [] := by
  rw [children, get?_size_le h]
  rfl

theorem Grown.parent?_eq (hg : Grown t u c parent) (i : CommandId) :
    u.parent? i = if i = t.size then parent else t.parent? i := by
  unfold parent?
  rcases Nat.lt_trichotomy i t.size with hi | rfl | hi
  · rw [if_neg (Nat.ne_of_lt hi), hg.get?_lt i hi]
    cases t.get? i with
    | none => rfl
    | some node =>
      simp only [Option.map_some, Option.bind_some]
      split <;> rfl
  · rw [hg.get?_size, if_pos rfl]
    rfl
  · rw [if_neg (Nat.ne_of_gt hi), get?_size_le (Nat.le_of_lt hi),
      get?_size_le (by rw [hg.size]; omega)]

theorem Grown.children_eq (hg : Grown t u c parent) (hp : ∀ p, parent = some p → p < t.size)
    (p : CommandId) :
    u.children p = t.children p ++ if parent = some p then [t.size] else [] := by
  rcases Nat.lt_trichotomy p t.size with hlt | rfl | hlt
  · unfold children
    rw [hg.get?_lt p hlt]
    cases hn : t.get? p with
    | none =>
      have hsome := Array.getElem?_eq_none_iff.mp hn
      exact absurd hlt (Nat.not_lt_of_le hsome)
    | some node =>
      simp only [Option.map_some, Option.getD_some]
      split
      · rfl
      · exact (List.append_nil _).symm
  · have hne : parent ≠ some t.size := fun h => Nat.lt_irrefl _ (hp _ h)
    rw [children_of_size_le (Nat.le_refl _), if_neg hne, children, hg.get?_size]
    rfl
  · have hne : parent ≠ some p := fun h => Nat.lt_asymm hlt (hp _ h)
    rw [children_of_size_le (Nat.le_of_lt hlt), if_neg hne,
      children_of_size_le (by rw [hg.size]; omega)]
    rfl

theorem Grown.attached_eq (hg : Grown t u c parent) (p : CommandId) :
    u.attached p = t.attached p ++ if parent = some p then [t.size] else [] := by
  unfold attached
  rw [hg.size, List.range_succ, List.filter_append]
  congr 1
  · apply List.filter_congr
    intro i hi
    rw [hg.parent?_eq, if_neg (Nat.ne_of_lt (List.mem_range.mp hi))]
  · by_cases h : parent = some p <;> simp [hg.parent?_eq, h]

theorem Ordered.of_grown (h : t.Ordered) (hg : Grown t u c parent)
    (hp : ∀ p, parent = some p → p < t.size) : u.Ordered := by
  intro p
  rw [hg.children_eq hp, hg.attached_eq, h p]

end

theorem ordered_empty : Ordered empty := fun _ => rfl

end Tree

theorem Hierarchy.Added.ordered {h k : Hierarchy} {c : Command} {place : Option CommandId}
    (ha : h.Added c k place) (ho : h.tree.Ordered) : k.tree.Ordered := by
  cases ha with
  | root _ grown => exact ho.of_grown grown nofun
  | child _ nearest grown =>
    apply ho.of_grown grown
    rintro p ⟨⟩
    obtain ⟨node, hn, -⟩ := nearest.lower
    exact Tree.get?_lt hn
  | orphan => exact ho

theorem Compiled.ordered_ofSource (source : String) : (ofSource source).tree.Ordered :=
  tree_induction Tree.ordered_empty (fun _ _ _ _ ha => ha.ordered) source

end ScriptedDialog
