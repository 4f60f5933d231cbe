import Mathlib.Data.List.Forall2
import Mathlib.Data.List.Intervals
import Mathlib.Data.List.Nodup
import ScriptedDialog.Proofs.Command.Nesting

/-! The shape of a tree that has been built. It is a forest of the commands from the first root
on, numbered in depth-first order: after a command comes all that is below it, child by child,
and then what is not. Under each key the last root is registered, in the place of the first. -/

namespace ScriptedDialog

namespace Tree

/-! ### Depth-first order -/

/-- Going through some commands in order, and after each through all that is below it,
passes a list of commands. -/
inductive Visits (t : Tree) : List CommandId → List CommandId → Prop
  | nil : Visits t [] []
  | cons {i later below rest} (children : Visits t (t.children i) below)
      (siblings : Visits t later rest) : Visits t (i :: later) (i :: (below ++ rest))

/-- The commands without a parent. -/
def tops (t : Tree) : List CommandId := (List.range t.size).filter fun i => t.parent? i = none

/-- The places from `a` up to `b` hold all that is below any of them. Those whose parents are
not among them have the parent `x`. -/
structure Block (t : Tree) (x : Option CommandId) (a b : Nat) : Prop where
  le : a ≤ b
  size : b ≤ t.size
  outer : ∀ p, x = some p → p < a
  parent : ∀ i, a ≤ i → i < b → t.parent? i = x ∨ ∃ p, t.parent? i = some p ∧ a ≤ p
  closed : ∀ i p, t.parent? i = some p → a ≤ p → p < b → i < b

theorem block_all (t : Tree) : t.Block none 0 t.size where
  le := Nat.zero_le _
  size := Nat.le_refl _
  outer := nofun
  parent i _ _ := by
    cases t.parent? i with
    | none => exact Or.inl rfl
    | some p => exact Or.inr ⟨p, rfl, Nat.zero_le p⟩
  closed _ _ hi _ _ := lt_size_of_parent? hi

/-- The parent of what is below a command is that command or below it as well. -/
theorem parent?_of_below {t : Tree} (ho : t.Ordered) {i k : Nat} (h : t.Below i k) :
    ∃ p, t.parent? k = some p ∧ (p = i ∨ t.Below i p) := by
  cases h with
  | single hk => exact ⟨i, (mem_children ho).mp hk, Or.inl rfl⟩
  | tail hp hk => exact ⟨_, (mem_children ho).mp hk, Or.inr hp⟩

theorem Block.parent?_first {t : Tree} (hn : t.Nested) {x : Option CommandId} {a b : Nat}
    (h : t.Block x a b) (hab : a < b) : t.parent? a = x := by
  rcases h.parent a (Nat.le_refl a) hab with hx | ⟨p, hp, hap⟩
  · exact hx
  · exact absurd (hn.parent a p hp).lt (Nat.not_lt_of_le hap)

section
variable {t : Tree} (hn : t.Nested) (ho : t.Ordered)
include hn ho

theorem below_of_parent? {i p k : Nat} (hk : t.parent? k = some p) (hip : i ≤ p)
    (hp : p < t.endOf i) : k < t.endOf i := by
  have hchild := (mem_children ho).mpr hk
  rcases Nat.eq_or_lt_of_le hip with rfl | hlt
  · exact ((below_iff hn ho).mp (.single hchild)).2
  · exact ((below_iff hn ho).mp (((below_iff hn ho).mpr ⟨hlt, hp⟩).tail hchild)).2

/-- What is below a command is a block. -/
theorem block_below {a : Nat} (ha : a < t.size) : t.Block (some a) (a + 1) (t.endOf a) where
  le := lt_endOf
  size := endOf_le_size ha
  outer p hp := by
    cases hp
    exact Nat.lt_succ_self a
  parent i hi hend := by
    obtain ⟨p, hp, rfl | hbelow⟩ := parent?_of_below ho ((below_iff hn ho).mpr ⟨hi, hend⟩)
    · exact Or.inl hp
    · exact Or.inr ⟨p, hp, ((below_iff hn ho).mp hbelow).1⟩
  closed _ _ hi hp hend := below_of_parent? hn ho hi (Nat.le_of_succ_le hp) hend

section
variable {x : Option CommandId} {a b : Nat}

theorem Block.lt_of_below (h : t.Block x a b) (hab : a < b) {k : Nat} (hk : t.Below a k) :
    k < b := by
  induction hk with
  | single hk => exact h.closed _ a ((mem_children ho).mp hk) (Nat.le_refl a) hab
  | @tail p k hp hk ih =>
    have hap : a ≤ p := Nat.le_of_lt ((below_iff hn ho).mp hp).1
    exact h.closed k p ((mem_children ho).mp hk) hap ih

theorem Block.endOf_le (h : t.Block x a b) (hab : a < b) : t.endOf a ≤ b := by
  refine Nat.le_of_not_lt fun hlt => ?_
  exact Nat.lt_irrefl b (h.lt_of_below hn ho hab ((below_iff hn ho).mpr ⟨hab, hlt⟩))

/-- What is left of a block after its first command and all that is below it. -/
theorem Block.later (h : t.Block x a b) (hab : a < b) : t.Block x (t.endOf a) b where
  le := h.endOf_le hn ho hab
  size := h.size
  outer p hp := Nat.lt_trans (h.outer p hp) lt_endOf
  parent i hi hib := by
    rcases h.parent i (Nat.le_trans (Nat.le_of_lt lt_endOf) hi) hib with hx | ⟨p, hp, hap⟩
    · exact Or.inl hx
    · refine Or.inr ⟨p, hp, Nat.le_of_not_lt fun hlt => ?_⟩
      exact absurd (below_of_parent? hn ho hp hap hlt) (Nat.not_lt_of_le hi)
  closed i p hi hp hpb := h.closed i p hi (Nat.le_trans (Nat.le_of_lt lt_endOf) hp) hpb

/-- The commands below the first command of a block have other parents than it. -/
theorem Block.filter_below (h : t.Block x a b) (hab : a < b) :
    (List.Ico (a + 1) (t.endOf a)).filter (fun i => t.parent? i = x) = [] := by
  apply List.filter_eq_nil_iff.mpr
  intro i hi hx
  obtain ⟨p, hp, hpa⟩ := parent?_of_below ho ((below_iff hn ho).mpr (List.Ico.mem.mp hi))
  rw [of_decide_eq_true hx] at hp
  have hlt := h.outer p hp
  rcases hpa with rfl | hbelow
  · exact Nat.lt_irrefl _ hlt
  · exact Nat.lt_asymm hlt ((below_iff hn ho).mp hbelow).1

end

theorem children_eq_filter {a : Nat} (ha : a < t.size) :
    t.children a = (List.Ico (a + 1) (t.endOf a)).filter fun i => t.parent? i = some a := by
  have hsplit : List.range t.size =
      List.Ico 0 (a + 1) ++ (List.Ico (a + 1) (t.endOf a) ++ List.Ico (t.endOf a) t.size) := by
    rw [List.Ico.append_consecutive lt_endOf (endOf_le_size ha),
      List.Ico.append_consecutive (Nat.zero_le _) ha, List.Ico.zero_bot]
  have hbefore : (List.Ico 0 (a + 1)).filter (fun i => t.parent? i = some a) = [] := by
    apply List.filter_eq_nil_iff.mpr
    intro i hi hp
    have hlt := (hn.parent i a (of_decide_eq_true hp)).lt
    exact absurd hlt (Nat.not_lt_of_le (Nat.le_of_lt_succ (List.Ico.mem.mp hi).2))
  have hafter : (List.Ico (t.endOf a) t.size).filter (fun i => t.parent? i = some a) = [] := by
    apply List.filter_eq_nil_iff.mpr
    intro i hi hp
    have hlt := below_of_parent? hn ho (of_decide_eq_true hp) (Nat.le_refl a) lt_endOf
    exact absurd hlt (Nat.not_lt_of_le (List.Ico.mem.mp hi).1)
  rw [ho a, attached, hsplit, List.filter_append, List.filter_append, hbefore, hafter,
    List.nil_append, List.append_nil]

/-- The places of a block are visited in order. -/
theorem Block.visits {x : Option CommandId} {a b : Nat} (h : t.Block x a b) :
    t.Visits ((List.Ico a b).filter fun i => t.parent? i = x) (List.Ico a b) := by
  -- The block below the first command and the block after that are both shorter.
  generalize hlen : b - a = n
  induction n using Nat.strongRecOn generalizing x a b with
  | ind n ih =>
    rcases Nat.eq_or_lt_of_le h.le with rfl | hab
    · rw [List.Ico.self_empty]
      exact .nil
    · have ha : a < t.size := Nat.lt_of_lt_of_le hab h.size
      have hle := h.endOf_le hn ho hab
      have hlt : a < t.endOf a := lt_endOf
      have hbelow := ih _ (by omega) (block_below hn ho ha) rfl
      have hlater := ih _ (by omega) (h.later hn ho hab) rfl
      rw [← children_eq_filter hn ho ha] at hbelow
      have hsplit : List.Ico a b =
          a :: (List.Ico (a + 1) (t.endOf a) ++ List.Ico (t.endOf a) b) := by
        rw [List.Ico.append_consecutive hlt hle, List.Ico.eq_cons hab]
      have hfirst : decide (t.parent? a = x) = true := decide_eq_true (h.parent?_first hn hab)
      rw [hsplit, List.filter_cons, if_pos hfirst, List.filter_append, h.filter_below hn ho hab,
        List.nil_append]
      exact .cons hbelow hlater

theorem visits_range : t.Visits t.tops (List.range t.size) := by
  rw [tops, ← List.Ico.zero_bot]
  exact t.block_all.visits hn ho

end

/-! ### Registered roots -/

/-- The keys of the roots, in the order in which they come up first. -/
def rootKeys (t : Tree) : List String :=
  ((t.commands.filter (·.level = 0)).map (·.key)).eraseDups

section
variable {t u : Tree} {c : Command} {parent : Option CommandId}

theorem Grown.rootKeys_of_root (hg : Grown t u c parent) (hc : c.level = 0) : u.rootKeys =
    ((t.commands.filter (·.level = 0)).map (·.key) ++ [c.key]).eraseDups := by
  simp [rootKeys, hg.commands, hc]

theorem Grown.rootKeys_of_child (hg : Grown t u c parent) (hc : 0 < c.level) :
    u.rootKeys = t.rootKeys := by
  have hne : ¬ c.level = 0 := Nat.ne_of_gt hc
  simp [rootKeys, hg.commands, hne]

end

/-! ### Forests -/

/-- The shape of the trees that are built. -/
structure Forest (t : Tree) : Prop where
  /-- Parents and children are the same links. -/
  inverse : ∀ p i, i ∈ t.children p ↔ t.parent? i = some p
  /-- A command of a higher level than zero is a child once, of one command. -/
  child : ∀ i, 0 < t.levelAt i →
    ∃ p, (t.children p).count i = 1 ∧ ∀ q, i ∈ t.children q → q = p
  /-- A command of level zero is no child. -/
  root : ∀ i, t.levelAt i = 0 → ∀ p, i ∉ t.children p
  /-- A child comes after its parent and is of a higher level. -/
  deeper : ∀ p i, i ∈ t.children p → p < i ∧ t.levelAt p < t.levelAt i
  sorted : ∀ p, (t.children p).Pairwise (· < ·)
  /-- All that is below a command follows it, up to the next command that is not of a higher
  level. -/
  below : ∀ i k, t.Below i k ↔ i < k ∧ k < t.endOf i
  preorder : t.Visits t.tops (List.range t.size)
  /-- Each key has one place among the roots, where its last root stands. -/
  roots : List.Forall₂ t.LastRoot t.rootKeys t.roots

theorem sorted_children {t : Tree} (ho : t.Ordered) (p : CommandId) :
    (t.children p).Pairwise (· < ·) := by
  rw [ho p]
  exact List.Pairwise.filter _ List.pairwise_lt_range

theorem forest {t : Tree} (hl : t.Linked) (ho : t.Ordered) (hn : t.Nested)
    (hk : t.rootEntries.map (·.1) = t.rootKeys) : t.Forest where
  inverse p i := mem_children ho
  child i hlevel := by
    cases hp : t.parent? i with
    | none => exact absurd (hn.root i hp) (Nat.ne_of_gt hlevel)
    | some p =>
      have hmem := (mem_children ho).mpr hp
      have hnodup := (sorted_children ho p).imp Nat.ne_of_lt
      exact ⟨p, List.count_eq_one_of_mem hnodup hmem, fun q hq => hl.parent_unique hq hmem⟩
  root i hlevel p hi := by
    have hlower := (hn.parent i p ((mem_children ho).mp hi)).lower
    rw [hlevel] at hlower
    exact Nat.not_lt_zero _ hlower
  deeper p i hi := by
    have hp := hn.parent i p ((mem_children ho).mp hi)
    exact ⟨hp.lt, hp.lower⟩
  sorted p := sorted_children ho p
  below i k := below_iff hn ho
  preorder := visits_range hn ho
  roots := by
    rw [← hk, roots, List.forall₂_map_left_iff, List.forall₂_map_right_iff, List.forall₂_same]
    rintro ⟨key, i⟩ he
    exact (hl.entries key i).mp he

end Tree

namespace Hierarchy

theorem Added.rootKeys {h k : Hierarchy} {c : Command} {place : Option CommandId}
    (ha : h.Added c k place) (hk : h.tree.rootEntries.map (·.1) = h.tree.rootKeys) :
    k.tree.rootEntries.map (·.1) = k.tree.rootKeys := by
  cases ha with
  | root level grown roots =>
    rw [roots, grown.rootKeys_of_root level]
    exact Tree.keys_enter_eraseDups hk _ _
  | child level _ grown roots => rw [roots, grown.rootKeys_of_child level, hk]
  | orphan => exact hk

/-- Commands that are added one after the other make a forest. Those before the first of level
zero are left out; all others are in the forest, in the order in which they have been added and
at the places that they have been given, which are its positions one after the other. -/
theorem addAll_forest (commands : List Command) :
    ∃ h places, empty.addAll commands = .ok (h, places) ∧
      h.tree.commands = placed commands places ∧
      placed commands places = commands.dropWhile (0 < ·.level) ∧
      places.filterMap id = List.range h.tree.size ∧ h.tree.Forest := by
  obtain ⟨h, places, hall, -, -, hcommands, -⟩ := addAll_spec sound_empty commands
  have hplaced := placed_of_rootless sound_empty List.not_mem_nil hall
  have hrange := range_append_places sound_empty hall
  refine ⟨h, places, hall, hcommands, hplaced, hrange.symm, Tree.forest ?_ ?_ ?_ ?_⟩
  · exact addAll_induction (fun _ _ _ _ ha => ha.linked) sound_empty Tree.linked_empty hall
  · exact addAll_induction (fun _ _ _ _ ha => ha.ordered) sound_empty Tree.ordered_empty hall
  · exact addAll_induction (fun _ _ _ _ ha => ha.nested) sound_empty Tree.nested_empty hall
  · exact addAll_induction (P := fun t => t.rootEntries.map (·.1) = t.rootKeys)
      (fun _ _ _ _ ha => ha.rootKeys) sound_empty rfl hall

end Hierarchy

end ScriptedDialog
