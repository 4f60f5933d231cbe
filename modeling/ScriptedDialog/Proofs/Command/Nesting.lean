import Mathlib.Logic.Relation
import ScriptedDialog.Proofs.Command.Order

/-! What is below a command. The parent of a command is the nearest command before it of
a lower level, so the commands below it are those that follow it directly at higher
levels. They end where the next command of its level or of a lower one stands. -/

namespace ScriptedDialog

namespace Tree

/-- The level of a command, and zero where there is none. -/
def levelAt (t : Tree) (i : Nat) : Nat := ((t.get? i).map (·.level)).getD 0

/-- The command nearest before `i` whose level is lower. -/
structure NearestBefore (t : Tree) (i p : Nat) : Prop where
  lt : p < i
  lower : t.levelAt p < t.levelAt i
  nearest : ∀ q, p < q → q < i → t.levelAt i ≤ t.levelAt q

/-- The parents are the nearest commands of lower levels, and a command without one is of
level zero. -/
structure Nested (t : Tree) : Prop where
  parent : ∀ i p, t.parent? i = some p → t.NearestBefore i p
  root : ∀ i, t.parent? i = none → t.levelAt i = 0

/-- A command is below another, at any depth. -/
def Below (t : Tree) : CommandId → CommandId → Prop :=
  Relation.TransGen fun p i => i ∈ t.children p

/-- The first command after `i` that is not of a higher level than `i`, or the number of
commands if all that follow are. -/
def endOf (t : Tree) (i : Nat) : Nat :=
  i + 1 + (t.commands.drop (i + 1)).findIdx fun c => c.level ≤ t.levelAt i

/-! ### Levels by place -/

theorem levelAt_eq_getElem?_commands (t : Tree) (i : Nat) :
    t.levelAt i = (t.commands[i]?.map (·.level)).getD 0 := by
  rw [levelAt, getElem?_commands, Option.map_map]
  rfl

theorem levelAt_of_get? {t : Tree} {i : Nat} {node : Node} (h : t.get? i = some node) :
    t.levelAt i = node.level := by
  rw [levelAt, h]
  rfl

theorem levelAt_of_size_le {t : Tree} {i : Nat} (h : t.size ≤ i) : t.levelAt i = 0 := by
  rw [levelAt, get?_size_le h]
  rfl

theorem lt_size_of_parent? {t : Tree} {i p : Nat} (h : t.parent? i = some p) : i < t.size := by
  refine Nat.lt_of_not_le fun hle => ?_
  rw [parent?, get?_size_le hle] at h
  cases h

section
variable {t : Tree} {i : Nat}

theorem lt_endOf : i < t.endOf i := by
  unfold endOf
  omega

theorem endOf_le_size (h : i < t.size) : t.endOf i ≤ t.size := by
  have hle : ((t.commands.drop (i + 1)).findIdx fun c => c.level ≤ t.levelAt i) ≤
      (t.commands.drop (i + 1)).length := List.findIdx_le_length
  rw [List.length_drop, length_commands] at hle
  unfold endOf
  omega

/-- The commands up to the end are of higher levels. -/
theorem levelAt_lt_of_lt_endOf {q : Nat} (hq : i < q) (he : q < t.endOf i) :
    t.levelAt i < t.levelAt q := by
  obtain ⟨k, rfl⟩ := Nat.exists_eq_add_of_le hq
  have hk : k < (t.commands.drop (i + 1)).findIdx fun c => c.level ≤ t.levelAt i := by
    unfold endOf at he
    omega
  have hlt := Nat.lt_of_lt_of_le hk List.findIdx_le_length
  have hnot := List.not_of_lt_findIdx hk
  rw [levelAt_eq_getElem?_commands t (i + 1 + k), ← List.getElem?_drop,
    List.getElem?_eq_getElem hlt]
  exact Nat.lt_of_not_le (of_decide_eq_false hnot)

/-- What stands at the end is not. -/
theorem levelAt_endOf_le : t.levelAt (t.endOf i) ≤ t.levelAt i := by
  rw [levelAt_eq_getElem?_commands t (t.endOf i), endOf, ← List.getElem?_drop]
  by_cases h : ((t.commands.drop (i + 1)).findIdx fun c => c.level ≤ t.levelAt i) <
      (t.commands.drop (i + 1)).length
  · rw [List.getElem?_eq_getElem h]
    exact of_decide_eq_true (List.findIdx_getElem (w := h))
  · rw [List.getElem?_eq_none (Nat.le_of_not_lt h)]
    exact Nat.zero_le _

end

/-! ### Growing -/

section
variable {t u : Tree} {c : Command} {parent : Option CommandId}

theorem Grown.levelAt_of_lt (hg : Grown t u c parent) {i : Nat} (h : i < t.size) :
    u.levelAt i = t.levelAt i := by
  rw [levelAt_eq_getElem?_commands, levelAt_eq_getElem?_commands, hg.commands,
    List.getElem?_append_left (by rwa [length_commands])]

theorem Grown.levelAt_size (hg : Grown t u c parent) : u.levelAt t.size = c.level := by
  rw [levelAt_of_get? hg.get?_size]
  rfl

theorem NearestBefore.of_grown (hg : Grown t u c parent) {i p : Nat} (hi : i < t.size)
    (h : t.NearestBefore i p) : u.NearestBefore i p where
  lt := h.lt
  lower := by
    rw [hg.levelAt_of_lt hi, hg.levelAt_of_lt (Nat.lt_trans h.lt hi)]
    exact h.lower
  nearest q hq hqi := by
    rw [hg.levelAt_of_lt hi, hg.levelAt_of_lt (Nat.lt_trans hqi hi)]
    exact h.nearest q hq hqi

/-- The parent that a new command is given is the nearest before it. -/
theorem NearestLower.nearestBefore (hg : Grown t u c parent) {p : Nat}
    (h : t.NearestLower c.level p) : u.NearestBefore t.size p := by
  obtain ⟨node, hp, hlower⟩ := h.lower
  have hlt : p < t.size := get?_lt hp
  refine ⟨hlt, ?_, fun q hq hqt => ?_⟩
  · rw [hg.levelAt_of_lt hlt, hg.levelAt_size, levelAt_of_get? hp]
    exact hlower
  · obtain ⟨later, hlater⟩ := exists_get? hqt
    rw [hg.levelAt_of_lt hqt, hg.levelAt_size, levelAt_of_get? hlater]
    exact h.nearest q later hq hlater

theorem Nested.of_grown (hn : t.Nested) (hg : Grown t u c parent)
    (hp : ∀ p, parent = some p → t.NearestLower c.level p) (hr : parent = none → c.level = 0) :
    u.Nested where
  parent i p hi := by
    rw [hg.parent?_eq] at hi
    split at hi
    · next he =>
      rw [he]
      exact (hp p hi).nearestBefore hg
    · exact (hn.parent i p hi).of_grown hg (lt_size_of_parent? hi)
  root i hi := by
    rw [hg.parent?_eq] at hi
    split at hi
    · next he =>
      rw [he, hg.levelAt_size]
      exact hr hi
    · next hne =>
      rcases Nat.lt_or_gt_of_ne hne with hlt | hgt
      · rw [hg.levelAt_of_lt hlt]
        exact hn.root i hi
      · exact levelAt_of_size_le (hg.size ▸ hgt)

end

theorem nested_empty : Nested empty := ⟨nofun, fun _ _ => rfl⟩

/-! ### What is below a command -/

theorem mem_children {t : Tree} (ho : t.Ordered) {p i : Nat} :
    i ∈ t.children p ↔ t.parent? i = some p := by
  rw [ho p, attached, List.mem_filter, List.mem_range, decide_eq_true_iff]
  exact and_iff_right_of_imp lt_size_of_parent?

section
variable {t : Tree} (hn : t.Nested) (ho : t.Ordered)
include hn ho

/-- From a command to one below it all levels are higher. -/
theorem levelAt_lt_of_below {i k : Nat} (h : t.Below i k) :
    i < k ∧ ∀ q, i < q → q ≤ k → t.levelAt i < t.levelAt q := by
  induction h with
  | single hk =>
    have hp := hn.parent _ _ ((mem_children ho).mp hk)
    refine ⟨hp.lt, fun q hq hle => ?_⟩
    rcases Nat.eq_or_lt_of_le hle with rfl | hlt
    · exact hp.lower
    · exact Nat.lt_of_lt_of_le hp.lower (hp.nearest q hq hlt)
  | @tail p k _ hk ih =>
    have hp := hn.parent _ _ ((mem_children ho).mp hk)
    obtain ⟨hip, hlevels⟩ := ih
    have hk : t.levelAt i < t.levelAt k := Nat.lt_trans (hlevels p hip (Nat.le_refl p)) hp.lower
    refine ⟨Nat.lt_trans hip hp.lt, fun q hq hle => ?_⟩
    rcases Nat.lt_or_ge p q with hpq | hqp
    · rcases Nat.eq_or_lt_of_le hle with rfl | hlt
      · exact hk
      · exact Nat.lt_of_lt_of_le hk (hp.nearest q hpq hlt)
    · exact hlevels q hq hqp

/-- A command is below another if all levels from there up to its own are higher. -/
theorem below_of_levelAt_lt {i k : Nat} (hk : i < k)
    (h : ∀ q, i < q → q ≤ k → t.levelAt i < t.levelAt q) : t.Below i k := by
  -- The parent of `k` is not before `i`, which is itself before `k` and of a lower level.
  induction k using Nat.strongRecOn with
  | ind k ih =>
    have hik := h k hk (Nat.le_refl k)
    cases hp : t.parent? k with
    | none =>
      rw [hn.root k hp] at hik
      exact absurd hik (Nat.not_lt_zero _)
    | some p =>
      have hnearest := hn.parent k p hp
      have hchild := (mem_children ho).mpr hp
      rcases Nat.lt_trichotomy i p with hip | rfl | hpi
      · have hbelow := ih p hnearest.lt hip fun q hq hle =>
          h q hq (Nat.le_trans hle (Nat.le_of_lt hnearest.lt))
        exact hbelow.tail hchild
      · exact .single hchild
      · exact absurd hik (Nat.not_lt_of_le (hnearest.nearest i hpi hk))

/-- The commands below a command are those after it up to its end. -/
theorem below_iff {i k : Nat} : t.Below i k ↔ i < k ∧ k < t.endOf i := by
  constructor
  · intro h
    obtain ⟨hlt, hlevels⟩ := levelAt_lt_of_below hn ho h
    refine ⟨hlt, Nat.lt_of_not_le fun hle => ?_⟩
    exact absurd (hlevels _ lt_endOf hle) (Nat.not_lt_of_le levelAt_endOf_le)
  · rintro ⟨hlt, hend⟩
    exact below_of_levelAt_lt hn ho hlt fun q hq hle =>
      levelAt_lt_of_lt_endOf hq (Nat.lt_of_le_of_lt hle hend)

end

end Tree

theorem Hierarchy.Added.nested {h k : Hierarchy} {c : Command} {place : Option CommandId}
    (ha : h.Added c k place) (hn : h.tree.Nested) : k.tree.Nested := by
  cases ha with
  | root level grown => exact hn.of_grown grown nofun fun _ => level
  | child _ nearest grown =>
    apply hn.of_grown grown
    · rintro p ⟨⟩
      exact nearest
    · nofun
  | orphan => exact hn

end ScriptedDialog
