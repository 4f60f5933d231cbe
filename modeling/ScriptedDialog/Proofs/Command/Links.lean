import Mathlib.Logic.Relation
import ScriptedDialog.Proofs.Command.Building

/-! The links of a tree that has been built. A command has one parent at most and a
root has none, so no two roots have a command below them in common. Of the roots of
one key the last is registered; the others stay in the tree with all that is below
them, apart from what is below the registered roots. -/

namespace ScriptedDialog

namespace Tree

/-- A command is of level zero and has a key. -/
def IsRoot (t : Tree) (key : String) (i : CommandId) : Prop :=
  ∃ c, t.commands[i]? = some c ∧ c.level = 0 ∧ c.key = key

/-- The last root of a key. -/
def LastRoot (t : Tree) (key : String) (i : CommandId) : Prop :=
  t.IsRoot key i ∧ ∀ j, i < j → ¬ t.IsRoot key j

/-- A root whose key a later root has taken over. -/
def Displaced (t : Tree) (i : CommandId) : Prop :=
  ∃ key, t.IsRoot key i ∧ ∃ j, i < j ∧ t.IsRoot key j

theorem IsRoot.lt_size {t : Tree} {key : String} {i : CommandId} (h : t.IsRoot key i) :
    i < t.size := by
  obtain ⟨c, hc, -⟩ := h
  rw [← length_commands]
  exact (List.getElem?_eq_some_iff.mp hc).1

theorem IsRoot.key_unique {t : Tree} {key key' : String} {i : CommandId} (h : t.IsRoot key i)
    (h' : t.IsRoot key' i) : key = key' := by
  obtain ⟨c, hc, -, rfl⟩ := h
  obtain ⟨c', hc', -, rfl⟩ := h'
  rw [hc] at hc'
  rw [Option.some.inj hc']

/-- A command is at or below another. -/
def Under (t : Tree) : CommandId → CommandId → Prop :=
  Relation.ReflTransGen fun p i => i ∈ t.children p

/-- A command is at or below a registered root. -/
def Live (t : Tree) (i : CommandId) : Prop := ∃ r ∈ t.roots, t.Under r i

theorem Live.child {t : Tree} {p i : CommandId} (h : t.Live p) (hi : i ∈ t.children p) :
    t.Live i := by
  obtain ⟨r, hr, hu⟩ := h
  exact ⟨r, hr, hu.tail hi⟩

theorem live_of_mem_roots {t : Tree} {r : CommandId} (h : r ∈ t.roots) : t.Live r :=
  ⟨r, h, .refl⟩

theorem mem_roots {t : Tree} {i : CommandId} :
    i ∈ t.roots ↔ ∃ key, (key, i) ∈ t.rootEntries := by
  simp [roots]

/-- What holds of the links and the registered roots of every tree that is built. -/
structure Linked (t : Tree) : Prop where
  child : ∀ p i, i ∈ t.children p → ∃ node, t.get? i = some node ∧ node.parent = some p
  root : ∀ i node, t.get? i = some node → node.level = 0 → node.parent = none
  keys : (t.rootEntries.map (·.1)).Nodup
  entries : ∀ key i, (key, i) ∈ t.rootEntries ↔ t.LastRoot key i

/-! ### Below a root -/

namespace Linked

variable {t : Tree}

theorem parent_of_isRoot (h : t.Linked) {key : String} {i : CommandId} (hi : t.IsRoot key i) :
    ∃ node, t.get? i = some node ∧ node.parent = none := by
  obtain ⟨c, hc, hlevel, -⟩ := hi
  rw [getElem?_commands] at hc
  obtain ⟨node, hn, rfl⟩ := Option.map_eq_some_iff.mp hc
  exact ⟨node, hn, h.root i node hn hlevel⟩

theorem isRoot_of_mem_roots (h : t.Linked) {i : CommandId} (hi : i ∈ t.roots) :
    ∃ key, t.IsRoot key i := by
  obtain ⟨key, hm⟩ := mem_roots.mp hi
  exact ⟨key, ((h.entries key i).mp hm).1⟩

/-- A root is no child. -/
theorem not_mem_children (h : t.Linked) {key : String} {i : CommandId} (hi : t.IsRoot key i)
    (p : CommandId) : i ∉ t.children p := by
  intro hp
  obtain ⟨node, hn, hnone⟩ := h.parent_of_isRoot hi
  obtain ⟨node', hn', hsome⟩ := h.child p i hp
  rw [hn] at hn'
  cases hn'
  rw [hnone] at hsome
  cases hsome

/-- A command is a child of one command at most. -/
theorem parent_unique (h : t.Linked) {p q i : CommandId} (hp : i ∈ t.children p)
    (hq : i ∈ t.children q) : p = q := by
  obtain ⟨node, hn, hnp⟩ := h.child p i hp
  obtain ⟨node', hn', hnq⟩ := h.child q i hq
  rw [hn] at hn'
  cases hn'
  exact Option.some.inj (hnp.symm.trans hnq)

/-- A command is below one root at most. -/
theorem root_unique (h : t.Linked) {key key' : String} {r s i : CommandId}
    (hr : t.IsRoot key r) (hs : t.IsRoot key' s) (hri : t.Under r i) (hsi : t.Under s i) :
    r = s := by
  induction hri with
  | refl =>
    rcases hsi.cases_tail with he | ⟨p, -, hp⟩
    · exact he
    · exact absurd hp (h.not_mem_children hr p)
  | tail _ hp ih =>
    rcases hsi.cases_tail with rfl | ⟨q, hq, hqi⟩
    · exact absurd hp (h.not_mem_children hs _)
    · obtain rfl := h.parent_unique hp hqi
      exact ih hq

theorem not_displaced_of_mem_roots (h : t.Linked) {i : CommandId} (hi : i ∈ t.roots) :
    ¬ t.Displaced i := by
  rintro ⟨key, hkey, j, hj, hlater⟩
  obtain ⟨key', hm⟩ := mem_roots.mp hi
  obtain ⟨hkey', hlast⟩ := (h.entries key' i).mp hm
  obtain rfl := hkey.key_unique hkey'
  exact hlast j hj hlater

/-- What is below a displaced root is below no registered root. -/
theorem not_live_of_displaced (h : t.Linked) {r i : CommandId} (hr : t.Displaced r)
    (hi : t.Under r i) : ¬ t.Live i := by
  rintro ⟨s, hs, hsi⟩
  have ⟨key, hkey, _⟩ := hr
  obtain ⟨key', hkey'⟩ := h.isRoot_of_mem_roots hs
  have hrs : r = s := h.root_unique hkey hkey' hi hsi
  exact h.not_displaced_of_mem_roots hs (hrs ▸ hr)

end Linked

/-! ### Growing -/

/-- Entering a key changes what is entered under this key alone. -/
theorem mem_enter {key k : String} {id i : CommandId} {entries : List (String × CommandId)}
    (h : (entries.map (·.1)).Nodup) :
    (k, i) ∈ enter key id entries ↔ if key = k then i = id else (k, i) ∈ entries := by
  induction entries with
  | nil =>
    by_cases hk : key = k
    · simp [enter, hk]
    · simp [enter, hk, Ne.symm hk]
  | cons e rest ih =>
    obtain ⟨k', i'⟩ := e
    obtain ⟨hnot, hrest⟩ := List.nodup_cons.mp h
    have hne (j : CommandId) (hj : (k', j) ∈ rest) : False :=
      hnot (List.mem_map.mpr ⟨(k', j), hj, rfl⟩)
    rw [enter]
    by_cases hk' : k' = key
    · subst hk'
      by_cases hk : k' = k
      · subst hk
        simpa using fun hi => (hne i hi).elim
      · simp [hk, Ne.symm hk]
    · rw [if_neg hk', List.mem_cons, ih hrest]
      by_cases hk : key = k
      · subst hk
        simp [Ne.symm hk']
      · simp [hk]

theorem keys_enter (key : String) (id : CommandId) (entries : List (String × CommandId)) :
    (enter key id entries).map (·.1) =
      if key ∈ entries.map (·.1) then entries.map (·.1) else entries.map (·.1) ++ [key] := by
  induction entries with
  | nil => rfl
  | cons e rest ih =>
    obtain ⟨k, i⟩ := e
    rw [enter]
    by_cases hk : k = key
    · simp [hk]
    · rw [if_neg hk, List.map_cons, ih]
      by_cases hm : key ∈ rest.map (·.1)
      · simp [hm]
      · simp [hm, Ne.symm hk]

/-- Keys that are entered one after the other stand there once, in the order in which they came
up. -/
theorem keys_enter_eraseDups {entries : List (String × CommandId)} {keys : List String}
    (h : entries.map (·.1) = keys.eraseDups) (key : String) (id : CommandId) :
    (enter key id entries).map (·.1) = (keys ++ [key]).eraseDups := by
  rw [keys_enter, h, List.eraseDups_append]
  by_cases hm : key ∈ keys <;>
    simp [List.removeAll, List.mem_eraseDups, List.eraseDups_cons, hm]

theorem nodup_keys_enter {entries : List (String × CommandId)} (h : (entries.map (·.1)).Nodup)
    (key : String) (id : CommandId) : ((enter key id entries).map (·.1)).Nodup := by
  rw [keys_enter]
  split
  · exact h
  · next hm =>
    refine List.nodup_append.mpr ⟨h, List.pairwise_singleton .., ?_⟩
    rintro k hk _ hkey rfl
    rw [List.mem_singleton.mp hkey] at hk
    exact hm hk

section
variable {t u : Tree} {c : Command} {parent : Option CommandId}

theorem Grown.isRoot_iff (hg : Grown t u c parent) {key : String} {i : Nat} :
    u.IsRoot key i ↔ t.IsRoot key i ∨ (i = t.size ∧ c.level = 0 ∧ c.key = key) := by
  unfold IsRoot
  rw [hg.commands, ← length_commands]
  rcases Nat.lt_trichotomy i t.commands.length with hi | rfl | hi
  · have hne : i ≠ t.commands.length := by omega
    simp [List.getElem?_append_left hi, hne]
  · simp
  · have hne : i ≠ t.commands.length := by omega
    have hend : (t.commands ++ [c])[i]? = none :=
      List.getElem?_eq_none (by rw [List.length_append, List.length_singleton]; omega)
    simp [hend, hne, List.getElem?_eq_none (Nat.le_of_lt hi)]

/-- A new root is the last of its key, and the last roots of other keys stay. -/
theorem Grown.lastRoot_iff_of_root (hg : Grown t u c parent) (hc : c.level = 0) {key : String}
    {i : CommandId} : u.LastRoot key i ↔ if c.key = key then i = t.size else t.LastRoot key i := by
  unfold LastRoot
  simp only [hg.isRoot_iff, hc, true_and]
  split
  · next hk =>
    simp only [hk, and_true]
    constructor
    · rintro ⟨hi | hi, hlast⟩
      · exact absurd (Or.inr rfl) (hlast t.size hi.lt_size)
      · exact hi
    · rintro rfl
      refine ⟨Or.inr rfl, ?_⟩
      rintro j hj (h | rfl)
      · exact absurd h.lt_size (Nat.not_lt_of_lt hj)
      · exact absurd hj (Nat.lt_irrefl _)
  · next hk => simp [hk]

theorem Grown.lastRoot_iff_of_child (hg : Grown t u c parent) (hc : 0 < c.level) {key : String}
    {i : CommandId} : u.LastRoot key i ↔ t.LastRoot key i := by
  have hne : c.level ≠ 0 := Nat.ne_of_gt hc
  unfold LastRoot
  simp only [hg.isRoot_iff, hne, false_and, and_false, or_false]

theorem Grown.mem_children (hg : Grown t u c parent) {p i : CommandId} (hi : i ∈ u.children p) :
    i ∈ t.children p ∨ (i = t.size ∧ parent = some p) := by
  unfold children at hi ⊢
  cases hp : u.get? p with
  | none =>
    rw [hp] at hi
    cases hi
  | some node =>
    rw [hp] at hi
    rcases hg.get?_cases hp with ⟨-, rfl⟩ | ⟨old, ho, rfl⟩
    · cases hi
    · rw [ho]
      split at hi
      · next hparent =>
        rcases List.mem_append.mp hi with hi | hi
        · exact Or.inl hi
        · exact Or.inr ⟨List.mem_singleton.mp hi, hparent⟩
      · exact Or.inl hi

theorem Linked.of_grown (h : t.Linked) (hg : Grown t u c parent) (hp : c.level = 0 → parent = none)
    (hk : (u.rootEntries.map (·.1)).Nodup)
    (he : ∀ key i, (key, i) ∈ u.rootEntries ↔ u.LastRoot key i) : u.Linked where
  child p i hi := by
    rcases hg.mem_children hi with hi | ⟨rfl, hparent⟩
    · obtain ⟨node, hn, hparent⟩ := h.child p i hi
      obtain ⟨node', hn', -, hparent', -⟩ := hg.extends i node hn
      exact ⟨node', hn', hparent'.trans hparent⟩
    · exact ⟨_, hg.get?_size, hparent⟩
  root i node hi hlevel := by
    rcases hg.get?_cases hi with ⟨-, rfl⟩ | ⟨old, ho, rfl⟩
    · exact hp hlevel
    · by_cases hpi : parent = some i
      · rw [if_pos hpi] at hlevel ⊢
        exact h.root i old ho hlevel
      · rw [if_neg hpi] at hlevel ⊢
        exact h.root i old ho hlevel
  keys := hk
  entries := he

end

theorem linked_empty : Linked empty where
  child _ _ hi := by cases hi
  root _ _ hi := by cases hi
  keys := .nil
  entries key i := by
    refine ⟨nofun, ?_⟩
    rintro ⟨⟨c, hc, -⟩, -⟩
    cases hc

end Tree

namespace Hierarchy

theorem Added.linked {h k : Hierarchy} {c : Command} {place : Option CommandId}
    (ha : h.Added c k place) (hl : h.tree.Linked) : k.tree.Linked := by
  cases ha with
  | root level grown roots =>
    apply hl.of_grown grown (fun _ => rfl)
    · rw [roots]
      exact Tree.nodup_keys_enter hl.keys _ _
    · intro key i
      rw [roots, Tree.mem_enter hl.keys, grown.lastRoot_iff_of_root level, hl.entries]
  | child level _ grown roots =>
    apply hl.of_grown grown (fun hzero => by omega)
    · rw [roots]
      exact hl.keys
    · intro key i
      rw [roots, grown.lastRoot_iff_of_child level, hl.entries]
  | orphan => exact hl

end Hierarchy

end ScriptedDialog
