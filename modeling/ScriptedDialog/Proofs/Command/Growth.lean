import ScriptedDialog.Command.Hierarchy

/-! How a tree grows. Entering a root and attaching a child are one kind of step: a
new command comes last, under a parent or under none, and no other command changes
but that the parent has one more child. -/

namespace ScriptedDialog

namespace Tree

theorem get?_lt {t : Tree} {i : CommandId} {node : Node} (h : t.get? i = some node) :
    i < t.size :=
  (Array.getElem?_eq_some_iff.mp h).1

theorem get?_size_le {t : Tree} {i : CommandId} (h : t.size ≤ i) : t.get? i = none :=
  Array.getElem?_eq_none h

theorem exists_get? {t : Tree} {i : Nat} (h : i < t.size) : ∃ node, t.get? i = some node :=
  ⟨_, Array.getElem?_eq_getElem h⟩

/-- The commands of a tree in the order of their declaration, without their links. -/
def commands (t : Tree) : List Command := t.nodes.toList.map (·.toCommand)

theorem getElem?_commands (t : Tree) (i : CommandId) :
    t.commands[i]? = (t.get? i).map (·.toCommand) := by
  simp [commands, get?]

theorem mem_commands_of_get? {t : Tree} {i : CommandId} {node : Node} (h : t.get? i = some node) :
    node.toCommand ∈ t.commands := by
  refine List.mem_of_getElem? (i := i) ?_
  rw [getElem?_commands, h]
  rfl

theorem length_commands (t : Tree) : t.commands.length = t.size := by
  simp [commands, size]

/-- The tree `u` is the tree `t` with one more command under a parent. -/
structure Grown (t u : Tree) (c : Command) (parent : Option CommandId) : Prop where
  size : u.size = t.size + 1
  get?_size : u.get? t.size = some { c.node with parent := parent }
  get?_lt : ∀ i < t.size, u.get? i = (t.get? i).map fun node =>
    if parent = some i then { node with children := node.children ++ [t.size] } else node

namespace Grown

variable {t u : Tree} {c : Command} {parent : Option CommandId}

/-- A command of the larger tree is the new one or an old one. -/
theorem get?_cases (h : Grown t u c parent) {i : Nat} {node : Node}
    (hi : u.get? i = some node) :
    (i = t.size ∧ node = { c.node with parent := parent }) ∨
      ∃ old, t.get? i = some old ∧ node = if parent = some i then
        { old with children := old.children ++ [t.size] } else old := by
  have hlt : i < t.size + 1 := h.size ▸ Tree.get?_lt hi
  by_cases he : i = t.size
  · subst he
    rw [h.get?_size] at hi
    exact Or.inl ⟨rfl, (Option.some.inj hi).symm⟩
  · rw [h.get?_lt i (by omega)] at hi
    obtain ⟨old, ho, rfl⟩ := Option.map_eq_some_iff.mp hi
    exact Or.inr ⟨old, ho, rfl⟩

theorem commands (h : Grown t u c parent) : u.commands = t.commands ++ [c] := by
  apply List.ext_getElem?
  intro i
  rw [getElem?_commands]
  rcases Nat.lt_trichotomy i t.size with hi | rfl | hi
  · rw [List.getElem?_append_left (by rwa [length_commands]), getElem?_commands, h.get?_lt i hi]
    cases t.get? i with
    | none => rfl
    | some node =>
      simp only [Option.map_some]
      split <;> rfl
  · rw [h.get?_size, ← length_commands, List.getElem?_concat_length]
    rfl
  · rw [Tree.get?_size_le (by rw [h.size]; omega), List.getElem?_eq_none (by
      rw [List.length_append, length_commands, List.length_singleton]; omega)]
    rfl

end Grown

/-- All commands of `t` are in `u` at their places, with the same parents and with at
least their children. -/
def Extends (t u : Tree) : Prop :=
  ∀ i node, t.get? i = some node → ∃ node', u.get? i = some node' ∧
    node'.toCommand = node.toCommand ∧ node'.parent = node.parent ∧
    node.children <+: node'.children

theorem Extends.refl (t : Tree) : t.Extends t :=
  fun _ node h => ⟨node, h, rfl, rfl, List.prefix_refl _⟩

theorem Extends.trans {t u v : Tree} (h : t.Extends u) (h' : u.Extends v) : t.Extends v := by
  intro i node hi
  obtain ⟨node', hi', hc, hp, hl⟩ := h i node hi
  obtain ⟨node'', hi'', hc', hp', hl'⟩ := h' i node' hi'
  exact ⟨node'', hi'', hc'.trans hc, hp'.trans hp, hl.trans hl'⟩

theorem Grown.extends {t u : Tree} {c : Command} {parent : Option CommandId}
    (h : Grown t u c parent) : t.Extends u := by
  intro i node hi
  have hu := h.get?_lt i (Tree.get?_lt hi)
  rw [hi, Option.map_some] at hu
  by_cases hp : parent = some i
  · rw [if_pos hp] at hu
    exact ⟨_, hu, rfl, rfl, List.prefix_append ..⟩
  · rw [if_neg hp] at hu
    exact ⟨_, hu, rfl, rfl, List.prefix_refl _⟩

/-! ### The two kinds of growth -/

theorem grown_insertRoot (t : Tree) (c : Command) (key : String) :
    Grown t ((t.push c).insertRoot key t.nextId) c none where
  size := by simp [size, insertRoot, push]
  get?_size := by simp [get?, insertRoot, push, size, Command.node]
  get?_lt i hi := by
    have hne : i ≠ t.nodes.size := Nat.ne_of_lt hi
    simp [get?, insertRoot, push, Array.getElem?_push, hne]

/-- A tree with one command put under another, when both are there. -/
def link (t : Tree) (p i : Nat) : Tree :=
  let nodes := t.nodes.modify p fun node => { node with children := node.children ++ [i] }
  { t with nodes := nodes.modify i fun node => { node with parent := some p } }

theorem attach_of_lt {t : Tree} {p i : Nat} (hp : p < t.size) (hi : i < t.size) :
    t.attach p i = .ok (t.link p i) := by
  rw [attach, if_pos ⟨hp, hi⟩]
  rfl

/-- The next command can be put under any command there is. -/
theorem attach_push {t : Tree} {p : Nat} (c : Command) (hp : p < t.size) :
    (t.push c).attach p t.nextId = .ok ((t.push c).link p t.nextId) := by
  have hsize : (t.push c).size = t.size + 1 := Array.size_push ..
  apply attach_of_lt
  · omega
  · rw [hsize]
    exact Nat.lt_succ_self _

theorem grown_link {t : Tree} {p : Nat} (c : Command) (hp : p < t.size) :
    Grown t ((t.push c).link p t.nextId) c (some p) where
  size := by simp [size, push, link]
  get?_size := by
    have hne : p ≠ t.nodes.size := Nat.ne_of_lt hp
    simp only [get?, push, link, size, nextId, Array.getElem?_modify, if_neg hne,
      Array.getElem?_push_size, ↓reduceIte, Option.map_some]
  get?_lt i hi := by
    have hne : i ≠ t.nodes.size := Nat.ne_of_lt hi
    simp only [get?, push, link, nextId, Array.getElem?_modify, if_neg hne.symm,
      Array.getElem?_push, if_neg hne, Option.some.injEq]
    by_cases hpi : p = i
    · simp [hpi, size]
    · simp [hpi]

end Tree

end ScriptedDialog
