import ScriptedDialog.Proofs.Command.Growth

/-! The parent of a command is the nearest command before it of a lower level. The
chain that the builder keeps is a function of the levels of all commands so far, and
its head after the removal of what is not lower is what a scan back over these levels
finds. So no command that has left the chain could be found by the scan. -/

namespace ScriptedDialog

/-! ### The chain and the scan -/

namespace Hierarchy

/-- The chain that commands of these levels leave, the latest level first. -/
def chain : List Nat → List (Nat × CommandId)
  | [] => []
  | level :: earlier => (level, earlier.length) :: above level (chain earlier)

/-- Scans back, from the latest level on, for a lower one. -/
def nearestLower? (level : Nat) : List Nat → Option CommandId
  | [] => none
  | l :: earlier => if l < level then some earlier.length else nearestLower? level earlier

theorem above_above {k l : Nat} (h : k ≤ l) (ancestors : List (Nat × CommandId)) :
    above k (above l ancestors) = above k ancestors := by
  induction ancestors with
  | nil => rfl
  | cons a outer ih =>
    by_cases hl : l ≤ a.1
    · have hk : k ≤ a.1 := by omega
      simpa [above, hl, hk] using ih
    · simp [above, hl]

/-- What the chain has left above a level begins with what the scan finds. -/
theorem head?_above_chain (level : Nat) (levels : List Nat) :
    (above level (chain levels)).head?.map (·.2) = nearestLower? level levels := by
  induction levels with
  | nil => rfl
  | cons l earlier ih =>
    rw [chain, nearestLower?]
    by_cases hl : l < level
    · have hn : ¬ level ≤ l := by omega
      simp [above, hl, hn]
    · have hle : level ≤ l := by omega
      have hd : above level ((l, earlier.length) :: above l (chain earlier)) =
          above level (above l (chain earlier)) := by simp [above, hle]
      rw [hd, above_above hle, ih, if_neg hl]

example : above 2 (chain [2, 1, 3, 0]) = [(1, 2), (0, 0)] := by decide

theorem nearestLower?_eq_none_iff {level : Nat} {levels : List Nat} :
    nearestLower? level levels = none ↔ ∀ l ∈ levels, level ≤ l := by
  induction levels with
  | nil => simp [nearestLower?]
  | cons l earlier ih =>
    by_cases hl : l < level
    · have hn : ¬ level ≤ l := by omega
      simp [nearestLower?, hl, hn]
    · simp [nearestLower?, hl, ih, Nat.le_of_not_lt hl]

theorem nearestLower?_eq_some {level p : Nat} {levels : List Nat}
    (h : nearestLower? level levels = some p) :
    (∃ l, levels.reverse[p]? = some l ∧ l < level) ∧
      ∀ q l, p < q → levels.reverse[q]? = some l → level ≤ l := by
  induction levels with
  | nil => cases h
  | cons l earlier ih =>
    rw [nearestLower?] at h
    simp only [List.reverse_cons]
    split at h
    · next hl =>
      obtain rfl : earlier.length = p := Option.some.inj h
      refine ⟨⟨l, by simp, hl⟩, ?_⟩
      intro q l' hq hl'
      rw [List.getElem?_eq_none (by simp; omega)] at hl'
      cases hl'
    · next hl =>
      obtain ⟨⟨l', hp, hlt⟩, hlater⟩ := ih h
      have hlen := (List.getElem?_eq_some_iff.mp hp).1
      refine ⟨⟨l', by rwa [List.getElem?_append_left hlen], hlt⟩, ?_⟩
      intro q k hq hk
      by_cases hqe : q < earlier.reverse.length
      · exact hlater q k hq (by rwa [List.getElem?_append_left hqe] at hk)
      · rw [List.getElem?_append_right (by omega)] at hk
        have hkl := List.mem_of_getElem? hk
        rw [List.mem_singleton.mp hkl]
        omega

end Hierarchy

namespace Tree

/-- The levels of the commands, the latest first. -/
def levels (t : Tree) : List Nat := (t.commands.map (·.level)).reverse

/-- The command nearest to the end whose level is lower. -/
structure NearestLower (t : Tree) (level : Nat) (p : CommandId) : Prop where
  lower : ∃ node, t.get? p = some node ∧ node.level < level
  nearest : ∀ q node, p < q → t.get? q = some node → level ≤ node.level

theorem getElem?_reverse_levels (t : Tree) (i : CommandId) :
    t.levels.reverse[i]? = (t.get? i).map (·.level) := by
  rw [levels, List.reverse_reverse, List.getElem?_map, getElem?_commands, Option.map_map]
  rfl

theorem length_levels (t : Tree) : t.levels.length = t.size := by
  rw [levels, List.length_reverse, List.length_map, length_commands]

theorem NearestLower.levels_ne_nil {t : Tree} {level : Nat} {p : CommandId}
    (h : t.NearestLower level p) : t.levels ≠ [] := by
  obtain ⟨node, hp, -⟩ := h.lower
  have hlt := get?_lt hp
  rw [← length_levels] at hlt
  exact List.ne_nil_of_length_pos (Nat.zero_lt_of_lt hlt)

theorem Grown.levels {t u : Tree} {c : Command} {parent : Option CommandId}
    (h : Grown t u c parent) : u.levels = c.level :: t.levels := by
  simp [Tree.levels, h.commands]

theorem nearestLower_of_scan {t : Tree} {level : Nat} {p : CommandId}
    (h : Hierarchy.nearestLower? level t.levels = some p) : t.NearestLower level p := by
  obtain ⟨⟨l, hp, hl⟩, hlater⟩ := Hierarchy.nearestLower?_eq_some h
  rw [getElem?_reverse_levels] at hp
  obtain ⟨node, hn, rfl⟩ := Option.map_eq_some_iff.mp hp
  refine ⟨⟨node, hn, hl⟩, ?_⟩
  intro q later hq hlt
  exact hlater q later.level hq (by rw [getElem?_reverse_levels, hlt]; rfl)

end Tree

/-! ### The builder -/

namespace Hierarchy

/-- The chain is what the levels leave, and where there are commands there is a root. -/
structure Sound (h : Hierarchy) : Prop where
  ancestors : h.ancestors = chain h.tree.levels
  rooted : h.tree.levels ≠ [] → 0 ∈ h.tree.levels

theorem sound_empty : Sound empty := ⟨rfl, fun h => absurd rfl h⟩

/-- What is reported of a root whose key is known already. -/
def redefinition? (h : Hierarchy) (c : Command) : Option Diagnostic :=
  (h.tree.root? c.key).map fun previous =>
    ⟨.rootDuplicate c.key (((h.tree.get? previous).map (·.line)).getD 0), c.line⟩

/-- What is reported of a command that is left out. -/
def orphan (c : Command) : Diagnostic := ⟨.parentMissing c.level c.key, c.line⟩

/-- The three ways in which a command is added, with its place. -/
inductive Added (h : Hierarchy) (c : Command) : Hierarchy → Option CommandId → Prop where
  | root {k} (level : c.level = 0) (grown : h.tree.Grown k.tree c none)
      (roots : k.tree.rootEntries = Tree.enter c.key h.tree.size h.tree.rootEntries)
      (diagnostics : k.diagnostics = h.diagnostics ++ (h.redefinition? c).toList) :
      Added h c k (some h.tree.size)
  | child {k p} (level : 0 < c.level) (nearest : h.tree.NearestLower c.level p)
      (grown : h.tree.Grown k.tree c (some p)) (roots : k.tree.rootEntries = h.tree.rootEntries)
      (diagnostics : k.diagnostics = h.diagnostics) :
      Added h c k (some h.tree.size)
  | orphan (level : 0 < c.level) (rootless : 0 ∉ h.tree.levels) :
      Added h c { h with diagnostics := h.diagnostics ++ [orphan c] } none

theorem Sound.of_grown {h k : Hierarchy} {c : Command} {parent : Option CommandId}
    (hs : h.Sound) (hg : h.tree.Grown k.tree c parent)
    (ha : k.ancestors = (c.level, h.tree.size) :: above c.level h.ancestors)
    (hr : c.level = 0 ∨ 0 ∈ h.tree.levels) : k.Sound where
  ancestors := by rw [ha, hg.levels, chain, Tree.length_levels, hs.ancestors]
  rooted _ := by
    rw [hg.levels]
    rcases hr with hr | hr
    · rw [hr]
      exact List.mem_cons_self
    · exact List.mem_cons_of_mem _ hr

theorem above_zero (ancestors : List (Nat × CommandId)) : above 0 ancestors = [] := by
  induction ancestors with
  | nil => rfl
  | cons a outer ih => exact ih

section
variable {h : Hierarchy} {c : Command}

theorem add_of_level_zero (hs : h.Sound) (hc : c.level = 0) :
    ∃ k, h.add c = .ok (k, some h.tree.size) ∧ h.Added c k (some h.tree.size) ∧ k.Sound := by
  have hg : h.tree.Grown (h.addRoot c).tree c none := Tree.grown_insertRoot h.tree c c.key
  refine ⟨h.addRoot c, ?_, .root hc hg rfl rfl, hs.of_grown hg ?_ (Or.inl hc)⟩
  · rw [add, if_pos hc]
    rfl
  · rw [hc, above_zero]
    rfl

/-- Without a root there is no command at all, so the chain was empty before. -/
theorem add_of_rootless (hs : h.Sound) (hc : 0 < c.level) (h0 : 0 ∉ h.tree.levels) :
    h.add c = .ok ({ h with diagnostics := h.diagnostics ++ [orphan c] }, none) := by
  have hnil : h.tree.levels = [] := Decidable.byContradiction fun hne => h0 (hs.rooted hne)
  have hanc : h.ancestors = [] := by rw [hs.ancestors, hnil]; rfl
  have hne : ¬ c.level = 0 := by omega
  simp only [add, if_neg hne, hanc, above, List.dropWhile_nil]
  rfl

theorem add_of_rooted (hs : h.Sound) (hc : 0 < c.level) (h0 : 0 ∈ h.tree.levels) :
    ∃ k, h.add c = .ok (k, some h.tree.size) ∧ h.Added c k (some h.tree.size) ∧ k.Sound := by
  have hscan := head?_above_chain c.level h.tree.levels
  rw [← hs.ancestors] at hscan
  cases ha : above c.level h.ancestors with
  | nil =>
    rw [ha] at hscan
    have := nearestLower?_eq_none_iff.mp hscan.symm 0 h0
    omega
  | cons a outer =>
    obtain ⟨level, p⟩ := a
    rw [ha] at hscan
    have hn := Tree.nearestLower_of_scan hscan.symm
    obtain ⟨node, hp, -⟩ := hn.lower
    have hg := Tree.grown_link c (Tree.get?_lt hp)
    have hattach := Tree.attach_push c (Tree.get?_lt hp)
    have hne : ¬ c.level = 0 := by omega
    refine ⟨{ h with
      tree := (h.tree.push c).link p h.tree.nextId
      ancestors := (c.level, h.tree.nextId) :: (level, p) :: outer }, ?_,
      .child hc hn hg rfl rfl, hs.of_grown hg ?_ (Or.inr h0)⟩
    · simp only [add, if_neg hne, ha, hattach]
      rfl
    · rw [ha]
      rfl

end

/-- Adding a command never fails. -/
theorem add_spec {h : Hierarchy} (hs : h.Sound) (c : Command) :
    ∃ k place, h.add c = .ok (k, place) ∧ h.Added c k place ∧ k.Sound := by
  rcases Nat.eq_zero_or_pos c.level with hc | hc
  · obtain ⟨k, ha, hk⟩ := add_of_level_zero hs hc
    exact ⟨k, _, ha, hk⟩
  · by_cases h0 : 0 ∈ h.tree.levels
    · obtain ⟨k, ha, hk⟩ := add_of_rooted hs hc h0
      exact ⟨k, _, ha, hk⟩
    · exact ⟨_, none, add_of_rootless hs hc h0, .orphan hc h0, hs.ancestors, hs.rooted⟩

theorem Added.commands {h k : Hierarchy} {c : Command} {place : Option CommandId}
    (ha : h.Added c k place) :
    k.tree.commands = h.tree.commands ++ (place.map fun _ => c).toList := by
  cases ha with
  | root _ grown => exact grown.commands
  | child _ _ grown => exact grown.commands
  | orphan => exact (List.append_nil _).symm

theorem Added.extends {h k : Hierarchy} {c : Command} {place : Option CommandId}
    (ha : h.Added c k place) : h.tree.Extends k.tree := by
  cases ha with
  | root _ grown => exact grown.extends
  | child _ _ grown => exact grown.extends
  | orphan => exact .refl _

theorem Added.rooted {h k : Hierarchy} {c : Command} {place : Option CommandId}
    (ha : h.Added c k place) :
    0 ∈ k.tree.levels ↔ 0 ∈ h.tree.levels ∨ c.level = 0 := by
  cases ha with
  | root level grown => simp [grown.levels, level]
  | child level _ grown =>
    have hne : c.level ≠ 0 := by omega
    simp [grown.levels, hne, hne.symm]
  | orphan level =>
    have hne : c.level ≠ 0 := by omega
    simp [hne]

/-- A command is left out exactly if there is no root by then. -/
theorem Added.place_eq_none_iff {h k : Hierarchy} {c : Command} {place : Option CommandId}
    (ha : h.Added c k place) (hs : h.Sound) : place = none ↔ 0 ∉ k.tree.levels := by
  cases ha with
  | root level grown => simp [grown.levels, level]
  | child _ nearest grown =>
    have hrooted : 0 ∈ h.tree.levels := hs.rooted nearest.levels_ne_nil
    simp [grown.levels, hrooted]
  | orphan _ rootless => exact iff_of_true rfl rootless

/-- The place of a command is the first one that has been free. -/
theorem Added.range_append {h k : Hierarchy} {c : Command} {place : Option CommandId}
    (ha : h.Added c k place) :
    List.range k.tree.size = List.range h.tree.size ++ place.toList := by
  cases ha with
  | root _ grown => rw [grown.size, List.range_succ, Option.toList_some]
  | child _ _ grown => rw [grown.size, List.range_succ, Option.toList_some]
  | orphan => exact (List.append_nil _).symm

end Hierarchy

end ScriptedDialog
