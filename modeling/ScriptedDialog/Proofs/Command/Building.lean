import ScriptedDialog.Proofs.Command.Nearest

/-! Building a tree from a whole list of commands. Every list can be added, and the
tree holds the commands that were given a place, in order: all of them from the first
root on. What has been reported so far has no influence on what follows, so a command
that is left out leaves no trace but its own diagnostic. -/

namespace ScriptedDialog.Hierarchy

/-- Adds commands one after the other, and says of each where it is. -/
def addAll (h : Hierarchy) :
    List Command → Except Fault (Hierarchy × List (Option CommandId))
  | [] => .ok (h, [])
  | c :: later =>
    match h.add c with
    | .error fault => .error fault
    | .ok (k, place) => (k.addAll later).map fun r => (r.1, place :: r.2)

/-- The commands that were given a place. -/
def placed (commands : List Command) (places : List (Option CommandId)) : List Command :=
  (commands.zip places).filterMap fun cp => cp.2.map fun _ => cp.1

theorem addAll_cons_of_ok {h k l : Hierarchy} {c : Command} {later : List Command}
    {place : Option CommandId} {places : List (Option CommandId)} (ha : h.add c = .ok (k, place))
    (hl : k.addAll later = .ok (l, places)) :
    h.addAll (c :: later) = .ok (l, place :: places) := by
  rw [addAll, ha]
  simp only [hl]
  rfl

theorem placed_cons (c : Command) (later : List Command) (place : Option CommandId)
    (places : List (Option CommandId)) :
    placed (c :: later) (place :: places) =
      (place.map fun _ => c).toList ++ placed later places := by
  cases place <;> rfl

theorem mem_of_mem_placed {commands : List Command} {places : List (Option CommandId)}
    {c : Command} (h : c ∈ placed commands places) : c ∈ commands := by
  obtain ⟨⟨e, place⟩, he, hc⟩ := List.mem_filterMap.mp h
  obtain ⟨_, -, rfl⟩ := Option.map_eq_some_iff.mp hc
  exact (List.of_mem_zip he).1

/-- Every list of commands can be added. -/
theorem addAll_spec {h : Hierarchy} (hs : h.Sound) (commands : List Command) :
    ∃ k places, h.addAll commands = .ok (k, places) ∧ k.Sound ∧ h.tree.Extends k.tree ∧
      k.tree.commands = h.tree.commands ++ placed commands places ∧
      (0 ∈ k.tree.levels ↔ 0 ∈ h.tree.levels ∨ ∃ e ∈ commands, e.level = 0) := by
  induction commands generalizing h with
  | nil => exact ⟨h, [], rfl, hs, .refl _, (List.append_nil _).symm, by simp⟩
  | cons c later ih =>
    obtain ⟨k, place, hadd, hadded, hk⟩ := add_spec hs c
    obtain ⟨l, places, hall, hl, hext, hcommands, hroot⟩ := ih hk
    refine ⟨l, place :: places, addAll_cons_of_ok hadd hall, hl, hadded.extends.trans hext, ?_, ?_⟩
    · rw [hcommands, hadded.commands, placed_cons, List.append_assoc]
    · rw [hroot, hadded.rooted]
      simp [or_assoc]

/-- Adding a list is adding its first command and then the others. -/
theorem exists_added_of_addAll_cons {h k : Hierarchy} {c : Command} {later : List Command}
    {places : List (Option CommandId)} (hs : h.Sound)
    (ha : h.addAll (c :: later) = .ok (k, places)) : ∃ m place placesLater,
      h.Added c m place ∧ m.Sound ∧ m.addAll later = .ok (k, placesLater) ∧
        places = place :: placesLater := by
  obtain ⟨m, place, hadd, hadded, hm⟩ := add_spec hs c
  obtain ⟨l, placesLater, hall, -⟩ := addAll_spec hm later
  rw [addAll_cons_of_ok hadd hall] at ha
  cases ha
  exact ⟨m, place, placesLater, hadded, hm, hall, rfl⟩

/-- What every addition preserves of the tree holds of the tree of a whole list. -/
theorem addAll_induction {P : Tree → Prop}
    (step : ∀ h c k place, Added h c k place → P h.tree → P k.tree) {h k : Hierarchy}
    {commands : List Command} {places : List (Option CommandId)} (hs : h.Sound) (hP : P h.tree)
    (ha : h.addAll commands = .ok (k, places)) : P k.tree := by
  induction commands generalizing h places with
  | nil =>
    cases ha
    exact hP
  | cons c later ih =>
    obtain ⟨m, place, _, hadded, hm, hall, -⟩ := exists_added_of_addAll_cons hs ha
    exact ih hm (step h c m place hadded hP) hall

/-! ### The commands that are placed -/

section
variable {h k : Hierarchy} {commands : List Command} {places : List (Option CommandId)}

/-- The places that are given follow each other. -/
theorem range_append_places (hs : h.Sound) (ha : h.addAll commands = .ok (k, places)) :
    List.range k.tree.size = List.range h.tree.size ++ places.filterMap id := by
  induction commands generalizing h places with
  | nil =>
    cases ha
    exact (List.append_nil _).symm
  | cons c later ih =>
    obtain ⟨m, place, placesLater, hadded, hm, hall, rfl⟩ := exists_added_of_addAll_cons hs ha
    rw [ih hm hall, hadded.range_append, List.append_assoc]
    cases place <;> rfl

theorem Added.placed_cons {c : Command} {place : Option CommandId} (ha : h.Added c k place)
    (hs : h.Sound) (hroot : 0 ∈ k.tree.levels) (later : List Command)
    (places : List (Option CommandId)) :
    placed (c :: later) (place :: places) = c :: placed later places := by
  cases place with
  | none => exact absurd hroot ((ha.place_eq_none_iff hs).mp rfl)
  | some id => rfl

/-- Once there is a root no command is left out. -/
theorem placed_of_rooted (hs : h.Sound) (hroot : 0 ∈ h.tree.levels)
    (ha : h.addAll commands = .ok (k, places)) : placed commands places = commands := by
  induction commands generalizing h places with
  | nil => rfl
  | cons c later ih =>
    obtain ⟨m, place, placesLater, hadded, hm, hall, rfl⟩ := exists_added_of_addAll_cons hs ha
    have hrooted : 0 ∈ m.tree.levels := hadded.rooted.mpr (Or.inl hroot)
    rw [hadded.placed_cons hs hrooted, ih hm hrooted hall]

/-- As long as there is no root every command is left out. -/
theorem placed_of_rootless (hs : h.Sound) (hroot : 0 ∉ h.tree.levels)
    (ha : h.addAll commands = .ok (k, places)) :
    placed commands places = commands.dropWhile (0 < ·.level) := by
  induction commands generalizing h places with
  | nil => rfl
  | cons c later ih =>
    obtain ⟨m, place, placesLater, hadded, hm, hall, rfl⟩ := exists_added_of_addAll_cons hs ha
    rcases Nat.eq_zero_or_pos c.level with hc | hc
    · have hrooted : 0 ∈ m.tree.levels := hadded.rooted.mpr (Or.inr hc)
      rw [hadded.placed_cons hs hrooted, placed_of_rooted hm hrooted hall,
        List.dropWhile_cons_of_neg (by simp [hc])]
    · have hrootless : 0 ∉ m.tree.levels := fun h0 =>
        (hadded.rooted.mp h0).elim hroot (Nat.ne_of_gt hc)
      obtain rfl := (hadded.place_eq_none_iff hs).mpr hrootless
      rw [List.dropWhile_cons_of_pos (by simpa using hc), ← ih hm hrootless hall]
      rfl

end

/-! ### Diagnostics have no influence -/

/-- The hierarchy with diagnostics in front of its own. -/
def after (ds : List Diagnostic) (h : Hierarchy) : Hierarchy :=
  { h with diagnostics := ds ++ h.diagnostics }

theorem add_after (ds : List Diagnostic) (h : Hierarchy) (c : Command) :
    (h.after ds).add c = (h.add c).map fun r => (r.1.after ds, r.2) := by
  by_cases hc : c.level = 0
  · simp [add, hc, after, addRoot, Except.map]
  · cases ha : above c.level h.ancestors with
    | nil => simp [add, hc, after, ha, Except.map]
    | cons a outer =>
      simp only [add, hc, ↓reduceIte, after, ha]
      cases (h.tree.push c).attach a.2 h.tree.nextId <;> rfl

theorem addAll_after (ds : List Diagnostic) (h : Hierarchy) (commands : List Command) :
    (h.after ds).addAll commands = (h.addAll commands).map fun r => (r.1.after ds, r.2) := by
  induction commands generalizing h with
  | nil => rfl
  | cons c later ih =>
    rw [addAll, addAll, add_after]
    cases h.add c with
    | error fault => rfl
    | ok r =>
      simp only [Except.map, ih]
      cases r.1.addAll later <;> rfl

/-- Two hierarchies that differ in their diagnostics alone grow in the same way. -/
theorem addAll_diagnostics {h : Hierarchy} (hs : h.Sound) (ds : List Diagnostic)
    (commands : List Command) : ∃ (k : Hierarchy) (places : List (Option CommandId))
      (new : List Diagnostic),
      h.addAll commands = .ok ({ k with diagnostics := h.diagnostics ++ new }, places) ∧
      ({ h with diagnostics := ds } : Hierarchy).addAll commands =
        .ok ({ k with diagnostics := ds ++ new }, places) := by
  have hs₀ : Sound { h with diagnostics := [] } := ⟨hs.ancestors, hs.rooted⟩
  obtain ⟨k, places, hall, -⟩ := addAll_spec hs₀ commands
  have frame (ds : List Diagnostic) : ({ h with diagnostics := ds } : Hierarchy).addAll commands =
      .ok ({ k with diagnostics := ds ++ k.diagnostics }, places) := by
    have h₀ := addAll_after ds { h with diagnostics := [] } commands
    simp only [after, List.append_nil] at h₀
    rw [h₀, hall]
    rfl
  exact ⟨k, places, k.diagnostics, frame h.diagnostics, frame ds⟩

/-- A command that is left out changes nothing for the commands after it. -/
theorem Added.addAll_of_none {h k : Hierarchy} {c : Command} (hs : h.Sound)
    (ha : h.Added c k none) (later : List Command) : ∃ (l : Hierarchy)
      (places : List (Option CommandId)) (new : List Diagnostic),
      k.addAll later = .ok ({ l with diagnostics := k.diagnostics ++ new }, places) ∧
      h.addAll later = .ok ({ l with diagnostics := h.diagnostics ++ new }, places) := by
  cases ha with
  | orphan =>
    obtain ⟨l, places, new, hold, hnew⟩ :=
      addAll_diagnostics hs (h.diagnostics ++ [Hierarchy.orphan c]) later
    exact ⟨l, places, new, hnew, hold⟩

/-! ### Places -/

/-- After any commands the next one is added without failure. At level zero it has no
parent; at a higher level it is left out if no root has come before, and otherwise its
parent is the nearest command of a lower level, whose last child it becomes. Its parent
stays what it is, and a command that is left out changes no later command's place. -/
theorem add_nearestLower (earlier : List Command) :
    ∃ h places, empty.addAll earlier = .ok (h, places) ∧
      h.tree.commands = placed earlier places ∧
      ∀ c, ∃ k place, h.add c = .ok (k, place) ∧
        (c.level = 0 → place = some h.tree.size ∧ h.tree.Grown k.tree c none) ∧
        (0 < c.level → ((∃ id, place = some id) ↔ ∃ e ∈ earlier, e.level = 0) ∧
          ∀ id, place = some id → id = h.tree.size ∧
            ∃ p, h.tree.NearestLower c.level p ∧ h.tree.Grown k.tree c (some p)) ∧
        (place = none → k.tree = h.tree ∧ k.diagnostics = h.diagnostics ++ [orphan c]) ∧
        ∀ later, ∃ l after, k.addAll later = .ok (l, after) ∧ k.tree.Extends l.tree ∧
          (place = none → ∃ new, l.diagnostics = k.diagnostics ++ new ∧
            h.addAll later = .ok ({ l with diagnostics := h.diagnostics ++ new }, after)) := by
  obtain ⟨h, places, hall, hs, -, hcommands, hroot⟩ := addAll_spec sound_empty earlier
  have hroot' : 0 ∈ h.tree.levels ↔ ∃ e ∈ earlier, e.level = 0 :=
    hroot.trans ⟨fun h => h.resolve_left List.not_mem_nil, Or.inr⟩
  refine ⟨h, places, hall, hcommands, fun c => ?_⟩
  obtain ⟨k, place, hadd, hadded, hk⟩ := add_spec hs c
  have hlater : ∀ later, ∃ l after, k.addAll later = .ok (l, after) ∧ k.tree.Extends l.tree ∧
      (place = none → ∃ new, l.diagnostics = k.diagnostics ++ new ∧
        h.addAll later = .ok ({ l with diagnostics := h.diagnostics ++ new }, after)) := by
    intro later
    obtain ⟨l, after, hl, -, hext, -⟩ := addAll_spec hk later
    refine ⟨l, after, hl, hext, ?_⟩
    rintro rfl
    obtain ⟨m, after', new, hm, hold⟩ := hadded.addAll_of_none hs later
    rw [hl] at hm
    cases hm
    exact ⟨new, rfl, hold⟩
  refine ⟨k, place, hadd, ?_⟩
  cases hadded with
  | root level grown => exact ⟨fun _ => ⟨rfl, grown⟩, fun hpos => by omega, nofun, hlater⟩
  | child level nearest grown =>
    have hrooted : 0 ∈ h.tree.levels := hs.rooted nearest.levels_ne_nil
    refine ⟨fun hzero => by omega, fun _ => ⟨?_, ?_⟩, nofun, hlater⟩
    · exact ⟨fun _ => hroot'.mp hrooted, fun _ => ⟨_, rfl⟩⟩
    · intro id hid
      exact ⟨(Option.some.inj hid).symm, _, nearest, grown⟩
  | orphan level rootless =>
    refine ⟨fun hzero => by omega, fun _ => ⟨?_, nofun⟩, fun _ => ⟨rfl, rfl⟩, hlater⟩
    exact ⟨nofun, fun he => absurd (hroot'.mpr he) rootless⟩

end ScriptedDialog.Hierarchy
