import ScriptedDialog.Proofs.Command.Links

/-! Trees by their histories. Whatever is done to a tree, in any order and with any ids and
keys, it holds what a log of it tells: the commands that have been added, the children that
have been put under each, the parent that was given last, and for each key the id that was
entered last, the keys in the order in which they came up. -/

namespace ScriptedDialog.Tree

/-! ### Operations -/

/-- What can be done to a tree. -/
inductive Operation where
  | push (c : Command)
  | insertRoot (key : String) (id : CommandId)
  | attach (parent child : CommandId)

/-- What an operation answers: the place of a new command, the id that a key had before, or
whether a child has been put under its parent. -/
inductive Answer where
  | pushed (id : CommandId)
  | replaced (previous : Option CommandId)
  | attached
  | refused (fault : Fault)

/-- Does one thing to a tree. What is refused leaves the tree as it is. -/
def perform (t : Tree) : Operation → Answer × Tree
  | .push c => (.pushed t.nextId, t.push c)
  | .insertRoot key id => (.replaced (t.root? key), t.insertRoot key id)
  | .attach parent child =>
    match t.attach parent child with
    | .ok u => (.attached, u)
    | .error fault => (.refused fault, t)

def performAll (t : Tree) (ops : List Operation) : Tree :=
  ops.foldl (fun t op => (t.perform op).2) t

/-! ### The log -/

/-- What has been done: the commands that have been added, the links of a parent to a child, and
the keys that have been entered with their ids, each in the order in which it was done. -/
structure Log where
  pushed : List Command
  links : List (CommandId × CommandId)
  entered : List (String × CommandId)

namespace Log

def linked (l : Log) (parent child : CommandId) : Log :=
  { l with links := l.links ++ [(parent, child)] }

/-- Notes one thing down. A link needs two commands that have been added before. -/
def note (l : Log) : Operation → Log
  | .push c => { l with pushed := l.pushed ++ [c] }
  | .insertRoot key id => { l with entered := l.entered ++ [(key, id)] }
  | .attach parent child =>
    if parent < l.pushed.length ∧ child < l.pushed.length then l.linked parent child else l

def ofOperations (ops : List Operation) : Log := ops.foldl note ⟨[], [], []⟩

/-- The last value that pairs give a key. -/
def latest {κ β : Type} [DecidableEq κ] (pairs : List (κ × β)) (key : κ) : Option β :=
  ((pairs.filter (·.1 = key)).getLast?).map (·.2)

/-- The children that have been put under a command, as often as they have been. -/
def children (l : Log) (p : CommandId) : List CommandId := (l.links.filter (·.1 = p)).map (·.2)

/-- The parent under which a command has been put last. -/
def parent? (l : Log) (i : CommandId) : Option CommandId := latest (l.links.map Prod.swap) i

/-- A command that has been added, with its links. -/
def node? (l : Log) (i : CommandId) : Option Node :=
  l.pushed[i]?.map fun c => ⟨c, l.children i, l.parent? i⟩

/-- The id that has been entered last under a key. -/
def root? (l : Log) (key : String) : Option CommandId := latest l.entered key

/-- The keys that have been entered, each once and in the order in which they came up. -/
def keys (l : Log) : List String := (l.entered.map (·.1)).eraseDups

theorem latest_concat {κ β : Type} [DecidableEq κ] (pairs : List (κ × β)) (k : κ) (v : β)
    (key : κ) : latest (pairs ++ [(k, v)]) key = if k = key then some v else latest pairs key := by
  rw [latest, List.filter_append]
  by_cases hk : k = key <;> simp [latest, hk]

/-! ### Links -/

section
variable {l : Log} {p i : CommandId}

theorem note_attach (h : p < l.pushed.length ∧ i < l.pushed.length) :
    l.note (.attach p i) = l.linked p i := if_pos h

theorem note_refused (h : ¬ (p < l.pushed.length ∧ i < l.pushed.length)) :
    l.note (.attach p i) = l := if_neg h

end

theorem children_linked (l : Log) (p i j : CommandId) :
    (l.linked p i).children j = l.children j ++ if p = j then [i] else [] := by
  rw [children, linked, List.filter_append, List.map_append]
  by_cases hp : p = j <;> simp [children, hp]

theorem parent?_linked (l : Log) (p i j : CommandId) :
    (l.linked p i).parent? j = if i = j then some p else l.parent? j := by
  rw [parent?, linked, List.map_append]
  exact latest_concat _ i p j

/-- Only commands that have been added are linked. -/
def Closed (l : Log) : Prop :=
  ∀ p i : Nat, (p, i) ∈ l.links → p < l.pushed.length ∧ i < l.pushed.length

theorem Closed.note {l : Log} (h : l.Closed) (op : Operation) : (l.note op).Closed := by
  cases op with
  | push c =>
    intro p i hm
    have hlt := h p i hm
    simp only [Log.note, List.length_append, List.length_singleton]
    omega
  | insertRoot => exact h
  | attach parent child =>
    by_cases hids : parent < l.pushed.length ∧ child < l.pushed.length
    · rw [note_attach hids]
      intro p i hm
      rcases List.mem_append.mp hm with hm | hm
      · exact h p i hm
      · cases List.mem_singleton.mp hm
        exact hids
    · rw [note_refused hids]
      exact h

section
variable {l : Log} (h : l.Closed) {i : Nat} (hi : l.pushed.length ≤ i)
include h hi

/-- A command that has not been added has no part in any link. -/
theorem Closed.children_eq_nil : l.children i = [] := by
  rw [children, List.map_eq_nil_iff, List.filter_eq_nil_iff]
  rintro ⟨p, j⟩ hm hp
  obtain rfl : p = i := of_decide_eq_true hp
  exact Nat.not_lt_of_le hi (h p j hm).1

theorem Closed.parent?_eq_none : l.parent? i = none := by
  rw [parent?, latest, Option.map_eq_none_iff, List.getLast?_eq_none_iff, List.filter_eq_nil_iff]
  rintro ⟨j, p⟩ hswapped hj
  obtain rfl : j = i := of_decide_eq_true hj
  obtain ⟨⟨p', j'⟩, hm, hswap⟩ := List.mem_map.mp hswapped
  cases hswap
  exact Nat.not_lt_of_le hi (h _ _ hm).2

end

end Log

/-! ### Trees and their logs -/

/-- The tree holds what the log tells. -/
structure Records (t : Tree) (l : Log) : Prop where
  closed : l.Closed
  nodup : (t.rootEntries.map (·.1)).Nodup
  get?_eq : ∀ i, t.get? i = l.node? i
  keys_eq : t.rootEntries.map (·.1) = l.keys
  root?_eq : ∀ key, t.root? key = l.root? key

theorem records_empty : Records empty (.ofOperations []) where
  closed := nofun
  nodup := .nil
  get?_eq _ := rfl
  keys_eq := rfl
  root?_eq _ := rfl

theorem rootIn_enter (key : String) (id : CommandId) (entries : List (String × CommandId))
    (other : String) : rootIn other (enter key id entries) =
      if key = other then some id else rootIn other entries := by
  induction entries with
  | nil => rfl
  | cons e rest ih =>
    obtain ⟨k, i⟩ := e
    rw [enter]
    by_cases hk : k = key
    · subst hk
      by_cases ho : k = other <;> simp [rootIn, ho]
    · rw [if_neg hk, rootIn, ih, rootIn]
      by_cases ho : k = other
      · rw [if_pos ho, if_neg fun h => hk (ho.trans h.symm), if_pos ho]
      · rw [if_neg ho, if_neg ho]

theorem rootIn_of_mem {entries : List (String × CommandId)} (h : (entries.map (·.1)).Nodup)
    {e : String × CommandId} (he : e ∈ entries) : rootIn e.1 entries = some e.2 := by
  induction entries with
  | nil => cases he
  | cons first rest ih =>
    obtain ⟨hfirst, hrest⟩ := List.nodup_cons.mp h
    rcases List.mem_cons.mp he with rfl | he
    · rw [rootIn, if_pos rfl]
    · have hne : first.1 ≠ e.1 := fun hk => hfirst (List.mem_map.mpr ⟨e, he, hk.symm⟩)
      rw [rootIn, if_neg hne, ih hrest he]

namespace Records

variable {t : Tree} {l : Log} (h : Records t l)
include h

theorem size_eq : t.size = l.pushed.length := by
  have hat (i : Nat) : t.size ≤ i ↔ l.pushed.length ≤ i := by
    have hi := h.get?_eq i
    rw [← List.getElem?_eq_none_iff, ← Option.map_eq_none_iff, ← Log.node?, ← hi]
    exact Array.getElem?_eq_none_iff.symm
  exact Nat.le_antisymm ((hat _).mpr (Nat.le_refl _)) ((hat _).mp (Nat.le_refl _))

theorem children_eq (p : CommandId) : t.children p = l.children p := by
  rw [children, h.get?_eq, Log.node?]
  cases hp : l.pushed[p]? with
  | none =>
    rw [h.closed.children_eq_nil (List.getElem?_eq_none_iff.mp hp)]
    rfl
  | some c => rfl

theorem push (c : Command) : Records (t.push c) (l.note (.push c)) where
  closed := h.closed.note _
  nodup := h.nodup
  get?_eq i := by
    have hget : (t.push c).get? i = if i = t.size then some c.node else t.get? i :=
      Array.getElem?_push
    have hnode : (l.note (.push c)).node? i =
      (l.pushed ++ [c])[i]?.map fun c => ⟨c, l.children i, l.parent? i⟩ := rfl
    rw [hget, hnode, h.size_eq, h.get?_eq, Log.node?]
    rcases Nat.lt_trichotomy i l.pushed.length with hi | rfl | hi
    · rw [if_neg (Nat.ne_of_lt hi), List.getElem?_append_left hi]
    · rw [if_pos rfl, List.getElem?_concat_length, h.closed.children_eq_nil (Nat.le_refl _),
        h.closed.parent?_eq_none (Nat.le_refl _)]
      rfl
    · rw [if_neg (Nat.ne_of_gt hi), List.getElem?_eq_none (Nat.le_of_lt hi),
        List.getElem?_eq_none (by rw [List.length_append, List.length_singleton]; omega)]
  keys_eq := h.keys_eq
  root?_eq := h.root?_eq

theorem insertRoot (key : String) (id : CommandId) :
    Records (t.insertRoot key id) (l.note (.insertRoot key id)) where
  closed := h.closed.note _
  nodup := nodup_keys_enter h.nodup key id
  get?_eq := h.get?_eq
  keys_eq := by
    show (enter key id t.rootEntries).map (·.1) = ((l.entered ++ [(key, id)]).map (·.1)).eraseDups
    rw [List.map_append]
    exact keys_enter_eraseDups h.keys_eq key id
  root?_eq other := by
    show rootIn other (enter key id t.rootEntries) = Log.latest (l.entered ++ [(key, id)]) other
    rw [rootIn_enter, Log.latest_concat]
    split
    · rfl
    · exact h.root?_eq other

/-- Both ends of a link change, and they may be one command. -/
theorem link {p i : CommandId} (hids : p < l.pushed.length ∧ i < l.pushed.length) :
    Records (t.link p i) (l.note (.attach p i)) := by
  have hclosed := h.closed.note (.attach p i)
  rw [Log.note_attach hids] at hclosed ⊢
  refine ⟨hclosed, h.nodup, fun j => ?_, h.keys_eq, h.root?_eq⟩
  have hget : (t.link p i).get? j = (t.get? j).map fun node =>
      { node with
        children := node.children ++ if p = j then [i] else []
        parent := if i = j then some p else node.parent } := by
    simp only [get?, Tree.link, Array.getElem?_modify]
    by_cases hp : p = j <;> by_cases hi : i = j <;> cases t.nodes[j]? <;> simp [hp, hi]
  rw [hget, h.get?_eq, Log.node?, Log.node?, Log.children_linked, Log.parent?_linked,
    Option.map_map]
  rfl

/-- A child is put under its parent if both are there, and else nothing is done. -/
theorem attach_cases (p i : CommandId) :
    (p < l.pushed.length ∧ i < l.pushed.length ∧ t.attach p i = .ok (t.link p i)) ∨
      ¬ (p < l.pushed.length ∧ i < l.pushed.length) ∧
        t.attach p i = .error (.attachMissing p i) := by
  rw [← h.size_eq]
  by_cases hids : p < t.size ∧ i < t.size
  · exact Or.inl ⟨hids.1, hids.2, attach_of_lt hids.1 hids.2⟩
  · exact Or.inr ⟨hids, if_neg hids⟩

theorem perform (op : Operation) : Records (t.perform op).2 (l.note op) := by
  cases op with
  | push c => exact h.push c
  | insertRoot key id => exact h.insertRoot key id
  | attach p i =>
    rcases h.attach_cases p i with ⟨hp, hi, hok⟩ | ⟨hids, herror⟩
    · rw [Tree.perform, hok]
      exact h.link ⟨hp, hi⟩
    · rw [Tree.perform, herror, Log.note_refused hids]
      exact h

theorem performAll (ops : List Operation) :
    Records (t.performAll ops) (ops.foldl Log.note l) := by
  induction ops generalizing t l with
  | nil => exact h
  | cons op ops ih => exact ih (h.perform op)

omit h in
/-- Every tree that comes from the empty one records what has been done to it. -/
theorem ofOperations (ops : List Operation) :
    Records (empty.performAll ops) (.ofOperations ops) := records_empty.performAll ops

/-- There is one root for each key, in the order of the keys. -/
theorem roots_eq : t.roots.map some = l.keys.map l.root? := by
  rw [← h.keys_eq, roots, List.map_map, List.map_map]
  refine List.map_congr_left fun e he => ?_
  rw [Function.comp_apply, Function.comp_apply, ← h.root?_eq]
  exact (rootIn_of_mem h.nodup he).symm

end Records

/-- A tree on which any operations have been performed is what the log of them tells: its
commands are those that were added, each with all children that were put under it and with the
parent under which it was put last, and it has one root for each key, in the order in which the
keys came up, which is the id that was entered last. The next operation answers with the place of
the new command, with the id that the key had, or with a refusal that changes nothing, and this
exactly if one of the two commands has not been added. -/
theorem performAll_history (ops : List Operation) :
    let t := empty.performAll ops
    let l := Log.ofOperations ops
    (∀ i, t.get? i = l.pushed[i]?.map fun c => ⟨c, l.children i, l.parent? i⟩) ∧
    (∀ p, t.children p = l.children p) ∧
    (t.rootEntries.map (·.1) = l.keys ∧ t.roots.map some = l.keys.map l.root?) ∧
    (∀ key, t.root? key = l.root? key) ∧
    (∀ c, (t.perform (.push c)).1 = .pushed l.pushed.length) ∧
    (∀ key id, (t.perform (.insertRoot key id)).1 = .replaced (l.root? key)) ∧
    (∀ p i, (t.perform (.attach p i)).1 = .attached ↔
      p < l.pushed.length ∧ i < l.pushed.length) ∧
    ∀ p i, (∃ fault, t.perform (.attach p i) = (.refused fault, t) ∧
      fault.code = "TREE_NODE_MISSING") ↔ l.pushed.length ≤ p ∨ l.pushed.length ≤ i := by
  intro t l
  have h : Records t l := .ofOperations ops
  refine ⟨h.get?_eq, h.children_eq, ⟨h.keys_eq, h.roots_eq⟩, h.root?_eq, fun c => ?_,
    fun key id => ?_, fun p i => ?_, fun p i => ?_⟩
  · exact congrArg Answer.pushed h.size_eq
  · exact congrArg Answer.replaced (h.root?_eq key)
  · rcases h.attach_cases p i with ⟨hp, hi, hok⟩ | ⟨hids, herror⟩
    · rw [perform, hok]
      exact iff_of_true rfl ⟨hp, hi⟩
    · rw [perform, herror]
      exact iff_of_false nofun hids
  · rcases h.attach_cases p i with ⟨hp, hi, hok⟩ | ⟨hids, herror⟩
    · rw [perform, hok]
      refine iff_of_false ?_ ?_
      · rintro ⟨fault, hrefused, -⟩
        cases hrefused
      · rintro (hle | hle)
        · exact Nat.not_lt_of_le hle hp
        · exact Nat.not_lt_of_le hle hi
    · rw [perform, herror]
      refine iff_of_true ⟨_, rfl, rfl⟩ ?_
      rcases Nat.lt_or_ge p l.pushed.length with hp | hp
      · exact Or.inr (Nat.le_of_not_lt fun hi => hids ⟨hp, hi⟩)
      · exact Or.inl hp

end ScriptedDialog.Tree
