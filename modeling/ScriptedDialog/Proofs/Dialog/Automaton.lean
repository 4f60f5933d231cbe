import ScriptedDialog.Proofs.Command.Order
import ScriptedDialog.Proofs.Dialog.Run

/-! The turn automaton, and dialogs as its runs. The automaton is given by relations: its
candidates are read off the parents and the registered roots, a turn is decided by the
first candidate that accepts, and the reply is resolved in the store that the turn
leaves. Every run of a dialog is a run of the automaton and the automaton has no other,
so the search of a dialog looks at nothing behind the command that answers. -/

namespace ScriptedDialog

/-! ### The automaton -/

namespace Automaton

/-- What is kept from one turn to the next. -/
structure State where
  context : Option CommandId
  store : Store
  generator : Generator

/-- A command accepts an input, with what it captures. -/
inductive Accepts (store : Store) (input : String) : Command → Bindings → Prop where
  | literal {c} (trigger : c.trigger = .literal input) : Accepts store input c []
  | scalar {c name text} (trigger : c.trigger = .reference name)
      (value : store.get? name = some (.scalar text)) : Accepts store input c []
  | item {c name items} (trigger : c.trigger = .reference name)
      (value : store.get? name = some (.list items)) (item : input ∈ items) :
      Accepts store input c []
  | pattern {c text captures} (trigger : c.trigger = .wildcard text)
      (matched : Trigger.wildcardCaptures? text input = some captures) :
      Accepts store input c ((Template.placeholders c.response).zip captures)

/-- The command with an id accepts an input. -/
def AcceptsAt (t : Tree) (store : Store) (input : String) (id : CommandId) (b : Bindings) : Prop :=
  ∃ node, t.get? id = some node ∧ Accepts store input node.toCommand b

/-- The commands that may answer, in the order in which they are tried. -/
def candidates (t : Tree) : Option CommandId → List CommandId
  | none => t.roots
  | some p => t.attached p ++ t.roots

/-- The first of some commands that accepts an input. -/
def First (t : Tree) (store : Store) (input : String) (ids : List CommandId) (id : CommandId)
    (b : Bindings) : Prop :=
  ∃ before after, ids = before ++ id :: after ∧ AcceptsAt t store input id b ∧
    ∀ i ∈ before, ∀ b', ¬ AcceptsAt t store input i b'

/-- The context in which a command leaves the automaton. -/
def contextAfter (t : Tree) (id : CommandId) : Option CommandId :=
  if t.attached id = [] then none else some id

/-- One turn, with its result and what is kept afterwards. -/
inductive Turn (t : Tree) (s : State) (input : String) :
    Except Fault (Option String) → State → Prop where
  | unmatched (h : ∀ id ∈ candidates t s.context, ∀ b, ¬ AcceptsAt t s.store input id b) :
      Turn t s input (.ok none) s
  | failed {id b node f g} (h : First t s.store input (candidates t s.context) id b)
      (hn : t.get? id = some node)
      (hr : Template.resolve node.response (s.store.setAll b.assignments).get? s.generator =
        (.error f, g)) :
      Turn t s input (.error f) { s with generator := g }
  | answered {id b node reply g} (h : First t s.store input (candidates t s.context) id b)
      (hn : t.get? id = some node)
      (hr : Template.resolve node.response (s.store.setAll b.assignments).get? s.generator =
        (.ok reply, g)) :
      Turn t s input (.ok (some reply)) ⟨contextAfter t id, s.store.setAll b.assignments, g⟩

/-- A run through some moves, with the results of its turns. A reset has no result. -/
inductive Run (t : Tree) :
    State → List Dialog.Move → List (Option (Except Fault (Option String))) → State → Prop where
  | nil (s) : Run t s [] [] s
  | say {s s' s'' input r moves rs} (turn : Turn t s input r s') (later : Run t s' moves rs s'') :
      Run t s (.say input :: moves) (some r :: rs) s''
  | reset {s s'' moves rs} (later : Run t { s with context := none } moves rs s'') :
      Run t s (.reset :: moves) (none :: rs) s''

end Automaton

/-! ### Accepting -/

open Automaton

theorem Command.bindings?_eq_some_iff {c : Command} {store : Store} {input : String}
    {b : Bindings} : c.bindings? store input = some b ↔ Accepts store input c b := by
  constructor
  · intro h
    unfold bindings? at h
    split at h
    · next text ht =>
      split at h
      · next he =>
        cases h
        exact .literal (he ▸ ht)
      · cases h
    · next name ht =>
      split at h
      · cases h
      · next hv =>
        cases h
        exact .scalar ht hv
      · next hv =>
        split at h
        · next hi =>
          cases h
          exact .item ht hv hi
        · cases h
    · next text ht =>
      obtain ⟨captures, hc, rfl⟩ := Option.map_eq_some_iff.mp h
      exact .pattern ht hc
  · intro h
    unfold bindings?
    cases h with
    | literal trigger => simp [trigger]
    | scalar trigger value => simp [trigger, value]
    | item trigger value item => simp [trigger, value, item]
    | pattern trigger matched => simp [trigger, matched]

namespace Dialog

variable {d : Dialog} {input : String}

/-- A command that accepts, as the search gives it. -/
def accepted? (d : Dialog) (input : String) (id : CommandId) : Option (CommandId × Bindings) :=
  ((d.tree.get? id).bind (·.bindings? d.store input)).map (id, ·)

theorem firstMatch?_eq_findSome? (d : Dialog) (input : String) (ids : List CommandId) :
    d.firstMatch? input ids = ids.findSome? (d.accepted? input) := by
  induction ids with
  | nil => rfl
  | cons id ids ih =>
    rw [firstMatch?, List.findSome?_cons, accepted?, ih]
    cases (d.tree.get? id).bind (·.bindings? d.store input) <;> rfl

theorem accepted?_eq_some_iff {i id : CommandId} {b : Bindings} :
    d.accepted? input i = some (id, b) ↔ i = id ∧ AcceptsAt d.tree d.store input id b := by
  simp only [accepted?, AcceptsAt, Option.map_eq_some_iff, Option.bind_eq_some_iff,
    Command.bindings?_eq_some_iff, Prod.mk.injEq]
  constructor
  · rintro ⟨b', h, rfl, rfl⟩
    exact ⟨rfl, h⟩
  · rintro ⟨rfl, h⟩
    exact ⟨b, h, rfl, rfl⟩

theorem accepted?_eq_none_iff {i : CommandId} :
    d.accepted? input i = none ↔ ∀ b, ¬ AcceptsAt d.tree d.store input i b := by
  rw [Option.eq_none_iff_forall_ne_some]
  constructor
  · intro h b hb
    exact h (i, b) (accepted?_eq_some_iff.mpr ⟨rfl, hb⟩)
  · rintro h ⟨id, b⟩ hb
    obtain ⟨rfl, hb⟩ := accepted?_eq_some_iff.mp hb
    exact h b hb

theorem firstMatch?_eq_some_iff {ids : List CommandId} {id : CommandId} {b : Bindings} :
    d.firstMatch? input ids = some (id, b) ↔ First d.tree d.store input ids id b := by
  rw [firstMatch?_eq_findSome?, List.findSome?_eq_some_iff]
  simp only [First, accepted?_eq_some_iff, accepted?_eq_none_iff]
  constructor
  · rintro ⟨before, i, after, rfl, ⟨rfl, hi⟩, hbefore⟩
    exact ⟨before, after, rfl, hi, hbefore⟩
  · rintro ⟨before, after, rfl, hi, hbefore⟩
    exact ⟨before, id, after, rfl, ⟨rfl, hi⟩, hbefore⟩

theorem firstMatch?_eq_none_iff {ids : List CommandId} :
    d.firstMatch? input ids = none ↔
      ∀ id ∈ ids, ∀ b, ¬ AcceptsAt d.tree d.store input id b := by
  rw [firstMatch?_eq_findSome?, List.findSome?_eq_none_iff]
  simp only [accepted?_eq_none_iff]

/-! ### Candidates -/

/-- The commands that a turn tries, in order. -/
def candidates (d : Dialog) : List CommandId := d.contextual ++ d.tree.roots

theorem answer?_eq_firstMatch? (d : Dialog) (input : String) :
    d.answer? input = d.firstMatch? input d.candidates := by
  simp only [answer?, candidates, firstMatch?_eq_findSome?, List.findSome?_append]

theorem candidates_eq (h : d.tree.Ordered) :
    d.candidates = Automaton.candidates d.tree d.context := by
  unfold candidates contextual
  cases d.context with
  | none => rfl
  | some p => exact congrArg (· ++ d.tree.roots) (h p)

theorem contextAfter_eq (h : d.tree.Ordered) {id : CommandId} {node : Node}
    (hn : d.tree.get? id = some node) :
    contextAfter d.tree id = if node.children.isEmpty then none else some id := by
  have hchildren : node.children = d.tree.attached id := by
    rw [← h id, Tree.children, hn]
    rfl
  simp only [contextAfter, hchildren, List.isEmpty_iff]

/-! ### Turns and runs -/

/-- What a dialog keeps from one turn to the next. -/
def state (d : Dialog) : State := ⟨d.context, d.store, d.generator⟩

/-- A turn of a dialog is the one turn that the automaton can make. -/
theorem automaton_turn_iff (h : d.tree.Ordered) {r : Except Fault (Option String)} {s : State} :
    Automaton.Turn d.tree d.state input r s ↔
      r = (d.turn input).1 ∧ s = (d.turn input).2.state := by
  have hfirst {id b} : First d.tree d.store input (Automaton.candidates d.tree d.context) id b ↔
      d.answer? input = some (id, b) := by
    rw [answer?_eq_firstMatch?, candidates_eq h, firstMatch?_eq_some_iff]
  have hnone : (∀ id ∈ Automaton.candidates d.tree d.context,
      ∀ b, ¬ AcceptsAt d.tree d.store input id b) ↔ d.answer? input = none := by
    rw [answer?_eq_firstMatch?, candidates_eq h, firstMatch?_eq_none_iff]
  constructor
  · intro ht
    cases ht with
    | unmatched ha =>
      rw [turn_unmatched (hnone.mp ha)]
      exact ⟨rfl, rfl⟩
    | @failed id b node f g ha hn hr =>
      rw [Store.get?_setAll] at hr
      simp only [state] at hr
      have hturn : d.turn input = (.error f, { d with generator := g }) := by
        simp only [turn, hfirst.mp ha, hn, hr]
      rw [hturn]
      exact ⟨rfl, rfl⟩
    | @answered id b node reply g ha hn hr =>
      rw [Store.get?_setAll] at hr
      simp only [state] at hr
      have hturn : d.turn input = (.ok (some reply), d.advance id node b g) := by
        simp only [turn, hfirst.mp ha, hn, hr]
      rw [hturn, contextAfter_eq h hn]
      exact ⟨rfl, rfl⟩
  · rintro ⟨rfl, rfl⟩
    have ht := d.turn_spec input
    generalize d.turn input = t at ht ⊢
    cases ht with
    | unmatched ha => exact .unmatched (hnone.mpr ha)
    | failed ha hn hr =>
      rw [← Store.get?_setAll] at hr
      exact .failed (hfirst.mpr ha) hn hr
    | answered ha hn hr =>
      rw [← Store.get?_setAll] at hr
      have hturn := Automaton.Turn.answered (s := d.state) (hfirst.mpr ha) hn hr
      rw [contextAfter_eq h hn] at hturn
      exact hturn

/-- The results of the turns of a run. -/
def results (d : Dialog) (moves : List Move) : List (Option (Except Fault (Option String))) :=
  (d.steps moves).map Step.result?

theorem automaton_run_iff (h : d.tree.Ordered) {moves : List Move}
    {rs : List (Option (Except Fault (Option String)))} {s : State} :
    Run d.tree d.state moves rs s ↔
      rs = d.results moves ∧ s = (d.afterAll moves).state := by
  induction moves generalizing d rs with
  | nil =>
    constructor
    · rintro ⟨⟩
      exact ⟨rfl, rfl⟩
    · rintro ⟨rfl, rfl⟩
      exact .nil _
  | cons m moves ih =>
    have hafter : (d.after m).tree.Ordered := (d.tree_after m).symm ▸ h
    have ih' (rs) := @ih (d.after m) hafter rs
    rw [tree_after] at ih'
    cases m with
    | reset =>
      constructor
      · rintro (_ | _ | later)
        obtain ⟨rfl, rfl⟩ := (ih' _).mp later
        exact ⟨rfl, rfl⟩
      · rintro ⟨rfl, rfl⟩
        exact .reset ((ih' _).mpr ⟨rfl, rfl⟩)
    | say input =>
      constructor
      · rintro (_ | ⟨turn, later⟩)
        obtain ⟨rfl, rfl⟩ := (automaton_turn_iff h).mp turn
        obtain ⟨rfl, rfl⟩ := (ih' _).mp later
        exact ⟨rfl, rfl⟩
      · rintro ⟨rfl, rfl⟩
        exact .say ((automaton_turn_iff h).mpr ⟨rfl, rfl⟩) ((ih' _).mpr ⟨rfl, rfl⟩)

/-! ### What a turn does not look at -/

/-- The same dialog on another tree. -/
def onTree (d : Dialog) (t : Tree) : Dialog := { d with tree := t }

/-- On another tree the dialog tries the same commands, up to one that accepts or, if none
does, to the end. -/
structure SameFront (d : Dialog) (input : String) (t : Tree) (tried : List CommandId) : Prop where
  front : tried <+: d.candidates
  front_onTree : tried <+: (d.onTree t).candidates
  nodes : ∀ i ∈ tried, t.get? i = d.tree.get? i
  decided : (∃ i ∈ tried, ∃ b, AcceptsAt d.tree d.store input i b) ∨
    (tried = d.candidates ∧ tried = (d.onTree t).candidates)

/-- A tree has the same front if it has the same roots and, of the context and of all
candidates, the same nodes. -/
theorem sameFront_of_candidates {t : Tree} (hroots : t.roots = d.tree.roots)
    (hcontext : ∀ p, d.context = some p → t.get? p = d.tree.get? p)
    (hnodes : ∀ i ∈ d.candidates, t.get? i = d.tree.get? i) : d.SameFront input t d.candidates := by
  have hcontextual : (d.onTree t).contextual = d.contextual := by
    unfold contextual onTree
    cases hc : d.context with
    | none => rfl
    | some p =>
      have hchildren : t.children p = d.tree.children p := by
        rw [Tree.children, Tree.children, hcontext p hc]
      simp only [Option.map_some, Option.getD_some, hchildren]
  have hcandidates : (d.onTree t).candidates = d.candidates := by
    rw [candidates, hcontextual, onTree, hroots]
    rfl
  exact ⟨List.prefix_rfl, hcandidates ▸ List.prefix_rfl, hnodes, Or.inr ⟨rfl, hcandidates.symm⟩⟩

theorem firstMatch?_onTree {t : Tree} {ids : List CommandId}
    (h : ∀ i ∈ ids, t.get? i = d.tree.get? i) :
    (d.onTree t).firstMatch? input ids = d.firstMatch? input ids := by
  induction ids with
  | nil => rfl
  | cons id ids ih =>
    obtain ⟨hid, hids⟩ := List.forall_mem_cons.mp h
    rw [firstMatch?, firstMatch?, ih hids]
    simp only [onTree, hid]

/-- A search is over with the first commands if one of them accepts or if there are no
others. -/
theorem firstMatch?_of_isPrefix {tried ids : List CommandId} (h : tried <+: ids)
    (hd : (∃ i ∈ tried, ∃ b, AcceptsAt d.tree d.store input i b) ∨ tried = ids) :
    d.firstMatch? input ids = d.firstMatch? input tried := by
  rcases hd with ⟨i, hi, b, hb⟩ | rfl
  · obtain ⟨later, rfl⟩ := h
    have hsome : d.firstMatch? input tried ≠ none :=
      fun hnone => firstMatch?_eq_none_iff.mp hnone i hi b hb
    obtain ⟨answer, ha⟩ := Option.ne_none_iff_exists'.mp hsome
    rw [firstMatch?_eq_findSome?] at ha ⊢
    rw [List.findSome?_append, ha, firstMatch?_eq_findSome?, ha]
    rfl
  · rfl

/-- A turn is the same on every tree with the same commands up to the one that answers. -/
theorem SameFront.turn_eq {t : Tree} {tried : List CommandId} (h : d.SameFront input t tried) :
    (d.onTree t).turn input = ((d.turn input).1, (d.turn input).2.onTree t) := by
  have hd : d.answer? input = d.firstMatch? input tried := by
    rw [answer?_eq_firstMatch?]
    exact firstMatch?_of_isPrefix h.front (h.decided.imp_right And.left)
  have hsame : (d.onTree t).firstMatch? input tried = d.firstMatch? input tried :=
    firstMatch?_onTree h.nodes
  have ht : (d.onTree t).answer? input = d.firstMatch? input tried := by
    rw [answer?_eq_firstMatch?, ← hsame]
    refine firstMatch?_of_isPrefix h.front_onTree (h.decided.imp ?_ And.right)
    rintro ⟨i, hi, b, node, hn, hb⟩
    exact ⟨i, hi, b, node, (h.nodes i hi).trans hn, hb⟩
  cases hf : d.firstMatch? input tried with
  | none => rw [turn_unmatched (hd.trans hf), turn_unmatched (ht.trans hf)]
  | some answer =>
    obtain ⟨id, b⟩ := answer
    obtain ⟨hid, node, hn, -⟩ := firstMatch?_eq_some hf
    have hn' : t.get? id = some node := (h.nodes id hid).trans hn
    unfold turn
    rw [ht, hd, hf]
    simp only [onTree, hn, hn']
    cases Template.resolve node.response (d.store.view b.assignments) d.generator with
    | mk r g => cases r <;> rfl

/-- A dialog made from a source runs as the turn automaton does and in no other way. In
none of its turns does it matter what comes behind the command that answers, nor what is
in the tree that is neither the context nor a candidate. -/
theorem ofSource_automaton (source : String) (g : Generator) (moves : List Move) :
    let script := Compiled.ofSource source
    let d := (ofSource source g).afterAll moves
    (∀ rs s, Run script.tree ⟨none, script.store, g⟩ moves rs s ↔
      rs = (ofSource source g).results moves ∧ s = d.state) ∧
    (∀ input t tried, d.SameFront input t tried →
      (d.onTree t).turn input = ((d.turn input).1, (d.turn input).2.onTree t)) ∧
    ∀ input t, t.roots = d.tree.roots → (∀ p, d.context = some p → t.get? p = d.tree.get? p) →
      (∀ i ∈ d.candidates, t.get? i = d.tree.get? i) →
      (d.onTree t).turn input = ((d.turn input).1, (d.turn input).2.onTree t) := by
  intro script d
  refine ⟨fun rs s => ?_, fun input t tried h => h.turn_eq,
    fun input t hr hc hn => (sameFront_of_candidates hr hc hn).turn_eq⟩
  exact automaton_run_iff (d := ofSource source g) (Compiled.ordered_ofSource source)

end Dialog

end ScriptedDialog
