import ScriptedDialog.Proofs.Dialog.Commit
import ScriptedDialog.Proofs.Template.Resolution
import ScriptedDialog.Proofs.Trigger.Splitting

/-! Placeholders of the response to a pattern. The scan that pairs captures with names finds
the same names as the reading that is resolved, so a capture goes into the place for which it
was taken. With as many captures as placeholders none is left without a text, and each gets
what was captured last for its name. -/

namespace ScriptedDialog

open Template

/-! ### Pairs of names and captures -/

/-- A value is what was captured last for a name. -/
def CapturedLast (names captures : List String) (name value : String) : Prop :=
  ∃ i : Nat, names[i]? = some name ∧ captures[i]? = some value ∧
    ∀ k, i < k → names[k]? ≠ some name

theorem capturedLast_cons {name value n c : String} {names captures : List String}
    (h : CapturedLast names captures name value) :
    CapturedLast (n :: names) (c :: captures) name value := by
  obtain ⟨i, hname, hvalue, hlast⟩ := h
  refine ⟨i + 1, hname, hvalue, fun k hk => ?_⟩
  cases k with
  | zero => cases hk
  | succ k => exact hlast k (Nat.lt_of_succ_lt_succ hk)

/-- With a capture for each name, every name has one that is its last. -/
theorem exists_capturedLast {names captures : List String} {name : String} (h : name ∈ names)
    (hlen : names.length ≤ captures.length) : ∃ value, CapturedLast names captures name value := by
  induction names generalizing captures with
  | nil => cases h
  | cons n names ih =>
    cases captures with
    | nil => cases hlen
    | cons c captures =>
      by_cases hlater : name ∈ names
      · obtain ⟨value, hvalue⟩ := ih hlater (Nat.le_of_succ_le_succ hlen)
        exact ⟨value, capturedLast_cons hvalue⟩
      · obtain rfl : name = n := (List.mem_cons.mp h).resolve_right hlater
        refine ⟨c, 0, rfl, rfl, fun k hk hname => ?_⟩
        cases k with
        | zero => cases hk
        | succ k => exact hlater (List.mem_of_getElem? hname)

theorem find?_of_not_mem {names captures : List String} {name : String} (h : name ∉ names) :
    Store.find? name (Bindings.assignments (names.zip captures)).reverse = none := by
  refine Store.find?_eq_none fun value hm => h ?_
  obtain ⟨⟨_, text⟩, hb, he⟩ := List.mem_map.mp (List.mem_reverse.mp hm)
  obtain ⟨rfl, -⟩ := Prod.mk.inj he
  exact (List.of_mem_zip hb).1

/-- Looking a name up among pairs that are assigned gives what was captured last for it. -/
theorem find?_of_capturedLast {names captures : List String} {name value : String}
    (h : CapturedLast names captures name value) :
    Store.find? name (Bindings.assignments (names.zip captures)).reverse =
      some (.scalar value) := by
  obtain ⟨i, hname, hvalue, hlast⟩ := h
  induction names generalizing captures i with
  | nil => cases hname
  | cons n names ih =>
    cases captures with
    | nil => cases hvalue
    | cons c captures =>
      have hcons : Bindings.assignments ((n :: names).zip (c :: captures)) =
          (n, .scalar c) :: Bindings.assignments (names.zip captures) := rfl
      rw [hcons, List.reverse_cons, Store.find?_append]
      cases i with
      | zero =>
        cases hname
        cases hvalue
        have hnot : name ∉ names := fun hmem => by
          obtain ⟨k, hk⟩ := List.mem_iff_getElem?.mp hmem
          exact hlast (k + 1) (Nat.succ_pos k) hk
        rw [find?_of_not_mem hnot, Option.none_or, Store.find?, if_pos rfl]
      | succ i =>
        rw [ih i hname hvalue fun k hk => hlast (k + 1) (Nat.succ_lt_succ hk)]
        rfl

theorem eq_take_of_capturedLast {names captures values : List String}
    (h : List.Forall₂ (CapturedLast names captures) names values) (hnodup : names.Nodup) :
    values = captures.take names.length := by
  have hlen := h.length_eq
  apply List.ext_getElem?
  intro i
  rcases Nat.lt_or_ge i names.length with hi | hi
  · obtain ⟨j, hname, hvalue, -⟩ := h.get hi (hlen ▸ hi)
    have hj : i = j :=
      (List.getElem?_inj hi hnodup).mp ((List.getElem?_eq_getElem hi).trans hname.symm)
    rw [List.getElem?_take_of_lt hi, hj, hvalue, ← hj, List.getElem?_eq_getElem (hlen ▸ hi)]
    rfl
  · rw [List.getElem?_eq_none (hlen ▸ hi), List.getElem?_eq_none]
    exact (List.length_take_le ..).trans hi

/-! ### The values of a reading -/

namespace Template

/-- The values in the places of the references with one of the two signs. -/
def Layout.valuesAfter (l : Layout) (sigil : Sigil) (values : List (List Char)) : List String :=
  ((l.references.zip values).filter (·.1.sigil = sigil)).map fun r => String.ofList r.2

theorem FillsAll.length_eq {lookup : Lookup} {rs : List Reference} {g g' : Generator}
    {values : List (List Char)} (h : FillsAll lookup rs g values g') :
    values.length = rs.length := by
  induction h with
  | nil => rfl
  | cons _ _ ih => exact congrArg (· + 1) ih

/-- The names behind dollar signs are scalars wherever a text is filled in, and those scalars
are filled in for them. -/
theorem FillsAll.scalars {lookup : Lookup} {rs : List Reference} {g g' : Generator}
    {values : List (List Char)} (h : FillsAll lookup rs g values g') :
    List.Forall₂ (fun name value => lookup name = some (.scalar value))
      ((rs.filter (·.sigil = .dollar)).map fun r => String.ofList r.name)
      (((rs.zip values).filter (·.1.sigil = .dollar)).map fun r => String.ofList r.2) := by
  induction h with
  | nil => exact .nil
  | cons first later ih =>
    cases first with
    | @scalar sigil name text g value =>
      cases sigil with
      | tilde => exact ih
      | dollar =>
        refine .cons ?_ ih
        show lookup (String.ofList name) = some (.scalar (String.ofList text.toList))
        rw [value, String.ofList_toList]
    | item value picked => exact ih
    | standing value => exact ih

end Template

/-! ### Commands with a pattern -/

/-- A pattern that matches captures a word for each of its holes. -/
theorem Trigger.length_wildcardCaptures? {text input : String} {captures : List String}
    (h : wildcardCaptures? text input = some captures) :
    captures.length = (Text.words text.toList).count hole := by
  obtain ⟨runs, hruns, rfl⟩ := Option.map_eq_some_iff.mp h
  rw [List.length_map]
  cases hws : Text.words text.toList with
  | nil =>
    rw [hws] at hruns
    cases hruns
    rfl
  | cons word later =>
    rw [hws] at hruns
    obtain ⟨values, gaps, rest, hsplits, rfl⟩ :=
      splits_of_captures? (List.cons_ne_nil word later) hruns
    exact hsplits.length_heldBy

/-- The pairs of a command's names and what its pattern captures, as far as both go. -/
theorem Command.bindings?_wildcard {c : Command} {text input : String} {store : Store}
    {b : Bindings} (ht : c.trigger = .wildcard text) (h : c.bindings? store input = some b) :
    ∃ captures, Trigger.wildcardCaptures? text input = some captures ∧
      b = (placeholders c.response).zip captures := by
  simp only [bindings?, ht] at h
  obtain ⟨captures, hcaptures, rfl⟩ := Option.map_eq_some_iff.mp h
  exact ⟨captures, hcaptures, rfl⟩

namespace Template

theorem Layout.Reads.placeholders_eq {l : Layout} {response : String}
    (h : l.Reads response.toList) :
    placeholders response =
      (l.references.filter (·.sigil = .dollar)).map fun r => String.ofList r.name := by
  rw [placeholders, h.names_eq, Layout.names, List.map_map]
  rfl

section
variable {l : Layout} {response : String} {captures : List String} {store : Store}
  (hl : l.Reads response.toList) (hlen : (placeholders response).length ≤ captures.length)
include hlen

/-- A placeholder with captures enough is looked up as what was captured last for it. -/
theorem view_of_captured {name : String} (h : name ∈ placeholders response) :
    ∃ value, CapturedLast (placeholders response) captures name value ∧
      store.view (Bindings.assignments ((placeholders response).zip captures)) name =
        some (.scalar value) := by
  obtain ⟨value, hvalue⟩ := exists_capturedLast h hlen
  refine ⟨value, hvalue, ?_⟩
  rw [Store.view, find?_of_capturedLast hvalue, Option.some_or]

include hl

theorem code_of_fails {r : Reference} {f : Fault} (hr : r ∈ l.references)
    (hf : r.Fails (store.view (Bindings.assignments ((placeholders response).zip captures))) f) :
    f.code = "RESPONSE_CHOICES_EMPTY" := by
  have hscalar (name : List Char) (hname : ⟨.dollar, name⟩ ∈ l.references) :
      ∃ value, store.view (Bindings.assignments ((placeholders response).zip captures))
        (String.ofList name) = some (.scalar value) := by
    have hmem : String.ofList name ∈ placeholders response := by
      rw [mem_placeholders_iff, String.toList_ofList]
      exact hl.occurs hname
    obtain ⟨value, -, hview⟩ := @view_of_captured _ _ store hlen _ hmem
    exact ⟨value, hview⟩
  cases hf with
  | listEmpty => rfl
  | @undefined name value =>
    obtain ⟨text, hview⟩ := hscalar name hr
    cases value.symm.trans hview
  | @listSubstitution name items value =>
    obtain ⟨text, hview⟩ := hscalar name hr
    cases value.symm.trans hview

/-- A response resolved with its captures fails for want of choices and for nothing else. -/
theorem code_of_resolve {g g' : Generator} {f : Fault}
    (h : resolve response (store.view (Bindings.assignments ((placeholders response).zip captures)))
      g = (.error f, g')) : f.code = "RESPONSE_CHOICES_EMPTY" := by
  cases (resolve_eq_iff hl).mp h with
  | noChoice => rfl
  | failed text references fills fails =>
    refine code_of_fails hl hlen ?_ fails
    rw [references]
    exact List.mem_append_right _ List.mem_cons_self

theorem capturedLast_of_fillsAll {g g' : Generator} {values : List (List Char)}
    (h : FillsAll (store.view (Bindings.assignments ((placeholders response).zip captures)))
      l.references g values g') :
    List.Forall₂ (CapturedLast (placeholders response) captures) (placeholders response)
      (l.valuesAfter .dollar values) := by
  have hscalars := h.scalars
  rw [← hl.placeholders_eq] at hscalars
  refine ((List.forall₂_and_left _ _).mpr ⟨fun _ hname => hname, hscalars⟩).imp ?_
  rintro name value ⟨hname, hview⟩
  obtain ⟨value', hcaptured, hview'⟩ := @view_of_captured _ _ store hlen name hname
  cases hview.symm.trans hview'
  exact hcaptured

end

end Template

/-- The result of a turn is what the response of the command that answers resolves to. -/
theorem Dialog.resolve_of_turn {d : Dialog} {input : String} {id : CommandId} {b : Bindings}
    {node : Node} (ha : d.answer? input = some (id, b)) (hn : d.tree.get? id = some node) :
    (∀ f, (d.turn input).1 = .error f →
      ∃ g, resolve node.response (d.store.view b.assignments) d.generator = (.error f, g)) ∧
    ∀ reply, (d.turn input).1 = .ok (some reply) →
      ∃ g, resolve node.response (d.store.view b.assignments) d.generator = (.ok reply, g) := by
  simp only [turn, ha, hn]
  cases resolve node.response (d.store.view b.assignments) d.generator with
  | mk r g =>
    cases r with
    | error f =>
      constructor
      · rintro _ ⟨⟩
        exact ⟨g, rfl⟩
      · intro reply he
        cases he
    | ok reply =>
      constructor
      · intro f he
        cases he
      · rintro _ ⟨⟩
        exact ⟨g, rfl⟩

/-- The names that are paired with captures are those of the references that are filled in. So
the response to a pattern with as many holes as placeholders never fails for a placeholder, and
where it is no choice of a list each placeholder is replaced by what was captured last for its
name: by its own capture, if no name comes twice. -/
theorem placeholders_agree :
    (∀ response : String, placeholders response =
      ((pieces response.toList).filterMap (·.nameAfter? .dollar)).map String.ofList) ∧
    ∀ (c : Command) (text : String), c.trigger = .wildcard text →
      let names := placeholders c.response
      let holes := (Text.words text.toList).count Trigger.hole
      (∀ store input b, c.bindings? store input = some b →
        ∃ captures, Trigger.wildcardCaptures? text input = some captures ∧
          captures.length = holes ∧ b = names.zip captures ∧ b.length = min holes names.length) ∧
      ∀ (d : Dialog) input id b node, names.length ≤ holes → d.answer? input = some (id, b) →
        d.tree.get? id = some node → node.toCommand = c →
        (∀ f, (d.turn input).1 = .error f →
          f.code ∉ ["RESPONSE_VARIABLE_UNDEFINED", "RESPONSE_LIST_SUBSTITUTION"]) ∧
        ∀ reply, (d.turn input).1 = .ok (some reply) →
          list? c.response (d.store.view b.assignments) = none →
          ∃ (l : Layout) (values : List (List Char)) (captures : List String),
            l.Reads c.response.toList ∧ values.length = l.references.length ∧
            reply = String.ofList (l.filled values) ∧
            Trigger.wildcardCaptures? text input = some captures ∧
            List.Forall₂ (CapturedLast names captures) names (l.valuesAfter .dollar values) ∧
            (names.Nodup → l.valuesAfter .dollar values = captures.take names.length) := by
  refine ⟨fun response => by rw [placeholders, namesAfter_eq_pieces], fun c text ht => ?_⟩
  intro names holes
  constructor
  · intro store input b h
    obtain ⟨captures, hcaptures, rfl⟩ := Command.bindings?_wildcard ht h
    have hlen := Trigger.length_wildcardCaptures? hcaptures
    exact ⟨captures, hcaptures, hlen, rfl, by rw [List.length_zip, hlen, Nat.min_comm]⟩
  · rintro d input id b node hle ha hn rfl
    obtain ⟨-, node', hn', hb⟩ := Dialog.answer?_eq_some ha
    cases hn.symm.trans hn'
    obtain ⟨captures, hcaptures, rfl⟩ := Command.bindings?_wildcard ht hb
    have hlen : names.length ≤ captures.length := by
      rwa [Trigger.length_wildcardCaptures? hcaptures]
    have hreads := Layout.reads_pieces node.response.toList
    obtain ⟨hfailed, hanswered⟩ := Dialog.resolve_of_turn ha hn
    constructor
    · intro f hf
      obtain ⟨g, hr⟩ := hfailed f hf
      rw [code_of_resolve hreads hlen hr]
      decide
    · intro reply hreply htext
      obtain ⟨g, hr⟩ := hanswered reply hreply
      cases (resolve_eq_iff hreads).mp hr with
      | choice list part =>
        rw [(list?_eq_some_iff hreads).mpr ⟨list, part⟩] at htext
        cases htext
      | filled text fills =>
        have hlast := capturedLast_of_fillsAll hreads hlen fills
        exact ⟨_, _, captures, hreads, fills.length_eq, rfl, hcaptures, hlast,
          eq_take_of_capturedLast hlast⟩

/-- Three words, of which the first and the last are captured for one name. -/
theorem placeholders_agree_repeated :
    let d := Dialog.ofSource "u: (_ _ _) : $x, $y and $x" (.ofSeed 1)
    let c : Command := ⟨0, .wildcard "_ _ _", "$x, $y and $x", 1⟩
    let names := ["x", "y", "x"]
    placeholders c.response = names ∧
    d.answer? "a b c" = some (0, names.zip ["a", "b", "c"]) ∧ d.tree.get? 0 = some c.node ∧
    (d.turn "a b c").1.toOption = some (some "c, b and c") ∧
    ∃ (l : Layout) (values : List (List Char)) (captures : List String),
      l.Reads c.response.toList ∧ "c, b and c" = String.ofList (l.filled values) ∧
      Trigger.wildcardCaptures? "_ _ _" "a b c" = some captures ∧
      List.Forall₂ (CapturedLast names captures) names (l.valuesAfter .dollar values) := by
  intro d c names
  have hnames : placeholders c.response = names := by decide +kernel
  have ha : d.answer? "a b c" = some (0, names.zip ["a", "b", "c"]) := by decide +kernel
  have hn : d.tree.get? 0 = some c.node := by decide +kernel
  have hoption : (d.turn "a b c").1.toOption = some (some "c, b and c") := by decide +kernel
  have hle : (placeholders c.response).length ≤ (Text.words "_ _ _".toList).count Trigger.hole := by
    decide +kernel
  have htext : list? c.response
      (d.store.view (Bindings.assignments (names.zip ["a", "b", "c"]))) = none := by decide +kernel
  have hreply : (d.turn "a b c").1 = .ok (some "c, b and c") := by
    generalize (d.turn "a b c").1 = r at hoption ⊢
    cases r with
    | error f => cases hoption
    | ok reply => exact congrArg Except.ok (Option.some.inj hoption)
  obtain ⟨-, hturn⟩ := placeholders_agree.2 c "_ _ _" rfl
  obtain ⟨-, hfilled⟩ := hturn d "a b c" 0 _ c.node hle ha hn rfl
  obtain ⟨l, values, captures, hreads, -, hvalues, hcaptures, hlast, -⟩ :=
    hfilled "c, b and c" hreply htext
  rw [hnames] at hlast
  exact ⟨hnames, ha, hn, hoption, l, values, captures, hreads, hvalues, hcaptures, hlast⟩

end ScriptedDialog
