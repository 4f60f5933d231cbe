import Mathlib.Data.List.Forall2
import ScriptedDialog.Proofs.Json.Records
import ScriptedDialog.TestCase.Run

/-! Test cases read back from files. A test case may be spelled in more than one way: its
fields and those of its turns and replies may stand in any order, with texts under other
names between them, and fields that equal their defaults may be left out. Every spelling
is read as the test case, however it is laid out, and the way it is written is one. -/

namespace ScriptedDialog

open Json

/-! ### Replies -/

namespace ExpectedReply

def fields : ExpectedReply → List (String × Json)
  | .exactly wanted => [("kind", text "text"), ("text", text wanted)]
  | .oneOf choices => [("kind", text "oneOf"), ("choices", texts choices)]
  | .noReply => [("kind", text "none")]

/-- The value is an expected reply. Which fields matter depends on its kind. -/
def Spells (r : ExpectedReply) (j : Json) : Prop := j.Holds (r.fields.map (·.1)) r.fields

theorem spells_toJson (r : ExpectedReply) : r.Spells r.toJson := by
  have hrecord : r.toJson = record r.fields := by cases r <;> rfl
  rw [hrecord]
  exact holds_record _ r.fields

theorem nodup_fields (r : ExpectedReply) : (r.fields.map (·.1)).Nodup := by
  cases r <;> simp [fields]

theorem exists_of_mem_fields {r : ExpectedReply} {f : String × Json} (h : f ∈ r.fields) :
    (∃ s, f.2 = text s) ∨ ∃ ss, f.2 = texts ss := by
  cases r <;> simp only [fields, List.mem_cons, List.not_mem_nil, or_false] at h
  · rcases h with rfl | rfl <;> exact Or.inl ⟨_, rfl⟩
  · rcases h with rfl | rfl
    · exact Or.inl ⟨_, rfl⟩
    · exact Or.inr ⟨_, rfl⟩
  · exact Or.inl ⟨_, congrArg Prod.snd h⟩

section
variable {r : ExpectedReply} {j : Json} (h : r.Spells j)
include h

theorem plain_of_spells : j.Plain := by
  refine Holds.plain h fun f hf => ?_
  rcases exists_of_mem_fields hf with ⟨s, hs⟩ | ⟨ss, hss⟩
  · exact hs ▸ plain_text s
  · exact hss ▸ plain_texts ss

theorem isSound_of_spells : j.isSound = true := by
  refine Holds.isSound h fun f hf => ?_
  rcases exists_of_mem_fields hf with ⟨s, hs⟩ | ⟨ss, hss⟩
  · rw [hs]; rfl
  · exact hss ▸ isSound_texts ss

theorem depth_of_spells : j.depth ≤ 2 := by
  refine Holds.depth_le h fun f hf => ?_
  rcases exists_of_mem_fields hf with ⟨s, hs⟩ | ⟨ss, hss⟩
  · rw [hs]; exact Nat.zero_le 1
  · exact hss ▸ depth_texts_le ss

/-- The kind is found wherever it stands, and then the field that goes with it. -/
theorem ofJson?_of_spells : ofJson? j = some r := by
  have hd := nodup_fields r
  have harrange {wanted : List String} := @Holds.arrange? _ _ _ h hd wanted
  obtain ⟨all, rfl, hvalues⟩ := Holds.exists_valuesOf h hd
  have hread {kind : String} (hkind : r.fields.lookup "kind" = some (text kind))
      (hmem : "kind" ∈ r.fields.map (·.1)) :
      ofJson? (record all) = ofKind? kind (record all) := by
    have hvalue := hvalues "kind" hmem
    rw [hkind] at hvalue
    rw [record, ofJson?, hvalue]
    rfl
  cases r with
  | exactly wanted =>
    have hfield : arrange? ["text"] (record all) = some [some (text wanted)] := by
      simpa [fields, List.lookup_cons] using @harrange ["text"] (by simp [fields])
    rw [hread rfl (by simp [fields]), ofKind?, hfield]
    rfl
  | oneOf choices =>
    have hfield : arrange? ["choices"] (record all) = some [some (texts choices)] := by
      simpa [fields, List.lookup_cons] using @harrange ["choices"] (by simp [fields])
    rw [hread rfl (by simp [fields]), ofKind?, hfield]
    show (list? string? (texts choices)).map oneOf = _
    rw [list?_texts]
    rfl
  | noReply =>
    rw [hread rfl (by simp [fields])]
    rfl

theorem ofCaseJson?_of_spells : ofCaseJson? j = some r := by
  have hdepth : j.depth ≤ maxDepth := by
    have hle := depth_of_spells h
    unfold maxDepth
    omega
  rw [ofCaseJson?, if_pos ⟨isSound_of_spells h, hdepth⟩, ofJson?_of_spells h]

end

end ExpectedReply

/-! ### Turns -/

namespace TestTurn

/-- The value is a turn of a test case. -/
def Spells (t : TestTurn) (j : Json) : Prop :=
  ∃ expect, t.expect.Spells expect ∧
    j.Holds ["input", "expect"] [("input", text t.input), ("expect", expect)]

theorem spells_toJson (t : TestTurn) : t.Spells t.toJson :=
  ⟨t.expect.toJson, t.expect.spells_toJson, holds_record _ _⟩

variable {t : TestTurn} {j : Json} (h : t.Spells j)
include h

theorem plain_of_spells : j.Plain := by
  obtain ⟨expect, hexpect, hj⟩ := h
  refine hj.plain fun f hf => ?_
  simp only [List.mem_cons, List.not_mem_nil, or_false] at hf
  rcases hf with rfl | rfl
  · exact plain_text _
  · exact ExpectedReply.plain_of_spells hexpect

theorem ofJson?_of_spells : ofJson? j = some t := by
  obtain ⟨expect, hexpect, hj⟩ := h
  have harrange : arrange? ["input", "expect"] j = some [some (text t.input), some expect] := by
    simpa [List.lookup_cons] using hj.arrange? (by simp) (fun _ => id)
  have hread : required? ExpectedReply.ofCaseJson? (some expect) = some t.expect :=
    ExpectedReply.ofCaseJson?_of_spells hexpect
  rw [ofJson?, harrange]
  show (required? ExpectedReply.ofCaseJson? (some expect)).bind _ = some t
  rw [hread]
  rfl

end TestTurn

/-! ### Test cases -/

namespace TestCase

def fieldNames : List String :=
  ["schemaVersion", "script", "randomSeed", "expectedDiagnostics", "turns"]

/-- The fields of a test case, with its turns as they are spelled. -/
def fields (c : TestCase) (turns : List Json) : List (String × Json) :=
  [("schemaVersion", text c.schemaVersion), ("script", text c.script),
    ("randomSeed", nat c.randomSeed.toNat), ("expectedDiagnostics", texts c.expectedDiagnostics),
    ("turns", array turns)]

/-- The field has a default, which is what the test case has there. -/
def IsDefault (c : TestCase) (name : String) : Prop :=
  (name = "script" ∧ c.script = Load.defaultScript) ∨
  (name = "randomSeed" ∧ c.randomSeed = defaultSeed) ∨
  (name = "expectedDiagnostics" ∧ c.expectedDiagnostics = []) ∨
  (name = "turns" ∧ c.turns = [])

/-- The value is a test case, of which fields that equal their defaults may be left out. -/
def Spells (c : TestCase) (j : Json) : Prop :=
  ∃ (turns : List Json) (omitted : List String), List.Forall₂ TestTurn.Spells c.turns turns ∧
    (∀ name ∈ omitted, c.IsDefault name) ∧
    j.Holds fieldNames ((c.fields turns).filter (·.1 ∉ omitted))

theorem spells_toJson (c : TestCase) : c.Spells c.toJson := by
  have hturns : List.Forall₂ TestTurn.Spells c.turns (c.turns.map (·.toJson)) := by
    rw [List.forall₂_map_right_iff]
    exact List.forall₂_same.mpr fun t _ => t.spells_toJson
  refine ⟨_, [], hturns, nofun, ?_⟩
  have hall : (c.fields (c.turns.map (·.toJson))).filter (·.1 ∉ []) = c.fields _ :=
    List.filter_eq_self.mpr fun _ _ => by simp
  rw [hall]
  exact holds_record _ _

section
variable {c : TestCase} {j : Json} (h : c.Spells j)
include h

theorem plain_of_spells : j.Plain := by
  obtain ⟨turns, omitted, hturns, -, hj⟩ := h
  refine hj.plain fun f hf => ?_
  have hmem := (List.mem_filter.mp hf).1
  simp only [fields, List.mem_cons, List.not_mem_nil, or_false] at hmem
  rcases hmem with rfl | rfl | rfl | rfl | rfl
  · exact plain_text _
  · exact plain_text _
  · exact plain_nat _
  · exact plain_texts _
  · have hboth : List.Forall₂ (fun (k : Json) t => k.Plain ∧ TestTurn.Spells t k) turns c.turns :=
      hturns.flip.imp fun _ _ ht => ⟨TestTurn.plain_of_spells ht, ht⟩
    exact plain_array ((List.forall₂_and_left _ _).mp hboth).1

theorem ofJson?_of_spells : ofJson? j = some c := by
  obtain ⟨turns, omitted, hturns, homitted, hj⟩ := h
  have hnames : ((c.fields turns).map (·.1)).Nodup := by simp [fields]
  have hd : (((c.fields turns).filter (·.1 ∉ omitted)).map (·.1)).Nodup :=
    hnames.sublist (List.filter_sublist.map _)
  have hschema : "schemaVersion" ∉ omitted := fun h => by simpa [IsDefault] using homitted _ h
  have hscript : "script" ∈ omitted → c.script = Load.defaultScript := fun h => by
    simpa [IsDefault] using homitted _ h
  have hseed : "randomSeed" ∈ omitted → c.randomSeed = defaultSeed := fun h => by
    simpa [IsDefault] using homitted _ h
  have hdiagnostics : "expectedDiagnostics" ∈ omitted → c.expectedDiagnostics = [] := fun h => by
    simpa [IsDefault] using homitted _ h
  have hnoTurns : "turns" ∈ omitted → c.turns = [] := fun h => by
    simpa [IsDefault] using homitted _ h
  have harrange : arrange? fieldNames j = some [some (text c.schemaVersion),
      if "script" ∈ omitted then none else some (text c.script),
      if "randomSeed" ∈ omitted then none else some (nat c.randomSeed.toNat),
      if "expectedDiagnostics" ∈ omitted then none else some (texts c.expectedDiagnostics),
      if "turns" ∈ omitted then none else some (array turns)] := by
    rw [hj.arrange? hd (fun _ => id)]
    simp only [lookup_filter_not_mem, fieldNames, List.map_cons, List.map_nil, if_neg hschema]
    rfl
  have hturnsRead : list? TestTurn.ofJson? (array turns) = some c.turns :=
    list?_forall₂ (hturns.imp fun _ _ ht => TestTurn.ofJson?_of_spells ht)
  unfold fieldNames at harrange
  rw [ofJson?, harrange]
  simp only [optional?_ite hscript (rfl : string? (text c.script) = _),
    optional?_ite hseed (word?_nat c.randomSeed),
    optional?_ite hdiagnostics (list?_texts c.expectedDiagnostics),
    optional?_ite hnoTurns hturnsRead]
  rfl

/-- A spelling is read from a file in any layout. -/
theorem ofFile_of_spells (hschema : c.schemaVersion = schema) {content : String}
    (hw : j.Written content) {read : ReadFile} {path : String} (hr : read path = .ok content) :
    ofFile read path = .ok c := by
  have hread : (Json.read? content).bind ofJson? = some c := by
    rw [read?_written (plain_of_spells h) hw]
    exact ofJson?_of_spells h
  rw [ofFile, hr]
  simp only [hread, if_pos hschema]

end

/-- A test case that follows the schema is read from the file to which it is written. It
is also read from every file with a spelling of it, in any layout. -/
theorem ofFile_spelled {c : TestCase} (hschema : c.schemaVersion = schema) (read : ReadFile)
    (path : String) :
    (read path = .ok c.toJson.compact → ofFile read path = .ok c) ∧
    ∀ j content, c.Spells j → j.Written content → read path = .ok content →
      ofFile read path = .ok c :=
  ⟨ofFile_of_spells c.spells_toJson hschema (written_compact c.toJson),
    fun _ _ h hw => ofFile_of_spells h hschema hw⟩

/-- All objects are the other way round, with a note in one of them and no script. -/
theorem ofFile_spelled_reversed :
    let c : TestCase := ⟨schema, "dialog.txt", 18446744073709551615, ["LINE_SYNTAX_INVALID"],
      [⟨"say \"hi\"", .oneOf ["hi", "\t"]⟩]⟩
    let expect := record [("choices", texts ["hi", "\t"]), ("kind", text "oneOf")]
    let turn := record [("note", text "none"), ("expect", expect), ("input", text "say \"hi\"")]
    let j := record [("turns", array [turn]),
      ("expectedDiagnostics", texts ["LINE_SYNTAX_INVALID"]),
      ("randomSeed", nat 18446744073709551615), ("schemaVersion", text schema)]
    ofFile (fun _ => .ok j.compact) "testcase.json" = .ok c := by
  intro c expect turn j
  have hturn : List.Forall₂ TestTurn.Spells c.turns [turn] := by
    have hexpect : expect.Holds ["kind", "choices"] (ExpectedReply.oneOf ["hi", "\t"]).fields :=
      ⟨_, [], rfl, List.reverse_perm [("kind", text "oneOf"), ("choices", texts ["hi", "\t"])],
        nofun⟩
    refine .cons ⟨expect, hexpect, _, [("note", text "none")], rfl, List.reverse_perm
      [("input", text "say \"hi\""), ("expect", expect), ("note", text "none")],
      fun f hf => ?_⟩ .nil
    rw [List.mem_singleton.mp hf]
    exact ⟨by decide, "none", rfl⟩
  have hj : c.Spells j := by
    refine ⟨[turn], ["script"], hturn, fun name hname => ?_, _, [], rfl, List.reverse_perm
      [("schemaVersion", text schema), ("randomSeed", nat 18446744073709551615),
        ("expectedDiagnostics", texts ["LINE_SYNTAX_INVALID"]), ("turns", array [turn])], nofun⟩
    rw [List.mem_singleton.mp hname]
    exact Or.inl ⟨rfl, rfl⟩
  exact (ofFile_spelled rfl _ _).2 j _ hj (written_compact j) rfl

end TestCase

end ScriptedDialog
