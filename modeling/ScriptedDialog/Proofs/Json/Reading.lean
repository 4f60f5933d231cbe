import ScriptedDialog.Json.Printer
import ScriptedDialog.Json.Reader
import ScriptedDialog.Proofs.Json.Scanning

/-! Reading what has been written. The tokens of a value are read as the value, in every
place where a value may stand, and they can be told apart in the text. So a value whose
strings are texts and whose numbers are natural is read back from every layout of it,
and from its compact form in particular. -/

namespace ScriptedDialog.Json

/-! ### Tokens of a value -/

theorem itemTokens_eq_cons (j : Json) (js : List Json) :
    ∃ t ts, itemTokens (j :: js) = t :: ts ∧ t ≠ .closeArray := by
  have hj : ∃ t ts, j.tokens = t :: ts ∧ t ≠ .closeArray := by
    cases j <;> exact ⟨_, _, rfl, nofun⟩
  obtain ⟨t, ts, heq, ht⟩ := hj
  cases js with
  | nil => exact ⟨t, ts, heq, ht⟩
  | cons j' js => exact ⟨t, ts ++ .comma :: itemTokens (j' :: js), by simp [itemTokens, heq], ht⟩

/-- The first item is read like any other. -/
theorem readTokens_firstItem (j : Json) (js : List Json) (fs : List Frame) (ts : List Token) :
    readTokens .firstItem fs (itemTokens (j :: js) ++ ts) =
      readTokens .value (.items [] :: fs) (itemTokens (j :: js) ++ ts) := by
  obtain ⟨t, ts', heq, ht⟩ := itemTokens_eq_cons j js
  rw [heq, List.cons_append, readTokens, readTokens]
  exact ht

/-- The first name is read like any other. -/
theorem readTokens_firstName (name : Option String) (j : Json)
    (fields : List (Option String × Json)) (fs : List Frame) (ts : List Token) :
    readTokens .firstName fs (fieldTokens ((name, j) :: fields) ++ ts) =
      readTokens (.name []) fs (fieldTokens ((name, j) :: fields) ++ ts) := by
  cases fields <;> simp only [fieldTokens, List.cons_append, readTokens]

mutual

/-- The reader goes over a value wherever one may stand. -/
theorem readTokens_tokens (j : Json) (fs : List Frame) (ts : List Token) :
    readTokens .value fs (j.tokens ++ ts) = readTokens (.after j) fs ts := by
  match j with
  | .null | .bool _ | .number _ | .string _ =>
    simp only [tokens, List.singleton_append, readTokens, readTokens.readValue]
  | .array [] =>
    simp only [tokens, itemTokens, List.cons_append, List.nil_append, readTokens,
      readTokens.readValue]
  | .array (j :: js) =>
    rw [tokens, List.cons_append, List.cons_append, List.append_assoc, List.singleton_append,
      readTokens, readTokens.readValue, readTokens_firstItem, readTokens_items j js]
    rfl
  | .object [] =>
    simp only [tokens, fieldTokens, List.cons_append, List.nil_append, readTokens,
      readTokens.readValue]
  | .object ((name, j) :: fields) =>
    rw [tokens, List.cons_append, List.cons_append, List.append_assoc, List.singleton_append,
      readTokens, readTokens.readValue, readTokens_firstName, readTokens_fields name j fields]
    rfl
termination_by sizeOf j

/-- The reader goes over the items that are left of an array. -/
theorem readTokens_items (j : Json) (js held : List Json) (fs : List Frame) (ts : List Token) :
    readTokens .value (.items held :: fs) (itemTokens (j :: js) ++ .closeArray :: ts) =
      readTokens (.after (.array (held.reverse ++ j :: js))) fs ts := by
  match js with
  | [] =>
    rw [itemTokens, readTokens_tokens j]
    simp only [readTokens, List.reverse_cons]
  | j' :: js =>
    have hcomma : itemTokens (j :: j' :: js) = tokens j ++ .comma :: itemTokens (j' :: js) := by
      rw [itemTokens]
      exact nofun
    rw [hcomma, List.append_assoc, List.cons_append, readTokens_tokens j, readTokens,
      readTokens_items j' js]
    simp
termination_by sizeOf (j :: js)

/-- The reader goes over the fields that are left of an object, behind the first name. -/
theorem readTokens_fields (name : Option String) (j : Json)
    (fields held : List (Option String × Json)) (fs : List Frame) (ts : List Token) :
    readTokens (.name held) fs (fieldTokens ((name, j) :: fields) ++ .closeObject :: ts) =
      readTokens (.after (.object (held.reverse ++ (name, j) :: fields))) fs ts := by
  match fields with
  | [] =>
    rw [fieldTokens, List.cons_append, List.cons_append, readTokens, readTokens,
      readTokens_tokens j]
    simp only [readTokens, List.reverse_cons]
  | (name', j') :: fields =>
    have hcomma : fieldTokens ((name, j) :: (name', j') :: fields) =
        .string name :: .colon :: tokens j ++ .comma :: fieldTokens ((name', j') :: fields) := by
      rw [fieldTokens]
      exact nofun
    rw [hcomma, List.append_assoc, List.cons_append, List.cons_append, List.cons_append, readTokens,
      readTokens, readTokens_tokens j, readTokens, readTokens_fields name' j' fields]
    simp
termination_by sizeOf ((name, j) :: fields)

end

/-! ### Texts -/

mutual

/-- A value leaves no number next to a number, if none comes after it. -/
theorem apart_tokens (j : Json) {ts : List Token} (h : Apart ts)
    (hhead : ∀ t ∈ ts.head?, t.isNumber = false) : Apart (j.tokens ++ ts) := by
  match j with
  | .null | .bool _ | .number _ | .string _ =>
    exact h.cons fun t ht _ => hhead t ht
  | .array items =>
    have hclose : Apart (.closeArray :: ts) := h.cons nofun
    have hitems := apart_items items hclose (by simp [Token.isNumber])
    rw [tokens, List.cons_append, List.cons_append, List.append_assoc]
    exact hitems.cons nofun
  | .object fields =>
    have hclose : Apart (.closeObject :: ts) := h.cons nofun
    have hfields := apart_fields fields hclose (by simp [Token.isNumber])
    rw [tokens, List.cons_append, List.cons_append, List.append_assoc]
    exact hfields.cons nofun

theorem apart_items (items : List Json) {ts : List Token} (h : Apart ts)
    (hhead : ∀ t ∈ ts.head?, t.isNumber = false) : Apart (itemTokens items ++ ts) := by
  match items with
  | [] => exact h
  | [j] => exact apart_tokens j h hhead
  | j :: j' :: js =>
    have hcomma : Apart (.comma :: (itemTokens (j' :: js) ++ ts)) :=
      (apart_items (j' :: js) h hhead).cons nofun
    have hitems := apart_tokens j hcomma (by simp [Token.isNumber])
    simpa [itemTokens] using hitems

theorem apart_fields (fields : List (Option String × Json)) {ts : List Token} (h : Apart ts)
    (hhead : ∀ t ∈ ts.head?, t.isNumber = false) : Apart (fieldTokens fields ++ ts) := by
  match fields with
  | [] => exact h
  | [(name, j)] =>
    have hvalue : Apart (.colon :: (j.tokens ++ ts)) := (apart_tokens j h hhead).cons nofun
    exact hvalue.cons nofun
  | (name, j) :: (name', j') :: fields =>
    have hcomma : Apart (.comma :: (fieldTokens ((name', j') :: fields) ++ ts)) :=
      (apart_fields ((name', j') :: fields) h hhead).cons nofun
    have hvalue : Apart (.colon :: (j.tokens ++ _)) :=
      (apart_tokens j hcomma (by simp [Token.isNumber])).cons nofun
    have hfields : Apart (.string name :: _) := hvalue.cons nofun
    simpa [fieldTokens] using hfields

end

/-- All tokens of the value are read back: its strings are texts and its numbers are
natural. -/
def Plain (j : Json) : Prop := ∀ t ∈ j.tokens, t.Plain

/-- The text is the value with any blanks between its tokens. -/
def Written (j : Json) (text : String) : Prop := Laid j.tokens text.toList

theorem written_compact (j : Json) : j.Written j.compact := by
  rw [Written, compact, String.toList_ofList]
  exact laid_flatMap_render j.tokens

/-- A value is read back from every layout of it. -/
theorem read?_written {j : Json} (hplain : j.Plain) {text : String} (h : j.Written text) :
    read? text = some j := by
  have hapart : Apart (j.tokens ++ []) := apart_tokens j List.isChain_nil nofun
  have hread := readTokens_tokens j [] []
  rw [List.append_nil] at hapart hread
  rw [read?, Token.scan?_laid h hplain hapart]
  show readTokens .value [] j.tokens = some j
  rw [hread, readTokens]

/-! ### Values of texts and numbers -/

theorem mem_itemTokens {t : Token} {items : List Json} (h : t ∈ itemTokens items) :
    t = .comma ∨ ∃ j ∈ items, t ∈ j.tokens := by
  induction items with
  | nil => cases h
  | cons j js ih =>
    cases js with
    | nil => exact Or.inr ⟨j, List.mem_cons_self, h⟩
    | cons j' js =>
      rw [itemTokens, List.mem_append, List.mem_cons] at h
      rcases h with h | h | h
      · exact Or.inr ⟨j, List.mem_cons_self, h⟩
      · exact Or.inl h
      · exact (ih h).imp_right fun ⟨k, hk, ht⟩ => ⟨k, List.mem_cons_of_mem _ hk, ht⟩
      · exact nofun

theorem mem_fieldTokens {t : Token} {fields : List (Option String × Json)}
    (h : t ∈ fieldTokens fields) :
    t = .comma ∨ t = .colon ∨ ∃ f ∈ fields, t = .string f.1 ∨ t ∈ f.2.tokens := by
  induction fields with
  | nil => cases h
  | cons f fields ih =>
    obtain ⟨name, j⟩ := f
    have hfirst (ht : t ∈ .string name :: .colon :: j.tokens) :
        t = .comma ∨ t = .colon ∨ ∃ f ∈ (name, j) :: fields, t = .string f.1 ∨ t ∈ f.2.tokens := by
      rcases List.mem_cons.mp ht with ht | ht
      · exact Or.inr (Or.inr ⟨_, List.mem_cons_self, Or.inl ht⟩)
      · rcases List.mem_cons.mp ht with ht | ht
        · exact Or.inr (Or.inl ht)
        · exact Or.inr (Or.inr ⟨_, List.mem_cons_self, Or.inr ht⟩)
    cases fields with
    | nil => exact hfirst h
    | cons f' fields =>
      rw [fieldTokens] at h
      · rcases List.mem_append.mp h with h | h
        · exact hfirst h
        · rcases List.mem_cons.mp h with h | h
          · exact Or.inl h
          · exact (ih h).imp_right
              (Or.imp_right fun ⟨g, hg, ht⟩ => ⟨g, List.mem_cons_of_mem _ hg, ht⟩)
      · exact nofun

theorem plain_text (s : String) : (text s).Plain := by
  simp [Plain, text, tokens, Token.Plain]

theorem plain_nat (n : Nat) : (nat n).Plain := by
  simp [Plain, nat, tokens, Token.Plain]

theorem plain_array {items : List Json} (h : ∀ j ∈ items, j.Plain) : (array items).Plain := by
  intro t ht
  rw [tokens, List.mem_append, List.mem_cons, List.mem_singleton] at ht
  rcases ht with (rfl | ht) | rfl
  · trivial
  · rcases mem_itemTokens ht with rfl | ⟨j, hj, ht⟩
    · trivial
    · exact h j hj t ht
  · trivial

theorem plain_texts (ss : List String) : (texts ss).Plain :=
  plain_array (List.forall_mem_map.mpr fun s _ => plain_text s)

theorem plain_record {fields : List (String × Json)} (h : ∀ f ∈ fields, f.2.Plain) :
    (record fields).Plain := by
  intro t ht
  rw [record, tokens, List.mem_append, List.mem_cons, List.mem_singleton] at ht
  rcases ht with (rfl | ht) | rfl
  · trivial
  · rcases mem_fieldTokens ht with rfl | rfl | ⟨f, hf, ht⟩
    · trivial
    · trivial
    · obtain ⟨g, hg, rfl⟩ := List.mem_map.mp hf
      rcases ht with rfl | ht
      · rfl
      · exact h g hg t ht
  · trivial

end ScriptedDialog.Json
