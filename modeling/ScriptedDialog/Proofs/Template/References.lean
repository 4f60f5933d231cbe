import Mathlib.Data.List.Chain
import ScriptedDialog.Proofs.Text.Words
import ScriptedDialog.Template.Basic

/-! The references of a template. A template is plain text and references in exactly one
way: each sign with a word character behind it begins a reference, and names are as long
as they can be. The pieces of a template give this reading, and the names behind one of
the two signs are the names of its references, in order. -/

namespace ScriptedDialog.Template

open Text

/-! ### Readings -/

/-- A sign with a name behind it. -/
structure Reference where
  sigil : Sigil
  name : List Char
  deriving DecidableEq, Repr

def Reference.source (r : Reference) : List Char := r.sigil.char :: r.name

/-- The reference stands somewhere in a template, with nothing behind it that its name could
take as well. -/
def Reference.Occurs (r : Reference) (cs : List Char) : Prop :=
  ∃ before after, cs = before ++ (r.source ++ after) ∧ IsName r.name ∧
    ∀ c ∈ after.head?, isWordChar c = false

/-- A reference to the name stands in the template, with either sign. -/
def RefersTo (template name : String) : Prop :=
  ∃ sigil, Reference.Occurs ⟨sigil, name.toList⟩ template.toList

/-- The name of a reference with one of the two signs. -/
def Piece.nameAfter? (sigil : Sigil) : Piece → Option (List Char)
  | .text _ => none
  | .reference s name => if s = sigil then some name else none

/-- No sign stands directly before a word character. -/
def Plain (cs : List Char) : Prop :=
  cs.IsChain fun c d => ∀ sigil : Sigil, c = sigil.char → isWordChar d = false

/-- The text in front of the first reference of a template, and the references one after
the other, each with the text behind it. -/
structure Layout where
  front : List Char
  spans : List (Reference × List Char)
  deriving DecidableEq, Repr

namespace Layout

def source (l : Layout) : List Char := l.front ++ l.spans.flatMap fun s => s.1.source ++ s.2

def references (l : Layout) : List Reference := l.spans.map (·.1)

/-- The names behind one of the two signs. -/
def names (l : Layout) (sigil : Sigil) : List (List Char) :=
  (l.references.filter (·.sigil = sigil)).map (·.name)

/-- The layout is one of the template, no text of it holds a reference, and no name of it
could be longer. -/
structure Reads (l : Layout) (template : List Char) : Prop where
  source_eq : l.source = template
  front : Plain l.front
  span : ∀ s ∈ l.spans, IsName s.1.name ∧ Plain s.2 ∧ ∀ c ∈ s.2.head?, isWordChar c = false

end Layout

theorem Sigil.not_isWordChar_char (sigil : Sigil) : isWordChar sigil.char = false := by
  cases sigil <;> decide +kernel

theorem Sigil.ne_char_of_isWordChar {c : Char} (h : isWordChar c = true) (sigil : Sigil) :
    c ≠ sigil.char := by
  rintro rfl
  rw [sigil.not_isWordChar_char] at h
  cases h

theorem Sigil.char_injective : Function.Injective Sigil.char := by
  intro s t h
  revert h
  cases s <;> cases t <;> decide

theorem Sigil.ofChar?_eq_some_iff {c : Char} {sigil : Sigil} :
    ofChar? c = some sigil ↔ c = sigil.char := by
  unfold ofChar?
  constructor
  · intro h
    split at h
    · cases h
      assumption
    · split at h
      · cases h
        assumption
      · cases h
  · rintro rfl
    cases sigil <;> rfl

theorem plain_cons_iff {c : Char} {cs : List Char} : Plain (c :: cs) ↔
    (∀ sigil : Sigil, c = sigil.char → ∀ d ∈ cs.head?, isWordChar d = false) ∧ Plain cs := by
  rw [Plain, List.isChain_cons, Plain]
  exact and_congr_left fun _ => ⟨fun h s hc d hd => h d hd s hc, fun h d hd s hc => h s hc d hd⟩

theorem plain_nil : Plain [] := List.isChain_nil

/-- Word characters are no signs, so they can stand in front of any plain text. -/
theorem Plain.append_of_word {run cs : List Char} (h : Plain cs)
    (hrun : ∀ c ∈ run, isWordChar c = true) : Plain (run ++ cs) := by
  induction run with
  | nil => exact h
  | cons c run ih =>
    obtain ⟨hc, hrun⟩ := List.forall_mem_cons.mp hrun
    exact plain_cons_iff.mpr
      ⟨fun sigil hs => absurd hs (sigil.ne_char_of_isWordChar hc), ih hrun⟩

namespace Layout

/-! ### One character of a reading -/

/-- How a layout of a template begins: with a character of plain text, or with a sign. What
is left is a layout of the rest of the template, in which a name has become text. -/
inductive Begins : Layout → Char → List Char → Prop where
  | text {c cs front spans} (rest : Reads ⟨front, spans⟩ cs)
      (apart : ∀ sigil : Sigil, c = sigil.char → ∀ d ∈ cs.head?, isWordChar d = false) :
      Begins ⟨c :: front, spans⟩ c cs
  | reference {c cs sigil name text spans} (sign : c = Sigil.char sigil) (isName : IsName name)
      (ends : ∀ d ∈ text.head?, isWordChar d = false) (rest : Reads ⟨name ++ text, spans⟩ cs) :
      Begins ⟨[], (⟨sigil, name⟩, text) :: spans⟩ c cs

/-- Where a layout has no text in front, its template does not begin with a word character. -/
theorem not_isWordChar_head?_spans (spans : List (Reference × List Char)) :
    ∀ c ∈ (spans.flatMap fun s => s.1.source ++ s.2).head?, isWordChar c = false := by
  intro c hc
  cases spans with
  | nil => cases hc
  | cons s spans =>
    cases hc
    exact s.1.sigil.not_isWordChar_char

theorem reads_nil_iff {l : Layout} : l.Reads [] ↔ l = ⟨[], []⟩ := by
  constructor
  · intro h
    obtain ⟨front, spans⟩ := l
    obtain ⟨hfront, hspans⟩ := List.append_eq_nil_iff.mp h.source_eq
    cases spans with
    | nil => exact congrArg (Layout.mk · []) hfront
    | cons s spans => cases hspans
  · rintro rfl
    exact ⟨rfl, plain_nil, nofun⟩

theorem Reads.begins {l : Layout} {c : Char} {cs : List Char} (h : l.Reads (c :: cs)) :
    l.Begins c cs := by
  obtain ⟨front, spans⟩ := l
  obtain ⟨hsource, hfront, hspan⟩ := h
  cases front with
  | cons d front =>
    obtain ⟨rfl, hrest⟩ := List.cons.inj hsource
    obtain ⟨hapart, hplain⟩ := plain_cons_iff.mp hfront
    refine .text ⟨hrest, hplain, hspan⟩ fun sigil hd e he => ?_
    rw [← hrest] at he
    cases front with
    | nil => exact not_isWordChar_head?_spans spans e he
    | cons => exact hapart sigil hd e he
  | nil =>
    cases spans with
    | nil => cases hsource
    | cons s spans =>
      obtain ⟨⟨sigil, name⟩, text⟩ := s
      obtain ⟨⟨hname, htext, hends⟩, hspan⟩ := List.forall_mem_cons.mp hspan
      have hcons : sigil.char :: (name ++ text ++ spans.flatMap fun s => s.1.source ++ s.2) =
          c :: cs := by
        rw [← hsource]
        simp only [source, List.nil_append, List.flatMap_cons, Reference.source, List.cons_append,
          List.append_assoc]
      obtain ⟨rfl, hrest⟩ := List.cons.inj hcons
      exact .reference rfl hname hends ⟨hrest, htext.append_of_word hname.2, hspan⟩

theorem Begins.reads {l : Layout} {c : Char} {cs : List Char} (h : l.Begins c cs) :
    l.Reads (c :: cs) := by
  cases h with
  | @text c cs front spans rest apart =>
    refine ⟨congrArg (c :: ·) rest.source_eq, plain_cons_iff.mpr ⟨?_, rest.front⟩, rest.span⟩
    intro sigil hc d hd
    refine apart sigil hc d ?_
    rw [← rest.source_eq]
    cases front with
    | nil => cases hd
    | cons => exact hd
  | reference sign isName ends rest =>
    subst sign
    refine ⟨?_, plain_nil, List.forall_mem_cons.mpr
      ⟨⟨isName, List.IsChain.right_of_append rest.front, ends⟩, rest.span⟩⟩
    rw [← rest.source_eq]
    simp only [source, List.nil_append, List.flatMap_cons, Reference.source, List.cons_append,
      List.append_assoc]

/-- A character that is no sign can stand in front of any reading. -/
theorem Reads.cons {c : Char} {cs front : List Char} {spans : List (Reference × List Char)}
    (h : Reads ⟨front, spans⟩ cs) (hc : ∀ sigil : Sigil, c ≠ sigil.char) :
    Reads ⟨c :: front, spans⟩ (c :: cs) :=
  (Begins.text h fun sigil hs => absurd hs (hc sigil)).reads

theorem Reads.head?_of_name {name text cs : List Char} {spans : List (Reference × List Char)}
    (h : Reads ⟨name ++ text, spans⟩ cs) (hname : IsName name) :
    ∃ d ∈ cs.head?, isWordChar d = true := by
  obtain ⟨hne, hword⟩ := hname
  cases name with
  | nil => exact absurd rfl hne
  | cons d name =>
    refine ⟨d, ?_, hword d List.mem_cons_self⟩
    rw [← h.source_eq]
    rfl

/-- A sign before a word character cannot be plain text. -/
theorem false_of_begins {c : Char} {cs name text : List Char} {sigil : Sigil}
    {spans : List (Reference × List Char)}
    (apart : ∀ sigil : Sigil, c = sigil.char → ∀ d ∈ cs.head?, isWordChar d = false)
    (sign : c = sigil.char) (isName : IsName name) (rest : Reads ⟨name ++ text, spans⟩ cs) :
    False := by
  obtain ⟨d, hd, hword⟩ := rest.head?_of_name isName
  rw [apart sigil sign d hd] at hword
  cases hword

/-- A template has at most one reading. -/
theorem Reads.unique {l l' : Layout} {cs : List Char} (h : l.Reads cs) (h' : l'.Reads cs) :
    l' = l := by
  induction cs generalizing l l' with
  | nil => rw [reads_nil_iff.mp h, reads_nil_iff.mp h']
  | cons c cs ih =>
    cases h.begins with
    | text rest apart =>
      cases h'.begins with
      | text rest' =>
        obtain ⟨rfl, rfl⟩ := Layout.mk.inj (ih rest rest')
        rfl
      | reference sign isName ends rest' =>
        exact (false_of_begins apart sign isName rest').elim
    | @reference _ _ sigil name text spans sign isName ends rest =>
      cases h'.begins with
      | text rest' apart' => exact (false_of_begins apart' sign isName rest).elim
      | @reference _ _ sigil' name' text' spans' sign' isName' ends' rest' =>
        obtain ⟨hfront, rfl⟩ := Layout.mk.inj (ih rest rest')
        obtain rfl := Sigil.char_injective (sign.symm.trans sign')
        have hname : name' = name := by
          rw [← takeWhile_run_append isName'.2 ends', hfront,
            takeWhile_run_append isName.2 ends]
        subst hname
        rw [List.append_cancel_left hfront]

/-! ### Pieces as a reading -/

/-- The layout that pieces give, with neighbouring texts joined. -/
def ofPieces : List Piece → Layout
  | [] => ⟨[], []⟩
  | .text cs :: later => ⟨cs ++ (ofPieces later).front, (ofPieces later).spans⟩
  | .reference sigil name :: later =>
    ⟨[], (⟨sigil, name⟩, (ofPieces later).front) :: (ofPieces later).spans⟩

/-- The word characters at the front of a template are the run that is read there. -/
theorem Reads.takeWhile_eq {run text cs : List Char} {spans : List (Reference × List Char)}
    (h : Reads ⟨run ++ text, spans⟩ cs) (hrun : ∀ c ∈ run, isWordChar c = true)
    (hends : ∀ c ∈ text.head?, isWordChar c = false) : cs.takeWhile isWordChar = run := by
  have hsource : cs = run ++ (text ++ spans.flatMap fun s => s.1.source ++ s.2) := by
    rw [← h.source_eq, source, List.append_assoc]
  rw [hsource]
  refine takeWhile_run_append hrun ?_
  cases text with
  | nil => exact not_isWordChar_head?_spans spans
  | cons d text => exact hends

-- The word characters at the front are kept apart, since a sign before them makes them a name.
theorem reads_frontRun (cs : List Char) :
    Reads ⟨(frontRun cs).1 ++ (ofPieces (frontRun cs).2).front,
        (ofPieces (frontRun cs).2).spans⟩ cs ∧
      (∀ c ∈ (frontRun cs).1, isWordChar c = true) ∧
      ∀ c ∈ (ofPieces (frontRun cs).2).front.head?, isWordChar c = false := by
  induction cs with
  | nil => exact ⟨reads_nil_iff.mpr rfl, nofun, nofun⟩
  | cons c cs ih =>
    obtain ⟨hreads, hrun, hends⟩ := ih
    rw [frontRun]
    generalize frontRun cs = front at hreads hrun hends ⊢
    obtain ⟨run, later⟩ := front
    cases hc : isWordChar c with
    | true =>
      exact ⟨hreads.cons (Sigil.ne_char_of_isWordChar hc), List.forall_mem_cons.mpr ⟨hc, hrun⟩,
        hends⟩
    | false =>
      simp only
      have hhead : ∀ d ∈ (c :: ((ofPieces later).front)).head?, isWordChar d = false := by
        rintro _ ⟨⟩
        exact hc
      cases hs : Sigil.ofChar? c with
      | none =>
        refine ⟨hreads.cons fun sigil hsigil => ?_, nofun, hhead⟩
        rw [Sigil.ofChar?_eq_some_iff.mpr hsigil] at hs
        cases hs
      | some sigil =>
        have hsign := Sigil.ofChar?_eq_some_iff.mp hs
        cases run with
        | nil =>
          have hapart := takeWhile_eq_nil_iff_head?.mp (hreads.takeWhile_eq hrun hends)
          exact ⟨(Begins.text hreads fun _ _ => hapart).reads, nofun, hhead⟩
        | cons d run =>
          have hname : IsName (d :: run) := ⟨List.cons_ne_nil d run, hrun⟩
          exact ⟨(Begins.reference hsign hname hends hreads).reads, nofun, nofun⟩

/-- The pieces of a template are its reading. -/
theorem reads_pieces (template : List Char) : (ofPieces (pieces template)).Reads template := by
  obtain ⟨hreads, -, -⟩ := reads_frontRun template
  rw [pieces]
  generalize frontRun template = front at hreads ⊢
  obtain ⟨run, later⟩ := front
  cases run with
  | nil => exact hreads
  | cons c run => exact hreads

-- A sign before another sign and a sign at the end are text.
example : ofPieces (pieces "$~x ~".toList) = ⟨['$'], [(⟨.tilde, ['x']⟩, [' ', '~'])]⟩ := by
  decide +kernel

/-! ### Names and occurrences -/

theorem names_ofPieces (sigil : Sigil) (ps : List Piece) :
    (ofPieces ps).names sigil = ps.filterMap (·.nameAfter? sigil) := by
  induction ps with
  | nil => rfl
  | cons p later ih =>
    cases p with
    | text cs => exact ih
    | reference s name =>
      rw [List.filterMap_cons, ← ih]
      by_cases hs : s = sigil <;> simp [names, references, ofPieces, Piece.nameAfter?, hs]

theorem mem_references_ofPieces {sigil : Sigil} {name : List Char} {ps : List Piece} :
    ⟨sigil, name⟩ ∈ (ofPieces ps).references ↔ .reference sigil name ∈ ps := by
  induction ps with
  | nil => exact iff_of_false nofun nofun
  | cons p later ih =>
    cases p with
    | text cs =>
      rw [List.mem_cons, ← ih]
      exact (or_iff_right nofun).symm
    | reference s n =>
      rw [List.mem_cons, ← ih]
      simp only [references, ofPieces, List.map_cons, List.mem_cons, Reference.mk.injEq,
        Piece.reference.injEq]

/-- The scan for the names behind one sign finds those of the reading, in order. -/
theorem Reads.names_eq {l : Layout} {cs : List Char} (h : l.Reads cs) (sigil : Sigil) :
    namesAfter sigil cs = l.names sigil := by
  induction cs generalizing l with
  | nil =>
    rw [reads_nil_iff.mp h]
    rfl
  | cons c cs ih =>
    cases h.begins with
    | text rest apart =>
      have hnot : ¬ (c = sigil.char ∧ ¬ (cs.takeWhile isWordChar).isEmpty) := fun ⟨hc, hrun⟩ =>
        hrun (List.isEmpty_iff.mpr (takeWhile_eq_nil_iff_head?.mpr (apart sigil hc)))
      rw [namesAfter, if_neg hnot, ih rest]
      rfl
    | @reference _ _ s name text spans sign isName ends rest =>
      have htake := rest.takeWhile_eq isName.2 ends
      have hne : name.isEmpty = false := List.isEmpty_eq_false_iff.mpr isName.1
      have hsign : c = sigil.char ↔ s = sigil := by rw [sign, Sigil.char_injective.eq_iff]
      simp only [namesAfter, htake, ih rest, hne, hsign]
      by_cases hs : s = sigil <;> simp [names, references, hs]

theorem mem_names_iff {l : Layout} {sigil : Sigil} {name : List Char} :
    name ∈ l.names sigil ↔ ⟨sigil, name⟩ ∈ l.references := by
  simp only [names, List.mem_map, List.mem_filter, decide_eq_true_eq]
  constructor
  · rintro ⟨⟨_, _⟩, ⟨hr, rfl⟩, rfl⟩
    exact hr
  · exact fun hr => ⟨_, ⟨hr, rfl⟩, rfl⟩

theorem Reads.occurs {l : Layout} {cs : List Char} (h : l.Reads cs) {r : Reference}
    (hr : r ∈ l.references) : r.Occurs cs := by
  obtain ⟨⟨_, text⟩, hs, rfl⟩ := List.mem_map.mp hr
  obtain ⟨before, after, hspans⟩ := List.append_of_mem hs
  obtain ⟨hname, -, hends⟩ := h.span _ hs
  refine ⟨l.front ++ before.flatMap fun s => s.1.source ++ s.2,
    text ++ after.flatMap fun s => s.1.source ++ s.2, ?_, hname, ?_⟩
  · rw [← h.source_eq, source, hspans]
    simp only [List.flatMap_append, List.flatMap_cons, List.append_assoc]
  · cases text with
    | nil => exact not_isWordChar_head?_spans after
    | cons => exact hends

theorem Reads.mem_references {l : Layout} {cs : List Char} (h : l.Reads cs) {r : Reference}
    (hr : r.Occurs cs) : r ∈ l.references := by
  obtain ⟨before, after, rfl, hname, hends⟩ := hr
  induction before generalizing l with
  | nil =>
    cases h.begins with
    | text rest apart =>
      have hnil : (r.name ++ after).takeWhile isWordChar = [] :=
        takeWhile_eq_nil_iff_head?.mpr (apart r.sigil rfl)
      exact absurd ((takeWhile_run_append hname.2 hends).symm.trans hnil) hname.1
    | @reference _ _ s name text spans sign isName ends rest =>
      obtain rfl : r.sigil = s := Sigil.char_injective sign
      obtain rfl : r.name = name := by
        rw [← takeWhile_run_append hname.2 hends]
        exact rest.takeWhile_eq isName.2 ends
      exact List.mem_cons_self
  | cons c before ih =>
    cases h.begins with
    | @text _ _ front spans rest => exact @ih ⟨front, spans⟩ rest
    | reference sign isName ends rest => exact List.mem_cons_of_mem _ (ih rest)

/-- The references of a template are what stands in it as a sign with a whole name. -/
theorem Reads.mem_references_iff {l : Layout} {cs : List Char} (h : l.Reads cs) {r : Reference} :
    r ∈ l.references ↔ r.Occurs cs :=
  ⟨h.occurs, h.mem_references⟩

end Layout

/-! ### Scans -/

theorem namesAfter_eq_pieces (sigil : Sigil) (cs : List Char) :
    namesAfter sigil cs = (pieces cs).filterMap (·.nameAfter? sigil) := by
  rw [(Layout.reads_pieces cs).names_eq, Layout.names_ofPieces]

theorem mem_pieces_iff {sigil : Sigil} {name cs : List Char} :
    .reference sigil name ∈ pieces cs ↔ Reference.Occurs ⟨sigil, name⟩ cs := by
  rw [← Layout.mem_references_ofPieces, (Layout.reads_pieces cs).mem_references_iff]

theorem mem_namesAfter_iff {sigil : Sigil} {name cs : List Char} :
    name ∈ namesAfter sigil cs ↔ Reference.Occurs ⟨sigil, name⟩ cs := by
  have hreads := Layout.reads_pieces cs
  rw [hreads.names_eq, Layout.mem_names_iff, hreads.mem_references_iff]

theorem mem_ofList_namesAfter_iff {sigil : Sigil} {name : String} {cs : List Char} :
    name ∈ (namesAfter sigil cs).map String.ofList ↔
      Reference.Occurs ⟨sigil, name.toList⟩ cs := by
  rw [← mem_namesAfter_iff, List.mem_map]
  constructor
  · rintro ⟨n, hn, rfl⟩
    rwa [String.toList_ofList]
  · exact fun hn => ⟨_, hn, String.ofList_toList⟩

theorem mem_mentions_iff {template name : String} :
    name ∈ mentions template ↔ Reference.Occurs ⟨.tilde, name.toList⟩ template.toList :=
  mem_ofList_namesAfter_iff

theorem mem_placeholders_iff {template name : String} :
    name ∈ placeholders template ↔ Reference.Occurs ⟨.dollar, name.toList⟩ template.toList :=
  mem_ofList_namesAfter_iff

theorem refersTo_iff {template name : String} : RefersTo template name ↔
    name ∈ mentions template ∨ name ∈ placeholders template := by
  rw [mem_mentions_iff, mem_placeholders_iff]
  constructor
  · rintro ⟨sigil, h⟩
    cases sigil with
    | tilde => exact Or.inl h
    | dollar => exact Or.inr h
  · rintro (h | h) <;> exact ⟨_, h⟩

end ScriptedDialog.Template
