import Mathlib.Logic.Basic
import ScriptedDialog.Files.Listing

/-! Paths part by part. The parts of a path are its components but for the empty ones and
the single dots, which lead nowhere; only at the front they tell a path from the top, or one
that is written from here. To join a name to a path is to add it to the parts. -/

namespace ScriptedDialog.Files

/-- What an entry of a directory can be called. -/
structure IsEntryName (name : String) : Prop where
  ne_empty : name ≠ ""
  ne_here : name ≠ "."
  ne_up : name ≠ ".."
  no_slash : '/' ∉ name.toList
  no_nul : '\x00' ∉ name.toList
  size_le : name.utf8ByteSize ≤ Listing.maxName

instance (name : String) : Decidable (IsEntryName name) :=
  decidable_of_iff (name ≠ "" ∧ name ≠ "." ∧ name ≠ ".." ∧ '/' ∉ name.toList ∧
      '\x00' ∉ name.toList ∧ name.utf8ByteSize ≤ Listing.maxName)
    ⟨fun ⟨hempty, hhere, hup, hslash, hnul, hsize⟩ => ⟨hempty, hhere, hup, hslash, hnul, hsize⟩,
      fun h => ⟨h.ne_empty, h.ne_here, h.ne_up, h.no_slash, h.no_nul, h.size_le⟩⟩

namespace Path

/-! ### Parts -/

inductive Part where
  | top
  | here
  | up
  | name (text : String)
  deriving DecidableEq

def Part.rank : Part → Nat
  | top => 0
  | here => 1
  | up => 2
  | name _ => 3

def Part.text : Part → String
  | name text => text
  | _ => ""

/-- Names come after all other parts, in the order of their texts. -/
instance : LT Part := ⟨fun a b => a.rank < b.rank ∨ a.rank = b.rank ∧ a.text < b.text⟩

theorem Part.name_lt_name {a b : String} : Part.name a < Part.name b ↔ a < b := by
  show Part.rank (name a) < Part.rank (name b) ∨ _ ∧ a < b ↔ a < b
  simp [Part.rank]

def Part.ofStep (step : String) : Part := if step = ".." then .up else .name step

/-- What a path starts from, if it is not a name. -/
def front : List Char → List Part
  | '/' :: _ => [.top]
  | ['.'] | '.' :: '/' :: _ => [.here]
  | _ => []

/-- The components that lead somewhere. -/
def steps (path : List Char) : List String :=
  (components (.ofList path)).filter fun c => c ≠ "" ∧ c ≠ "."

def parts (path : String) : List Part := front path.toList ++ (steps path.toList).map .ofStep

/-! ### Fronts -/

theorem front_eq_nil {path : List Char} (htop : ¬ ['/'] <+: path) (hdot : path ≠ ['.'])
    (hhere : ¬ ['.', '/'] <+: path) : front path = [] := by
  unfold front
  split
  · exact absurd (List.prefix_append ['/'] _) htop
  · exact absurd rfl hdot
  · exact absurd (List.prefix_append ['.', '/'] _) hhere
  · rfl

theorem front_singleton (c : Char) : front [c] =
    if c = '/' then [.top] else if c = '.' then [.here] else [] := by
  unfold front
  split <;> simp_all

theorem front_cons_cons (c e : Char) (rest : List Char) : front (c :: e :: rest) =
    if c = '/' then [.top] else if c = '.' ∧ e = '/' then [.here] else [] := by
  unfold front
  split <;> simp_all

theorem front_concat_slash {path : List Char} (h : path ≠ []) :
    front (path ++ ['/']) = front path := by
  obtain ⟨c, rest, rfl⟩ := List.exists_cons_of_ne_nil h
  cases rest with
  | nil => simp [front_cons_cons, front_singleton]
  | cons e rest => simp [front_cons_cons]

theorem front_slash (before after : List Char) :
    front (before ++ '/' :: after) = front (before ++ ['/']) := by
  rcases before with _ | ⟨c, _ | ⟨e, before⟩⟩
  · rfl
  · simp [front_cons_cons]
  · simp [front_cons_cons]

theorem front_of_isEntryName {name : String} (h : IsEntryName name) : front name.toList = [] := by
  refine front_eq_nil ?_ ?_ ?_
  · exact fun hbegins => h.no_slash (hbegins.subset (by simp))
  · exact fun hdot => h.ne_here (String.toList_inj.mp hdot)
  · exact fun hbegins => h.no_slash (hbegins.subset (by simp))

theorem startsWith_iff_front {path : String} :
    path.startsWith "/" = true ↔ front path.toList = [.top] := by
  rw [String.startsWith_string_iff]
  show ['/'] <+: path.toList ↔ _
  generalize path.toList = path
  unfold front
  split
  · simp
  · simp
  · simp
  · next htop _ _ =>
    refine iff_of_false ?_ nofun
    rintro ⟨rest, h⟩
    exact htop rest h.symm

/-! ### Steps -/

theorem steps_slash (before after : List Char) :
    steps (before ++ '/' :: after) = steps before ++ steps after := by
  simp [steps, components, List.splitOnP_append_cons]

theorem steps_of_no_slash {path : List Char} (h : '/' ∉ path) :
    steps path = [String.ofList path].filter fun c => c ≠ "" ∧ c ≠ "." := by
  have hsplit : path.splitOnP (· = '/') = [path] :=
    List.splitOnP_eq_singleton fun c hc => decide_eq_false fun heq => h (heq ▸ hc)
  simp [steps, components, hsplit]

theorem steps_of_isEntryName {name : String} (h : IsEntryName name) :
    steps name.toList = [name] := by
  simp [steps_of_no_slash h.no_slash, h.ne_empty, h.ne_here]

theorem steps_empty : steps [] = [] := rfl

theorem steps_here : steps ['.'] = [] := rfl

theorem steps_cons_slash (after : List Char) : steps ('/' :: after) = steps after := by
  rw [← List.nil_append ('/' :: after), steps_slash, steps_empty, List.nil_append]

theorem steps_concat_slash (before : List Char) : steps (before ++ ['/']) = steps before := by
  rw [steps_slash, steps_empty, List.append_nil]

theorem steps_here_slash (after : List Char) : steps ('.' :: '/' :: after) = steps after := by
  rw [← List.singleton_append, steps_slash, steps_here, List.nil_append]

/-- Only the empty path has no part. -/
theorem eq_nil_of_no_part {path : List Char} (hfront : front path = []) (hsteps : steps path = []) :
    path = [] := by
  have hstay {first : List Char} (h : '/' ∉ first) (hs : steps first = []) :
      first = [] ∨ first = ['.'] := by
    rw [steps_of_no_slash h, List.filter_eq_nil_iff] at hs
    have hno := hs _ List.mem_cons_self
    rw [decide_eq_true_eq, not_and_or, not_not, not_not] at hno
    exact hno.imp (fun h => String.ofList_eq_empty_iff.mp h) fun h => String.ofList_inj.mp h
  by_cases hmem : '/' ∈ path
  · obtain ⟨first, rest, rfl, hfirst⟩ := List.eq_append_cons_of_mem hmem
    rw [steps_slash, List.append_eq_nil_iff] at hsteps
    rw [front_slash] at hfront
    rcases hstay hfirst hsteps.1 with rfl | rfl <;> cases hfront
  · rcases hstay hmem hsteps with rfl | rfl
    · rfl
    · cases hfront

/-! ### Paths without the components at their end that lead nowhere -/

theorem steps_dropStays (backward : List Char) :
    steps (dropStays backward).reverse = steps backward.reverse := by
  fun_induction dropStays backward with
  | case1 rest ih => rw [ih, List.reverse_cons, steps_concat_slash]
  | case2 rest ih =>
    rw [ih, List.reverse_cons, List.reverse_cons, List.append_assoc, List.singleton_append,
      steps_slash, steps_here, List.append_nil]
  | case3 | case4 => rfl

theorem isSuffix_dropStays (backward : List Char) : dropStays backward <:+ backward := by
  fun_induction dropStays backward with
  | case1 rest ih => exact ih.trans (List.suffix_cons _ _)
  | case2 rest ih => exact ih.trans ((List.suffix_cons _ _).trans (List.suffix_cons _ _))
  | case3 => exact List.nil_suffix
  | case4 => exact List.suffix_rfl

theorem dropStays_ne_dot (backward : List Char) : dropStays backward ≠ ['.'] := by
  fun_induction dropStays backward with
  | case1 rest ih | case2 rest ih => exact ih
  | case3 => simp
  | case4 path _ _ h => exact h

theorem isPrefix_dropStays (path : List Char) : (dropStays path.reverse).reverse <+: path := by
  rw [← List.reverse_suffix, List.reverse_reverse]
  exact isSuffix_dropStays _

theorem isPrefix_tidied (path : List Char) : tidied path <+: path := by
  unfold tidied
  split
  · exact (List.prefix_cons_inj _).mpr (isPrefix_dropStays _)
  · exact (List.prefix_cons_inj _).mpr (isPrefix_dropStays _)
  · exact List.prefix_rfl
  · exact isPrefix_dropStays _

theorem utf8ByteSize_tidied_le (path : String) :
    (String.ofList (tidied path.toList)).utf8ByteSize ≤ path.utf8ByteSize := by
  obtain ⟨dropped, h⟩ := isPrefix_tidied path.toList
  have hpath : path = .ofList (tidied path.toList) ++ .ofList dropped := by
    rw [← String.ofList_append, h, String.ofList_toList]
  have hsize := congrArg String.utf8ByteSize hpath
  rw [String.utf8ByteSize_append] at hsize
  omega

theorem front_tidied (path : List Char) : front (tidied path) = front path := by
  unfold tidied
  split
  · simp [front]
  · next rest =>
    rcases List.prefix_cons_iff.mp (isPrefix_dropStays ('/' :: rest)) with h | ⟨kept, h, -⟩
    · rw [h]
      rfl
    · rw [h]
      rfl
  · rfl
  · next htop hhere hdot =>
    -- A path that starts with a name keeps it, so what is left does not come to be a dot.
    have hbegins := isPrefix_dropStays path
    have hdropped : (dropStays path.reverse).reverse ≠ ['.'] := fun h =>
      dropStays_ne_dot path.reverse (List.reverse_eq_iff.mp h)
    have htop' : ¬ ['/'] <+: path := fun ⟨rest, h⟩ => htop rest h.symm
    have hhere' : ¬ ['.', '/'] <+: path := fun ⟨rest, h⟩ => hhere rest h.symm
    rw [front_eq_nil htop' hdot hhere', front_eq_nil (fun h => htop' (h.trans hbegins)) hdropped
      fun h => hhere' (h.trans hbegins)]

theorem steps_tidied (path : List Char) : steps (tidied path) = steps path := by
  have hkept (path : List Char) : steps (dropStays path.reverse).reverse = steps path := by
    rw [steps_dropStays, List.reverse_reverse]
  unfold tidied
  split
  · rw [steps_cons_slash, steps_cons_slash, hkept]
  · next rest =>
    rw [steps_here_slash, ← steps_cons_slash rest, ← hkept ('/' :: rest)]
    rcases List.prefix_cons_iff.mp (isPrefix_dropStays ('/' :: rest)) with h | ⟨kept, h, -⟩
    · rw [h, steps_here, steps_empty]
    · rw [h, steps_here_slash, steps_cons_slash]
  · rfl
  · exact hkept path

theorem tidied_concat_slash {path : List Char} (h : path ≠ []) :
    tidied (path ++ ['/']) = tidied path := by
  have hdrop (path : List Char) : dropStays (path ++ ['/']).reverse = dropStays path.reverse := by
    rw [List.reverse_append, List.reverse_singleton, List.singleton_append, dropStays]
  -- The first two characters decide what a path starts from, and a single one may get the slash
  -- for its second.
  obtain ⟨c, rest, rfl⟩ := List.exists_cons_of_ne_nil h
  by_cases htop : c = '/'
  · subst htop
    rw [List.cons_append, tidied, tidied, hdrop]
  cases rest with
  | nil =>
    by_cases hdot : c = '.'
    · subst hdot
      rfl
    · simp [tidied, htop, hdot, dropStays]
  | cons e rest =>
    by_cases hhere : c = '.' ∧ e = '/'
    · obtain ⟨rfl, rfl⟩ := hhere
      rw [List.cons_append, List.cons_append, tidied, tidied, ← List.cons_append, hdrop]
    · have htidied (rest : List Char) :
          tidied (c :: e :: rest) = (dropStays (c :: e :: rest).reverse).reverse := by
        unfold tidied
        split <;> simp_all
      rw [List.cons_append, List.cons_append, htidied, htidied, ← List.cons_append,
        ← List.cons_append, hdrop]

/-! ### Names joined to paths -/

/-- What goes before a name when it is joined to the path of a directory. -/
def entered (directory : String) : String :=
  if directory.isEmpty || directory.endsWith "/" then directory else directory ++ "/"

theorem toList_entered (directory : String) :
    (entered directory).toList = directory.toList ∧
        (directory.toList = [] ∨ ['/'] <:+ directory.toList) ∨
      (entered directory).toList = directory.toList ++ ['/'] ∧ directory.toList ≠ [] := by
  unfold entered
  split
  · next h =>
    rw [Bool.or_eq_true, String.isEmpty_iff, String.endsWith_eq_endsWith_toSlice,
      String.Slice.endsWith_string_iff] at h
    exact Or.inl ⟨rfl, by simpa using h⟩
  · next h =>
    rw [Bool.or_eq_true, not_or, String.isEmpty_iff] at h
    exact Or.inr ⟨String.toList_append, by simpa using h.1⟩

theorem entered_end (directory : String) :
    (entered directory).toList = [] ∨ ∃ before, (entered directory).toList = before ++ ['/'] := by
  rcases toList_entered directory with ⟨h, hempty | ⟨before, hslash⟩⟩ | ⟨h, -⟩
  · exact Or.inl (h.trans hempty)
  · exact Or.inr ⟨before, h.trans hslash.symm⟩
  · exact Or.inr ⟨_, h⟩

theorem front_entered (directory : String) :
    front (entered directory).toList = front directory.toList := by
  rcases toList_entered directory with ⟨h, -⟩ | ⟨h, hne⟩
  · rw [h]
  · rw [h, front_concat_slash hne]

theorem steps_entered (directory : String) :
    steps (entered directory).toList = steps directory.toList := by
  rcases toList_entered directory with ⟨h, -⟩ | ⟨h, -⟩
  · rw [h]
  · rw [h, steps_concat_slash]

theorem tidied_entered (directory : String) :
    tidied (entered directory).toList = tidied directory.toList := by
  rcases toList_entered directory with ⟨h, -⟩ | ⟨h, hne⟩
  · rw [h]
  · rw [h, tidied_concat_slash hne]

theorem join_eq {name : String} (h : IsEntryName name) (directory : String) :
    join directory name = entered directory ++ name := by
  have hrelative : name.startsWith "/" = false := by
    rw [String.startsWith_string_eq_false_iff]
    rintro ⟨rest, hrest⟩
    exact h.no_slash (hrest ▸ by simp)
  unfold join entered
  rw [hrelative, Bool.or_false]
  by_cases hempty : directory = ""
  · simp [hempty]
  · rw [← String.isEmpty_iff, Bool.not_eq_true] at hempty
    simp only [hempty, Bool.false_or, Bool.false_eq_true, if_false]
    split <;> rfl

theorem front_join {name : String} (h : IsEntryName name) (directory : String) :
    front (join directory name).toList = front directory.toList := by
  rw [join_eq h, String.toList_append, ← front_entered]
  rcases entered_end directory with hempty | ⟨before, hslash⟩
  · rw [hempty, List.nil_append, front_of_isEntryName h]
    rfl
  · rw [hslash, List.append_assoc, List.singleton_append, front_slash]

theorem steps_join {name : String} (h : IsEntryName name) (directory : String) :
    steps (join directory name).toList = steps directory.toList ++ [name] := by
  rw [join_eq h, String.toList_append, ← steps_entered]
  rcases entered_end directory with hempty | ⟨before, hslash⟩
  · rw [hempty, List.nil_append, steps_of_isEntryName h, steps_empty, List.nil_append]
  · rw [hslash, List.append_assoc, List.singleton_append, steps_slash, steps_concat_slash,
      steps_of_isEntryName h]

/-- The directory of a name that is joined to a path is the path, tidied up. -/
theorem parent_join {name : String} (h : IsEntryName name) (directory : String) :
    parent (join directory name) = .ofList (tidied directory.toList) := by
  have hdrop : ((join directory name).toList.reverse.dropWhile (· ≠ '/')).reverse =
      (entered directory).toList := by
    rw [join_eq h, String.toList_append, List.reverse_append, List.dropWhile_append_of_pos]
    · rcases entered_end directory with hempty | ⟨before, hslash⟩
      · rw [hempty]
        rfl
      · rw [hslash, List.reverse_append]
        simp
    · intro c hc
      exact decide_eq_true fun heq => h.no_slash (heq ▸ List.mem_reverse.mp hc)
  rw [parent, hdrop, tidied_entered]

theorem no_nul_join {name : String} (h : IsEntryName name) {directory : String}
    (hd : '\x00' ∉ directory.toList) : '\x00' ∉ (join directory name).toList := by
  rw [join_eq h, String.toList_append, List.mem_append, not_or]
  refine ⟨?_, h.no_nul⟩
  rcases toList_entered directory with ⟨heq, -⟩ | ⟨heq, -⟩
  · rwa [heq]
  · rw [heq, List.mem_append, not_or]
    exact ⟨hd, by decide⟩

end Path

end ScriptedDialog.Files
