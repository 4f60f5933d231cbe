import Mathlib.Data.List.Nodup
import ScriptedDialog.Proofs.Files.Trees
import ScriptedDialog.TestCase.Discover

/-! Finding test cases misses none and finds none twice. The ways down to the case files of a
tree are found by its recursion, so they are all there, each once; the paths they are turned
into have the parts of the root and then the names of the way, so that what sorts the ways
sorts the paths. -/

namespace ScriptedDialog.TestCase

open Files Listing

/-! ### Ways to case files -/

/-- A file of the right name is among the entries; a directory of that name is not enough. -/
def HoldsCase (listing : Listing) : Prop :=
  ∃ content, listing.find? fileName = some (.file content)

theorem nil_mem_caseWays_iff {listing : Listing} (h : listing.IsTree) :
    [] ∈ caseWays listing ↔ HoldsCase listing := by
  induction listing with
  | nil => simp [caseWays, HoldsCase, find?]
  | file name content rest ih =>
    obtain ⟨-, -, hrest⟩ := h
    by_cases hname : name = fileName
    · simp [caseWays, HoldsCase, find?, hname]
    · have ih := ih hrest
      simpa [caseWays, HoldsCase, find?, hname] using ih
  | directory name contents rest _ ih =>
    obtain ⟨-, hnew, -, hrest⟩ := h
    have hways : [] ∈ caseWays (directory name contents rest) ↔ [] ∈ caseWays rest := by
      simp [caseWays]
    rw [hways, ih hrest, HoldsCase, HoldsCase]
    by_cases hname : name = fileName
    · refine iff_of_false ?_ (by simp [find?, hname])
      rintro ⟨_, hfind⟩
      exact hnew (hname ▸ mem_names_of_find? hfind)
    · rw [find?, if_neg hname]

theorem cons_mem_caseWays_iff {listing : Listing} (h : listing.IsTree) {name : String}
    {way : List String} : name :: way ∈ caseWays listing ↔
      ∃ contents, listing.find? name = some (.directory contents) ∧ way ∈ caseWays contents := by
  induction listing with
  | nil => simp [caseWays, find?]
  | file n content rest ih =>
    obtain ⟨-, hnew, hrest⟩ := h
    have hways : name :: way ∈ caseWays (file n content rest) ↔ name :: way ∈ caseWays rest := by
      rw [caseWays]
      split <;> simp
    rw [hways, ih hrest]
    by_cases hn : n = name
    · refine iff_of_false ?_ (by simp [find?, hn])
      rintro ⟨_, hfind, -⟩
      exact hnew (hn ▸ mem_names_of_find? hfind)
    · rw [find?, if_neg hn]
  | directory n contents rest _ ih =>
    obtain ⟨-, hnew, -, hrest⟩ := h
    have hways : name :: way ∈ caseWays (directory n contents rest) ↔
        (n = name ∧ way ∈ caseWays contents) ∨ name :: way ∈ caseWays rest := by
      simp [caseWays, and_comm]
    rw [hways, ih hrest]
    by_cases hn : n = name
    · have hno : ¬ ∃ contents, rest.find? name = some (.directory contents) ∧
          way ∈ caseWays contents := by
        rintro ⟨_, hfind, -⟩
        exact hnew (hn ▸ mem_names_of_find? hfind)
      simp [find?, hn, hno]
    · simp [find?, hn]

theorem mem_caseWays_iff {listing : Listing} (h : listing.IsTree) {way : List String} :
    way ∈ caseWays listing ↔ ∃ inner, listing.directory? way = some inner ∧ HoldsCase inner := by
  induction way generalizing listing with
  | nil => simp [nil_mem_caseWays_iff h, directory?]
  | cons name way ih =>
    rw [cons_mem_caseWays_iff h]
    constructor
    · rintro ⟨contents, hfind, hway⟩
      obtain ⟨inner, hinner, hcase⟩ := (ih ((h.of_find? hfind).2 contents rfl)).mp hway
      exact ⟨inner, directory?_cons_eq_some.mpr ⟨contents, hfind, hinner⟩, hcase⟩
    · rintro ⟨inner, hinner, hcase⟩
      obtain ⟨contents, hfind, hinner⟩ := directory?_cons_eq_some.mp hinner
      exact ⟨contents, hfind, (ih ((h.of_find? hfind).2 contents rfl)).mpr ⟨inner, hinner, hcase⟩⟩

theorem nodup_caseWays {listing : Listing} (h : listing.IsTree) : (caseWays listing).Nodup := by
  induction listing with
  | nil => exact List.nodup_nil
  | file name content rest ih =>
    obtain ⟨-, hnew, hrest⟩ := h
    rw [caseWays]
    split
    · next hname =>
      refine List.nodup_cons.mpr ⟨fun hnil => ?_, ih hrest⟩
      obtain ⟨_, hfind⟩ := (nil_mem_caseWays_iff hrest).mp hnil
      exact hnew (hname ▸ mem_names_of_find? hfind)
    · exact ih hrest
  | directory name contents rest ihcontents ihrest =>
    obtain ⟨-, hnew, hcontents, hrest⟩ := h
    rw [caseWays]
    refine List.Nodup.append ((ihcontents hcontents).map ?_) (ihrest hrest) ?_
    · exact fun _ _ heq => (List.cons.inj heq).2
    · intro way hway hother
      obtain ⟨way, -, rfl⟩ := List.mem_map.mp hway
      obtain ⟨_, hfind, -⟩ := (cons_mem_caseWays_iff hrest).mp hother
      exact hnew (mem_names_of_find? hfind)

/-! ### The order of ways -/

theorem wayOrder_iff {a b : List String} : wayOrder a b = true ↔ ¬ b < a := by
  rw [wayOrder, Bool.not_eq_true', decide_eq_false_iff_not]

theorem wayOrder_trans (a b c : List String) :
    wayOrder a b = true → wayOrder b c = true → wayOrder a c = true := by
  intro hab hbc
  have hab := List.not_lt.mp (wayOrder_iff.mp hab)
  have hbc := List.not_lt.mp (wayOrder_iff.mp hbc)
  exact wayOrder_iff.mpr (List.not_lt.mpr (List.le_trans hab hbc))

theorem wayOrder_total (a b : List String) : (wayOrder a b || wayOrder b a) = true := by
  rw [Bool.or_eq_true, wayOrder_iff, wayOrder_iff]
  exact (List.le_total a b).imp List.not_lt.mpr List.not_lt.mpr

theorem pairwise_mergeSort_wayOrder {ways : List (List String)} (h : ways.Nodup) :
    (ways.mergeSort wayOrder).Pairwise (· < ·) := by
  have hsorted := List.pairwise_mergeSort wayOrder_trans wayOrder_total ways
  have hnodup : (ways.mergeSort wayOrder).Nodup :=
    (List.mergeSort_perm ways wayOrder).nodup_iff.mpr h
  refine (hsorted.and hnodup).imp fun ⟨horder, hne⟩ => ?_
  have hle := List.not_lt.mp (wayOrder_iff.mp horder)
  exact (List.le_iff_lt_or_eq.mp hle).resolve_right hne

/-! ### The paths of ways -/

section
variable {root : String} {way : List String}

theorem isEntryName_fileName : IsEntryName fileName := by decide

theorem front_openPath (hway : ∀ name ∈ way, IsEntryName name) :
    Path.front (openPath root way).toList = Path.front root.toList := by
  induction way generalizing root with
  | nil => rfl
  | cons name way ih =>
    obtain ⟨hname, hway⟩ := List.forall_mem_cons.mp hway
    exact (ih hway).trans (Path.front_join hname root)

theorem steps_openPath (hway : ∀ name ∈ way, IsEntryName name) :
    Path.steps (openPath root way).toList = Path.steps root.toList ++ way := by
  induction way generalizing root with
  | nil => exact (List.append_nil _).symm
  | cons name way ih =>
    obtain ⟨hname, hway⟩ := List.forall_mem_cons.mp hway
    show Path.steps (openPath (Path.join root name) way).toList = _
    rw [ih hway, Path.steps_join hname, List.append_assoc, List.singleton_append]

theorem no_nul_openPath (hway : ∀ name ∈ way, IsEntryName name) (hroot : '\x00' ∉ root.toList) :
    '\x00' ∉ (openPath root way).toList := by
  induction way generalizing root with
  | nil => exact hroot
  | cons name way ih =>
    obtain ⟨hname, hway⟩ := List.forall_mem_cons.mp hway
    exact ih hway (Path.no_nul_join hname hroot)

theorem wayPath_eq (root : String) (way : List String) :
    wayPath root way = .ofList (Path.tidied (openPath root way).toList) :=
  Path.parent_join isEntryName_fileName _

theorem front_wayPath (hway : ∀ name ∈ way, IsEntryName name) :
    Path.front (wayPath root way).toList = Path.front root.toList := by
  rw [wayPath_eq, String.toList_ofList, Path.front_tidied, front_openPath hway]

theorem steps_wayPath (hway : ∀ name ∈ way, IsEntryName name) :
    Path.steps (wayPath root way).toList = Path.steps root.toList ++ way := by
  rw [wayPath_eq, String.toList_ofList, Path.steps_tidied, steps_openPath hway]

/-- The parts of the root come first and then the names on the way. -/
theorem parts_wayPath (hway : ∀ name ∈ way, IsEntryName name) :
    Path.parts (wayPath root way) = Path.parts root ++ way.map .name := by
  have hparts : way.map Path.Part.ofStep = way.map .name :=
    List.map_congr_left fun name hname => if_neg (hway name hname).ne_up
  rw [Path.parts, front_wayPath hway, steps_wayPath hway, List.map_append, hparts,
    ← List.append_assoc, Path.parts]

variable {top inner : Listing}

theorem isEntryName_of_leads (htree : top.IsTree) (h : top.Leads root way inner) :
    ∀ name ∈ way, IsEntryName name := by
  obtain ⟨contents, hroot, hway⟩ := h
  exact (htree.of_lookup hroot).isEntryName_of_mem hway

/-- The path of a way opens the directory to which the way leads. -/
theorem lookup_wayPath (htree : top.IsTree) (h : top.Leads root way inner)
    (hopens : opens root way = true) : top.lookup (wayPath root way) = .ok (.directory inner) := by
  have hway := isEntryName_of_leads htree h
  have hnul : '\x00' ∉ (openPath root way).toList := by
    obtain ⟨contents, hroot, -⟩ := h
    exact no_nul_openPath hway (lookup_eq_directory_iff.mp hroot).1
  refine h.lookup_eq htree ?_ ?_ (front_wayPath hway) (steps_wayPath hway)
  · rw [wayPath_eq, String.toList_ofList]
    exact fun hmem => hnul ((Path.isPrefix_tidied _).subset hmem)
  · rw [wayPath_eq]
    exact Nat.lt_of_le_of_lt (Path.utf8ByteSize_tidied_le _) (decide_eq_true_eq.mp hopens)

theorem wayPath_lt_wayPath {way' : List String} (hway : ∀ name ∈ way, IsEntryName name)
    (hway' : ∀ name ∈ way', IsEntryName name) (h : way < way') :
    Path.parts (wayPath root way) < Path.parts (wayPath root way') := by
  rw [parts_wayPath hway, parts_wayPath hway']
  exact List.append_left_lt (List.map_lt (fun _ _ => Path.Part.name_lt_name.mpr) h)

end

/-! ### The directories found -/

section
variable {top : Listing} {root : String} (htree : top.IsTree)
  (hroot : ∀ content, top.lookup root ≠ .ok (.file content))
  (hvisited : ∀ way inner, top.Leads root way inner → opens root way = true)
include htree hroot hvisited

/-- A root that is not a file is a directory or leads nowhere. -/
theorem directories_cases :
    (∃ contents, top.lookup root = .ok (.directory contents) ∧
        directories top root = ((caseWays contents).mergeSort wayOrder).map (wayPath root)) ∨
      directories top root = [] ∧ ∀ way inner, ¬ top.Leads root way inner := by
  cases hlookup : top.lookup root with
  | error fault =>
    right
    refine ⟨by rw [directories, hlookup], ?_⟩
    rintro way inner ⟨contents, h, -⟩
    cases hlookup.symm.trans h
  | ok entry =>
    cases entry with
    | file content => exact absurd hlookup (hroot content)
    | directory contents =>
      left
      have hall : (caseWays contents).filter (opens root) = caseWays contents := by
        refine List.filter_eq_self.mpr fun way hway => ?_
        obtain ⟨inner, hinner, -⟩ := (mem_caseWays_iff (htree.of_lookup hlookup)).mp hway
        exact hvisited way inner ⟨contents, hlookup, hinner⟩
      refine ⟨contents, rfl, ?_⟩
      rw [directories, hlookup]
      exact congrArg (fun ways => (List.mergeSort ways wayOrder).map (wayPath root)) hall

theorem mem_directories_iff {path : String} : path ∈ directories top root ↔
    ∃ way inner, top.Leads root way inner ∧ HoldsCase inner ∧ path = wayPath root way := by
  rcases directories_cases htree hroot hvisited with ⟨contents, hlookup, heq⟩ | ⟨heq, hno⟩
  · have hcontents := htree.of_lookup hlookup
    simp only [heq, List.mem_map, List.mem_mergeSort, mem_caseWays_iff hcontents]
    constructor
    · rintro ⟨way, ⟨inner, hway, hcase⟩, rfl⟩
      exact ⟨way, inner, ⟨contents, hlookup, hway⟩, hcase, rfl⟩
    · rintro ⟨way, inner, ⟨_, hlookup', hway⟩, hcase, rfl⟩
      cases hlookup.symm.trans hlookup'
      exact ⟨way, ⟨inner, hway, hcase⟩, rfl⟩
  · rw [heq]
    refine iff_of_false List.not_mem_nil ?_
    rintro ⟨way, inner, hway, -⟩
    exact hno way inner hway

theorem directories_eq_nil_iff : directories top root = [] ↔
    ∀ way inner, top.Leads root way inner → ¬ HoldsCase inner := by
  rw [List.eq_nil_iff_forall_not_mem]
  constructor
  · intro h way inner hway hcase
    exact h _ ((mem_directories_iff htree hroot hvisited).mpr ⟨way, inner, hway, hcase, rfl⟩)
  · intro h path hpath
    obtain ⟨way, inner, hway, hcase, -⟩ := (mem_directories_iff htree hroot hvisited).mp hpath
    exact h way inner hway hcase

theorem pairwise_directories :
    (directories top root).Pairwise fun a b => Path.parts a < Path.parts b := by
  rcases directories_cases htree hroot hvisited with ⟨contents, hlookup, heq⟩ | ⟨heq, -⟩
  · have hcontents := htree.of_lookup hlookup
    have hnames {way : List String} (h : way ∈ (caseWays contents).mergeSort wayOrder) :
        ∀ name ∈ way, IsEntryName name := by
      obtain ⟨inner, hway, -⟩ := (mem_caseWays_iff hcontents).mp (List.mem_mergeSort.mp h)
      exact hcontents.isEntryName_of_mem hway
    rw [heq, List.pairwise_map]
    exact (pairwise_mergeSort_wayOrder (nodup_caseWays hcontents)).imp_of_mem
      fun hmem hmem' hlt => wayPath_lt_wayPath (hnames hmem) (hnames hmem') hlt
  · rw [heq]
    exact List.Pairwise.nil

end

theorem discover_eq_error_iff (top : Listing) (root : String) :
    discover top root = .error (.noCases fileName root) ↔ directories top root = [] := by
  unfold discover
  split
  · next h => exact iff_of_true rfl h
  · next h => exact iff_of_false nofun h

theorem discover_eq_ok {top : Listing} {root : String} (h : directories top root ≠ []) :
    discover top root = .ok (directories top root) := by
  unfold discover
  split
  · next hnil => exact absurd hnil h
  · rfl

/-- In a tree, if the root is no file and no path below it is too long to be opened, the
directories that hold a case file at or below the root are found, all of them and no others,
each once and in the order of the parts of their paths. If there are none, which is so if
the root is not there, that is the failure. The path of a directory below the root has the
parts of the root and then the names on the way, and opens that directory. -/
theorem discover_complete (top : Listing) (root : String) (htree : top.IsTree)
    (hroot : ∀ content, top.lookup root ≠ .ok (.file content))
    (hvisited : ∀ way inner, top.Leads root way inner → opens root way = true) :
    (discover top root = .error (.noCases fileName root) ↔
      ∀ way inner, top.Leads root way inner → ¬ HoldsCase inner) ∧
    ((∃ way inner, top.Leads root way inner ∧ HoldsCase inner) →
      ∃ found, discover top root = .ok found ∧
        found.Pairwise (fun a b => Path.parts a < Path.parts b) ∧
        ∀ path, path ∈ found ↔ ∃ way inner, top.Leads root way inner ∧ HoldsCase inner ∧
          path = wayPath root way) ∧
    ∀ way inner, top.Leads root way inner →
      Path.parts (wayPath root way) = Path.parts root ++ way.map .name ∧
        top.lookup (wayPath root way) = .ok (.directory inner) := by
  have hnone := directories_eq_nil_iff htree hroot hvisited
  refine ⟨(discover_eq_error_iff top root).trans hnone, ?_, fun way inner hway => ?_⟩
  · rintro ⟨way, inner, hway, hcase⟩
    have hne : directories top root ≠ [] := fun h => hnone.mp h way inner hway hcase
    exact ⟨directories top root, discover_eq_ok hne, pairwise_directories htree hroot hvisited,
      fun path => mem_directories_iff htree hroot hvisited⟩
  · exact ⟨parts_wayPath (isEntryName_of_leads htree hway),
      lookup_wayPath htree hway (hvisited way inner hway)⟩

/-- Among texts a hyphen comes before a slash, but not among parts. The directory with the name
of a case file holds none. -/
theorem discover_complete_hyphen :
    let held : Listing := .file fileName .empty .nil
    let tests : Listing := .directory "a-b" held
      (.directory fileName .nil (.directory "a" (.directory "x" held .nil) .nil))
    let top : Listing := .directory "tests" tests .nil
    top.IsTree ∧ discover top "tests/" = .ok ["tests/a/x", "tests/a-b"] ∧
      "tests/a-b" < "tests/a/x" ∧ Path.parts "tests/a/x" < Path.parts "tests/a-b" ∧
      top.lookup "tests/a/x" = .ok (.directory held) := by
  intro held tests top
  have htree : top.IsTree := by decide
  have hlookup : top.lookup "tests/" = .ok (.directory tests) := by
    have hsteps : Path.steps "tests/".toList = ["tests"] := by decide +kernel
    have hname : IsEntryName "tests" := by decide
    have hfind : top.find? "tests" = some (.directory tests) := by simp [top, find?]
    refine lookup_eq_directory_iff.mpr ⟨by decide, by decide, by decide, ?_⟩
    rw [hsteps]
    exact (follow_name hname hfind [] []).trans (follow_nil _ _)
  have hroot : ∀ content, top.lookup "tests/" ≠ .ok (.file content) := by
    intro content h
    cases hlookup.symm.trans h
  have hways : ∀ way ∈ tests.ways, opens "tests/" way = true := by decide +kernel
  have hvisited : ∀ way inner, top.Leads "tests/" way inner → opens "tests/" way = true := by
    rintro way inner ⟨contents, hcontents, hway⟩
    cases hlookup.symm.trans hcontents
    exact hways way (mem_ways hway)
  have hleads : top.Leads "tests/" ["a", "x"] held :=
    ⟨tests, hlookup, by simp [tests, directory?, find?, fileName]⟩
  have hcase : HoldsCase held := ⟨.empty, by simp [held, find?]⟩
  have hpath : wayPath "tests/" ["a", "x"] = "tests/a/x" := by decide +kernel
  have hsort : ((caseWays tests).filter (opens "tests/")).mergeSort wayOrder =
      [["a", "x"], ["a-b"]] := by
    have hcases : (caseWays tests).filter (opens "tests/") = [["a-b"], ["a", "x"]] := by
      decide +kernel
    have horder : wayOrder ["a-b"] ["a", "x"] = false := by decide
    rw [hcases]
    simp [List.mergeSort, horder]
  have hfound : discover top "tests/" = .ok ["tests/a/x", "tests/a-b"] := by
    have hdirectories : directories top "tests/" = ["tests/a/x", "tests/a-b"] := by
      simp only [directories, hlookup, hsort]
      decide +kernel
    rw [discover, hdirectories]
  obtain ⟨-, hcases, hpaths⟩ := discover_complete top "tests/" htree hroot hvisited
  obtain ⟨found, h, hsorted, -⟩ := hcases ⟨["a", "x"], held, hleads, hcase⟩
  obtain rfl : _ = found := Except.ok.inj (hfound.symm.trans h)
  refine ⟨htree, hfound, by decide, ?_, ?_⟩
  · exact List.rel_of_pairwise_cons hsorted List.mem_cons_self
  · exact hpath ▸ (hpaths ["a", "x"] held hleads).2

end ScriptedDialog.TestCase
