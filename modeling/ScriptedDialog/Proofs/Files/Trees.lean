import ScriptedDialog.Proofs.Files.Paths

/-! Trees of directories and what paths open in them. In a tree the entries of a directory
have names of their own, so that a way of names leads to one place. What a path opens depends
on its front and its steps only, and to follow a way from a directory that a path opens is to
open a path with the steps of both. -/

namespace ScriptedDialog.Files.Listing

/-! ### Trees -/

def names : Listing → List String
  | nil => []
  | file name _ rest | directory name _ rest => name :: rest.names

/-- In each directory, at any depth, every entry has a name and no other has the same. -/
def IsTree : Listing → Prop
  | nil => True
  | file name _ rest => IsEntryName name ∧ name ∉ rest.names ∧ rest.IsTree
  | directory name contents rest =>
    IsEntryName name ∧ name ∉ rest.names ∧ contents.IsTree ∧ rest.IsTree

instance decidableIsTree : (listing : Listing) → Decidable listing.IsTree
  | nil => inferInstanceAs (Decidable True)
  | file name _ rest =>
    have := decidableIsTree rest
    inferInstanceAs (Decidable (IsEntryName name ∧ name ∉ rest.names ∧ rest.IsTree))
  | directory name contents rest =>
    have := decidableIsTree contents
    have := decidableIsTree rest
    inferInstanceAs
      (Decidable (IsEntryName name ∧ name ∉ rest.names ∧ contents.IsTree ∧ rest.IsTree))

/-- The listing to which a way of names leads. -/
def directory? : Listing → List String → Option Listing
  | listing, [] => some listing
  | listing, name :: way =>
    match listing.find? name with
    | some (.directory contents) => contents.directory? way
    | _ => none

theorem mem_names_of_find? {listing : Listing} {name : String} {entry : Entry}
    (h : listing.find? name = some entry) : name ∈ listing.names := by
  induction listing with
  | nil => cases h
  | file n _ rest ih =>
    rw [find?] at h
    split at h
    · next hn => exact hn ▸ List.mem_cons_self
    · exact List.mem_cons_of_mem _ (ih h)
  | directory n contents rest _ ih =>
    rw [find?] at h
    split at h
    · next hn => exact hn ▸ List.mem_cons_self
    · exact List.mem_cons_of_mem _ (ih h)

theorem IsTree.of_find? {listing : Listing} (h : listing.IsTree) {name : String} {entry : Entry}
    (hfind : listing.find? name = some entry) :
    IsEntryName name ∧ ∀ contents, entry = .directory contents → contents.IsTree := by
  induction listing with
  | nil => cases hfind
  | file n _ rest ih =>
    obtain ⟨hname, -, hrest⟩ := h
    rw [find?] at hfind
    split at hfind
    · next hn =>
      cases hfind
      exact ⟨hn ▸ hname, nofun⟩
    · exact ih hrest hfind
  | directory n contents rest _ ih =>
    obtain ⟨hname, -, hcontents, hrest⟩ := h
    rw [find?] at hfind
    split at hfind
    · next hn =>
      cases hfind
      exact ⟨hn ▸ hname, fun _ heq => Entry.directory.inj heq ▸ hcontents⟩
    · exact ih hrest hfind

theorem directory?_cons_eq_some {listing inner : Listing} {name : String} {way : List String} :
    listing.directory? (name :: way) = some inner ↔
      ∃ contents, listing.find? name = some (.directory contents) ∧
        contents.directory? way = some inner := by
  rw [directory?]
  split
  · next contents hfind => simp [hfind]
  · next hfind =>
    refine iff_of_false nofun ?_
    rintro ⟨contents, h, -⟩
    exact hfind contents h

theorem IsTree.isEntryName_of_mem {listing inner : Listing} (h : listing.IsTree) {way : List String}
    (hway : listing.directory? way = some inner) : ∀ name ∈ way, IsEntryName name := by
  induction way generalizing listing with
  | nil => exact List.forall_mem_nil _
  | cons name way ih =>
    obtain ⟨contents, hfind, hway⟩ := directory?_cons_eq_some.mp hway
    obtain ⟨hname, hcontents⟩ := h.of_find? hfind
    exact List.forall_mem_cons.mpr ⟨hname, ih (hcontents contents rfl) hway⟩

/-- All ways down from a listing. -/
def ways : Listing → List (List String)
  | nil => [[]]
  | file _ _ rest => rest.ways
  | directory name contents rest => contents.ways.map (name :: ·) ++ rest.ways

theorem mem_ways {listing inner : Listing} {way : List String}
    (h : listing.directory? way = some inner) : way ∈ listing.ways := by
  induction listing generalizing way inner with
  | nil =>
    cases way with
    | nil => exact List.mem_cons_self
    | cons name way => cases h
  | file n content rest ih =>
    cases way with
    | nil => exact ih rfl
    | cons name way =>
      obtain ⟨contents, hfind, hway⟩ := directory?_cons_eq_some.mp h
      rw [find?] at hfind
      split at hfind
      · cases hfind
      · exact ih (directory?_cons_eq_some.mpr ⟨contents, hfind, hway⟩)
  | directory n listing rest ihinner ihrest =>
    cases way with
    | nil => exact List.mem_append_right _ (ihrest rfl)
    | cons name way =>
      obtain ⟨contents, hfind, hway⟩ := directory?_cons_eq_some.mp h
      rw [find?] at hfind
      split at hfind
      · next hn =>
        cases hfind
        exact List.mem_append_left _ (hn ▸ List.mem_map_of_mem (ihinner hway))
      · exact List.mem_append_right _
          (ihrest (directory?_cons_eq_some.mpr ⟨contents, hfind, hway⟩))

/-! ### Following -/

theorem follow_nil (outer : List Listing) (entry : Entry) : follow outer entry [] = .ok entry := by
  cases entry <;> rfl

/-- A place in a tree, with all that is above it. -/
def InTree (outer : List Listing) (entry : Entry) : Prop :=
  (∀ listing ∈ outer, listing.IsTree) ∧ ∀ contents, entry = .directory contents → contents.IsTree

theorem follow_file_ne {outer : List Listing} {content : ByteArray} {path : List String}
    {last : Listing} : follow outer (.file content) path ≠ .ok (.directory last) := by
  cases path <;> exact nofun

theorem follow_stay {name : String} (h : name = "" ∨ name = ".") (outer : List Listing)
    (contents : Listing) (path : List String) : follow outer (.directory contents) (name :: path) =
      follow outer (.directory contents) path := by
  simp only [follow, if_pos h]

theorem follow_name {name : String} (h : IsEntryName name) {contents : Listing} {entry : Entry}
    (hfind : contents.find? name = some entry) (outer : List Listing) (path : List String) :
    follow outer (.directory contents) (name :: path) = follow (contents :: outer) entry path := by
  simp only [follow, if_neg (not_or.mpr ⟨h.ne_empty, h.ne_here⟩), if_neg h.ne_up,
    if_neg (Nat.not_lt.mpr h.size_le), hfind]

/-- From a place a component leads to another, in the same tree, or nowhere. -/
theorem follow_cons (outer : List Listing) (entry : Entry) (name : String) :
    (∃ outer' next, (InTree outer entry → InTree outer' next) ∧
        ∀ path, follow outer entry (name :: path) = follow outer' next path) ∨
      ∃ fault, ∀ path, follow outer entry (name :: path) = .error fault := by
  rcases entry with content | contents
  · exact Or.inr ⟨.notDirectory, fun _ => rfl⟩
  by_cases hstay : name = "" ∨ name = "."
  · exact Or.inl ⟨outer, .directory contents, id, follow_stay hstay outer contents⟩
  simp only [follow, if_neg hstay]
  by_cases hup : name = ".."
  · simp only [if_pos hup]
    cases outer with
    | nil =>
      refine Or.inl ⟨[], .directory nil, fun _ => ⟨nofun, ?_⟩, fun _ => rfl⟩
      exact fun _ heq => Entry.directory.inj heq ▸ trivial
    | cons above outer =>
      refine Or.inl ⟨outer, .directory above, fun h => ⟨?_, ?_⟩, fun _ => rfl⟩
      · exact fun listing hl => h.1 listing (List.mem_cons_of_mem _ hl)
      · exact fun _ heq => Entry.directory.inj heq ▸ h.1 above List.mem_cons_self
  simp only [if_neg hup]
  by_cases hsize : name.utf8ByteSize > maxName
  · exact Or.inr ⟨.nameTooLong, fun _ => if_pos hsize⟩
  simp only [if_neg hsize]
  cases hfind : contents.find? name with
  | none => exact Or.inr ⟨.notFound, fun _ => rfl⟩
  | some entry =>
    refine Or.inl ⟨contents :: outer, entry, fun h => ?_, fun _ => rfl⟩
    have hcontents := h.2 contents rfl
    exact ⟨List.forall_mem_cons.mpr ⟨hcontents, h.1⟩, (hcontents.of_find? hfind).2⟩

theorem follow_append {outer : List Listing} {entry last : Entry} {path : List String}
    (h : follow outer entry path = .ok last) :
    ∃ outer', ∀ more, follow outer entry (path ++ more) = follow outer' last more := by
  induction path generalizing outer entry with
  | nil =>
    obtain rfl := Except.ok.inj ((follow_nil outer entry).symm.trans h)
    exact ⟨outer, fun _ => rfl⟩
  | cons name path ih =>
    rcases follow_cons outer entry name with ⟨outer', next, -, hnext⟩ | ⟨fault, hfault⟩
    · obtain ⟨outer'', hmore⟩ := ih ((hnext path).symm.trans h)
      exact ⟨outer'', fun more => (hnext (path ++ more)).trans (hmore more)⟩
    · cases (hfault path).symm.trans h

/-- Empty components and single dots do not matter to what is a directory in the end. -/
theorem follow_filter {outer : List Listing} {entry : Entry} {path : List String}
    {last : Listing} :
    follow outer entry (path.filter fun c => c ≠ "" ∧ c ≠ ".") = .ok (.directory last) ↔
      follow outer entry path = .ok (.directory last) := by
  induction path generalizing outer entry with
  | nil => rfl
  | cons name path ih =>
    by_cases hstay : name = "" ∨ name = "."
    · have hdrop : (name :: path).filter (fun c => c ≠ "" ∧ c ≠ ".") =
          path.filter fun c => c ≠ "" ∧ c ≠ "." :=
        List.filter_cons_of_neg (by rcases hstay with rfl | rfl <;> simp)
      rw [hdrop, ih]
      cases entry with
      | file content => exact iff_of_false follow_file_ne follow_file_ne
      | directory contents => rw [follow_stay hstay]
    · have hkeep : (name :: path).filter (fun c => c ≠ "" ∧ c ≠ ".") =
          name :: path.filter fun c => c ≠ "" ∧ c ≠ "." :=
        List.filter_cons_of_pos (by simpa [not_or] using hstay)
      rw [hkeep]
      rcases follow_cons outer entry name with ⟨outer', next, -, hnext⟩ | ⟨fault, hfault⟩
      · rw [hnext, hnext, ih]
      · rw [hfault, hfault]

theorem isTree_of_follow {outer : List Listing} {entry : Entry} {path : List String}
    (htree : InTree outer entry) {last : Listing}
    (h : follow outer entry path = .ok (.directory last)) : last.IsTree := by
  induction path generalizing outer entry with
  | nil => exact htree.2 last (Except.ok.inj ((follow_nil outer entry).symm.trans h))
  | cons name path ih =>
    rcases follow_cons outer entry name with ⟨outer', next, hin, hnext⟩ | ⟨fault, hfault⟩
    · exact ih (hin htree) ((hnext path).symm.trans h)
    · cases (hfault path).symm.trans h

theorem IsTree.follow_eq {listing : Listing} (h : listing.IsTree) {way : List String}
    {inner : Listing} (hway : listing.directory? way = some inner) (outer : List Listing) :
    follow outer (.directory listing) way = .ok (.directory inner) := by
  induction way generalizing listing outer with
  | nil =>
    cases hway
    exact follow_nil outer _
  | cons name way ih =>
    obtain ⟨contents, hfind, hway⟩ := directory?_cons_eq_some.mp hway
    obtain ⟨hname, hcontents⟩ := h.of_find? hfind
    rw [follow_name hname hfind]
    exact ih (hcontents contents rfl) hway _

/-! ### Looking up -/

open Files.Path

/-- Where a path starts. -/
def start (top : Listing) (path : String) : Listing :=
  if front path.toList = [.top] then nil else top

theorem lookup_eq_directory_iff {top last : Listing} {path : String} :
    top.lookup path = .ok (.directory last) ↔
      '\x00' ∉ path.toList ∧ path ≠ "" ∧ path.utf8ByteSize < maxPath ∧
        follow [] (.directory (top.start path)) (steps path.toList) = .ok (.directory last) := by
  have hsteps : steps path.toList = (components path).filter fun c => c ≠ "" ∧ c ≠ "." := by
    rw [steps, String.ofList_toList]
  rw [hsteps, follow_filter, lookup]
  by_cases hnul : '\x00' ∈ path.toList
  · simp [hnul]
  by_cases hempty : path = ""
  · simp [hempty]
  by_cases hsize : path.utf8ByteSize ≥ maxPath
  · simp [hnul, hempty, hsize, Nat.not_lt.mpr hsize]
  by_cases htop : path.startsWith "/" = true
  · have hstart : top.start path = nil := if_pos (startsWith_iff_front.mp htop)
    simp [hnul, hempty, hsize, htop, hstart, Nat.lt_of_not_ge hsize]
  · have hstart : top.start path = top := if_neg (mt startsWith_iff_front.mpr htop)
    simp [hnul, hempty, hsize, htop, hstart, Nat.lt_of_not_ge hsize]

theorem IsTree.of_lookup {top : Listing} (h : top.IsTree) {path : String} {last : Listing}
    (hlookup : top.lookup path = .ok (.directory last)) : last.IsTree := by
  refine isTree_of_follow ⟨List.forall_mem_nil _, fun contents hstart => ?_⟩
    (lookup_eq_directory_iff.mp hlookup).2.2.2
  rw [← Entry.directory.inj hstart, start]
  split
  · trivial
  · exact h

/-- From the directory that a path opens a way leads to a listing. -/
def Leads (top : Listing) (path : String) (way : List String) (inner : Listing) : Prop :=
  ∃ contents, top.lookup path = .ok (.directory contents) ∧ contents.directory? way = some inner

/-- A path with the steps of another and of a way opens what the way leads to. -/
theorem Leads.lookup_eq {top inner : Listing} (htree : top.IsTree) {root path : String}
    {way : List String} (h : top.Leads root way inner) (hnul : '\x00' ∉ path.toList)
    (hsize : path.utf8ByteSize < maxPath) (hfront : front path.toList = front root.toList)
    (hsteps : steps path.toList = steps root.toList ++ way) :
    top.lookup path = .ok (.directory inner) := by
  obtain ⟨contents, hroot, hway⟩ := h
  obtain ⟨-, hne, -, hfollow⟩ := lookup_eq_directory_iff.mp hroot
  obtain ⟨outer, hmore⟩ := follow_append hfollow
  refine lookup_eq_directory_iff.mpr ⟨hnul, ?_, hsize, ?_⟩
  · rintro rfl
    refine hne (String.toList_eq_nil_iff.mp (eq_nil_of_no_part hfront.symm ?_))
    exact (List.append_eq_nil_iff.mp hsteps.symm).1
  · rw [start, hfront, hsteps, ← start, hmore]
    exact (htree.of_lookup hroot).follow_eq hway outer

end ScriptedDialog.Files.Listing
