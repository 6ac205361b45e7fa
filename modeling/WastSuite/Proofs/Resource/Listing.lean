import WastSuite.Proofs.Resource.Directory

/-!
# What an open root lists

The files of an open root are its regular files (`OpenTree.HasChild`): in a directory the entries
that lead to one, and in an archive the entries whose names go on behind the start of the root
without a slash. Whenever a root can be listed at all, it lists exactly those
(`mem_childFiles_iff`).

An archive can always be listed. A directory can be listed exactly if none of its entries leads
nowhere (`OpenTree.LeadsNowhere`), whether or not anyone asks for that entry
(`exists_childFiles_eq_ok`); one that does fails the listing with its own path and the reason of the
store (`exists_childFiles_eq_error`). A directory that can be listed lists exactly the names behind
which it has something to read (`DirectoryTree.mem_childFiles_iff_exists_read`).
-/

set_option autoImplicit false

namespace WastSuite

/-! ### Directories -/

namespace DirectoryTree

variable {store : Store} {tree : DirectoryTree} {root name : String} {top : Location}
  {names fileNames : List String}

/-- An entry that leads nowhere fails the listing, the first such entry that is met. -/
theorem exists_regularFiles_eq_error
    (h : ¬ ∀ name ∈ names, ∃ found, store.find (Path.join root name) = .ok found) :
    ∃ name ∈ names, ∃ fault, store.find (Path.join root name) = .error fault ∧
      regularFiles store root names = .error (.io (Path.join root name) (.refused fault)) := by
  induction names with
  | nil => exact absurd (by simp) h
  | cons name names ih =>
    cases hfind : store.find (Path.join root name) with
    | error fault =>
      refine ⟨name, List.mem_cons_self, fault, hfind, ?_⟩
      rw [regularFiles, hfind]
    | ok found =>
      have hrest : ¬ ∀ name ∈ names, ∃ found, store.find (Path.join root name) = .ok found := by
        intro hall
        refine h fun other hmem ↦ ?_
        rcases List.mem_cons.mp hmem with rfl | hmem
        · exact ⟨found, hfind⟩
        · exact hall other hmem
      obtain ⟨other, hmem, fault, hfault, hfiles⟩ := ih hrest
      refine ⟨other, List.mem_cons_of_mem _ hmem, fault, hfault, ?_⟩
      obtain ⟨there, node⟩ := found
      cases node <;> simp only [regularFiles, hfind, hfiles, Except.map]

/-- A directory that can be listed lists the entries that lead to regular files. -/
theorem mem_childFiles_iff (h : tree.childFiles store = .ok fileNames) : name ∈ fileNames ↔
    (∃ names, store.list tree.root = .ok names ∧ name ∈ names) ∧
      store.isFile (Path.join tree.root name) = true := by
  unfold childFiles at h
  cases hlist : store.list tree.root with
  | error fault => simp [hlist] at h
  | ok names =>
    by_cases hall : ∀ name ∈ names, ∃ found, store.find (Path.join tree.root name) = .ok found
    · simp only [hlist, regularFiles_eq_ok hall, Except.map, Except.ok.injEq] at h
      rw [← h, ← NameSet.mem_def, NameSet.mem_ofList, List.mem_filter]
      simp
    · obtain ⟨other, -, fault, -, hfiles⟩ := exists_regularFiles_eq_error hall
      simp [hlist, hfiles, Except.map] at h

/-- Where a path leads to something behind a name, the directory in front of it has that name. -/
theorem mem_names_of_find {found : Location × Node}
    (hroot : store.find root = .ok (top, .directory)) (hempty : name ≠ "") (hdot : name ≠ ".")
    (hdots : name ≠ "..") (hslash : '/' ∉ name.toList)
    (hfind : store.find (Path.join root name) = .ok found) : name ∈ store.names top := by
  obtain ⟨hnul, -, hfits⟩ := Path.checkPath_eq_ok_iff.mp (Store.checkPath_of_find hfind)
  have habsolute : Path.isAbsolute name = false := by
    simp only [Path.isAbsolute, beq_eq_false_iff_ne]
    intro hhead
    exact hslash (List.mem_of_mem_head? hhead)
  rw [Path.join_eq_append (Store.ne_empty_of_find hroot) habsolute] at hnul
  have hname : Path.IsName name := by
    refine ⟨hempty, hdot, hdots, hslash, fun hmem ↦ hnul ?_⟩
    simp [hmem]
  have hcanonical : Path.Canonical ([] ++ name :: []) := ⟨by simp, by simpa using hname⟩
  have hbelow : Path.join root name = Path.below root ([] ++ name :: []) := by
    rw [Path.below, List.nil_append, Path.spelled_singleton]
  rw [hbelow] at hfind hfits
  rw [Store.mem_names_iff, ← Option.ne_none_iff_isSome]
  intro hnone
  by_cases hsize : name.utf8ByteSize ≤ Store.nameLimit
  · have hmissing := Store.find_below_of_none hroot hcanonical hfits .nil hsize
      (by rwa [List.append_nil])
    cases hfind.symm.trans hmissing
  · have hlong := Store.find_below_of_long hroot hcanonical hfits .nil (Nat.lt_of_not_le hsize)
    cases hfind.symm.trans hlong

/-- A directory that can be listed lists the names behind which it has something to read. Assumes: a
name that an entry can have. -/
theorem mem_childFiles_iff_exists_read (h : tree.childFiles store = .ok fileNames)
    (hempty : name ≠ "") (hdot : name ≠ ".") (hdots : name ≠ "..") (hslash : '/' ∉ name.toList) :
    name ∈ fileNames ↔ ∃ content, tree.read store name = .ok (some content) := by
  simp only [read_eq_some_iff, ← Store.isFile_iff_exists_read, mem_childFiles_iff h]
  refine and_iff_right_of_imp fun hfile ↦ ?_
  obtain ⟨there, number, hfind⟩ := Store.isFile_iff.mp hfile
  cases hlist : store.list tree.root with
  | error fault => simp [childFiles, hlist] at h
  | ok names =>
    obtain ⟨top, hroot, rfl⟩ := Store.list_eq_ok_iff.mp hlist
    exact ⟨_, rfl, mem_names_of_find hroot hempty hdot hdots hslash hfind⟩

end DirectoryTree

/-! ### Archives -/

namespace ArchiveTree

variable {store : Store} {tree : ArchiveTree} {name : String}

/-- An archive lists the names that go on behind the start of the root without a slash. -/
theorem mem_childFiles_iff : name ∈ tree.childFiles ↔
    name ≠ "" ∧ name.contains '/' = false ∧ tree.start ++ name ∈ tree.archive.names := by
  rw [childFiles, ← NameSet.mem_def, NameSet.mem_ofList, List.mem_filterMap]
  simp only [childName?_eq_some_iff]
  constructor
  · rintro ⟨entry, hmem, rfl, hempty, hslash⟩
    exact ⟨hempty, hslash, hmem⟩
  · rintro ⟨hempty, hslash, hmem⟩
    exact ⟨_, hmem, rfl, hempty, hslash⟩

/-- The tree that has unpacked an entry may know where more entries start, and is otherwise as it
was. -/
theorem exists_extract_snd_eq (store : Store) (tree : ArchiveTree) (entry : Zip.Entry) :
    ∃ located, (tree.extract store entry).2 = { tree with located := located } := by
  unfold extract locate
  split_ifs
  · exact ⟨_, rfl⟩
  · cases tree.located.lookup entry.name with
    | some start => exact ⟨_, rfl⟩
    | none => cases entry.dataStart (store.body tree.file) <;> exact ⟨_, rfl⟩

/-- An entry is read as its contents, or fails for a reason of its own under its own path. -/
theorem read_of_mem_names (store : Store) {relative : String}
    (h : tree.start ++ relative ∈ tree.archive.names) :
    (∃ content, (tree.read store relative).1 = .ok (some content)) ∨
      ∃ fault, (tree.read store relative).1 =
        .error (.ofEntry (tree.path ++ "!" ++ (tree.start ++ relative)) fault) := by
  obtain ⟨entry, hentry⟩ :=
    Option.isSome_iff_exists.mp (Zip.Archive.find?_isSome_iff.mpr h)
  obtain ⟨located, hafter⟩ := exists_extract_snd_eq store tree entry
  cases hextract : tree.extract store entry with
  | mk outcome after =>
    rw [hextract] at hafter
    dsimp only at hafter
    subst hafter
    cases outcome with
    | ok data => exact Or.inl ⟨data, by simp only [read, hentry, hextract]⟩
    | error fault => exact Or.inr ⟨fault, by simp only [read, hentry, hextract]⟩

end ArchiveTree

/-! ### Roots -/

namespace OpenTree

variable {base : ResourceBase} {store : Store} {opened : OpenTree} {root name : String}
  {fileNames : List String}

/-- There is a regular file directly in a root under a name. -/
def HasChild (store : Store) : OpenTree → String → Prop
  | .directory tree, name => (∃ names, store.list tree.root = .ok names ∧ name ∈ names) ∧
      store.isFile (Path.join tree.root name) = true
  | .archive tree, name =>
    name ≠ "" ∧ name.contains '/' = false ∧ tree.start ++ name ∈ tree.archive.names

/-- A root that can be listed lists its regular files. -/
theorem mem_childFiles_iff (h : opened.childFiles store = .ok fileNames) :
    name ∈ fileNames ↔ opened.HasChild store name := by
  cases opened with
  | directory tree => exact DirectoryTree.mem_childFiles_iff h
  | archive tree =>
    obtain rfl := Except.ok.inj h
    exact ArchiveTree.mem_childFiles_iff

/-- The path of an entry directly in a root leads nowhere, for a reason that the store has. An
archive has no such entries. -/
def LeadsNowhere (store : Store) : OpenTree → String → StoreFault → Prop
  | .directory tree, path, fault => ∃ names name, store.list tree.root = .ok names ∧
      name ∈ names ∧ path = Path.join tree.root name ∧ store.find path = .error fault
  | .archive _, _, _ => False

/-- What opening a directory as a root comes to. -/
theorem outcome_ofDirectory (store : Store) (base relative : String) :
    (ofDirectory store base relative).outcome =
      (DirectoryTree.openAt store base relative).map .directory := by
  rw [ofDirectory]
  cases DirectoryTree.openAt store base relative <;> rfl

/-- What opening entries of an archive as a root comes to. -/
theorem outcome_ofArchive (store : Store) (path relative : String) :
    (ofArchive store path relative).outcome =
      (ArchiveTree.openAt store path relative).map .archive := by
  rw [ofArchive]
  cases ArchiveTree.openAt store path relative <;> rfl

/-- What opening a root comes to. -/
theorem outcome_openRoot (base : ResourceBase) (store : Store) (root : String) :
    (base.openRoot store root).outcome =
      if (Text.beforeTail? "/" root).isSome then .error (.invalidRoot root)
      else
        match base with
        | .directory path =>
          (DirectoryTree.openAt store path (ResourceBase.relativeRoot root)).map .directory
        | .archive path =>
          (ArchiveTree.openAt store path (ResourceBase.relativeRoot root)).map .archive := by
  unfold ResourceBase.openRoot
  split_ifs
  · rfl
  · cases base with
    | directory path => exact outcome_ofDirectory store path _
    | archive path => exact outcome_ofArchive store path _

/-- A root that was opened in a directory can be looked into. -/
theorem exists_list_of_openRoot {tree : DirectoryTree}
    (h : (base.openRoot store root).outcome = .ok (.directory tree)) :
    ∃ names, store.list tree.root = .ok names := by
  rw [outcome_openRoot] at h
  split_ifs at h
  cases base with
  | archive path =>
    obtain ⟨other, -, hother⟩ := Fallible.map_eq_ok_iff.mp h
    cases hother
  | directory path =>
    obtain ⟨other, hopen, hother⟩ := Fallible.map_eq_ok_iff.mp h
    obtain rfl := OpenTree.directory.inj hother
    rw [DirectoryTree.openAt] at hopen
    split_ifs at hopen with hdirectory
    obtain rfl := Except.ok.inj hopen
    obtain ⟨top, hfind⟩ := Store.isDirectory_iff.mp hdirectory
    exact ⟨_, Store.list_eq_ok_iff.mpr ⟨top, hfind, rfl⟩⟩

/-- In a base that is an archive nothing leads nowhere. -/
theorem not_leadsNowhere_of_archive {file : String}
    (h : ((ResourceBase.archive file).openRoot store root).outcome = .ok opened) (path : String)
    (fault : StoreFault) : ¬ opened.LeadsNowhere store path fault := by
  rw [outcome_openRoot] at h
  split_ifs at h
  obtain ⟨tree, -, rfl⟩ := Fallible.map_eq_ok_iff.mp h
  exact id

/-- An open root can be listed if none of its entries leads nowhere. -/
theorem exists_childFiles_eq_ok (hopen : (base.openRoot store root).outcome = .ok opened)
    (h : ∀ path fault, ¬ opened.LeadsNowhere store path fault) :
    ∃ fileNames, opened.childFiles store = .ok fileNames := by
  cases opened with
  | archive tree => exact ⟨_, rfl⟩
  | directory tree =>
    obtain ⟨names, hlist⟩ := exists_list_of_openRoot hopen
    have hall : ∀ name ∈ names, ∃ found, store.find (Path.join tree.root name) = .ok found := by
      intro name hmem
      cases hfind : store.find (Path.join tree.root name) with
      | ok found => exact ⟨found, rfl⟩
      | error fault => exact absurd ⟨names, name, hlist, hmem, rfl, hfind⟩ (h _ fault)
    have hfiles := DirectoryTree.regularFiles_eq_ok hall
    have hchildren : tree.childFiles store = .ok (NameSet.ofList (names.filter fun name ↦
        store.isFile (Path.join tree.root name))).names := by
      simp only [DirectoryTree.childFiles, hlist, hfiles, Except.map]
    exact ⟨_, hchildren⟩

/-- A root with an entry that leads nowhere fails to be listed because of such an entry. -/
theorem exists_childFiles_eq_error (h : ∃ path fault, opened.LeadsNowhere store path fault) :
    ∃ path fault, opened.LeadsNowhere store path fault ∧
      opened.childFiles store = .error (.io path (.refused fault)) := by
  obtain ⟨path, fault, h⟩ := h
  cases opened with
  | archive tree => exact absurd h id
  | directory tree =>
    obtain ⟨names, name, hlist, hmem, rfl, hfind⟩ := h
    have hnot : ¬ ∀ name ∈ names, ∃ found,
        store.find (Path.join tree.root name) = .ok found := by
      intro hall
      obtain ⟨found, hfound⟩ := hall name hmem
      cases hfind.symm.trans hfound
    obtain ⟨other, hother, reason, hreason, hfiles⟩ :=
      DirectoryTree.exists_regularFiles_eq_error hnot
    refine ⟨_, reason, ⟨names, other, hlist, hother, rfl, hreason⟩, ?_⟩
    show tree.childFiles store = _
    simp only [DirectoryTree.childFiles, hlist, hfiles, Except.map]

end OpenTree

end WastSuite
