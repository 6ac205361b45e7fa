import WastSuite.Proofs.Resource.ArchiveRoots
import WastSuite.Proofs.Resource.EntryContents
import WastSuite.Proofs.Store.OpenFiles

/-!
# Roots that stay open

While a root is open, it is listed and read, and the store changes beneath it. A `Session` is the
open root with the store as it is, and a run of happenings leads from one to the next.

A tree in an archive keeps the directory it has read when it was opened, and its file stays open: a
read may only note where the data of entries start (`exists_afterAll_archive_eq`), and notes the
right places as long as nobody overwrites the file (`exists_afterAll_eq_of_spares`). A tree in a
directory keeps nothing but its path (`afterAll_directory_eq`).

Main statement: whatever has happened before, an archive answers what it would have answered when it
was opened, and a directory what the store says now (`archive_stays_directory_follows`).
-/

set_option autoImplicit false

namespace WastSuite

/-- Something that happens while a root is open: its files are listed, the file at a path relative
to it is read, or the store changes. -/
inductive Happening where
  | list
  | read (relative : String)
  | change (made : Store.Change)

/-- The change of the store that happens, if one does. -/
def Happening.change? : Happening → Option Store.Change
  | .list => none
  | .read _ => none
  | .change made => some made

/-- A root that is open, and the store as it is. -/
structure Session where
  store : Store
  opened : OpenTree

namespace Session

/-- The files of the root, if they are listed now. -/
def listing (session : Session) : Except DiscoveryError (List String) :=
  session.opened.childFiles session.store

/-- The contents of a file of the root, if it is read now. -/
def reading (session : Session) (relative : String) : Except DiscoveryError (Option ByteArray) :=
  (session.opened.read session.store relative).1

/-- The session after something has happened. -/
def after (session : Session) : Happening → Session
  | .list => session
  | .read relative => ⟨session.store, (session.opened.read session.store relative).2⟩
  | .change made => ⟨session.store.apply made, session.opened⟩

/-- The session after a run of happenings, the first of them happening first. -/
def afterAll (session : Session) (happenings : List Happening) : Session :=
  happenings.foldl after session

variable {store : Store} {happening : Happening} {happenings : List Happening}

theorem afterAll_cons (session : Session) (happening : Happening) (happenings : List Happening) :
    session.afterAll (happening :: happenings) = (session.after happening).afterAll happenings :=
  rfl

/-- The changes of a run are those of its first happening and those of the others. -/
theorem changes_cons (happening : Happening) (happenings : List Happening) :
    (happening :: happenings).filterMap Happening.change? =
      happening.change?.toList ++ happenings.filterMap Happening.change? := by
  cases happening <;> rfl

/-- The store after the changes of a run. -/
theorem applyAll_changes_cons (store : Store) (happening : Happening)
    (happenings : List Happening) :
    store.applyAll ((happening :: happenings).filterMap Happening.change?) =
      (store.applyAll happening.change?.toList).applyAll
        (happenings.filterMap Happening.change?) := by
  rw [changes_cons, Store.applyAll, List.foldl_append]
  rfl

/-! ### Directories -/

/-- A tree in a directory stays as it is while the store changes. -/
theorem after_directory_eq (store : Store) (tree : DirectoryTree) (happening : Happening) :
    (Session.mk store (.directory tree)).after happening =
      ⟨store.applyAll happening.change?.toList, .directory tree⟩ := by
  cases happening <;> rfl

theorem afterAll_directory_eq (store : Store) (tree : DirectoryTree)
    (happenings : List Happening) :
    (Session.mk store (.directory tree)).afterAll happenings =
      ⟨store.applyAll (happenings.filterMap Happening.change?), .directory tree⟩ := by
  induction happenings generalizing store with
  | nil => rfl
  | cons happening happenings ih =>
    rw [afterAll_cons, after_directory_eq, ih, applyAll_changes_cons]

/-! ### Archives -/

/-- A tree in an archive may only note where the data of entries start. -/
theorem exists_after_archive_eq (store : Store) (tree : ArchiveTree) (happening : Happening) :
    ∃ located, (Session.mk store (.archive tree)).after happening =
      ⟨store.applyAll happening.change?.toList, .archive { tree with located := located }⟩ := by
  cases happening with
  | list => exact ⟨tree.located, rfl⟩
  | change made => exact ⟨tree.located, rfl⟩
  | read relative =>
    obtain ⟨located, hafter⟩ := ArchiveTree.exists_read_snd_eq store tree relative
    exact ⟨located, congrArg (fun after ↦ Session.mk store (.archive after)) hafter⟩

theorem exists_afterAll_archive_eq (store : Store) (tree : ArchiveTree)
    (happenings : List Happening) :
    ∃ located, (Session.mk store (.archive tree)).afterAll happenings =
      ⟨store.applyAll (happenings.filterMap Happening.change?),
        .archive { tree with located := located }⟩ := by
  induction happenings generalizing store tree with
  | nil => exact ⟨tree.located, rfl⟩
  | cons happening happenings ih =>
    obtain ⟨located, hafter⟩ := exists_after_archive_eq store tree happening
    obtain ⟨others, hothers⟩ := ih (store.applyAll happening.change?.toList)
      { tree with located := located }
    refine ⟨others, ?_⟩
    rw [afterAll_cons, hafter, hothers, applyAll_changes_cons]

/-- A tree that remembers rightly does so after each happening, and the store then has the changes
of the run. -/
theorem exists_after_eq_of_right {tree : ArchiveTree}
    (hright : tree.RemembersRightly (store.body tree.file)) (happening : Happening) :
    ∃ located, (Session.mk store (.archive tree)).after happening =
        ⟨store.applyAll happening.change?.toList, .archive { tree with located := located }⟩ ∧
      ArchiveTree.RemembersRightly (store.body tree.file) { tree with located := located } := by
  cases happening with
  | list => exact ⟨tree.located, rfl, hright⟩
  | change made => exact ⟨tree.located, rfl, hright⟩
  | read relative =>
    obtain ⟨located, hread, hafter⟩ := ArchiveTree.exists_read_eq hright relative
    refine ⟨located, ?_, hafter⟩
    simp only [after, OpenTree.read, hread]
    rfl

/-- A tree in an archive remembers rightly as long as nobody overwrites its file. Assumes: it does
now, and the file is there. -/
theorem exists_afterAll_eq_of_spares {tree : ArchiveTree} (hlt : tree.file < store.bodies.length)
    (hright : tree.RemembersRightly (store.body tree.file))
    (hspares : Store.Spares tree.file store (happenings.filterMap Happening.change?)) :
    ∃ located, (Session.mk store (.archive tree)).afterAll happenings =
        ⟨store.applyAll (happenings.filterMap Happening.change?),
          .archive { tree with located := located }⟩ ∧
      ArchiveTree.RemembersRightly (store.body tree.file) { tree with located := located } := by
  induction happenings generalizing store tree with
  | nil => exact ⟨tree.located, rfl, hright⟩
  | cons happening happenings ih =>
    rw [changes_cons, Store.spares_append] at hspares
    have hbody := Store.body_applyAll hlt hspares.1
    have hnext := Nat.lt_of_lt_of_le hlt
      (Store.length_bodies_applyAll_le store happening.change?.toList)
    obtain ⟨located, hafter, hright⟩ := exists_after_eq_of_right hright happening
    rw [← hbody] at hright ⊢
    obtain ⟨others, hothers, hright⟩ :=
      @ih _ { tree with located := located } hnext hright hspares.2
    refine ⟨others, ?_, hright⟩
    rw [afterAll_cons, hafter, hothers, applyAll_changes_cons]

end Session

/-- An archive that was opened answers as it did then, whatever is listed, read, made and removed
meanwhile: always which files it has, and what each of them holds as long as nobody overwrites the
archive's own file in place. A directory answers what it would as the store is now, whatever was
listed and read before. -/
theorem archive_stays_directory_follows :
    (∀ (store : Store) (path root : String) (tree : ArchiveTree),
      ArchiveTree.openAt store path root = .ok tree → ∀ happenings : List Happening,
        let opened := Session.mk store (.archive tree)
        let later := opened.afterAll happenings
        later.listing = opened.listing ∧
        (Store.Spares tree.file store (happenings.filterMap Happening.change?) →
          ∀ relative, later.reading relative = opened.reading relative)) ∧
    ∀ (store : Store) (tree : DirectoryTree) (happenings : List Happening),
      let later := (Session.mk store (.directory tree)).afterAll happenings
      let changed := store.applyAll (happenings.filterMap Happening.change?)
      later.listing = tree.childFiles changed ∧
      ∀ relative, later.reading relative = tree.read changed relative := by
  refine ⟨fun store path root tree hopen happenings ↦ ⟨?_, fun hspares relative ↦ ?_⟩,
    fun store tree happenings ↦ ?_⟩
  · obtain ⟨located, hlater⟩ := Session.exists_afterAll_archive_eq store tree happenings
    rw [hlater]
    rfl
  · have hlt := ArchiveTree.file_lt_of_openAt hopen
    have hright := ArchiveTree.remembersRightly_of_openAt hopen (store.body tree.file)
    obtain ⟨located, hlater, hafter⟩ := Session.exists_afterAll_eq_of_spares hlt hright hspares
    have hbody := Store.body_applyAll hlt hspares
    rw [← hbody] at hafter
    have hnow := ArchiveTree.read_eq_told hafter relative
    have hthen := ArchiveTree.read_eq_told hright relative
    rw [hbody] at hnow
    rw [hlater]
    exact hnow.trans hthen.symm
  · rw [Session.afterAll_directory_eq]
    exact ⟨rfl, fun relative ↦ rfl⟩

/-! ### An archive that is replaced -/

open ArchiveTree

/-- An archive with the entries `a/b` and `a/c`, both of them `()`, of which the second is recorded
with another checksum. -/
def damagedArchive : ByteArray :=
  ⟨#[80, 75, 3, 4, 20, 0, 0, 0, 0, 0, 0, 0, 33, 0, 57, 36, 54, 94, 2, 0, 0, 0, 2, 0, 0, 0, 3, 0, 0,
    0, 97, 47, 98, 40, 41, 80, 75, 3, 4, 20, 0, 0, 0, 0, 0, 0, 0, 33, 0, 0, 0, 0, 0, 2, 0, 0, 0, 2,
    0, 0, 0, 3, 0, 0, 0, 97, 47, 99, 40, 41, 80, 75, 1, 2, 20, 0, 20, 0, 0, 0, 0, 0, 0, 0, 33, 0,
    57, 36, 54, 94, 2, 0, 0, 0, 2, 0, 0, 0, 3, 0, 0, 0, 0, 0, 0, 0, 0, 0, 0, 0, 128, 1, 0, 0, 0, 0,
    97, 47, 98, 80, 75, 1, 2, 20, 0, 20, 0, 0, 0, 0, 0, 0, 0, 33, 0, 0, 0, 0, 0, 2, 0, 0, 0, 2, 0,
    0, 0, 3, 0, 0, 0, 0, 0, 0, 0, 0, 0, 0, 0, 128, 1, 35, 0, 0, 0, 97, 47, 99, 80, 75, 5, 6, 0, 0,
    0, 0, 2, 0, 2, 0, 98, 0, 0, 0, 70, 0, 0, 0, 0, 0]⟩

/-- What the directory of that archive says about an entry. -/
def damagedEntry (name : String) (checksum headerStart : Nat) : Zip.Entry where
  name := name
  nameBytes := name.toUTF8.toList
  comment := ""
  encrypted := false
  stronglyEncrypted := false
  method := 0
  checksum := checksum
  packedSize := 2
  declaredSize := 2
  headerStart := headerStart

/-- The entries of that archive. -/
def damagedEntries : List Zip.Entry :=
  [damagedEntry "a/b" 1580606521 0, damagedEntry "a/c" 0 35]

/-- A store with that archive. -/
def damagedStore : Store where
  nodes := [(["n.zip"], .file 0)]
  bodies := [damagedArchive]
  working := []

/-- The store without that archive, whose body is still there. -/
def emptiedStore : Store :=
  { damagedStore with nodes := [] }

/-- The store with another file in the place of that archive. -/
def replacedStore : Store where
  nodes := [(["n.zip"], .file 1)]
  bodies := [damagedArchive, "other".toUTF8]
  working := []

/-- The root `a` of that archive, as it is opened. -/
def damagedTree : ArchiveTree :=
  ⟨"n.zip", 0, ⟨damagedEntries⟩, "a/", []⟩

/-- The damaged file is read, then the other, the archive is removed, another file is put in its
place, and a file that the archive lacks is read. -/
def replacement : List Happening :=
  [.read "c", .read "b", .change (.remove "n.zip"), .change (.write "n.zip" "other".toUTF8),
    .read "none"]

theorem search_damagedArchive : Zip.EndRecord.search damagedArchive damagedArchive.size none =
    .ok (168, some ⟨70, 2, 0⟩) := by decide +kernel

theorem directory?_damagedArchive :
    Zip.Entry.directory? damagedArchive ⟨70, 2, 0⟩ = some damagedEntries := by decide +kernel

theorem checkPath_damaged : Store.checkPath "n.zip" = .ok () :=
  Path.checkPath_eq_ok_iff.mpr ⟨by decide, by decide, by decide⟩

theorem apply_remove_damaged : damagedStore.apply (.remove "n.zip") = emptiedStore := by
  have hentry : damagedStore.entryOf "n.zip" = .ok ["n.zip"] := by
    rw [Store.entryOf, checkPath_damaged]
    decide
  rw [Store.apply, Store.remove, hentry]
  rfl

theorem makeParents_emptied : emptiedStore.makeParents "n.zip" = emptiedStore := by
  have hmoves : (Path.moves "n.zip").dropLast = [] := by decide
  rw [Store.makeParents, hmoves]
  rfl

theorem locate_emptied : emptiedStore.locate "n.zip" = .ok ["n.zip"] := by
  rw [Store.locate_eq_walk checkPath_damaged]
  decide

theorem apply_write_emptied :
    emptiedStore.apply (.write "n.zip" "other".toUTF8) = replacedStore := by
  rw [Store.apply, Store.write]
  simp only [makeParents_emptied, locate_emptied]
  rfl

theorem spares_replacement :
    Store.Spares 0 damagedStore (replacement.filterMap Happening.change?) := by
  refine ⟨id, ?_, trivial⟩
  rw [apply_remove_damaged]
  rintro ⟨location, hfind⟩
  rw [makeParents_emptied, Store.find_eq_notFound_of_locate locate_emptied rfl] at hfind
  cases hfind

theorem applyAll_replacement :
    damagedStore.applyAll (replacement.filterMap Happening.change?) = replacedStore := by
  show (damagedStore.apply (.remove "n.zip")).apply (.write "n.zip" "other".toUTF8) = _
  rw [apply_remove_damaged, apply_write_emptied]

theorem read_replacedStore :
    DirectoryTree.read replacedStore ⟨"/"⟩ "n.zip" = .ok (some "other".toUTF8) := by
  have hjoin : Path.join "/" "n.zip" = "/n.zip" := by decide
  have hcheck : Store.checkPath "/n.zip" = .ok () :=
    Path.checkPath_eq_ok_iff.mpr ⟨by decide, by decide, by decide⟩
  have hfind : replacedStore.find "/n.zip" = .ok (["n.zip"], .file 1) :=
    Store.find_of_walk hcheck (by decide) (by decide)
  rw [DirectoryTree.read_eq_some_iff, hjoin]
  exact Store.read_eq_ok_iff.mpr ⟨_, 1, hfind, rfl⟩

theorem openAt_damagedStore : ArchiveTree.openAt damagedStore "n.zip" "a" = .ok damagedTree := by
  have hfind : damagedStore.find "n.zip" = .ok (["n.zip"], .file 0) :=
    Store.find_of_walk checkPath_damaged (by decide) (by decide)
  have hcontent : Zip.Archive.ofContent (damagedStore.body 0) = .ok ⟨damagedEntries⟩ :=
    Zip.Archive.ofContent_of_directory? search_damagedArchive directory?_damagedArchive
  rw [openAt_eq (archiveAt_eq_ok_iff.mpr ⟨⟨_, hfind⟩, hcontent⟩), if_pos (by decide)]
  rfl

theorem childFiles_damagedTree : damagedTree.childFiles = ["b", "c"] := by
  have hfirst : childName? "a/" "a/b" = some "b" :=
    childName?_eq_some_iff.mpr ⟨by decide, by decide, by rw [String.contains_char_eq]; decide⟩
  have hsecond : childName? "a/" "a/c" = some "c" :=
    childName?_eq_some_iff.mpr ⟨by decide, by decide, by rw [String.contains_char_eq]; decide⟩
  have hnames : damagedTree.archive.names = ["a/b", "a/c"] := rfl
  rw [childFiles, hnames, show damagedTree.start = "a/" from rfl, List.filterMap_cons_some hfirst,
    List.filterMap_cons_some hsecond]
  rfl

/-- The archive that was replaced is listed as before. It still gives the data of the one file, and
refuses those of the other for their checksum. The directory that it was in gives the other file. -/
theorem archive_stays_directory_follows_replaced :
    ArchiveTree.openAt damagedStore "n.zip" "a" = .ok damagedTree ∧
      Store.Spares 0 damagedStore (replacement.filterMap Happening.change?) ∧
      ((Session.mk damagedStore (.archive damagedTree)).afterAll replacement).listing =
        .ok ["b", "c"] ∧
      ((Session.mk damagedStore (.archive damagedTree)).afterAll replacement).reading "b" =
        .ok (some "()".toUTF8) ∧
      ((Session.mk damagedStore (.archive damagedTree)).afterAll replacement).reading "c" =
        .error (.io "n.zip!a/c" .wrongChecksum) ∧
      ((Session.mk damagedStore (.directory ⟨"/"⟩)).afterAll replacement).reading "n.zip" =
        .ok (some "other".toUTF8) := by
  obtain ⟨hstays, hfollows⟩ := archive_stays_directory_follows
  obtain ⟨hlisting, hreading⟩ := hstays damagedStore "n.zip" "a" damagedTree openAt_damagedStore
    replacement
  obtain ⟨-, hnow⟩ := hfollows damagedStore ⟨"/"⟩ replacement
  refine ⟨openAt_damagedStore, spares_replacement,
    hlisting.trans (congrArg Except.ok childFiles_damagedTree),
    (hreading spares_replacement "b").trans ?_, (hreading spares_replacement "c").trans ?_,
    (hnow "n.zip").trans ?_⟩
  · decide +kernel
  · decide +kernel
  · rw [applyAll_replacement, read_replacedStore]

end WastSuite
