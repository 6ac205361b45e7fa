import WastSuite.Proofs.Resource.Archive
import WastSuite.Proofs.Resource.Listing
import WastSuite.Proofs.Store.LastName
import WastSuite.Proofs.Text.ByteOrder

/-!
# The roots of an archive

The entries of an archive are cut into roots at the last slash of their names. A name that goes on
behind the start of a root without a slash gives that root back as the text before its last slash
(`beforeLastSlash_startOf_append`), and a name that neither starts nor ends with a slash is put
together again from the two sides of its last slash (`startOf_beforeLastSlash_append`). So no entry
is listed under two roots, and each entry with such a name is listed under exactly one.

Main statement: which roots open, what each of them lists and in which order, and that they share no
entry and leave out none but those (`roots_partition_entries`).
-/

set_option autoImplicit false

namespace WastSuite

namespace ArchiveTree

variable {store : Store} {archive : Zip.Archive} {path relative name child : String} {number : Nat}

/-- The entry of a file directly in a root tells the root. -/
theorem beforeLastSlash_startOf_append (h : '/' ∉ child.toList) :
    Path.beforeLastSlash (startOf relative ++ child) = relative := by
  by_cases hempty : relative = ""
  · subst hempty
    simpa [startOf] using Path.beforeLastSlash_of_notMem h
  · have hfalse : relative.isEmpty = false := by simpa using hempty
    rw [startOf, hfalse]
    exact Path.beforeLastSlash_append h

/-- A name that does not start with a slash is that of a file directly in the root before its last
slash. -/
theorem startOf_beforeLastSlash_append (hstart : Path.isAbsolute name = false) :
    startOf (Path.beforeLastSlash name) ++ Path.afterLastSlash name = name := by
  by_cases hslash : '/' ∈ name.toList
  · have hcut := Path.eq_append_lastSlash hslash
    have hfalse : (Path.beforeLastSlash name).isEmpty = false := by
      refine (Bool.not_eq_true _).mp fun hempty ↦ ?_
      rw [String.isEmpty_iff.mp hempty] at hcut
      rw [hcut] at hstart
      simp [Path.isAbsolute] at hstart
    rw [startOf, hfalse]
    exact hcut.symm
  · rw [Path.beforeLastSlash_of_notMem hslash, Path.afterLastSlash_of_notMem hslash]
    simp [startOf]

/-- Something follows the last slash of a text that does not end with it. -/
theorem afterLastSlash_ne_empty (hname : name ≠ "") (hend : Path.endsWithSlash name = false) :
    Path.afterLastSlash name ≠ "" := by
  intro hempty
  by_cases hslash : '/' ∈ name.toList
  · have hcut := Path.eq_append_lastSlash hslash
    rw [hempty, String.append_empty] at hcut
    rw [hcut, Path.endsWithSlash_append _ (by decide)] at hend
    exact absurd hend (by decide)
  · exact hname (Path.afterLastSlash_of_notMem hslash ▸ hempty)

/-! ### Roots and their entries -/

/-- An entry is listed under a root: the root opens, and the entry is that of one of its files. -/
def Lists (store : Store) (path relative name : String) : Prop :=
  ∃ tree, openAt store path relative = .ok tree ∧
    ∃ child ∈ tree.childFiles, name = startOf relative ++ child

/-- The entries that are listed under a root are those that go on behind its start without a
slash. -/
theorem lists_iff (h : archiveAt store path = .ok (number, archive)) :
    Lists store path relative name ↔ name ∈ archive.names ∧
      ∃ child, child ≠ "" ∧ '/' ∉ child.toList ∧ name = startOf relative ++ child := by
  simp only [Lists, openAt_eq h]
  constructor
  · rintro ⟨tree, hopen, child, hchild, rfl⟩
    split_ifs at hopen
    obtain rfl := Except.ok.inj hopen
    obtain ⟨hempty, hslash, hmem⟩ := mem_childFiles_iff.mp hchild
    exact ⟨hmem, child, hempty, by simpa [String.contains_char_eq] using hslash, rfl⟩
  · rintro ⟨hmem, child, hempty, hslash, rfl⟩
    rw [if_pos (hasStart_eq_true_iff.mpr ⟨child, hmem⟩)]
    refine ⟨_, rfl, child, mem_childFiles_iff.mpr ⟨hempty, ?_, hmem⟩, rfl⟩
    simpa [String.contains_char_eq] using hslash

/-- The files of a root are in the order of their bytes. -/
theorem pairwise_childFiles (tree : ArchiveTree) :
    tree.childFiles.Pairwise fun first second ↦ Text.utf8 first < Text.utf8 second :=
  (NameSet.ordered _).imp Text.lt_iff_utf8_lt.mp

/-- An entry is listed under no root but the text before its last slash. -/
theorem eq_beforeLastSlash_of_lists (h : archiveAt store path = .ok (number, archive))
    (hlists : Lists store path relative name) : relative = Path.beforeLastSlash name := by
  obtain ⟨-, child, -, hslash, rfl⟩ := (lists_iff h).mp hlists
  exact (beforeLastSlash_startOf_append hslash).symm

/-- An entry whose name neither starts nor ends with a slash is listed under the text before its
last slash. -/
theorem lists_beforeLastSlash (h : archiveAt store path = .ok (number, archive))
    (hmem : name ∈ archive.names) (hname : name ≠ "") (hstart : Path.isAbsolute name = false)
    (hend : Path.endsWithSlash name = false) :
    Lists store path (Path.beforeLastSlash name) name :=
  (lists_iff h).mpr ⟨hmem, Path.afterLastSlash name, afterLastSlash_ne_empty hname hend,
    Path.slash_notMem_afterLastSlash name, (startOf_beforeLastSlash_append hstart).symm⟩

/-- The roots of an archive cut up its entries. A root opens exactly if some entry starts with its
path and a slash, and is not found otherwise. One that opens lists, in the order of their bytes and
none twice, the names without a slash that an entry goes on with. No entry is listed under two
roots, and one whose name neither is empty nor starts or ends with a slash is listed under the text
before its last slash and nothing else. Assumes: the path leads to an archive that can be read. -/
theorem roots_partition_entries (h : archiveAt store path = .ok (number, archive)) :
    (∀ relative,
      ((∃ tree, openAt store path relative = .ok tree) ↔
        ∃ rest, startOf relative ++ rest ∈ archive.names) ∧
      ((¬ ∃ rest, startOf relative ++ rest ∈ archive.names) →
        openAt store path relative = .error (.rootNotFound relative path)) ∧
      ∀ tree, openAt store path relative = .ok tree →
        (tree.childFiles.Pairwise fun first second ↦ Text.utf8 first < Text.utf8 second) ∧
        ∀ child, child ∈ tree.childFiles ↔
          child ≠ "" ∧ '/' ∉ child.toList ∧ startOf relative ++ child ∈ archive.names) ∧
    (∀ first second name, first ≠ second →
      ¬ (Lists store path first name ∧ Lists store path second name)) ∧
    ∀ name ∈ archive.names, name ≠ "" → Path.isAbsolute name = false →
      Path.endsWithSlash name = false →
      ∀ relative, Lists store path relative name ↔ relative = Path.beforeLastSlash name := by
  refine ⟨fun relative ↦ ⟨?_, fun hnone ↦ ?_, fun tree hopen ↦ ⟨pairwise_childFiles tree,
    fun child ↦ ?_⟩⟩, ?_, ?_⟩
  · rw [openAt_eq h, ← hasStart_eq_true_iff]
    split_ifs with hstart <;> simp [hstart]
  · rw [openAt_eq h, if_neg (mt hasStart_eq_true_iff.mp hnone)]
  · rw [openAt_eq h] at hopen
    split_ifs at hopen
    obtain rfl := Except.ok.inj hopen
    simp only [mem_childFiles_iff, String.contains_char_eq, decide_eq_false_iff_not]
  · rintro first second name hne ⟨hfirst, hsecond⟩
    exact hne ((eq_beforeLastSlash_of_lists h hfirst).trans
      (eq_beforeLastSlash_of_lists h hsecond).symm)
  · intro name hmem hname hstart hend relative
    refine ⟨eq_beforeLastSlash_of_lists h, fun hrelative ↦ ?_⟩
    subst hrelative
    exact lists_beforeLastSlash h hmem hname hstart hend

/-! ### An archive with roots inside each other -/

/-- An archive with the entries `a/b` and `a/b/c`, both of them empty. -/
def nestedArchive : ByteArray :=
  ⟨#[80, 75, 3, 4, 20, 0, 0, 0, 0, 0, 0, 0, 33, 0, 0, 0, 0, 0, 0, 0, 0, 0, 0, 0, 0, 0, 3, 0, 0, 0,
    97, 47, 98, 80, 75, 3, 4, 20, 0, 0, 0, 0, 0, 0, 0, 33, 0, 0, 0, 0, 0, 0, 0, 0, 0, 0, 0, 0, 0,
    5, 0, 0, 0, 97, 47, 98, 47, 99, 80, 75, 1, 2, 20, 0, 20, 0, 0, 0, 0, 0, 0, 0, 33, 0, 0, 0, 0,
    0, 0, 0, 0, 0, 0, 0, 0, 0, 3, 0, 0, 0, 0, 0, 0, 0, 0, 0, 0, 0, 128, 1, 0, 0, 0, 0, 97, 47, 98,
    80, 75, 1, 2, 20, 0, 20, 0, 0, 0, 0, 0, 0, 0, 33, 0, 0, 0, 0, 0, 0, 0, 0, 0, 0, 0, 0, 0, 5, 0,
    0, 0, 0, 0, 0, 0, 0, 0, 0, 0, 128, 1, 33, 0, 0, 0, 97, 47, 98, 47, 99, 80, 75, 5, 6, 0, 0, 0,
    0, 2, 0, 2, 0, 100, 0, 0, 0, 68, 0, 0, 0, 0, 0]⟩

/-- What the directory of that archive says about an entry. -/
def nestedEntry (name : String) (headerStart : Nat) : Zip.Entry where
  name := name
  nameBytes := name.toUTF8.toList
  comment := ""
  encrypted := false
  stronglyEncrypted := false
  method := 0
  checksum := 0
  packedSize := 0
  declaredSize := 0
  headerStart := headerStart

/-- The entries of that archive. -/
def nestedEntries : List Zip.Entry :=
  [nestedEntry "a/b" 0, nestedEntry "a/b/c" 33]

/-- A store with that archive. -/
def nestedStore : Store where
  nodes := [(["n.zip"], .file 0)]
  bodies := [nestedArchive]
  working := []

theorem search_nestedArchive : Zip.EndRecord.search nestedArchive nestedArchive.size none =
    .ok (168, some ⟨68, 2, 0⟩) := by decide +kernel

theorem directory?_nestedArchive :
    Zip.Entry.directory? nestedArchive ⟨68, 2, 0⟩ = some nestedEntries := by decide +kernel

theorem archiveAt_nestedStore :
    archiveAt nestedStore "n.zip" = .ok (0, ⟨nestedEntries⟩) := by
  have hcheck : Store.checkPath "n.zip" = .ok () :=
    Path.checkPath_eq_ok_iff.mpr ⟨by decide, by decide, by decide⟩
  have hfind : nestedStore.find "n.zip" = .ok (["n.zip"], .file 0) :=
    Store.find_of_walk hcheck (by decide) (by decide)
  have hcontent : Zip.Archive.ofContent nestedArchive = .ok ⟨nestedEntries⟩ :=
    Zip.Archive.ofContent_of_directory? search_nestedArchive directory?_nestedArchive
  have hbody : nestedStore.body 0 = nestedArchive := rfl
  simp only [archiveAt, hfind, hbody, hcontent]

theorem roots_partition_entries_nested :
    archiveAt nestedStore "n.zip" = .ok (0, ⟨nestedEntries⟩) ∧
      (∃ tree, openAt nestedStore "n.zip" "a" = .ok tree) ∧
      openAt nestedStore "n.zip" "a/" = .error (.rootNotFound "a/" "n.zip") ∧
      (∀ relative, Lists nestedStore "n.zip" relative "a/b" ↔ relative = "a") ∧
      ∀ relative, Lists nestedStore "n.zip" relative "a/b/c" ↔ relative = "a/b" := by
  obtain ⟨hroots, -, hlisted⟩ := roots_partition_entries archiveAt_nestedStore
  refine ⟨archiveAt_nestedStore, (hroots "a").1.mpr ⟨"b", by decide⟩, (hroots "a/").2.1 ?_,
    hlisted "a/b" ?_ ?_ ?_ ?_, hlisted "a/b/c" ?_ ?_ ?_ ?_⟩
  · simp only [← hasStart_eq_true_iff]
    decide
  all_goals decide

end ArchiveTree

end WastSuite
