import WastSuite.NameSet
import WastSuite.Resource.Tree
import WastSuite.Text.Cut
import WastSuite.Zip.Archive

/-!
# Trees in an archive

A root can be the entries of an archive whose names start with its path and a slash. The directory
of the archive is read once, when the tree is made, and the file stays open, so later answers do not
depend on what stands at the path of the archive then. Where the data of an entry start is found
when the entry is first read, and kept in the tree.

The files of a root are the entries whose names have no further slash; names that end with a slash
stand for directories and are no files. Main statement: `read` answers that there is no file exactly
if no entry has the name (`read_eq_none_iff`).
-/

set_option autoImplicit false

namespace WastSuite

/-- The entries of an open archive that serve as a root: the path at which the archive was opened,
the number of the body that the open file has, the directory of the archive, how the names of the
entries of this root start, and where the data of entries start that were found before, by name
(`located`). -/
structure ArchiveTree where
  path : String
  file : Nat
  archive : Zip.Archive
  start : String
  located : List (String × Nat)

namespace ArchiveTree

/-- How the names of the entries of a root start. -/
def startOf (relative : String) : String :=
  if relative.isEmpty then "" else relative ++ "/"

/-- The archive at a path, with the number of its body. -/
def archiveAt (store : Store) (path : String) : Except DiscoveryError (Nat × Zip.Archive) :=
  match store.find path with
  | .error fault => .error (.io path (.refused fault))
  | .ok (_, .file number) =>
    match Zip.Archive.ofContent (store.body number) with
    | .ok archive => .ok (number, archive)
    | .error fault => .error (.archive path fault)
  | .ok _ => .error (.archive path .unreadable)

/-- Whether an archive has an entry whose name starts in a given way. -/
def hasStart (archive : Zip.Archive) (start : String) : Bool :=
  archive.names.any fun name ↦ (Text.afterHead? start name).isSome

/-- The tree of a root in the archive at a path, which must have an entry in that root. -/
def openAt (store : Store) (path relative : String) : Except DiscoveryError ArchiveTree := do
  let (number, archive) ← archiveAt store path
  let start := startOf relative
  if hasStart archive start then .ok ⟨path, number, archive, start, []⟩
  else .error (.rootNotFound relative path)

/-- What follows the start of the root in the name of an entry, if the entry is a file directly in
the root. -/
def childName? (start name : String) : Option String :=
  match Text.afterHead? start name with
  | some rest => if rest.isEmpty || rest.contains '/' then none else some rest
  | none => none

/-- The names of the files directly in the root, in increasing order. -/
def childFiles (tree : ArchiveTree) : List String :=
  (NameSet.ofList (tree.archive.names.filterMap (childName? tree.start))).names

/-- Where the data of an entry start, and the tree that knows it. -/
def locate (store : Store) (tree : ArchiveTree) (entry : Zip.Entry) :
    Except Zip.Fault (Nat × ArchiveTree) :=
  match tree.located.lookup entry.name with
  | some start => .ok (start, tree)
  | none => do
    let start ← entry.dataStart (store.body tree.file)
    .ok (start, { tree with located := (entry.name, start) :: tree.located })

/-- The data of an entry that start at an offset. -/
def unpack (store : Store) (tree : ArchiveTree) (entry : Zip.Entry) (start : Nat) :
    Except Zip.EntryFault ByteArray := do
  (entry.supported).mapError .refused
  entry.unpack (store.body tree.file) start

/-- The data of an entry, and the tree that knows where they start. -/
def extract (store : Store) (tree : ArchiveTree) (entry : Zip.Entry) :
    Except Zip.EntryFault ByteArray × ArchiveTree :=
  if entry.encrypted then (.error (.refused .unsupported), tree)
  else
    match tree.locate store entry with
    | .error fault => (.error (.refused fault), tree)
    | .ok (start, tree) => (tree.unpack store entry start, tree)

/-- The contents of the file at a path relative to the root, or nothing if there is none, and the
tree that knows where they start. -/
def read (store : Store) (tree : ArchiveTree) (relative : String) :
    Except DiscoveryError (Option ByteArray) × ArchiveTree :=
  let name := tree.start ++ relative
  match tree.archive.find? name with
  | none => (.ok none, tree)
  | some entry =>
    match tree.extract store entry with
    | (.ok data, tree) => (.ok (some data), tree)
    | (.error fault, tree) => (.error (.ofEntry (tree.path ++ "!" ++ name) fault), tree)

/-- The answers that a store gives about the root. -/
def answers (store : Store) (tree : ArchiveTree) : ResourceTree where
  childFiles := .ok tree.childFiles
  read := fun relative ↦ (tree.read store relative).1

/-- A name directly in the root is what follows the start in the name of the entry. -/
theorem childName?_eq_some_iff {start name child : String} :
    childName? start name = some child ↔
      name = start ++ child ∧ child ≠ "" ∧ child.contains '/' = false := by
  simp only [childName?]
  constructor
  · intro h
    split at h
    · rename_i rest hrest
      split at h
      · cases h
      · rename_i hplain
        simp only [Option.some.injEq] at h
        subst h
        refine ⟨Text.afterHead?_eq_some_iff.mp hrest, ?_, ?_⟩
        · intro hempty
          simp [hempty] at hplain
        · cases hslash : rest.contains '/'
          · rfl
          · simp [hslash] at hplain
    · cases h
  · rintro ⟨hname, hempty, hslash⟩
    rw [Text.afterHead?_eq_some_iff.mpr hname]
    simp [hslash, hempty]

/-- There is no file exactly if no entry has the name. -/
theorem read_eq_none_iff {store : Store} {tree : ArchiveTree} {relative : String} :
    (tree.read store relative).1 = .ok none ↔ tree.start ++ relative ∉ tree.archive.names := by
  rw [← Zip.Archive.find?_isSome_iff, read]
  cases tree.archive.find? (tree.start ++ relative) with
  | none => simp
  | some entry =>
    simp only [Option.isSome_some, not_true_eq_false, iff_false]
    split <;> simp

end ArchiveTree

end WastSuite
