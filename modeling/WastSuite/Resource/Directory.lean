import WastSuite.NameSet
import WastSuite.Resource.Tree

/-!
# Trees in a directory

A root can be a directory of the store. The tree keeps only the path of that directory, so each
answer is about the store as it is when it is asked. The files of a root are the entries that lead
to a regular file, directly or through links; an entry that leads nowhere spoils the whole listing.
Main statements: `read` answers that there is no file exactly if the store finds nothing
(`read_eq_none_iff`), and passes on every other reason of the store (`read_eq_error_iff`).
-/

set_option autoImplicit false

namespace WastSuite

/-- A directory that serves as a root, by its path. -/
structure DirectoryTree where
  root : String
  deriving DecidableEq

namespace DirectoryTree

/-- The tree of a path relative to a base, which must lead to a directory. -/
def openAt (store : Store) (base relative : String) : Except DiscoveryError DirectoryTree :=
  let root := Path.join base relative
  if store.isDirectory root then .ok ⟨root⟩ else .error (.rootNotFound relative base)

/-- The names that lead to regular files from a directory, or the failure of the first name that
leads nowhere. -/
def regularFiles (store : Store) (root : String) :
    List String → Except DiscoveryError (List String)
  | [] => .ok []
  | name :: names =>
    let path := Path.join root name
    match store.find path with
    | .error fault => .error (.io path (.refused fault))
    -- Regular files whose names are not UTF-8 are to be passed over, since no allow-list can have
    -- them. The names of a store are texts, so there is no such file here.
    | .ok (_, .file _) => (regularFiles store root names).map (name :: ·)
    | .ok _ => regularFiles store root names

/-- The names of the regular files directly in the root, in increasing order. -/
def childFiles (store : Store) (tree : DirectoryTree) : Except DiscoveryError (List String) :=
  match store.list tree.root with
  | .error fault => .error (.io tree.root (.refused fault))
  | .ok names => (regularFiles store tree.root names).map fun files ↦ (NameSet.ofList files).names

/-- The contents of the file at a path relative to the root, or nothing if there is none. -/
def read (store : Store) (tree : DirectoryTree) (relative : String) :
    Except DiscoveryError (Option ByteArray) :=
  let path := Path.join tree.root relative
  match store.read path with
  | .ok content => .ok (some content)
  | .error .notFound => .ok none
  | .error fault => .error (.io path (.refused fault))

/-- The answers that a store gives about the root. -/
def answers (store : Store) (tree : DirectoryTree) : ResourceTree where
  childFiles := tree.childFiles store
  read := tree.read store

/-- A file is read as what the store reads. -/
theorem read_eq_some_iff {store : Store} {tree : DirectoryTree} {relative : String}
    {content : ByteArray} : tree.read store relative = .ok (some content) ↔
      store.read (Path.join tree.root relative) = .ok content := by
  cases hread : store.read (Path.join tree.root relative) with
  | ok other => simp [read, hread]
  | error fault => cases fault <;> simp [read, hread]

/-- There is no file exactly if the store finds nothing. -/
theorem read_eq_none_iff {store : Store} {tree : DirectoryTree} {relative : String} :
    tree.read store relative = .ok none ↔
      store.read (Path.join tree.root relative) = .error .notFound := by
  cases hread : store.read (Path.join tree.root relative) with
  | ok content => simp [read, hread]
  | error fault => cases fault <;> simp [read, hread]

/-- Every other reason of the store is a failure, with the path that was asked for. -/
theorem read_eq_error_iff {store : Store} {tree : DirectoryTree} {relative : String}
    {error : DiscoveryError} : tree.read store relative = .error error ↔
      ∃ fault, store.read (Path.join tree.root relative) = .error fault ∧ fault ≠ .notFound ∧
        error = .io (Path.join tree.root relative) (.refused fault) := by
  cases hread : store.read (Path.join tree.root relative) with
  | ok content => simp [read, hread]
  | error fault => cases fault <;> simp [read, hread, eq_comm]

end DirectoryTree

end WastSuite
