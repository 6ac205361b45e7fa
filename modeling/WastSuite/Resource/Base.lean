import WastSuite.Report
import WastSuite.Resource.Archive
import WastSuite.Resource.Directory

/-!
# Resource bases

A base is the place below which roots are looked for: a directory, or an archive. `detect` tells
which of them a path is: an archive is a regular file named with the ending of one. A root is
written like an absolute path, but its leading slashes do not count, and it must not end with one.
-/

set_option autoImplicit false

namespace WastSuite

/-- The place below which roots are looked for: they are directories below a path, or starts of
entry names in the archive at a path. -/
inductive ResourceBase where
  | directory (path : String)
  | archive (path : String)
  deriving DecidableEq

/-- A root that was opened: a directory, or entries of an archive. -/
inductive OpenTree where
  | directory (tree : DirectoryTree)
  | archive (tree : ArchiveTree)

namespace OpenTree

/-- Opens a directory as a root. -/
def ofDirectory (store : Store) (base relative : String) : Report OpenTree := do
  let tree ← Report.ofExcept (DirectoryTree.openAt store base relative)
  pure (.directory tree)

/-- Opens entries of an archive as a root, which is logged. -/
def ofArchive (store : Store) (path relative : String) : Report OpenTree := do
  let tree ← Report.ofExcept (ArchiveTree.openAt store path relative)
  Report.record (.openedArchive path tree.start)
  pure (.archive tree)

/-- The answers that a store gives about the root. -/
def answers (store : Store) : OpenTree → ResourceTree
  | .directory tree => tree.answers store
  | .archive tree => tree.answers store

/-- The names of the files directly in the root, in increasing order. -/
def childFiles (store : Store) (tree : OpenTree) : Except DiscoveryError (List String) :=
  (tree.answers store).childFiles

/-- The contents of the file at a path relative to the root, or nothing if there is none, and the
tree as it is after reading. -/
def read (store : Store) (tree : OpenTree) (relative : String) :
    Except DiscoveryError (Option ByteArray) × OpenTree :=
  match tree with
  | .directory tree => (tree.read store relative, .directory tree)
  | .archive tree =>
    match tree.read store relative with
    | (answer, tree) => (answer, .archive tree)

end OpenTree

namespace ResourceBase

/-- The endings of the names of archives. -/
def archiveExtensions : List String := ["zip", "jar"]

/-- The base that a path is: an archive if it leads to a regular file and ends like one. -/
def detect (store : Store) (path : String) : ResourceBase :=
  let named := match Path.extension? path with
    | some extension => archiveExtensions.contains extension
    | none => false
  if store.isFile path && named then .archive path else .directory path

/-- The path of a base. -/
def path : ResourceBase → String
  | .directory path => path
  | .archive path => path

/-- A root without its leading slashes. -/
def relativeRoot (root : String) : String :=
  String.ofList (root.toList.dropWhile (· = '/'))

/-- Opens a root below a base. -/
def openRoot (base : ResourceBase) (store : Store) (root : String) : Report OpenTree :=
  if (Text.beforeTail? "/" root).isSome then .ofExcept (.error (.invalidRoot root))
  else
    match base with
    | .directory path => OpenTree.ofDirectory store path (relativeRoot root)
    | .archive path => OpenTree.ofArchive store path (relativeRoot root)

end ResourceBase

end WastSuite
