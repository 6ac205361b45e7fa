import WastSuite.Store.Basic
import WastSuite.Store.Path

/-!
# What a path leads to

A path is walked from the top or from the working directory. Every name on the way must lead to a
directory, directly or through a link; a link is replaced by the moves of its target, at most
`linkLimit` times in one walk. `locate` gives the location at which the walk ends, whether or not
something stands there, and `find` also asks that something does.

On top of that stand the questions that callers ask: whether a path leads to a directory
(`isDirectory`) or to a regular file (`isFile`), the contents of a file (`read`) and the names in a
directory (`list`).
-/

set_option autoImplicit false

namespace WastSuite

/-- Why a path leads nowhere, or to something of another kind than asked for. Nothing stands there;
something on the way, or at the end, is no directory; a directory stands where a file was asked for;
a name or the whole path is longer than the store allows; the way leads through too many links; or
the path holds a NUL character, which no path can. -/
inductive StoreFault where
  | notFound
  | notDirectory
  | isDirectory
  | nameTooLong
  | tooManyLinks
  | nulInPath
  deriving DecidableEq

/-- The words for a fault. -/
def StoreFault.message : StoreFault → String
  | .notFound => "No such file or directory (os error 2)"
  | .notDirectory => "Not a directory (os error 20)"
  | .isDirectory => "Is a directory (os error 21)"
  | .nameTooLong => "File name too long (os error 36)"
  | .tooManyLinks => "Too many levels of symbolic links (os error 40)"
  | .nulInPath => "file name contained an unexpected NUL byte"

namespace Store

/-- The greatest number of bytes in a name. -/
def nameLimit : Nat := 255

/-- The greatest number of bytes in a path. -/
def pathLimit : Nat := 4095

/-- The greatest number of links that one walk follows. -/
def linkLimit : Nat := 40

/-- Where a path starts. -/
def start (store : Store) (path : String) : Location :=
  if Path.isAbsolute path then [] else store.working

/-- Walks from a directory. The location behind the last move is the answer, even if nothing stands
there. At a link, `follow` continues with the moves of its target in front of those left. -/
def walkWith (store : Store)
    (follow : Location → List Path.Step → Except StoreFault Location) :
    Location → List Path.Step → Except StoreFault Location
  | here, [] => .ok here
  | here, .stay :: rest => walkWith store follow here rest
  | here, .up :: rest => walkWith store follow here.dropLast rest
  | here, .enter name :: rest =>
    if nameLimit < name.utf8ByteSize then .error .nameTooLong
    else
      match store.node? (here ++ [name]) with
      | none => if rest = [] then .ok (here ++ [name]) else .error .notFound
      | some .directory => walkWith store follow (here ++ [name]) rest
      | some (.file _) => if rest = [] then .ok (here ++ [name]) else .error .notDirectory
      | some (.link target) =>
        follow (if Path.isAbsolute target then [] else here) (Path.steps target ++ rest)

/-- Walks from a directory, through no more than the given number of links. -/
def walk (store : Store) : Nat → Location → List Path.Step → Except StoreFault Location
  | 0 => walkWith store fun _ _ ↦ .error .tooManyLinks
  | links + 1 => walkWith store (walk store links)

/-- Whether a path can be walked at all. -/
def checkPath (path : String) : Except StoreFault Unit :=
  if path.contains '\x00' then .error .nulInPath
  else if path.isEmpty then .error .notFound
  else if pathLimit < path.utf8ByteSize then .error .nameTooLong
  else .ok ()

/-- The location that a path leads to, whether or not something stands there. -/
def locate (store : Store) (path : String) : Except StoreFault Location := do
  checkPath path
  store.walk linkLimit (store.start path) (Path.steps path)

/-- The location that a path leads to, with what stands there. -/
def find (store : Store) (path : String) : Except StoreFault (Location × Node) := do
  let location ← store.locate path
  match store.node? location with
  | some node => .ok (location, node)
  | none => .error .notFound

/-- Whether a path leads to a directory. -/
def isDirectory (store : Store) (path : String) : Bool :=
  match store.find path with
  | .ok (_, .directory) => true
  | _ => false

/-- Whether a path leads to a regular file. -/
def isFile (store : Store) (path : String) : Bool :=
  match store.find path with
  | .ok (_, .file _) => true
  | _ => false

/-- The contents of the file that a path leads to. -/
def read (store : Store) (path : String) : Except StoreFault ByteArray := do
  match ← store.find path with
  | (_, .file number) => .ok (store.body number)
  | _ => .error .isDirectory

/-- The names in the directory that a path leads to, each once. -/
def list (store : Store) (path : String) : Except StoreFault (List String) := do
  match ← store.find path with
  | (location, .directory) => .ok (store.names location)
  | _ => .error .notDirectory

end Store

end WastSuite
