import WastSuite.Store.Resolve

/-!
# Changes of the store

Files, directories and links can be put into a store, with the directories above them made first,
and entries can be removed with all that lies below. Writing to a path that leads to a file
overwrites that file in place, so whoever has it open sees the new contents; a removed file keeps
its body for those who have it open. A change that the store does not allow leaves it as it is.

A path with a name at its end is removed with that entry, and so is one that only puts slashes
behind the name of a directory. Any other path to a directory, through `.` or `..` or a link with a
slash behind it, has the directory emptied, since it does not name the entry itself.
-/

set_option autoImplicit false

namespace WastSuite

namespace Store

/-- The location that moves lead to from the start of a path. -/
def locateSteps (store : Store) (path : String) (steps : List Path.Step) :
    Except StoreFault Location :=
  store.walk linkLimit (store.start path) steps

/-- The location of the last name of some moves itself, which is not followed if a link stands
there. -/
def entryAt (store : Store) (path : String) (steps : List Path.Step) :
    Except StoreFault Location := do
  let above ← store.locateSteps path steps.dropLast
  match steps.getLast?, store.node? above with
  | some (.enter name), some .directory =>
    if nameLimit < name.utf8ByteSize then .error .nameTooLong else .ok (above ++ [name])
  | _, _ => .error .notFound

/-- The store with a directory at the end of some moves, unless something stands there. -/
def ensureDirectory (path : String) (store : Store) (steps : List Path.Step) : Store :=
  match store.entryAt path steps with
  | .ok location =>
    match store.node? location with
    | none => store.put location .directory
    | some _ => store
  | .error _ => store

/-- The store with directories at every place that the first moves of a path lead to. -/
def ensureDirectories (store : Store) (path : String) (steps : List Path.Step) : Store :=
  ((List.range steps.length).map fun count ↦ steps.take (count + 1)).foldl
    (ensureDirectory path) store

/-- The store with the directory of a path, and those above it. -/
def makeDirectory (store : Store) (path : String) : Store :=
  store.ensureDirectories path (Path.moves path)

/-- The store with the directories above the last name of a path. -/
def makeParents (store : Store) (path : String) : Store :=
  store.ensureDirectories path (Path.moves path).dropLast

/-- The location of the last name of a path itself, which is not followed if a link stands there. -/
def entryOf (store : Store) (path : String) : Except StoreFault Location := do
  checkPath path
  store.entryAt path (Path.steps path)

/-- The store with a file at the end of a path, overwritten in place if there is one. -/
def write (store : Store) (path : String) (content : ByteArray) : Store :=
  let store := store.makeParents path
  match store.locate path with
  | .ok location =>
    match store.node? location with
    | none => store.putFile location content
    | some (.file number) => store.overwrite number content
    | some _ => store
  | .error _ => store

/-- The store with a link at the end of a path, unless something stands there or the target can be
no path. -/
def makeLink (store : Store) (path target : String) : Store :=
  let store := store.makeParents path
  match checkPath target, store.entryOf path with
  | .ok (), .ok location =>
    match store.node? location with
    | none => store.put location (.link target)
    | some _ => store
  | _, _ => store

/-- The store without the directory that a path leads to, or with that directory emptied if the
path does not name it. -/
def removeDirectory (store : Store) (path : String) : Store :=
  match store.find path with
  | .ok (location, .directory) =>
    match store.entryOf (Path.withoutSlashes path) with
    | .ok entry => if entry = location then store.cut entry else store.clear location
    | .error _ => store.clear location
  | _ => store

/-- The store without the entry at the end of a path, and without all that lies below it. -/
def remove (store : Store) (path : String) : Store :=
  match store.entryOf path with
  | .ok location => store.cut location
  | .error _ => store.removeDirectory path

end Store

end WastSuite
