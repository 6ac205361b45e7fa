/-!
# The file store

A store is a tree of directories with regular files and symbolic links in it. An entry stands at a
location, the list of names that leads to it from the top. Names are texts: entries whose names are
bytes that are not UTF-8, which no path given as a text can lead to, are left out. The contents of
files stand apart from their names, as bodies with numbers: a body that was once opened stays what
it was when its name is removed, and changes when the file is overwritten in place. Nothing stands
twice at one location, since only the first node listed for it counts, and the top is always a
directory.

`node?` says what stands at a location, and `names` lists the entries of a directory, each once.
Main statements: a name is listed exactly if something stands at it (`mem_names_iff`), and what was
put at a location stands there while all else is as before (`node?_put`).
-/

set_option autoImplicit false

namespace WastSuite

/-- The names that lead from the top to an entry. -/
abbrev Location := List String

/-- What can stand at a location: a directory, a regular file by the number of its body, or a
symbolic link to a path. -/
inductive Node where
  | directory
  | file (body : Nat)
  | link (target : String)
  deriving DecidableEq

/-- A tree of directories, files and links: what stands where, the first node of a location
counting, the contents of all files that ever were, by number, and the location where relative paths
start. -/
structure Store where
  nodes : List (Location × Node)
  bodies : List ByteArray
  working : Location

namespace Store

/-- What stands at a location. -/
def node? (store : Store) (location : Location) : Option Node :=
  if location = [] then some .directory else store.nodes.lookup location

/-- The contents of a file by the number of its body. -/
def body (store : Store) (number : Nat) : ByteArray :=
  (store.bodies[number]?).getD ByteArray.empty

/-- The last name of a location that lies directly below a directory. -/
def childName? (directory location : Location) : Option String :=
  match location.getLast? with
  | some name => if location = directory ++ [name] then some name else none
  | none => none

/-- The names of the entries directly below a directory, each once. -/
def names (store : Store) (directory : Location) : List String :=
  (store.nodes.filterMap fun entry ↦ childName? directory entry.1).eraseDups

/-- The store with a node at a location, in place of what stood there. -/
def put (store : Store) (location : Location) (node : Node) : Store :=
  { store with nodes := store.nodes.filter (·.1 ≠ location) ++ [(location, node)] }

/-- The store without a location and all that lies below it. -/
def cut (store : Store) (location : Location) : Store :=
  { store with nodes := store.nodes.filter fun entry ↦ !location.isPrefixOf entry.1 }

/-- The store without all that lies below a location. -/
def clear (store : Store) (location : Location) : Store :=
  { store with nodes := store.nodes.filter fun entry ↦
      entry.1 = location || !location.isPrefixOf entry.1 }

/-- The store with a new file at a location. -/
def putFile (store : Store) (location : Location) (content : ByteArray) : Store :=
  { store.put location (.file store.bodies.length) with bodies := store.bodies ++ [content] }

/-- The store with other contents under the number of a body. -/
def overwrite (store : Store) (number : Nat) (content : ByteArray) : Store :=
  { store with bodies := store.bodies.set number content }

/-- The name of a location directly below a directory is the one that leads from it. -/
theorem childName?_eq_some_iff {directory location : Location} {name : String} :
    childName? directory location = some name ↔ location = directory ++ [name] := by
  unfold childName?
  constructor
  · intro h
    split at h
    · rename_i last hlast
      split at h
      · rename_i heq
        rw [Option.some.inj h] at heq
        exact heq
      · cases h
    · cases h
  · intro h
    simp [h]

/-- A name is listed exactly if something stands at it. -/
theorem mem_names_iff {store : Store} {directory : Location} {name : String} :
    name ∈ store.names directory ↔ (store.node? (directory ++ [name])).isSome := by
  have hne : directory ++ [name] ≠ [] := by simp
  simp only [names, List.mem_eraseDups, List.mem_filterMap, childName?_eq_some_iff, node?,
    if_neg hne]
  constructor
  · rintro ⟨⟨location, node⟩, hmem, heq⟩
    apply Decidable.byContradiction
    intro hnone
    have := List.lookup_eq_none_iff.mp (Option.not_isSome_iff_eq_none.mp hnone) _ hmem
    exact bne_iff_ne.mp this heq.symm
  · intro hsome
    obtain ⟨node, hnode⟩ := Option.isSome_iff_exists.mp hsome
    obtain ⟨before, after, hsplit, -⟩ := List.lookup_eq_some_iff.mp hnode
    exact ⟨(directory ++ [name], node), by simp [hsplit], rfl⟩

/-- Dropping the nodes at one location leaves what stands at the others. -/
theorem lookup_filter_ne (nodes : List (Location × Node)) (location other : Location) :
    (nodes.filter (·.1 ≠ location)).lookup other =
      if other = location then none else nodes.lookup other := by
  induction nodes with
  | nil => simp
  | cons entry nodes ih =>
    obtain ⟨here, node⟩ := entry
    by_cases hhere : here = location
    · subst hhere
      have hdrop : ((here, node) :: nodes).filter (·.1 ≠ here) = nodes.filter (·.1 ≠ here) := by
        simp
      rw [hdrop, ih, List.lookup_cons]
      by_cases hother : other = here
      · simp [hother]
      · simp [hother, show (other == here) = false by simpa using hother]
    · have hkeep : ((here, node) :: nodes).filter (·.1 ≠ location) =
          (here, node) :: nodes.filter (·.1 ≠ location) := by
        simp [hhere]
      rw [hkeep, List.lookup_cons, List.lookup_cons, ih]
      by_cases hother : other = location
      · simp [hother, show (location == here) = false by simpa using Ne.symm hhere]
      · simp [hother]

/-- What was put at a location stands there, and all else is as before. Assumes: a location below
the top. -/
theorem node?_put {store : Store} {location : Location} (h : location ≠ []) (node : Node)
    (other : Location) : (store.put location node).node? other =
      if other = location then some node else store.node? other := by
  simp only [node?, put, List.lookup_append, lookup_filter_ne]
  by_cases hother : other = location
  · simp [hother, h]
  · have hne : (other == location) = false := by simpa using hother
    by_cases htop : other = []
    · simp [htop, Ne.symm h]
    · simp [hother, htop, List.lookup_cons, hne]

end Store

end WastSuite
