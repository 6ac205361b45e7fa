import WastSuite.Zip.Directory

/-!
# Archives

An archive is the list of entries in the directory that its content holds. Where the directory of
the last end record cannot be read, the end record in front of that one is tried. Two entries may
have one name; then the later one counts.
-/

set_option autoImplicit false

namespace WastSuite.Zip

/-- The entries of an archive, in the order of its directory. -/
structure Archive where
  entries : List Entry
  deriving DecidableEq

namespace Archive

/-- The archive of the last end record below a limit whose directory can be read. -/
def ofContentBelow (content : ByteArray) (limit : Nat) : Except Fault Archive :=
  match _hsearch : EndRecord.search content limit none with
  | .error fault => .error fault
  | .ok (offset, layout?) =>
    match layout?.bind (Entry.directory? content) with
    | some entries => .ok ⟨entries⟩
    | none => ofContentBelow content offset
termination_by limit
decreasing_by exact EndRecord.search_lt _hsearch

/-- The archive that some content is. -/
def ofContent (content : ByteArray) : Except Fault Archive :=
  ofContentBelow content content.size

/-- The names of the entries, in the order of the directory. -/
def names (archive : Archive) : List String :=
  archive.entries.map Entry.name

/-- The entry with a name, the last if there are several. -/
def find? (archive : Archive) (name : String) : Option Entry :=
  archive.entries.reverse.find? fun entry ↦ entry.name == name

/-- Content whose last end record has a directory that can be read is an archive. -/
theorem ofContent_of_directory? {content : ByteArray} {offset : Nat} {layout : Layout}
    {entries : List Entry}
    (hsearch : EndRecord.search content content.size none = .ok (offset, some layout))
    (hdirectory : Entry.directory? content layout = some entries) :
    ofContent content = .ok ⟨entries⟩ := by
  rw [ofContent, ofContentBelow]
  split
  · rename_i fault hfound
    rw [hsearch] at hfound
    cases hfound
  · rename_i found layout? hfound
    rw [hsearch] at hfound
    cases hfound
    simp only [Option.bind_some, hdirectory]

/-- There is an entry with a name exactly if the name is listed. -/
theorem find?_isSome_iff {archive : Archive} {name : String} :
    (archive.find? name).isSome ↔ name ∈ archive.names := by
  simp [find?, names, List.find?_isSome]

end Archive

end WastSuite.Zip
