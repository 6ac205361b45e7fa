import WastSuite.Proofs.Discovery.SameAnswers
import WastSuite.Proofs.Store.OraclePlace

/-!
# Roots in a directory that holds a file map

Below a directory that holds exactly the files of a map, a root opens exactly if some file of the
map lies below it (`openAt_of_hasDirectory`, `openAt_of_not_hasDirectory`), and its tree then tells
the files of the map (`tells_of_holds`). This asks that no path is too long that the tree has to
look at (`FileMap.FitsBelow`), and that the expected output of an included file is there or plainly
not (`FileMap.LacksOracle`).
-/

set_option autoImplicit false

namespace WastSuite

/-- There is plainly no expected output of a file in a root: no directory is in its place, no file
is in the place of the directory that it would be in, and its name is not too long. -/
structure FileMap.LacksOracle (map : FileMap) (location : Location) (fileName : String) :
    Prop where
  not_directory : ¬ map.HasDirectory (location ++ Path.oracleNames fileName)
  not_file_above : ¬ map.HasFile (location ++ [Catalogue.oracleDirectory])
  size_le : (fileName ++ ".log").utf8ByteSize ≤ Store.nameLimit

/-- No path is too long that discovery looks at below a directory of a base: those of its entries,
and those of the expected outputs of its included files. -/
structure FileMap.FitsBelow (map : FileMap) (registry : Registry) (base : String)
    (location : Location) : Prop where
  entry : ∀ name, map.HasFile (location ++ [name]) ∨ map.HasDirectory (location ++ [name]) →
    (Path.below base (location ++ [name])).utf8ByteSize ≤ Store.pathLimit
  oracle : ∀ fileName, map.HasFile (location ++ [fileName]) → registry.Includes fileName →
    (Path.below base (location ++ Path.oracleNames fileName)).utf8ByteSize ≤
      Store.pathLimit

/-- What plainly lacks an expected output in the map lacks it in the store. -/
theorem Store.HoldsAt.lacksOracle {store : Store} {top location : Location} {map : FileMap}
    {fileName : String} (h : store.HoldsAt top map)
    (hfile : ¬ map.HasFile (location ++ Path.oracleNames fileName))
    (hlacks : map.LacksOracle location fileName) :
    store.LacksOracle (top ++ location) fileName := by
  simp only [Store.LacksOracle, List.append_assoc]
  by_cases habove : map.HasDirectory (location ++ [Catalogue.oracleDirectory])
  · refine Or.inr ⟨h.directory _ habove, hlacks.size_le, ?_⟩
    exact h.free _ (by simp [Path.oracleNames]) hfile hlacks.not_directory
  · exact Or.inl (h.free _ (by simp) hlacks.not_file_above habove)

namespace DirectoryTree

variable {store : Store} {map : FileMap} {registry : Registry} {base root fileName : String}
  {top location others : Location} {content : ByteArray}

/-- Where every name leads somewhere, those that lead to regular files are kept. -/
theorem regularFiles_eq_ok {names : List String}
    (h : ∀ name ∈ names, ∃ found, store.find (Path.join root name) = .ok found) :
    regularFiles store root names =
      .ok (names.filter fun name ↦ store.isFile (Path.join root name)) := by
  induction names with
  | nil => rfl
  | cons name names ih =>
    obtain ⟨⟨there, node⟩, hfound⟩ := h name List.mem_cons_self
    have hrest := ih fun other hmem ↦ h other (List.mem_cons_of_mem _ hmem)
    rw [regularFiles, hfound, hrest]
    cases node <;> simp [Store.isFile, hfound, Except.map]

/-- The entries of a directory are those of the map. -/
theorem entry_of_mem_names (h : store.HoldsAt top map) {name : String}
    (hmem : name ∈ store.names (top ++ location)) :
    map.HasFile (location ++ [name]) ∨ map.HasDirectory (location ++ [name]) := by
  obtain ⟨node, hnode⟩ := Option.isSome_iff_exists.mp (Store.mem_names_iff.mp hmem)
  rw [List.append_assoc] at hnode
  rcases h.file_or_directory (by simp) hnode with ⟨-, hfile⟩ | ⟨-, hdirectory⟩
  · exact Or.inl hfile
  · exact Or.inr hdirectory

/-- A name of the map is a name that an entry can have. -/
theorem canonical_of_entry {name : String}
    (h : map.HasFile (location ++ [name]) ∨ map.HasDirectory (location ++ [name])) :
    Path.Canonical [name] := by
  have hcanonical : Path.Canonical (location ++ [name]) := by
    rcases h with hfile | hdirectory
    · exact hfile.canonical
    · exact hdirectory.canonical (by simp)
  exact hcanonical.of_append_right (by simp)

section Root

variable (h : store.HoldsAt top map) (hbase : store.find base = .ok (top, .directory))
  (hlocation : Path.Canonical location) (hfits : map.FitsBelow registry base location)

include hbase hlocation hfits

/-- The path of a root is not too long. -/
theorem utf8ByteSize_root_le (hdirectory : map.HasDirectory location) :
    (Path.below base location).utf8ByteSize ≤ Store.pathLimit := by
  obtain ⟨name, hentry⟩ := hdirectory.exists_entry
  have hle := Path.utf8ByteSize_below_le (Store.ne_empty_of_find hbase) hlocation
    (canonical_of_entry hentry)
  exact Nat.le_trans hle (hfits.entry name hentry)

include h

omit hfits in
/-- A root opens if it is a directory of the map. Assumes: its path is not too long. -/
theorem openAt_of_hasDirectory (hdirectory : map.HasDirectory location)
    (hlength : (Path.below base location).utf8ByteSize ≤ Store.pathLimit) :
    openAt store base (Path.spelled location) = .ok ⟨Path.below base location⟩ := by
  have hroot := (h.isDirectory_iff hbase hlocation fun _ ↦ hlength).mpr hdirectory
  rw [Path.below] at hroot
  simp only [openAt, hroot, if_true, Path.below]

omit hfits in
/-- What is no directory of the map does not open. -/
theorem openAt_of_not_hasDirectory (hdirectory : ¬ map.HasDirectory location) :
    openAt store base (Path.spelled location) =
      .error (.rootNotFound (Path.spelled location) base) := by
  have hroot := mt (h.isDirectory_iff hbase hlocation
    fun hfound ↦ absurd hfound hdirectory).mp hdirectory
  rw [Path.below] at hroot
  simp only [openAt, if_neg hroot]

/-- An entry of a root that is a file is found as one. -/
theorem isFile_of_hasFile {name : String} (hfile : map.HasFile (location ++ [name])) :
    store.isFile (Path.join (Path.below base location) name) = true := by
  obtain ⟨content, hmem⟩ := id hfile
  obtain ⟨number, hfound, -⟩ := h.find_file hbase hmem (hfits.entry name (Or.inl hfile))
  rw [← Path.spelled_singleton name, Path.join_below (Store.ne_empty_of_find hbase) hlocation
    (canonical_of_entry (Or.inl hfile)), Store.isFile, hfound]

/-- An entry of a root that is a directory is found as one. -/
theorem find_of_hasDirectory {name : String} (hbelow : map.HasDirectory (location ++ [name])) :
    store.find (Path.join (Path.below base location) name) =
      .ok (top ++ (location ++ [name]), .directory) := by
  rw [← Path.spelled_singleton name, Path.join_below (Store.ne_empty_of_find hbase) hlocation
    (canonical_of_entry (Or.inr hbelow)), Path.spelled_singleton]
  exact h.find_directory hbase (by simp) hbelow (hfits.entry name (Or.inr hbelow))

/-- The files of a root are those of the map. -/
theorem childFiles_eq_ok (hdirectory : map.HasDirectory location) :
    childFiles store ⟨Path.below base location⟩ = .ok (map.childFiles location) := by
  have hroot := h.find_directory hbase hlocation.1 hdirectory
    (utf8ByteSize_root_le hbase hlocation hfits hdirectory)
  have hlist : store.list (Path.below base location) = .ok (store.names (top ++ location)) := by
    rw [Store.list, hroot]
    rfl
  have hall : ∀ name ∈ store.names (top ++ location), ∃ found,
      store.find (Path.join (Path.below base location) name) = .ok found := by
    intro name hmem
    rcases entry_of_mem_names h hmem with hfile | hbelow
    · obtain ⟨there, number, hfound⟩ :=
        Store.isFile_iff.mp (isFile_of_hasFile h hbase hlocation hfits hfile)
      exact ⟨_, hfound⟩
    · exact ⟨_, find_of_hasDirectory h hbase hlocation hfits hbelow⟩
  simp only [childFiles, hlist, regularFiles_eq_ok hall, Except.map]
  refine congrArg (fun set : NameSet ↦ Except.ok set.names) (NameSet.eq_of_mem_iff fun name ↦ ?_)
  rw [NameSet.mem_ofList, List.mem_filter, NameSet.mem_def, ← FileMap.childFiles,
    FileMap.mem_childFiles_iff]
  constructor
  · rintro ⟨hmem, hkind⟩
    rcases entry_of_mem_names h hmem with hfile | hbelow
    · exact hfile
    · rw [Store.isFile, find_of_hasDirectory h hbase hlocation hfits hbelow] at hkind
      cases hkind
  · intro hfile
    refine ⟨?_, isFile_of_hasFile h hbase hlocation hfits hfile⟩
    obtain ⟨content, hmem⟩ := hfile
    obtain ⟨number, hnode, -⟩ := h.file _ _ hmem
    rw [Store.mem_names_iff, List.append_assoc, hnode]
    rfl

omit hfits in
/-- The file at a location is read as the map tells. -/
theorem read_of_mem (hothers : others ≠ []) (hmem : (location ++ others, content) ∈ map.files)
    (hlength : (Path.below base (location ++ others)).utf8ByteSize ≤ Store.pathLimit) :
    read store ⟨Path.below base location⟩ (Path.spelled others) = .ok (some content) := by
  have hcanonical := (map.canonical _ hmem).of_append_right hothers
  obtain ⟨number, hfound, hbody⟩ := h.find_file hbase hmem hlength
  rw [read_eq_some_iff, Path.join_below (Store.ne_empty_of_find hbase) hlocation hcanonical]
  exact Store.read_eq_ok_iff.mpr ⟨_, number, hfound, hbody⟩

omit hfits in
/-- Where plainly no expected output is, none is read. -/
theorem read_oracle_of_lacks (hdirectory : map.HasDirectory location)
    (hname : Path.IsName fileName) (hfile : ¬ map.HasFile (location ++ Path.oracleNames fileName))
    (hlacks : map.LacksOracle location fileName)
    (hlength : (Path.below base (location ++ Path.oracleNames fileName)).utf8ByteSize ≤
      Store.pathLimit) :
    read store ⟨Path.below base location⟩ (Catalogue.oraclePath fileName) = .ok none := by
  have hne := Store.ne_empty_of_find hbase
  have hnames := Path.canonical_oracleNames hname
  have hroot := h.find_directory hbase hlocation.1 hdirectory
    (Nat.le_trans (Path.utf8ByteSize_below_le hne hlocation hnames) hlength)
  have hplain : ∀ others target,
      store.node? (top ++ location ++ others) ≠ some (.link target) := by
    intro others target
    rw [List.append_assoc]
    exact h.node?_ne_link hbase _ target
  rw [read_eq_none_iff, Store.read_oraclePath_eq_notFound_iff hroot hname (hplain _) (hplain _)]
  refine ⟨?_, h.lacksOracle hfile hlacks⟩
  rwa [Path.oraclePath_eq_spelled, Path.join_below hne hlocation hnames]

/-- A root that opens tells the files of the map. Assumes: an expected output of an included file is
there or plainly not. -/
theorem tells_of_holds (hdirectory : map.HasDirectory location)
    (horacle : ∀ fileName, map.HasFile (location ++ [fileName]) → registry.Includes fileName →
      map.HasFile (location ++ Path.oracleNames fileName) ∨ map.LacksOracle location fileName) :
    (answers store ⟨Path.below base location⟩).Tells registry map location := by
  refine ⟨childFiles_eq_ok h hbase hlocation hfits hdirectory, fun fileName hfile ↦ ?_,
    fun fileName hfile hincludes ↦ ?_⟩
  · obtain ⟨content, hmem⟩ := id hfile
    rw [FileMap.content?_eq_some_iff.mpr hmem, ← Path.spelled_singleton fileName]
    exact read_of_mem h hbase hlocation (by simp) hmem (hfits.entry fileName (Or.inl hfile))
  · have hname : Path.IsName fileName := hfile.canonical.2 fileName (by simp)
    have hlength := hfits.oracle fileName hfile hincludes
    by_cases hfound : map.HasFile (location ++ Path.oracleNames fileName)
    · obtain ⟨content, hmem⟩ := hfound
      rw [FileMap.content?_eq_some_iff.mpr hmem, Path.oraclePath_eq_spelled]
      exact read_of_mem h hbase hlocation (by simp [Path.oracleNames]) hmem hlength
    · rw [FileMap.content?_eq_none_iff.mpr hfound]
      have hlacks := (horacle fileName hfile hincludes).resolve_left hfound
      exact read_oracle_of_lacks h hbase hlocation hdirectory hname hfound hlacks hlength

end Root

end DirectoryTree

end WastSuite
