import WastSuite.Proofs.Discovery.SameAnswers

/-!
# Roots in an archive that holds a file map

An archive holds a file map if its entries are the files, and maybe some of their directories, whose
names end with a slash (`Zip.Archive.Holds`). A root then opens exactly if it is the spelling of a
directory of the map (`hasStart_startOf_iff`), and its tree tells the files of the map
(`tells_of_holds`).
-/

set_option autoImplicit false

namespace WastSuite

/-- The data of an entry can be had, and are the given content: it is not encrypted, it is packed in
a way that is supported, and its data are there and unpack to the content. -/
structure Zip.Entry.Gives (entry : Zip.Entry) (body content : ByteArray) : Prop where
  not_encrypted : entry.encrypted = false
  supported : entry.supported = .ok ()
  data : ∃ start, entry.dataStart body = .ok start ∧ entry.unpack body start = .ok content

/-- The entries of an archive are exactly the files of a map, and maybe directories of them. -/
structure Zip.Archive.Holds (archive : Zip.Archive) (body : ByteArray) (map : FileMap) : Prop where
  file : ∀ location content, (location, content) ∈ map.files →
    ∃ entry, archive.find? (Path.spelled location) = some entry ∧ entry.Gives body content
  name : ∀ name ∈ archive.names,
    (∃ location, map.HasFile location ∧ name = Path.spelled location) ∨
      ∃ location, location ≠ [] ∧ map.HasDirectory location ∧ name = Path.spelled location ++ "/"

/-- A path leads to an archive that holds exactly the files of a map. -/
def Store.HoldsArchive (store : Store) (path : String) (map : FileMap) : Prop :=
  ∃ number archive, ArchiveTree.archiveAt store path = .ok (number, archive) ∧
    archive.Holds (store.body number) map

/-- A root is the spelling of a directory of a file map, the top of it being spelled as nothing. -/
def FileMap.HasRoot (map : FileMap) (relative : String) : Prop :=
  ∃ location, map.HasDirectory location ∧ relative = Path.spelled location

namespace ArchiveTree

variable {store : Store} {map : FileMap} {registry : Registry} {archive : Zip.Archive}
  {path relative rest : String} {number : Nat} {location others : Location}
  {content body : ByteArray}

/-- An archive has an entry in a root exactly if some entry goes on behind the start of the root. -/
theorem hasStart_eq_true_iff {start : String} :
    hasStart archive start = true ↔ ∃ rest, start ++ rest ∈ archive.names := by
  simp only [hasStart, List.any_eq_true, Option.isSome_iff_exists, Text.afterHead?_eq_some_iff]
  constructor
  · rintro ⟨name, hmem, rest, rfl⟩
    exact ⟨rest, hmem⟩
  · rintro ⟨rest, hmem⟩
    exact ⟨_, hmem, rest, rfl⟩

/-- What opening a root comes to, once the archive is read. -/
theorem openAt_eq (h : archiveAt store path = .ok (number, archive)) :
    openAt store path relative =
      if hasStart archive (startOf relative) then .ok ⟨path, number, archive, startOf relative, []⟩
      else .error (.rootNotFound relative path) := by
  rw [openAt, h]
  rfl

/-- A slash in the name of an entry stands behind the spelling of a directory. What follows it has
the names that lead on to a file as segments, or it is empty or ends with a slash. -/
theorem exists_of_mem_names (h : archive.Holds body map)
    (hmem : relative ++ "/" ++ rest ∈ archive.names) :
    ∃ location, location ≠ [] ∧ relative = Path.spelled location ∧
      ((∃ others, others ≠ [] ∧ map.HasFile (location ++ others) ∧
          Path.segments rest.toList = others.map String.toList) ∨
        map.HasDirectory location ∧ (rest = "" ∨ Path.endsWithSlash rest = true)) := by
  rcases h.name _ hmem with ⟨location, hfile, hname⟩ | ⟨location, hne, hdirectory, hname⟩
  · obtain ⟨first, second, rfl, hfirst, hsecond, hrelative, hrest⟩ :=
      Path.exists_of_spelled_eq hfile.canonical hname.symm
    exact ⟨first, hfirst, hrelative, Or.inl ⟨second, hsecond, hfile, hrest⟩⟩
  · by_cases hrest : rest = ""
    · rw [hrest, String.append_empty, String.append_left_inj] at hname
      exact ⟨location, hne, hname, Or.inr ⟨hdirectory, Or.inl hrest⟩⟩
    · have hends : Path.endsWithSlash rest = true := by
        rw [← Path.endsWithSlash_append (relative ++ "/") hrest, hname,
          Path.endsWithSlash_append _ (by decide)]
        decide
      obtain ⟨front, rfl⟩ := Path.exists_of_endsWithSlash hends
      rw [← String.append_assoc, String.append_left_inj] at hname
      obtain ⟨first, second, rfl, hfirst, -, hrelative, -⟩ :=
        Path.exists_of_spelled_eq (hdirectory.canonical hne) hname.symm
      exact ⟨first, hfirst, hrelative, Or.inr ⟨hdirectory.of_append, Or.inr hends⟩⟩

/-- Where a name goes on behind the start of a root, it is that of a file below the root, or of a
directory that is the root or lies below it. -/
theorem file_or_directory_of_mem (h : archive.Holds body map) (hlocation : Path.Canonical location)
    (hmem : Path.spelled location ++ "/" ++ rest ∈ archive.names) :
    (∃ others, map.HasFile (location ++ others) ∧
        Path.segments rest.toList = others.map String.toList) ∨
      map.HasDirectory location ∧ (rest = "" ∨ Path.endsWithSlash rest = true) := by
  obtain ⟨there, hne, hspelled, ⟨others, -, hfile, hrest⟩ | ⟨hdirectory, hrest⟩⟩ :=
    exists_of_mem_names h hmem
  · rw [Path.spelled_inj hlocation (hfile.canonical.of_append hne) hspelled]
    exact Or.inl ⟨others, hfile, hrest⟩
  · rw [Path.spelled_inj hlocation (hdirectory.canonical hne) hspelled]
    exact Or.inr ⟨hdirectory, hrest⟩

theorem startOf_spelled (hlocation : Path.Canonical location) :
    startOf (Path.spelled location) = Path.spelled location ++ "/" := by
  have hempty : (Path.spelled location).isEmpty = false := by
    simpa using Path.spelled_ne_empty hlocation
  rw [startOf, hempty]
  rfl

/-- The name of an entry below a root is the spelling of its location. -/
theorem startOf_append_spelled (hlocation : Path.Canonical location) (hothers : others ≠ []) :
    startOf (Path.spelled location) ++ Path.spelled others = Path.spelled (location ++ others) := by
  rw [startOf_spelled hlocation, Path.spelled_append hlocation.1 hothers]

/-- An archive has an entry in a root exactly if the root is the spelling of a directory. -/
theorem hasStart_startOf_iff (h : archive.Holds body map) :
    hasStart archive (startOf relative) = true ↔ map.HasRoot relative := by
  rw [hasStart_eq_true_iff]
  constructor
  · rintro ⟨rest, hmem⟩
    by_cases hempty : relative = ""
    · refine ⟨[], ?_, hempty⟩
      rcases h.name _ hmem with ⟨location, hfile, -⟩ | ⟨location, -, hdirectory, -⟩
      · exact ⟨location, hfile.canonical.1, hfile⟩
      · have hbelow : map.HasDirectory ([] ++ location) := hdirectory
        exact hbelow.of_append
    · have hfalse : relative.isEmpty = false := by simpa using hempty
      rw [startOf, hfalse] at hmem
      obtain ⟨location, -, hspelled, ⟨others, hothers, hfile, -⟩ | ⟨hdirectory, -⟩⟩ :=
        exists_of_mem_names h hmem
      · exact ⟨location, hfile.hasDirectory hothers, hspelled⟩
      · exact ⟨location, hdirectory, hspelled⟩
  · rintro ⟨location, ⟨others, hothers, content, hmem⟩, rfl⟩
    refine ⟨Path.spelled others, ?_⟩
    have hname : startOf (Path.spelled location) ++ Path.spelled others =
        Path.spelled (location ++ others) := by
      by_cases hlocation : location = []
      · rw [hlocation]
        exact String.empty_append
      · exact startOf_append_spelled ((map.canonical _ hmem).of_append hlocation) hothers
    obtain ⟨entry, hentry, -⟩ := h.file _ _ hmem
    rw [hname, ← Zip.Archive.find?_isSome_iff, hentry]
    rfl

/-- For the spelling of a location this location must be the directory. -/
theorem hasStart_iff (h : archive.Holds body map) (hlocation : Path.Canonical location) :
    hasStart archive (startOf (Path.spelled location)) = true ↔ map.HasDirectory location := by
  rw [hasStart_startOf_iff h]
  refine ⟨?_, fun hdirectory ↦ ⟨location, hdirectory, rfl⟩⟩
  rintro ⟨other, hdirectory, hspelled⟩
  have hother : other ≠ [] := by
    rintro rfl
    exact Path.spelled_ne_empty hlocation hspelled
  rwa [Path.spelled_inj hlocation (hdirectory.canonical hother) hspelled]

section Root

variable (h : archive.Holds (store.body number) map) (hlocation : Path.Canonical location)

include h hlocation

/-- A root opens if it is a directory of the map. -/
theorem openAt_of_hasDirectory (hpath : archiveAt store path = .ok (number, archive))
    (hdirectory : map.HasDirectory location) :
    openAt store path (Path.spelled location) =
      .ok ⟨path, number, archive, startOf (Path.spelled location), []⟩ := by
  rw [openAt_eq hpath, if_pos ((hasStart_iff h hlocation).mpr hdirectory)]

/-- What is no directory of the map does not open. -/
theorem openAt_of_not_hasDirectory (hpath : archiveAt store path = .ok (number, archive))
    (hdirectory : ¬ map.HasDirectory location) :
    openAt store path (Path.spelled location) =
      .error (.rootNotFound (Path.spelled location) path) := by
  rw [openAt_eq hpath, if_neg (mt (hasStart_iff h hlocation).mp hdirectory)]

/-- The files of a root are those of the map. -/
theorem childFiles_eq : childFiles ⟨path, number, archive, startOf (Path.spelled location), []⟩ =
    map.childFiles location := by
  refine congrArg NameSet.names (NameSet.eq_of_mem_iff fun name ↦ ?_)
  rw [NameSet.mem_ofList, NameSet.mem_def, ← FileMap.childFiles, FileMap.mem_childFiles_iff,
    List.mem_filterMap]
  constructor
  · rintro ⟨entry, hmem, hname⟩
    obtain ⟨rfl, hne, hplain⟩ := childName?_eq_some_iff.mp hname
    have hslash : '/' ∉ name.toList := by
      simpa [String.contains_char_eq] using hplain
    rw [startOf_spelled hlocation] at hmem
    rcases file_or_directory_of_mem h hlocation hmem with ⟨others, hfile, hrest⟩ | ⟨-, hends⟩
    · rw [Path.segments_of_notMem hslash] at hrest
      obtain ⟨other, rfl, hother⟩ := List.map_eq_singleton_iff.mp hrest.symm
      rwa [String.toList_inj.mp hother] at hfile
    · rcases hends with hempty | hends
      · exact absurd hempty hne
      · obtain ⟨front, rfl⟩ := Path.exists_of_endsWithSlash hends
        simp at hslash
  · rintro ⟨content, hmem⟩
    obtain ⟨entry, hentry, -⟩ := h.file _ _ hmem
    have hname : Path.IsName name := (map.canonical _ hmem).2 name (by simp)
    refine ⟨Path.spelled (location ++ [name]), ?_, childName?_eq_some_iff.mpr ⟨?_, ?_, ?_⟩⟩
    · rw [← Zip.Archive.find?_isSome_iff, hentry]
      rfl
    · rw [← startOf_append_spelled hlocation (by simp), Path.spelled_singleton]
    · exact hname.ne_empty
    · simpa [String.contains_char_eq] using hname.slash_notMem

/-- The file at a location is read as the map tells. -/
theorem read_of_mem (hothers : others ≠ []) (hmem : (location ++ others, content) ∈ map.files) :
    (read store ⟨path, number, archive, startOf (Path.spelled location), []⟩
      (Path.spelled others)).1 = .ok (some content) := by
  obtain ⟨entry, hentry, hgives⟩ := h.file _ _ hmem
  obtain ⟨start, hstart, hunpack⟩ := hgives.data
  simp only [read, startOf_append_spelled hlocation hothers, hentry, extract,
    hgives.not_encrypted, locate, List.lookup_nil, hstart, unpack, hgives.supported, hunpack,
    Except.mapError, bind, Except.bind, Bool.false_eq_true, if_false]

/-- Where the map has no file, none is read. -/
theorem read_of_not_hasFile (hothers : Path.Canonical others)
    (hfile : ¬ map.HasFile (location ++ others)) :
    (read store ⟨path, number, archive, startOf (Path.spelled location), []⟩
      (Path.spelled others)).1 = .ok none := by
  rw [read_eq_none_iff]
  intro hmem
  rw [startOf_append_spelled hlocation hothers.1] at hmem
  have hboth := hlocation.append hothers
  rcases h.name _ hmem with ⟨there, hthere, hname⟩ | ⟨there, -, -, hname⟩
  · rw [Path.spelled_inj hboth hthere.canonical hname] at hfile
    exact hfile hthere
  · have hends := Path.endsWithSlash_spelled hboth
    rw [hname, Path.endsWithSlash_append _ (by decide)] at hends
    cases hends

/-- A root that opens tells the files of the map. -/
theorem tells_of_holds (path : String) :
    (answers store ⟨path, number, archive, startOf (Path.spelled location), []⟩).Tells
      registry map location := by
  refine ⟨congrArg Except.ok (childFiles_eq h hlocation), fun fileName hfile ↦ ?_,
    fun fileName hfile hincludes ↦ ?_⟩
  · obtain ⟨content, hmem⟩ := id hfile
    rw [FileMap.content?_eq_some_iff.mpr hmem, ← Path.spelled_singleton fileName]
    exact read_of_mem h hlocation (by simp) hmem
  · have hname : Path.IsName fileName := hfile.canonical.2 fileName (by simp)
    rw [Path.oraclePath_eq_spelled]
    by_cases hfound : map.HasFile (location ++ Path.oracleNames fileName)
    · obtain ⟨content, hmem⟩ := hfound
      rw [FileMap.content?_eq_some_iff.mpr hmem]
      exact read_of_mem h hlocation (by simp [Path.oracleNames]) hmem
    · rw [FileMap.content?_eq_none_iff.mpr hfound]
      exact read_of_not_hasFile h hlocation (Path.canonical_oracleNames hname) hfound

end Root

end ArchiveTree

end WastSuite
