import WastSuite.NameSet
import WastSuite.Proofs.Store.Walk

/-!
# Files below a directory

A file map says which files there are below some place, and what they hold. Each location is that of
a file (`FileMap.HasFile`), that of a directory (`FileMap.HasDirectory`) or free, and since no file
lies below another it is never the first two at once.

A directory of a store can hold exactly the files of a map (`Store.HoldsAt`). What the store finds
behind a path to that directory is then told by the map alone: the file at a location
(`HoldsAt.find_file`) or a directory (`HoldsAt.find_directory`, `HoldsAt.isDirectory_iff`).
-/

set_option autoImplicit false

namespace WastSuite

/-- Finitely many files below some place, with what they hold. Each of them has a location that can
be written, no name is too long, and none of them lies at or below another. -/
structure FileMap where
  files : List (Location × ByteArray)
  canonical : ∀ file ∈ files, Path.Canonical file.1
  size_le : ∀ file ∈ files, ∀ name ∈ file.1, name.utf8ByteSize ≤ Store.nameLimit
  eq_of_prefix : ∀ first ∈ files, ∀ second ∈ files, first.1 <+: second.1 → first = second

namespace FileMap

variable {map : FileMap} {location others : Location} {content : ByteArray} {name : String}

/-- There is a file at a location. -/
def HasFile (map : FileMap) (location : Location) : Prop :=
  ∃ content, (location, content) ∈ map.files

/-- There is a directory at a location: some file lies below it. -/
def HasDirectory (map : FileMap) (location : Location) : Prop :=
  ∃ others, others ≠ [] ∧ map.HasFile (location ++ others)

/-- What the file at a location holds, if there is one. -/
def content? (map : FileMap) (location : Location) : Option ByteArray :=
  map.files.lookup location

/-- The names of the files directly in a directory, in increasing order. -/
def childFiles (map : FileMap) (location : Location) : List String :=
  (NameSet.ofList (map.files.filterMap fun file ↦ Store.childName? location file.1)).names

/-- The content of a file is what stands for it in the map. -/
theorem content?_eq_some_iff : map.content? location = some content ↔
    (location, content) ∈ map.files := by
  constructor
  · intro h
    obtain ⟨before, after, hsplit, -⟩ := List.lookup_eq_some_iff.mp h
    rw [hsplit]
    simp
  · intro h
    cases hlookup : map.content? location with
    | none =>
      have hnone := List.lookup_eq_none_iff.mp hlookup _ h
      simp at hnone
    | some other =>
      obtain ⟨before, after, hsplit, -⟩ := List.lookup_eq_some_iff.mp hlookup
      have hother : (location, other) ∈ map.files := by
        rw [hsplit]
        simp
      have hsame := map.eq_of_prefix _ hother _ h (List.prefix_refl _)
      rw [(Prod.mk.inj hsame).2]

theorem content?_eq_none_iff : map.content? location = none ↔ ¬ map.HasFile location := by
  rw [HasFile, Option.eq_none_iff_forall_ne_some, not_exists]
  exact forall_congr' fun content ↦ not_congr content?_eq_some_iff

/-- The files directly in a directory are those with one name more. -/
theorem mem_childFiles_iff : name ∈ map.childFiles location ↔
    map.HasFile (location ++ [name]) := by
  rw [childFiles, ← NameSet.mem_def, NameSet.mem_ofList, List.mem_filterMap]
  constructor
  · rintro ⟨⟨there, content⟩, hmem, hname⟩
    exact ⟨content, Store.childName?_eq_some_iff.mp hname ▸ hmem⟩
  · rintro ⟨content, hmem⟩
    exact ⟨_, hmem, Store.childName?_eq_some_iff.mpr rfl⟩

theorem HasFile.canonical (h : map.HasFile location) : Path.Canonical location := by
  obtain ⟨content, hmem⟩ := h
  exact map.canonical _ hmem

/-- What a file lies below is a directory. -/
theorem HasFile.hasDirectory (h : map.HasFile (location ++ others)) (hothers : others ≠ []) :
    map.HasDirectory location :=
  ⟨others, hothers, h⟩

/-- What a directory lies below is a directory. -/
theorem HasDirectory.of_append (h : map.HasDirectory (location ++ others)) :
    map.HasDirectory location := by
  obtain ⟨more, hmore, hfile⟩ := h
  rw [List.append_assoc] at hfile
  exact hfile.hasDirectory (by simp [hmore])

theorem HasDirectory.canonical (h : map.HasDirectory location) (hne : location ≠ []) :
    Path.Canonical location := by
  obtain ⟨others, -, hfile⟩ := h
  exact hfile.canonical.of_append hne

/-- No name on the way to a directory is too long. -/
theorem HasDirectory.size_le (h : map.HasDirectory location) :
    ∀ name ∈ location, name.utf8ByteSize ≤ Store.nameLimit := by
  obtain ⟨others, -, content, hmem⟩ := h
  exact fun name hname ↦ map.size_le _ hmem name (List.mem_append_left _ hname)

/-- A directory has an entry. -/
theorem HasDirectory.exists_entry (h : map.HasDirectory location) : ∃ name,
    map.HasFile (location ++ [name]) ∨ map.HasDirectory (location ++ [name]) := by
  obtain ⟨others, hothers, hfile⟩ := h
  obtain ⟨name, more, rfl⟩ := List.exists_cons_of_ne_nil hothers
  refine ⟨name, ?_⟩
  rw [← List.singleton_append, ← List.append_assoc] at hfile
  by_cases hmore : more = []
  · rw [hmore, List.append_nil] at hfile
    exact Or.inl hfile
  · exact Or.inr (hfile.hasDirectory hmore)

end FileMap

namespace Store

variable {store : Store} {map : FileMap} {base name : String} {top location others : Location}
  {content : ByteArray}

/-- A directory holds the files of a map in the directories that they need, and nothing else. -/
structure HoldsAt (store : Store) (top : Location) (map : FileMap) : Prop where
  file : ∀ location content, (location, content) ∈ map.files →
    ∃ number, store.node? (top ++ location) = some (.file number) ∧ store.body number = content
  directory : ∀ location, map.HasDirectory location →
    store.node? (top ++ location) = some .directory
  free : ∀ location, location ≠ [] → ¬ map.HasFile location → ¬ map.HasDirectory location →
    store.node? (top ++ location) = none

/-- A path leads to a directory that holds exactly the files of a map. -/
def HoldsFiles (store : Store) (path : String) (map : FileMap) : Prop :=
  ∃ top, store.find path = .ok (top, .directory) ∧ store.HoldsAt top map

namespace HoldsAt

/-- The way to a directory leads through directories. -/
theorem directoriesTo (h : store.HoldsAt top map) (hlocation : map.HasDirectory location) :
    store.DirectoriesTo top location := by
  refine ⟨hlocation.size_le, fun first hfirst _ ↦ ?_⟩
  obtain ⟨rest, rfl⟩ := hfirst
  exact h.directory first hlocation.of_append

/-- What stands somewhere is a file or a directory of the map. -/
theorem file_or_directory (h : store.HoldsAt top map) (hlocation : location ≠ []) {node : Node}
    (hnode : store.node? (top ++ location) = some node) :
    (∃ number, node = .file number) ∧ map.HasFile location ∨
      node = .directory ∧ map.HasDirectory location := by
  by_cases hdirectory : map.HasDirectory location
  · rw [h.directory _ hdirectory] at hnode
    exact Or.inr ⟨(Option.some.inj hnode).symm, hdirectory⟩
  · by_cases hfile : map.HasFile location
    · obtain ⟨content, hmem⟩ := id hfile
      obtain ⟨number, hfound, -⟩ := h.file _ _ hmem
      rw [hfound] at hnode
      exact Or.inl ⟨⟨number, (Option.some.inj hnode).symm⟩, hfile⟩
    · rw [h.free _ hlocation hfile hdirectory] at hnode
      cases hnode

section Find

variable (h : store.HoldsAt top map) (hbase : store.find base = .ok (top, .directory))

include h hbase

/-- There are no links. -/
theorem node?_ne_link (location : Location) (target : String) :
    store.node? (top ++ location) ≠ some (.link target) := by
  intro hlink
  by_cases hlocation : location = []
  · rw [hlocation, List.append_nil, (find_eq_ok_iff.mp hbase).2] at hlink
    cases hlink
  · rcases h.file_or_directory hlocation hlink with ⟨⟨number, hfile⟩, -⟩ | ⟨hdirectory, -⟩
    · cases hfile
    · cases hdirectory

/-- A file is found with what it holds. -/
theorem find_file (hmem : (location, content) ∈ map.files)
    (hfits : (Path.below base location).utf8ByteSize ≤ pathLimit) :
    ∃ number, store.find (Path.below base location) =
      .ok (top ++ location, .file number) ∧ store.body number = content := by
  have hcanonical := map.canonical _ hmem
  obtain ⟨above, name, rfl⟩ := (List.eq_nil_or_concat' location).resolve_left hcanonical.1
  have habove : map.HasDirectory above := FileMap.HasFile.hasDirectory ⟨content, hmem⟩ (by simp)
  obtain ⟨number, hnode, hbody⟩ := h.file _ _ hmem
  rw [← List.append_assoc] at hnode ⊢
  refine ⟨number, ?_, hbody⟩
  exact find_below_of_node hbase hcanonical hfits (h.directoriesTo habove)
    (map.size_le _ hmem name (by simp)) hnode (by simp)

/-- A directory is found. -/
theorem find_directory (hne : location ≠ []) (hlocation : map.HasDirectory location)
    (hfits : (Path.below base location).utf8ByteSize ≤ pathLimit) :
    store.find (Path.below base location) =
      .ok (top ++ location, .directory) := by
  obtain ⟨above, name, rfl⟩ := (List.eq_nil_or_concat' location).resolve_left hne
  have hnode := h.directory _ hlocation
  rw [← List.append_assoc] at hnode ⊢
  exact find_below_of_node hbase (hlocation.canonical hne) hfits
    (h.directoriesTo hlocation.of_append) (hlocation.size_le name (by simp)) hnode (by simp)

/-- A path without names that go up leads to a directory exactly if its proper names are those of a
directory of the map, or it has none, and it is not too long. Then it leads to where they say.
Assumes: it does not start at the top. -/
theorem find_join_iff {relative : String} {there : Location}
    (habsolute : Path.isAbsolute relative = false)
    (hdots : ['.', '.'] ∉ Path.segments relative.toList) :
    store.find (Path.join base relative) = .ok (there, .directory) ↔
      (Path.join base relative).utf8ByteSize ≤ pathLimit ∧
        there = top ++ Path.properNames relative ∧
          (Path.properNames relative = [] ∨ map.HasDirectory (Path.properNames relative)) := by
  obtain ⟨hup, hnames⟩ := Path.entered_steps hdots
  have hbelow := Path.checkPath_join_iff (checkPath_of_find hbase) habsolute
  obtain ⟨links, hlinks⟩ := exists_locate_join hbase
  constructor
  · intro hfind
    obtain ⟨hlocate, hnode⟩ := find_eq_ok_iff.mp hfind
    have hcheck := checkPath_of_find hfind
    rw [hlinks _ habsolute hcheck] at hlocate
    obtain rfl : there = top ++ Path.properNames relative :=
      hnames ▸ eq_of_walk hup (fun first _ ↦ h.node?_ne_link hbase first) hlocate
    refine ⟨(hbelow.mp hcheck).2, rfl, or_iff_not_imp_left.mpr fun hne ↦ ?_⟩
    rcases h.file_or_directory hne hnode with ⟨⟨number, hfile⟩, -⟩ | ⟨-, hfound⟩
    · cases hfile
    · exact hfound
  · rintro ⟨hfits, rfl, hplace⟩
    have hnul : '\x00' ∉ relative.toList := by
      intro hmem
      obtain ⟨name, hname, hnul⟩ := Path.exists_mem_properNames (by decide) (by decide) hmem
      have hne := List.ne_nil_of_mem hname
      have hcanonical := (hplace.resolve_left hne).canonical hne
      exact (hcanonical.2 name hname).nul_notMem hnul
    have hway : store.DirectoriesTo top (Path.properNames relative) := by
      rcases hplace with hnone | hdirectory
      · rw [hnone]
        exact .nil
      · exact h.directoriesTo hdirectory
    have hnode : store.node? (top ++ Path.properNames relative) = some .directory := by
      rcases hplace with hnone | hdirectory
      · rw [hnone, List.append_nil]
        exact (find_eq_ok_iff.mp hbase).2
      · exact h.directory _ hdirectory
    refine find_eq_ok_iff.mpr ⟨?_, hnode⟩
    rw [hlinks _ habsolute (hbelow.mpr ⟨hnul, hfits⟩), ← List.append_nil (Path.steps relative),
      walk_of_directories hup (hnames.symm ▸ hway), hnames, walk_nil]

theorem isDirectory_join_iff {relative : String} (habsolute : Path.isAbsolute relative = false)
    (hdots : ['.', '.'] ∉ Path.segments relative.toList) :
    store.isDirectory (Path.join base relative) = true ↔
      (Path.join base relative).utf8ByteSize ≤ pathLimit ∧
        (Path.properNames relative = [] ∨ map.HasDirectory (Path.properNames relative)) := by
  rw [Store.isDirectory_iff]
  simp only [h.find_join_iff hbase habsolute hdots]
  constructor
  · rintro ⟨there, hfits, -, hplace⟩
    exact ⟨hfits, hplace⟩
  · rintro ⟨hfits, hplace⟩
    exact ⟨_, hfits, rfl, hplace⟩

/-- The paths to directories are those of the directories of the map. Assumes: the path of such a
directory is not too long. -/
theorem isDirectory_iff (hlocation : Path.Canonical location)
    (hfits : map.HasDirectory location →
      (Path.below base location).utf8ByteSize ≤ pathLimit) :
    store.isDirectory (Path.below base location) = true ↔
      map.HasDirectory location := by
  rw [Path.below, h.isDirectory_join_iff hbase (Path.isAbsolute_spelled hlocation)
    (Path.dots_notMem_segments_spelled hlocation), Path.properNames_spelled hlocation]
  simp only [hlocation.1, false_or]
  exact and_iff_right_of_imp hfits

end Find

end HoldsAt

end Store

end WastSuite
