import WastSuite.Proofs.Resource.Archive
import WastSuite.Proofs.Resource.Directory
import WastSuite.Proofs.Resource.Listing

/-!
# A directory and an archive with the same files

Discovery does not see whether its base is a directory or an archive, if both hold exactly the same
files. A root that is written as a location behind slashes opens in both or in neither
(`outcome_openRoot_of_settles`), and once it is open both trees tell the files of one map, so they
give the same units or meet the same file that is no text (`agree_load`).
Root by root this makes the outcomes agree for all roots together (`agree_loadAll`).

Main statement: `discovery_transparent`. The two may differ where a path below the directory is too
long for the store, which archives do not know: a directory whose path is made long with slashes
holds what an archive holds, and cannot even be listed (`not_agree_of_long_base`).
-/

set_option autoImplicit false

namespace WastSuite

/-- A relative path is a root as it is. -/
theorem ResourceBase.relativeRoot_eq_self {relative : String}
    (h : Path.isAbsolute relative = false) : relativeRoot relative = relative := by
  have hplain : relative.toList.dropWhile (· = '/') = relative.toList := by
    cases hchars : relative.toList with
    | nil => rfl
    | cons c rest =>
      rw [List.dropWhile_cons_of_neg]
      simpa [Path.isAbsolute, hchars] using h
  rw [relativeRoot, hplain, String.ofList_toList]

/-- The slashes in front of a root do not count. -/
theorem ResourceBase.relativeRoot_slashes_append (count : Nat) {relative : String}
    (h : Path.isAbsolute relative = false) :
    relativeRoot (Path.slashes count ++ relative) = relative := by
  rw [relativeRoot, Path.slashes, String.toList_append, String.toList_ofList,
    List.dropWhile_append_of_pos (by simp)]
  exact relativeRoot_eq_self h

namespace Path

variable {location : Location}

theorem relativeRoot_slashes (count : Nat) (h : Canonical location) :
    ResourceBase.relativeRoot (slashes count ++ spelled location) = spelled location :=
  ResourceBase.relativeRoot_slashes_append count (isAbsolute_spelled h)

/-- A root that spells a location does not end with a slash. -/
theorem beforeTail?_slashes (count : Nat) (h : Canonical location) :
    Text.beforeTail? "/" (slashes count ++ spelled location) = none := by
  rw [Option.eq_none_iff_forall_ne_some]
  intro front hfront
  have hends := endsWithSlash_append (slashes count) (spelled_ne_empty h)
  rw [Text.beforeTail?_eq_some_iff.mp hfront, endsWithSlash_append _ (by decide),
    endsWithSlash_spelled h] at hends
  cases hends

end Path

/-- A root of a registry is that of a location that can be written, behind any number of slashes,
and the expected output of each file that is included there is a file too or plainly missing. -/
structure FileMap.Settles (map : FileMap) (registry : Registry) (root : String)
    (location : Location) : Prop where
  canonical : Path.Canonical location
  spells : ∃ count, root = Path.slashes count ++ Path.spelled location
  oracle : ∀ fileName, map.HasFile (location ++ [fileName]) → registry.Includes fileName →
    map.HasFile (location ++ Path.oracleNames fileName) ∨ map.LacksOracle location fileName

/-- Two outcomes are the same but for the base in which a root was not found, and no other failure
is among them than that and a text that is not UTF-8. -/
inductive Agree {α : Type} (first second : String) :
    Except DiscoveryError α → Except DiscoveryError α → Prop
  | ok (result : α) : Agree first second (.ok result) (.ok result)
  | rootNotFound (root : String) :
    Agree first second (.error (.rootNotFound root first)) (.error (.rootNotFound root second))
  | notText (path : String) : Agree first second (.error (.notText path)) (.error (.notText path))

/-- Sequences agree whose parts do. -/
theorem Agree.bind {α β : Type} {base path : String} {first second : Report α}
    {next following : α → Report β} (h : Agree base path first.outcome second.outcome)
    (hnext : ∀ result, Agree base path (next result).outcome (following result).outcome) :
    Agree base path (first >>= next).outcome (second >>= following).outcome := by
  obtain ⟨firstLog, outcome⟩ := first
  obtain ⟨secondLog, result⟩ := second
  cases h with
  | ok result => exact hnext result
  | rootNotFound root => exact .rootNotFound root
  | notText there => exact .notText there

namespace Registry

variable {registry packed : Registry} {store other : Store} {map : FileMap}
  {base path root : String} {location : Location}

/-- A root opens as what is at its location: a directory, or the entries of an archive. -/
theorem outcome_openRoot_of_settles (resources : ResourceBase) (store : Store)
    (hsettles : map.Settles registry root location) :
    (resources.openRoot store root).outcome =
      match resources with
      | .directory base =>
        (DirectoryTree.openAt store base (Path.spelled location)).map .directory
      | .archive path => (ArchiveTree.openAt store path (Path.spelled location)).map .archive := by
  obtain ⟨count, hspells⟩ := hsettles.spells
  have hopen := OpenTree.outcome_openRoot resources store root
  rw [hspells, Path.beforeTail?_slashes count hsettles.canonical, if_neg (by simp),
    Path.relativeRoot_slashes count hsettles.canonical, ← hspells] at hopen
  exact hopen

/-- A root gives the same in a directory and in an archive with the same files. -/
theorem agree_load (hdirectory : store.HoldsFiles base map) (harchive : other.HoldsArchive path map)
    (hbase : registry.base = .directory base) (hpacked : packed.base = .archive path)
    (hlist : registry.allowList = packed.allowList) (hsettles : map.Settles registry root location)
    (hfits : map.FitsBelow registry base location) :
    Agree base path (registry.load store root).outcome (packed.load other root).outcome := by
  obtain ⟨top, hfind, hholds⟩ := hdirectory
  obtain ⟨number, archive, harchiveAt, hentries⟩ := harchive
  have hfirst : (registry.base.openRoot store root).outcome =
      (DirectoryTree.openAt store base (Path.spelled location)).map .directory := by
    rw [hbase, outcome_openRoot_of_settles _ store hsettles]
  have hsecond : (packed.base.openRoot other root).outcome =
      (ArchiveTree.openAt other path (Path.spelled location)).map .archive := by
    rw [hpacked, outcome_openRoot_of_settles _ other hsettles]
  by_cases hroot : map.HasDirectory location
  · have hlength := DirectoryTree.utf8ByteSize_root_le hfind hsettles.canonical hfits hroot
    rw [DirectoryTree.openAt_of_hasDirectory hholds hfind hsettles.canonical hroot hlength]
      at hfirst
    rw [ArchiveTree.openAt_of_hasDirectory hentries hsettles.canonical harchiveAt hroot] at hsecond
    have htells := DirectoryTree.tells_of_holds hholds hfind hsettles.canonical hfits hroot
      hsettles.oracle
    have hsame := unitsIn_eq_of_tells root hlist htells
      (ArchiveTree.tells_of_holds hentries hsettles.canonical path)
    rw [load_outcome_of_ok hfirst, load_outcome_of_ok hsecond]
    show Agree base path (registry.unitsIn (DirectoryTree.answers store _) root).outcome
      (packed.unitsIn (ArchiveTree.answers other _) root).outcome
    rw [← hsame]
    cases houtcome : (registry.unitsIn (DirectoryTree.answers store _) root).outcome with
    | ok units => exact .ok units
    | error error =>
      obtain ⟨there, rfl⟩ := exists_notText_of_tells htells houtcome
      exact .notText there
  · rw [DirectoryTree.openAt_of_not_hasDirectory hholds hfind hsettles.canonical hroot] at hfirst
    rw [ArchiveTree.openAt_of_not_hasDirectory hentries hsettles.canonical harchiveAt hroot]
      at hsecond
    rw [load_outcome_of_error hfirst, load_outcome_of_error hsecond]
    exact .rootNotFound _

/-- Outcomes that agree root by root agree for all roots together. -/
theorem agree_loadAll {roots : List String} (h : ∀ root ∈ roots,
      Agree base path (registry.load store root).outcome (packed.load other root).outcome) :
    Agree base path (registry.loadAll store roots).outcome (packed.loadAll other roots).outcome := by
  induction roots with
  | nil => exact .ok []
  | cons root roots ih =>
    have htail := ih fun root hmem ↦ h root (List.mem_cons_of_mem _ hmem)
    refine (h root List.mem_cons_self).bind fun units ↦ ?_
    exact htail.bind fun others ↦ .ok (units ++ others)

/-- Discovery does not see whether its base is a directory or an archive. Assumes: both hold exactly
the same files, each root is the path of a location, the expected outputs of the included files are
there or plainly missing, and no path below the directory is too long for the store. -/
theorem discovery_transparent (hbase : registry.base = .directory base)
    (hdirectory : store.HoldsFiles base map) (harchive : other.HoldsArchive path map)
    (hroots : ∀ root ∈ registry.roots, ∃ location,
      map.Settles registry root location ∧ map.FitsBelow registry base location) :
    (∀ root ∈ registry.roots, Agree base path (registry.load store root).outcome
      ({ registry with base := .archive path }.load other root).outcome) ∧
    Agree base path (registry.allUnits store).outcome
      ({ registry with base := .archive path }.allUnits other).outcome := by
  have hload : ∀ root ∈ registry.roots, Agree base path (registry.load store root).outcome
      ({ registry with base := .archive path }.load other root).outcome := by
    intro root hmem
    obtain ⟨location, hsettles, hfits⟩ := hroots root hmem
    exact agree_load hdirectory harchive hbase rfl rfl hsettles hfits
  exact ⟨hload, agree_loadAll hload⟩

/-! ### A small store -/

/-- An archive with one file, `r/x.wast`. -/
def smallArchive : ByteArray :=
  ⟨#[80, 75, 3, 4, 20, 0, 0, 0, 0, 0, 0, 0, 33, 0, 57, 36, 54, 94, 2, 0, 0, 0, 2, 0, 0, 0, 8, 0, 0,
    0, 114, 47, 120, 46, 119, 97, 115, 116, 40, 41, 80, 75, 1, 2, 20, 3, 20, 0, 0, 0, 0, 0, 0, 0,
    33, 0, 57, 36, 54, 94, 2, 0, 0, 0, 2, 0, 0, 0, 8, 0, 0, 0, 0, 0, 0, 0, 0, 0, 0, 0, 128, 1, 0, 0,
    0, 0, 114, 47, 120, 46, 119, 97, 115, 116, 80, 75, 5, 6, 0, 0, 0, 0, 1, 0, 1, 0, 54, 0, 0, 0,
    40, 0, 0, 0, 0, 0]⟩

/-- What the directory of that archive says about the file. -/
def smallEntry : Zip.Entry where
  name := "r/x.wast"
  nameBytes := "r/x.wast".toUTF8.toList
  comment := ""
  encrypted := false
  stronglyEncrypted := false
  method := 0
  checksum := 1580606521
  packedSize := 2
  declaredSize := 2
  headerStart := 0

theorem search_smallArchive : Zip.EndRecord.search smallArchive smallArchive.size none =
    .ok (94, some ⟨40, 1, 0⟩) := by decide +kernel

theorem directory?_smallArchive :
    Zip.Entry.directory? smallArchive ⟨40, 1, 0⟩ = some [smallEntry] := by decide +kernel

theorem ofContent_smallArchive : Zip.Archive.ofContent smallArchive = .ok ⟨[smallEntry]⟩ :=
  Zip.Archive.ofContent_of_directory? search_smallArchive directory?_smallArchive

/-- The map of that file. -/
def smallMap : FileMap where
  files := [(["r", "x.wast"], "()".toUTF8)]
  canonical := by
    intro file hfile
    rw [List.mem_singleton.mp hfile]
    decide
  size_le := by
    intro file hfile
    rw [List.mem_singleton.mp hfile]
    decide
  eq_of_prefix := by
    intro first hfirst second hsecond _
    rw [List.mem_singleton.mp hfirst, List.mem_singleton.mp hsecond]

/-- A store with the file in a directory and in an archive. -/
def smallStore : Store where
  nodes := [(["d"], .directory), (["d", "r"], .directory), (["d", "r", "x.wast"], .file 0),
    (["a.zip"], .file 1)]
  bodies := ["()".toUTF8, smallArchive]
  working := []

theorem hasFile_smallMap_iff {location : Location} :
    smallMap.HasFile location ↔ location = ["r", "x.wast"] := by
  simp [FileMap.HasFile, smallMap]

theorem hasDirectory_smallMap_iff {location : Location} :
    smallMap.HasDirectory location ↔ location = [] ∨ location = ["r"] := by
  simp only [FileMap.HasDirectory, hasFile_smallMap_iff]
  constructor
  · rintro ⟨others, hothers, hsplit⟩
    rcases location with _ | ⟨first, _ | ⟨second, rest⟩⟩
    · exact Or.inl rfl
    · simp only [List.cons_append, List.cons.injEq] at hsplit
      exact Or.inr (by rw [hsplit.1])
    · simp_all
  · rintro (rfl | rfl)
    · exact ⟨["r", "x.wast"], by simp, rfl⟩
    · exact ⟨["x.wast"], by simp, rfl⟩

theorem holdsAt_smallStore : smallStore.HoldsAt ["d"] smallMap := by
  refine ⟨?_, ?_, ?_⟩
  · intro location content hmem
    obtain ⟨rfl, rfl⟩ := Prod.mk.inj (List.mem_singleton.mp hmem)
    exact ⟨0, by decide, rfl⟩
  · intro location hlocation
    rcases hasDirectory_smallMap_iff.mp hlocation with rfl | rfl <;> decide
  · intro location hne hfile hdirectory
    rw [hasFile_smallMap_iff] at hfile
    rw [hasDirectory_smallMap_iff, not_or] at hdirectory
    rw [Store.node?, if_neg (by simp), List.lookup_eq_none_iff]
    simp [smallStore, hne, hfile, hdirectory.2]

theorem find_below_slashes (count : Nat) (h : count + 2 ≤ Store.pathLimit) :
    smallStore.find ("d" ++ Path.slashes (count + 1)) = .ok (["d"], .directory) := by
  have hcheck : Store.checkPath ("d" ++ Path.slashes (count + 1)) = .ok () := by
    refine Path.checkPath_eq_ok_iff.mpr ⟨?_, ?_, ?_⟩
    · simp [Path.slashes]
    · simp [String.append_eq_empty_iff]
    · rw [String.utf8ByteSize_append, Path.utf8ByteSize_slashes]
      show 1 + (count + 1) ≤ _
      omega
  have hstart : smallStore.start ("d" ++ Path.slashes (count + 1)) = [] := by
    simp [Store.start, smallStore]
  refine Store.find_of_walk hcheck ?_ (by decide)
  rw [hstart, Path.steps_append_slashes]
  decide

/-- The archive holds the file. -/
theorem holdsArchive_smallStore : smallStore.HoldsArchive "a.zip" smallMap := by
  have hcheck : Store.checkPath "a.zip" = .ok () :=
    Path.checkPath_eq_ok_iff.mpr ⟨by decide, by decide, by decide⟩
  have hfind : smallStore.find "a.zip" = .ok (["a.zip"], .file 1) :=
    Store.find_of_walk hcheck (by decide) (by decide)
  refine ⟨1, ⟨[smallEntry]⟩, ?_, ?_, ?_⟩
  · have hbody : smallStore.body 1 = smallArchive := rfl
    simp only [ArchiveTree.archiveAt, hfind, hbody, ofContent_smallArchive]
  · intro location content hmem
    obtain ⟨rfl, rfl⟩ := Prod.mk.inj (List.mem_singleton.mp hmem)
    refine ⟨smallEntry, ?_, rfl, rfl, 38, ?_, ?_⟩ <;> decide +kernel
  · intro name hname
    refine Or.inl ⟨["r", "x.wast"], hasFile_smallMap_iff.mpr rfl, ?_⟩
    rw [List.mem_singleton.mp hname]
    decide

/-- A registry for the small store. -/
def smallRegistry (base : String) : Registry :=
  ⟨.directory base, ["/r"], .ofNames ["x.wast"]⟩

theorem settles_smallMap (base : String) : smallMap.Settles (smallRegistry base) "/r" ["r"] := by
  refine ⟨by decide, ⟨1, by decide⟩, fun fileName hfile _ ↦ Or.inr ?_⟩
  obtain rfl : fileName = "x.wast" := by simpa using hasFile_smallMap_iff.mp hfile
  refine ⟨?_, ?_, by decide⟩
  · rw [hasDirectory_smallMap_iff]
    decide
  · rw [hasFile_smallMap_iff]
    decide

theorem discovery_transparent_small :
    (∀ root ∈ ["/r"], Agree "d" "a.zip" ((smallRegistry "d").load smallStore root).outcome
      ({ smallRegistry "d" with base := .archive "a.zip" }.load smallStore root).outcome) ∧
    Agree "d" "a.zip" ((smallRegistry "d").allUnits smallStore).outcome
      ({ smallRegistry "d" with base := .archive "a.zip" }.allUnits smallStore).outcome := by
  have hbase : (smallRegistry "d").base = .directory "d" := rfl
  have hcheck : Store.checkPath "d" = .ok () :=
    Path.checkPath_eq_ok_iff.mpr ⟨by decide, by decide, by decide⟩
  have hfind : smallStore.find "d" = .ok (["d"], .directory) :=
    Store.find_of_walk hcheck (by decide) (by decide)
  refine discovery_transparent hbase ⟨["d"], hfind, holdsAt_smallStore⟩ holdsArchive_smallStore
    fun root hroot ↦ ⟨["r"], ?_, ?_, ?_⟩
  · rw [List.mem_singleton.mp hroot]
    exact settles_smallMap "d"
  · rintro name (hfile | hdirectory)
    · obtain rfl : name = "x.wast" := by simpa using hasFile_smallMap_iff.mp hfile
      decide
    · simp [hasDirectory_smallMap_iff] at hdirectory
  · intro fileName hfile _
    obtain rfl : fileName = "x.wast" := by simpa using hasFile_smallMap_iff.mp hfile
    decide

/-- A path to the directory that is so long that no path to the file is short enough. -/
def longBase : String :=
  "d" ++ Path.slashes 4090

theorem utf8ByteSize_below_longBase {location : Location} (h : Path.Canonical location) :
    (Path.below longBase location).utf8ByteSize =
      4091 + (Path.spelled location).utf8ByteSize := by
  have hne : longBase ≠ "" := by
    simp [longBase, String.append_eq_empty_iff]
  have hgap : Path.gap longBase = "" := by
    rw [Path.gap, longBase, Path.slashes_succ 4089, ← String.append_assoc,
      Path.endsWithSlash_append _ (by decide)]
    decide
  rw [Path.below_eq_append hne h, hgap, longBase]
  simp only [String.utf8ByteSize_append, Path.utf8ByteSize_slashes]
  rfl

/-- The files below the long path cannot be listed, since the path of one of them is too long. -/
theorem childFiles_longBase :
    DirectoryTree.childFiles smallStore ⟨Path.below longBase ["r"]⟩ =
      .error (.io (Path.below longBase ["r", "x.wast"]) (.refused .nameTooLong)) := by
  have hbase : smallStore.find longBase = .ok (["d"], .directory) :=
    find_below_slashes 4089 (by decide)
  have hroot := holdsAt_smallStore.find_directory hbase (by decide)
    (hasDirectory_smallMap_iff.mpr (Or.inr rfl))
    (by rw [utf8ByteSize_below_longBase (by decide)]; decide)
  have hlist : smallStore.list (Path.below longBase ["r"]) = .ok ["x.wast"] := by
    rw [Store.list, hroot]
    exact congrArg Except.ok (by decide +kernel)
  have hpath : Path.join (Path.below longBase ["r"]) "x.wast" =
      Path.below longBase ["r", "x.wast"] := by
    rw [← Path.spelled_singleton "x.wast",
      Path.join_below (Store.ne_empty_of_find hbase) (by decide) (by decide)]
    rfl
  have hfind : smallStore.find (Path.below longBase ["r", "x.wast"]) = .error .nameTooLong :=
    Store.find_below_of_long_path hbase (by decide)
      (by rw [utf8ByteSize_below_longBase (by decide)]; decide)
  simp only [DirectoryTree.childFiles, hlist, DirectoryTree.regularFiles, hpath, hfind, Except.map]

/-- The directory with the long path holds what the archive holds, and yet discovery fails there. -/
theorem not_agree_of_long_base :
    smallStore.HoldsFiles longBase smallMap ∧ smallStore.HoldsArchive "a.zip" smallMap ∧
      smallMap.Settles (smallRegistry longBase) "/r" ["r"] ∧
      ((smallRegistry longBase).load smallStore "/r").outcome =
        .error (.io (Path.below longBase ["r", "x.wast"]) (.refused .nameTooLong)) ∧
      ¬ Agree longBase "a.zip" ((smallRegistry longBase).load smallStore "/r").outcome
        ({ smallRegistry longBase with base := .archive "a.zip" }.load smallStore "/r").outcome := by
  have hbase : smallStore.find longBase = .ok (["d"], .directory) :=
    find_below_slashes 4089 (by decide)
  have hsettles := settles_smallMap longBase
  have hopen : ((smallRegistry longBase).base.openRoot smallStore "/r").outcome =
      .ok (.directory ⟨Path.below longBase ["r"]⟩) := by
    have hroot := DirectoryTree.openAt_of_hasDirectory holdsAt_smallStore hbase hsettles.canonical
      (hasDirectory_smallMap_iff.mpr (Or.inr rfl))
      (by rw [utf8ByteSize_below_longBase (by decide)]; decide)
    rw [show (smallRegistry longBase).base = .directory longBase from rfl,
      outcome_openRoot_of_settles _ smallStore hsettles]
    exact congrArg (Except.map OpenTree.directory) hroot
  have hload : ((smallRegistry longBase).load smallStore "/r").outcome =
      .error (.io (Path.below longBase ["r", "x.wast"]) (.refused .nameTooLong)) := by
    rw [load_outcome_of_ok hopen, unitsIn_outcome_eq_error_iff]
    exact .listing childFiles_longBase
  refine ⟨⟨["d"], hbase, holdsAt_smallStore⟩, holdsArchive_smallStore, hsettles, hload, ?_⟩
  rw [hload]
  intro hagree
  cases hagree

end Registry

end WastSuite
