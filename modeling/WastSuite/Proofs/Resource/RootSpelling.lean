import WastSuite.Proofs.Discovery.Transparency
import WastSuite.Proofs.Resource.Archive

/-!
# Which roots open

An archive that holds a file map opens exactly the spellings of its directories
(`outcome_openRoot_archive`). A directory that holds the same files resolves a root as a path: names
that are empty or `.` do not count, `..` goes up, and the whole path must not be too long. As long
as no name goes up, what opens is the directory itself or a directory of the map
(`Store.HoldsAt.find_join_iff`).

Main statement: the two take a root alike exactly if it ends with a slash, or is the spelling of a
directory of the map and not too long, or is no such spelling and its path leads to no directory
(`openRoot_alike_iff`). A name that goes up leads out of the directory, where the archive finds
nothing (`openRoot_above_base`).
-/

set_option autoImplicit false

namespace WastSuite

/-- One root is taken alike over two bases: it opens over both, or it is refused for its ending over
both, or found over neither, each then naming its own base. -/
inductive OpenTree.Alike (first second : String) :
    Except DiscoveryError OpenTree → Except DiscoveryError OpenTree → Prop
  | ok (tree other : OpenTree) : Alike first second (.ok tree) (.ok other)
  | invalidRoot (root : String) :
    Alike first second (.error (.invalidRoot root)) (.error (.invalidRoot root))
  | rootNotFound (root : String) :
    Alike first second (.error (.rootNotFound root first)) (.error (.rootNotFound root second))

namespace ResourceBase

variable {store : Store} {map : FileMap} {base path root relative : String}

/-! ### Roots below a base -/

theorem isAbsolute_relativeRoot (root : String) : Path.isAbsolute (relativeRoot root) = false := by
  have hhead := List.head?_dropWhile_not (· = '/') root.toList
  rw [Path.isAbsolute, relativeRoot, String.toList_ofList]
  cases hfirst : (root.toList.dropWhile (· = '/')).head? with
  | none => rfl
  | some c =>
    rw [hfirst] at hhead
    simpa using hhead

theorem isSome_beforeTail?_iff :
    (Text.beforeTail? "/" root).isSome = true ↔ Path.endsWithSlash root = true := by
  simp only [Option.isSome_iff_exists, Text.beforeTail?_eq_some_iff]
  constructor
  · rintro ⟨front, rfl⟩
    rw [Path.endsWithSlash_append _ (by decide)]
    decide
  · exact Path.exists_of_endsWithSlash

theorem not_isSome_beforeTail? (h : Path.endsWithSlash root = false) :
    ¬ (Text.beforeTail? "/" root).isSome = true := by
  rw [isSome_beforeTail?_iff, h]
  exact Bool.false_ne_true

/-- A root that ends with a slash is refused before anything is asked or logged. -/
theorem openRoot_of_endsWithSlash (resources : ResourceBase) (store : Store)
    (h : Path.endsWithSlash root = true) :
    resources.openRoot store root = ⟨[], .error (.invalidRoot root)⟩ := by
  unfold openRoot
  rw [if_pos (isSome_beforeTail?_iff.mpr h)]
  rfl

theorem outcome_openRoot_of_endsWithSlash (resources : ResourceBase) (store : Store)
    (h : Path.endsWithSlash root = true) :
    (resources.openRoot store root).outcome = .error (.invalidRoot root) := by
  rw [openRoot_of_endsWithSlash resources store h]

/-- Any other root below a directory opens if its path leads to a directory, and is not found
otherwise. -/
theorem outcome_openRoot_directory (store : Store) (base : String)
    (h : Path.endsWithSlash root = false) :
    ((ResourceBase.directory base).openRoot store root).outcome =
      if store.isDirectory (Path.join base (relativeRoot root)) then
        .ok (.directory ⟨Path.join base (relativeRoot root)⟩)
      else .error (.rootNotFound (relativeRoot root) base) := by
  rw [OpenTree.outcome_openRoot, if_neg (not_isSome_beforeTail? h)]
  simp only [DirectoryTree.openAt]
  split_ifs <;> rfl

/-- Any other root in an archive opens if it is the spelling of a directory, and is not found
otherwise. -/
theorem outcome_openRoot_archive (harchive : store.HoldsArchive path map)
    (h : Path.endsWithSlash root = false) :
    map.HasRoot (relativeRoot root) ∧
        (∃ tree, ((ResourceBase.archive path).openRoot store root).outcome = .ok tree) ∨
      ¬ map.HasRoot (relativeRoot root) ∧
        ((ResourceBase.archive path).openRoot store root).outcome =
          .error (.rootNotFound (relativeRoot root) path) := by
  obtain ⟨number, archive, hpath, hholds⟩ := harchive
  rw [OpenTree.outcome_openRoot, if_neg (not_isSome_beforeTail? h)]
  simp only [ArchiveTree.openAt_eq hpath, ← ArchiveTree.hasStart_startOf_iff hholds]
  split_ifs with hstart
  · exact Or.inl ⟨hstart, _, rfl⟩
  · exact Or.inr ⟨hstart, rfl⟩

/-- The spelling of a directory of the map leads to a directory, unless the path is too long. -/
theorem isDirectory_of_hasRoot (hdirectory : store.HoldsFiles base map)
    (h : map.HasRoot relative) : store.isDirectory (Path.join base relative) = true ↔
      (Path.join base relative).utf8ByteSize ≤ Store.pathLimit := by
  obtain ⟨top, hbase, hholds⟩ := hdirectory
  obtain ⟨location, hlocation, rfl⟩ := h
  by_cases hempty : location = []
  · subst hempty
    have habsolute : Path.isAbsolute (Path.spelled []) = false := by decide
    have hdots : ['.', '.'] ∉ Path.segments (Path.spelled []).toList := by decide
    have hnames : Path.properNames (Path.spelled []) = [] := by decide
    rw [hholds.isDirectory_join_iff hbase habsolute hdots]
    exact and_iff_left (Or.inl hnames)
  · have hcanonical := hlocation.canonical hempty
    rw [hholds.isDirectory_join_iff hbase (Path.isAbsolute_spelled hcanonical)
      (Path.dots_notMem_segments_spelled hcanonical), Path.properNames_spelled hcanonical]
    exact and_iff_left (Or.inr hlocation)

/-- A root without names that go up opens below a directory exactly if its proper names are those of
a directory of the map, or it has none, and the path is not too long. -/
theorem exists_openRoot_directory_iff {top : Location} (hholds : store.HoldsAt top map)
    (hbase : store.find base = .ok (top, .directory))
    (hdots : ['.', '.'] ∉ Path.segments (relativeRoot root).toList) :
    (∃ tree, ((ResourceBase.directory base).openRoot store root).outcome = .ok tree) ↔
      Path.endsWithSlash root = false ∧
        (Path.join base (relativeRoot root)).utf8ByteSize ≤ Store.pathLimit ∧
        (Path.properNames (relativeRoot root) = [] ∨
          map.HasDirectory (Path.properNames (relativeRoot root))) := by
  cases hends : Path.endsWithSlash root with
  | true => simp [outcome_openRoot_of_endsWithSlash _ store hends]
  | false =>
    rw [outcome_openRoot_directory store base hends,
      ← hholds.isDirectory_join_iff hbase (isAbsolute_relativeRoot root) hdots]
    split_ifs with hfound <;> simp [hfound]

/-- Such a root leads to where its proper names say. -/
theorem find_of_openRoot_directory {top : Location} {tree : DirectoryTree}
    (hholds : store.HoldsAt top map) (hbase : store.find base = .ok (top, .directory))
    (hdots : ['.', '.'] ∉ Path.segments (relativeRoot root).toList)
    (hopen : ((ResourceBase.directory base).openRoot store root).outcome =
      .ok (.directory tree)) :
    store.find tree.root = .ok (top ++ Path.properNames (relativeRoot root), .directory) := by
  cases hends : Path.endsWithSlash root with
  | true => simp [outcome_openRoot_of_endsWithSlash _ store hends] at hopen
  | false =>
    rw [outcome_openRoot_directory store base hends] at hopen
    split_ifs at hopen with hfound
    cases hopen
    obtain ⟨there, hfind⟩ := Store.isDirectory_iff.mp hfound
    obtain ⟨-, rfl, -⟩ :=
      (hholds.find_join_iff hbase (isAbsolute_relativeRoot root) hdots).mp hfind
    exact hfind

/-! ### Roots over both -/

/-- A root that opens over neither fails alike. -/
theorem alike_of_errors {error fault : DiscoveryError} (harchive : store.HoldsArchive path map)
    (hfirst : ((ResourceBase.directory base).openRoot store root).outcome = .error error)
    (hsecond : ((ResourceBase.archive path).openRoot store root).outcome = .error fault) :
    OpenTree.Alike base path (.error error) (.error fault) := by
  cases hends : Path.endsWithSlash root with
  | true =>
    rw [outcome_openRoot_of_endsWithSlash _ store hends] at hfirst hsecond
    cases hfirst
    cases hsecond
    exact .invalidRoot root
  | false =>
    rw [outcome_openRoot_directory store base hends] at hfirst
    split_ifs at hfirst
    cases hfirst
    rcases outcome_openRoot_archive harchive hends with ⟨-, tree, htree⟩ | ⟨-, hfailed⟩
    · cases htree.symm.trans hsecond
    · cases hfailed.symm.trans hsecond
      exact .rootNotFound _

/-- A root is taken alike exactly if it ends with a slash, or is the spelling of a directory of the
map and its path not too long, or is no such spelling and its path leads to no directory. -/
theorem alike_openRoot_iff (hdirectory : store.HoldsFiles base map)
    (harchive : store.HoldsArchive path map) :
    OpenTree.Alike base path ((ResourceBase.directory base).openRoot store root).outcome
        ((ResourceBase.archive path).openRoot store root).outcome ↔
      Path.endsWithSlash root = true ∨
        map.HasRoot (relativeRoot root) ∧
          (Path.join base (relativeRoot root)).utf8ByteSize ≤ Store.pathLimit ∨
        ¬ map.HasRoot (relativeRoot root) ∧
          store.isDirectory (Path.join base (relativeRoot root)) = false := by
  cases hends : Path.endsWithSlash root with
  | true =>
    rw [outcome_openRoot_of_endsWithSlash _ store hends,
      outcome_openRoot_of_endsWithSlash _ store hends]
    exact iff_of_true (.invalidRoot root) (Or.inl rfl)
  | false =>
    rw [outcome_openRoot_directory store base hends]
    rcases outcome_openRoot_archive harchive hends with ⟨hroot, tree, htree⟩ | ⟨hroot, hfailed⟩
    · have hfits := isDirectory_of_hasRoot hdirectory hroot
      rw [htree, ← hfits]
      split_ifs with hfound
      · exact iff_of_true (.ok _ _) (Or.inr (Or.inl ⟨hroot, hfound⟩))
      · refine iff_of_false (fun halike ↦ ?_) (by simp [hroot, hfound])
        cases halike
    · rw [hfailed]
      split_ifs with hfound
      · refine iff_of_false (fun halike ↦ ?_) (by simp [hroot, hfound])
        cases halike
      · exact iff_of_true (.rootNotFound _)
          (Or.inr (Or.inr ⟨hroot, (Bool.not_eq_true _).mp hfound⟩))

/-- A directory and an archive with the same files take a root alike exactly if it ends with a
slash, or is the spelling of a directory and its path is not too long, or is no such spelling and
its path leads to no directory. Where neither opens it, they fail alike. A root without names that
go up opens over the directory exactly if its proper names are those of a directory of the map, or
it has none, and its path is not too long; then it is where they say, at or below the base. -/
theorem openRoot_alike_iff (hdirectory : store.HoldsFiles base map)
    (harchive : store.HoldsArchive path map) (root : String) :
    (OpenTree.Alike base path ((ResourceBase.directory base).openRoot store root).outcome
        ((ResourceBase.archive path).openRoot store root).outcome ↔
      Path.endsWithSlash root = true ∨
        map.HasRoot (relativeRoot root) ∧
          (Path.join base (relativeRoot root)).utf8ByteSize ≤ Store.pathLimit ∨
        ¬ map.HasRoot (relativeRoot root) ∧
          store.isDirectory (Path.join base (relativeRoot root)) = false) ∧
    (∀ error fault, ((ResourceBase.directory base).openRoot store root).outcome = .error error →
      ((ResourceBase.archive path).openRoot store root).outcome = .error fault →
        OpenTree.Alike base path (.error error) (.error fault)) ∧
    (['.', '.'] ∉ Path.segments (relativeRoot root).toList →
      ∀ top, store.find base = .ok (top, .directory) →
        ((∃ tree, ((ResourceBase.directory base).openRoot store root).outcome = .ok tree) ↔
          Path.endsWithSlash root = false ∧
            (Path.join base (relativeRoot root)).utf8ByteSize ≤ Store.pathLimit ∧
            (Path.properNames (relativeRoot root) = [] ∨
              map.HasDirectory (Path.properNames (relativeRoot root)))) ∧
        ∀ tree, ((ResourceBase.directory base).openRoot store root).outcome =
            .ok (.directory tree) →
          store.find tree.root =
            .ok (top ++ Path.properNames (relativeRoot root), .directory)) := by
  refine ⟨alike_openRoot_iff hdirectory harchive,
    fun error fault hfirst hsecond ↦ alike_of_errors harchive hfirst hsecond,
    fun hdots top hbase ↦ ?_⟩
  obtain ⟨there, hthere, hholds⟩ := hdirectory
  cases hbase.symm.trans hthere
  exact ⟨exists_openRoot_directory_iff hholds hbase hdots,
    fun tree hopen ↦ find_of_openRoot_directory hholds hbase hdots hopen⟩

/-! ### Roots of a small store -/

open Registry

theorem hasRoot_smallMap_iff : smallMap.HasRoot relative ↔ relative = "" ∨ relative = "r" := by
  simp only [FileMap.HasRoot, hasDirectory_smallMap_iff]
  constructor
  · rintro ⟨location, rfl | rfl, rfl⟩
    · exact Or.inl rfl
    · exact Or.inr rfl
  · rintro (rfl | rfl)
    · exact ⟨[], Or.inl rfl, rfl⟩
    · exact ⟨["r"], Or.inr rfl, rfl⟩

theorem find_smallStore_base : smallStore.find "d" = .ok (["d"], .directory) :=
  Store.find_of_walk (Path.checkPath_eq_ok_iff.mpr ⟨by decide, by decide, by decide⟩) (by decide)
    (by decide)

theorem holdsFiles_smallStore : smallStore.HoldsFiles "d" smallMap :=
  ⟨["d"], find_smallStore_base, holdsAt_smallStore⟩

/-- The spelling of the root is taken alike. With a name in front that stays, it opens below the
directory just as well, but not in the archive. -/
theorem openRoot_alike_iff_small :
    OpenTree.Alike "d" "a.zip" ((ResourceBase.directory "d").openRoot smallStore "//r").outcome
        ((ResourceBase.archive "a.zip").openRoot smallStore "//r").outcome ∧
      (∃ tree, ((ResourceBase.directory "d").openRoot smallStore "/./r").outcome = .ok tree) ∧
      ¬ OpenTree.Alike "d" "a.zip"
        ((ResourceBase.directory "d").openRoot smallStore "/./r").outcome
        ((ResourceBase.archive "a.zip").openRoot smallStore "/./r").outcome := by
  have hplain : relativeRoot "//r" = "r" := by decide
  have hstaying : relativeRoot "/./r" = "./r" := by decide
  have hnames : Path.properNames "./r" = ["r"] := by decide
  obtain ⟨halike, -, -⟩ := openRoot_alike_iff holdsFiles_smallStore holdsArchive_smallStore "//r"
  obtain ⟨hdiffer, -, hopens⟩ :=
    openRoot_alike_iff holdsFiles_smallStore holdsArchive_smallStore "/./r"
  rw [hstaying] at hdiffer hopens
  refine ⟨halike.mpr (Or.inr (Or.inl ⟨?_, ?_⟩)), ?_, fun hboth ↦ ?_⟩
  · rw [hplain, hasRoot_smallMap_iff]
    exact Or.inr rfl
  · rw [hplain]
    decide
  · refine (hopens (by decide) ["d"] find_smallStore_base).1.mpr ⟨by decide, by decide, ?_⟩
    rw [hnames, hasDirectory_smallMap_iff]
    exact Or.inr (Or.inr rfl)
  · have hfound : smallStore.find "d/./r" = .ok (["d", "r"], .directory) :=
      Store.find_of_walk (Path.checkPath_eq_ok_iff.mpr ⟨by decide, by decide, by decide⟩)
        (by decide) (by decide)
    rcases hdiffer.mp hboth with hends | ⟨hroot, -⟩ | ⟨-, hnone⟩
    · exact absurd hends (by decide)
    · rw [hasRoot_smallMap_iff] at hroot
      exact absurd hroot (by decide)
    · exact Bool.false_ne_true (hnone.symm.trans (Store.isDirectory_iff.mpr ⟨_, hfound⟩))

/-- A root that goes up is accepted below a directory, and is not at or below it. The archive with
the same files does not find it. -/
theorem openRoot_above_base :
    smallStore.HoldsFiles "d" smallMap ∧ smallStore.HoldsArchive "a.zip" smallMap ∧
      ((ResourceBase.directory "d").openRoot smallStore "/..").outcome =
        .ok (.directory ⟨"d/.."⟩) ∧
      smallStore.find "d" = .ok (["d"], .directory) ∧
      smallStore.find "d/.." = .ok ([], .directory) ∧ ¬ ["d"] <+: ([] : Location) ∧
      ((ResourceBase.archive "a.zip").openRoot smallStore "/..").outcome =
        .error (.rootNotFound ".." "a.zip") := by
  have hup : relativeRoot "/.." = ".." := by decide
  have hends : Path.endsWithSlash "/.." = false := by decide
  have hfound : smallStore.find "d/.." = .ok ([], .directory) :=
    Store.find_of_walk (Path.checkPath_eq_ok_iff.mpr ⟨by decide, by decide, by decide⟩)
      (by decide) (by decide)
  have hjoin : Path.join "d" ".." = "d/.." := by decide
  refine ⟨holdsFiles_smallStore, holdsArchive_smallStore, ?_, find_smallStore_base, hfound,
    by decide, ?_⟩
  · rw [outcome_openRoot_directory smallStore "d" hends, hup, hjoin,
      if_pos (Store.isDirectory_iff.mpr ⟨_, hfound⟩)]
  · rcases outcome_openRoot_archive holdsArchive_smallStore hends with ⟨hroot, -⟩ | ⟨-, hfailed⟩
    · rw [hup, hasRoot_smallMap_iff] at hroot
      exact absurd hroot (by decide)
    · rwa [hup] at hfailed

end ResourceBase

end WastSuite
