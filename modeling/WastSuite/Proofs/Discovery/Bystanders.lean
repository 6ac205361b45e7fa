import WastSuite.Proofs.Discovery.SameAnswers
import WastSuite.Proofs.Resource.Listing
import WastSuite.Proofs.Store.OraclePlace

/-!
# Entries that nobody asks for

Discovery asks a root for its included files and their expected outputs. What a list of files gives
depends on the included ones alone (`outcome_unitsOf_filter`). So two stores in which a root has the
same included files, with the same sources and the same expected outputs (`Registry.SeesSame`), give
the same outcome once the root can be listed in both (`outcome_load_eq_of_childFiles`), whatever
else is there.

In an archive a root can always be listed. In a directory it cannot if some entry leads nowhere, and
nobody has to ask for that entry. Main statement: `load_of_same_included`. A dangling link beside a
source shows that discovery can fail so (`bystander_not_passed_over`).
-/

set_option autoImplicit false

namespace WastSuite

namespace Registry

open ResourceTree

variable {registry : Registry} {first second : Store}
  {opened other : OpenTree} {root : String} {fileNames others : List String}

/-- Two stores have the same included files in a root that is open in both: under the same names, as
regular files in both or in neither, and with the same to read in them and at the places of their
expected outputs. -/
structure SeesSame (registry : Registry) (first second : Store) (opened other : OpenTree) :
    Prop where
  child : ∀ fileName, registry.Includes fileName →
    (opened.HasChild first fileName ↔ other.HasChild second fileName)
  source : ∀ fileName, registry.Includes fileName → opened.HasChild first fileName →
    (opened.answers first).read fileName = (other.answers second).read fileName
  oracle : ∀ fileName, registry.Includes fileName → opened.HasChild first fileName →
    (opened.answers first).read (Catalogue.oraclePath fileName) =
      (other.answers second).read (Catalogue.oraclePath fileName)

/-- Files that are not included give nothing, so a list of files gives what its included ones do. -/
theorem outcome_unitsOf_filter (registry : Registry) (tree : ResourceTree) (root : String)
    (fileNames : List String) : (registry.unitsOf tree root fileNames).outcome =
      (registry.unitsOf tree root (fileNames.filter registry.Includes)).outcome := by
  induction fileNames with
  | nil => rfl
  | cons fileName fileNames ih =>
    by_cases h : registry.Includes fileName
    · rw [List.filter_cons_of_pos (by simpa using h), unitsOf, unitsOf]
      simp only [Report.outcome_bind, ih]
    · rw [List.filter_cons_of_neg (by simpa using h), unitsOf, ← ih]
      simp only [Report.outcome_bind, unitOf?_outcome_of_not_includes h]
      cases (registry.unitsOf tree root fileNames).outcome <;> rfl

/-- Where the included files are the same, both lists have the same included names. -/
theorem filter_eq_of_seesSame (h : registry.SeesSame first second opened other)
    (hfirst : opened.childFiles first = .ok fileNames)
    (hsecond : other.childFiles second = .ok others) :
    fileNames.filter registry.Includes = others.filter registry.Includes := by
  have hordered := (pairwise_childFiles hfirst).filter fun name ↦ decide (registry.Includes name)
  have hothers := (pairwise_childFiles hsecond).filter fun name ↦ decide (registry.Includes name)
  -- both lists are those of a set, and the sets have the same members
  have hsets : NameSet.mk _ hordered = NameSet.mk _ hothers := by
    refine NameSet.eq_of_mem_iff fun name ↦ ?_
    simp only [NameSet.mem_def, List.mem_filter, decide_eq_true_eq,
      OpenTree.mem_childFiles_iff hfirst, OpenTree.mem_childFiles_iff hsecond]
    exact and_congr_left (h.child name)
  exact congrArg NameSet.names hsets

/-- Where the included files are the same and both roots can be listed, discovery has the same
outcome. -/
theorem outcome_load_eq_of_childFiles
    (hopened : (registry.base.openRoot first root).outcome = .ok opened)
    (hother : (registry.base.openRoot second root).outcome = .ok other)
    (h : registry.SeesSame first second opened other)
    (hfirst : opened.childFiles first = .ok fileNames)
    (hsecond : other.childFiles second = .ok others) :
    (registry.load first root).outcome = (registry.load second root).outcome := by
  have hsame : registry.unitsOf (opened.answers first) root (fileNames.filter registry.Includes) =
      registry.unitsOf (other.answers second) root (fileNames.filter registry.Includes) := by
    refine unitsOf_congr rfl fun fileName hmem hincludes ↦ ?_
    have hchild := (OpenTree.mem_childFiles_iff hfirst).mp (List.mem_of_mem_filter hmem)
    exact ⟨h.source fileName hincludes hchild, h.oracle fileName hincludes hchild⟩
  calc (registry.load first root).outcome
      = (registry.unitsOf (opened.answers first) root fileNames).outcome := by
        rw [load_outcome_of_ok hopened, unitsIn_outcome_of_ok hfirst]
    _ = (registry.unitsOf (other.answers second) root
          (fileNames.filter registry.Includes)).outcome := by
        rw [outcome_unitsOf_filter, hsame]
    _ = (registry.unitsOf (other.answers second) root others).outcome := by
        rw [filter_eq_of_seesSame h hfirst hsecond, ← outcome_unitsOf_filter]
    _ = (registry.load second root).outcome := by
        rw [load_outcome_of_ok hother, unitsIn_outcome_of_ok hsecond]

/-- A root with an entry that leads nowhere fails because of such an entry, whether or not it is
included. -/
theorem exists_load_eq_error (hopened : (registry.base.openRoot first root).outcome = .ok opened)
    (h : ∃ path fault, opened.LeadsNowhere first path fault) :
    ∃ path fault, opened.LeadsNowhere first path fault ∧
      (registry.load first root).outcome = .error (.io path (.refused fault)) := by
  obtain ⟨path, fault, hnowhere, hfiles⟩ := OpenTree.exists_childFiles_eq_error h
  refine ⟨path, fault, hnowhere, ?_⟩
  rw [load_outcome_of_ok hopened, unitsIn_outcome_eq_error_iff]
  exact .listing hfiles

/-- Take two stores that have the same included files in a root, with the same sources and the same
expected outputs. If no entry of the root leads nowhere in either, discovery has the same outcome in
both, whatever else is in them; in an archive it has that in any case. An entry that leads nowhere
fails discovery with its own path, whether or not it is included. -/
theorem load_of_same_included
    (hopened : (registry.base.openRoot first root).outcome = .ok opened)
    (hother : (registry.base.openRoot second root).outcome = .ok other)
    (hsame : registry.SeesSame first second opened other) :
    ((∀ path fault, ¬ opened.LeadsNowhere first path fault) →
      (∀ path fault, ¬ other.LeadsNowhere second path fault) →
        (registry.load first root).outcome = (registry.load second root).outcome) ∧
    (∀ path, registry.base = .archive path →
      (registry.load first root).outcome = (registry.load second root).outcome) ∧
    ((∃ path fault, opened.LeadsNowhere first path fault) →
      ∃ path fault, opened.LeadsNowhere first path fault ∧
        (registry.load first root).outcome = .error (.io path (.refused fault))) := by
  have hequal : (∀ path fault, ¬ opened.LeadsNowhere first path fault) →
      (∀ path fault, ¬ other.LeadsNowhere second path fault) →
        (registry.load first root).outcome = (registry.load second root).outcome := by
    intro hfirst hsecond
    obtain ⟨fileNames, hfiles⟩ := OpenTree.exists_childFiles_eq_ok hopened hfirst
    obtain ⟨others, hothers⟩ := OpenTree.exists_childFiles_eq_ok hother hsecond
    exact outcome_load_eq_of_childFiles hopened hother hsame hfiles hothers
  refine ⟨hequal, fun path hbase ↦ ?_, exists_load_eq_error hopened⟩
  rw [hbase] at hopened hother
  exact hequal (OpenTree.not_leadsNowhere_of_archive hopened)
    (OpenTree.not_leadsNowhere_of_archive hother)

/-! ### A directory with other entries -/

/-- A store with one source in a root, and with other entries that come after it. -/
def storeWith (entries : List (Location × Node)) : Store where
  nodes := [(["res"], .directory), (["res", "r"], .directory),
    (["res", "r", "a.wast"], .file 0)] ++ entries
  bodies := ["a".toUTF8, ⟨#[255]⟩]
  working := []

/-- A registry that includes the one source. -/
def sourceRegistry : Registry :=
  ⟨.directory "res", ["/r"], .ofNames ["a.wast"]⟩

/-- The root of the source. -/
def sourceTree : OpenTree :=
  .directory ⟨"res/r"⟩

/-- Entries beside the source that all lead somewhere: a file that is not on the allow-list and is
not UTF-8, a directory with another such file, and a link to it. -/
def crowd : List (Location × Node) :=
  [(["res", "r", "b.wast"], .file 1), (["res", "r", "sub"], .directory),
    (["res", "r", "sub", "c.wast"], .file 1), (["res", "r", "d.wast"], .link "sub/c.wast")]

/-- A link beside the source that leads nowhere. -/
def dangling : List (Location × Node) :=
  [(["res", "r", "x"], .link "nowhere")]

section Beside

variable {entries : List (Location × Node)}

theorem find_storeWith_root (entries : List (Location × Node)) :
    (storeWith entries).find "res/r" = .ok (["res", "r"], .directory) :=
  Store.find_of_walk (Path.checkPath_eq_ok_iff.mpr ⟨by decide, by decide, by decide⟩) (by rfl)
    (by rfl)

theorem find_storeWith_source (entries : List (Location × Node)) :
    (storeWith entries).find "res/r/a.wast" = .ok (["res", "r", "a.wast"], .file 0) :=
  Store.find_of_walk (Path.checkPath_eq_ok_iff.mpr ⟨by decide, by decide, by decide⟩) (by rfl)
    (by rfl)

theorem openRoot_storeWith (entries : List (Location × Node)) :
    (sourceRegistry.base.openRoot (storeWith entries) "/r").outcome = .ok sourceTree := by
  have hplain : Text.beforeTail? "/" "/r" = none := by decide
  have hrelative : ResourceBase.relativeRoot "/r" = "r" := by decide
  have hroot : Path.join "res" "r" = "res/r" := by decide
  have hdirectory : (storeWith entries).isDirectory "res/r" = true :=
    Store.isDirectory_iff.mpr ⟨_, find_storeWith_root entries⟩
  rw [sourceRegistry, OpenTree.outcome_openRoot, hplain, hrelative]
  simp only [Option.isSome_none, Bool.false_eq_true, if_false, DirectoryTree.openAt, hroot,
    hdirectory, if_true]
  rfl

theorem hasChild_storeWith (entries : List (Location × Node)) :
    sourceTree.HasChild (storeWith entries) "a.wast" := by
  refine ⟨⟨_, Store.list_eq_ok_iff.mpr ⟨_, find_storeWith_root entries, rfl⟩, ?_⟩, ?_⟩
  · rw [Store.mem_names_iff]
    rfl
  · exact Store.isFile_iff.mpr ⟨_, _, find_storeWith_source entries⟩

theorem read_storeWith_source (entries : List (Location × Node)) :
    (sourceTree.answers (storeWith entries)).read "a.wast" = .ok (some "a".toUTF8) := by
  apply DirectoryTree.read_eq_some_iff.mpr
  exact Store.read_eq_ok_iff.mpr ⟨_, 0, find_storeWith_source entries, rfl⟩

/-- The source has no expected output, unless it is among the other entries. -/
theorem read_storeWith_oracle
    (h : entries.lookup ["res", "r", Catalogue.oracleDirectory] = none) :
    (sourceTree.answers (storeWith entries)).read (Catalogue.oraclePath "a.wast") =
      .ok none := by
  have hname : Path.IsName "a.wast" := ⟨by decide, by decide, by decide, by decide, by decide⟩
  have hfits : (Path.below "res/r" (Path.oracleNames "a.wast")).utf8ByteSize ≤
      Store.pathLimit := by
    decide
  have hmissing := Store.find_oracle_of_none (find_storeWith_root entries) hname hfits h
  apply DirectoryTree.read_eq_none_iff.mpr
  rw [Path.oraclePath_eq_spelled]
  exact Store.read_eq_notFound_iff.mpr hmissing

/-- Only the source is included. -/
theorem eq_of_includes {fileName : String} (h : sourceRegistry.Includes fileName) :
    fileName = "a.wast" := by
  simpa [sourceRegistry, AllowList.contains, AllowList.ofNames, NameSet.mem_ofList] using h.2

/-- Other entries leave the included file as it is. -/
theorem seesSame_storeWith (h : entries.lookup ["res", "r", Catalogue.oracleDirectory] = none) :
    sourceRegistry.SeesSame (storeWith []) (storeWith entries) sourceTree sourceTree := by
  refine ⟨fun fileName hincludes ↦ ?_, fun fileName hincludes _ ↦ ?_,
    fun fileName hincludes _ ↦ ?_⟩
  · rw [eq_of_includes hincludes]
    exact iff_of_true (hasChild_storeWith []) (hasChild_storeWith entries)
  · rw [eq_of_includes hincludes, read_storeWith_source, read_storeWith_source]
  · rw [eq_of_includes hincludes, read_storeWith_oracle rfl, read_storeWith_oracle h]

/-- An entry that leads nowhere is one that is not found. -/
theorem leadsNowhere_storeWith_iff {path : String} {fault : StoreFault} :
    sourceTree.LeadsNowhere (storeWith entries) path fault ↔
      ∃ name ∈ (storeWith entries).names ["res", "r"], path = Path.join "res/r" name ∧
        (storeWith entries).find path = .error fault := by
  constructor
  · rintro ⟨names, name, hlist, hmem, hpath, hfind⟩
    obtain ⟨top, hroot, rfl⟩ := Store.list_eq_ok_iff.mp hlist
    cases (find_storeWith_root entries).symm.trans hroot
    exact ⟨name, hmem, hpath, hfind⟩
  · rintro ⟨name, hmem, hpath, hfind⟩
    exact ⟨_, name, Store.list_eq_ok_iff.mpr ⟨_, find_storeWith_root entries, rfl⟩, hmem, hpath,
      hfind⟩

/-- Nothing leads nowhere where all names in the root are found. -/
theorem not_leadsNowhere_storeWith
    (h : ∀ name ∈ (storeWith entries).names ["res", "r"],
      ∃ found, (storeWith entries).find (Path.join "res/r" name) = .ok found)
    (path : String) (fault : StoreFault) :
    ¬ sourceTree.LeadsNowhere (storeWith entries) path fault := by
  intro hnowhere
  obtain ⟨name, hmem, rfl, hfind⟩ := leadsNowhere_storeWith_iff.mp hnowhere
  obtain ⟨found, hfound⟩ := h name hmem
  cases hfind.symm.trans hfound

end Beside

theorem not_leadsNowhere_alone : ∀ path fault,
    ¬ sourceTree.LeadsNowhere (storeWith []) path fault := by
  have hnames : (storeWith []).names ["res", "r"] = ["a.wast"] := by decide +kernel
  apply not_leadsNowhere_storeWith
  rw [hnames]
  simpa using ⟨_, _, find_storeWith_source []⟩

theorem not_leadsNowhere_crowd : ∀ path fault,
    ¬ sourceTree.LeadsNowhere (storeWith crowd) path fault := by
  have hnames : (storeWith crowd).names ["res", "r"] = ["a.wast", "b.wast", "sub", "d.wast"] := by
    decide +kernel
  have hfile : (storeWith crowd).find "res/r/b.wast" = .ok (["res", "r", "b.wast"], .file 1) :=
    Store.find_of_walk (Path.checkPath_eq_ok_iff.mpr ⟨by decide, by decide, by decide⟩)
      (by decide) (by decide)
  have hdirectory : (storeWith crowd).find "res/r/sub" = .ok (["res", "r", "sub"], .directory) :=
    Store.find_of_walk (Path.checkPath_eq_ok_iff.mpr ⟨by decide, by decide, by decide⟩)
      (by decide) (by decide)
  have hlink : (storeWith crowd).find "res/r/d.wast" =
      .ok (["res", "r", "sub", "c.wast"], .file 1) :=
    Store.find_of_walk (Path.checkPath_eq_ok_iff.mpr ⟨by decide, by decide, by decide⟩)
      (by decide) (by decide)
  apply not_leadsNowhere_storeWith
  rw [hnames]
  simpa using ⟨⟨_, _, find_storeWith_source crowd⟩, ⟨_, _, hfile⟩, ⟨_, _, hdirectory⟩,
    ⟨_, _, hlink⟩⟩

/-- A crowd beside the source changes nothing. -/
theorem load_of_same_included_crowd : (sourceRegistry.load (storeWith []) "/r").outcome =
    (sourceRegistry.load (storeWith crowd) "/r").outcome :=
  (load_of_same_included (openRoot_storeWith []) (openRoot_storeWith crowd)
    (seesSame_storeWith rfl)).1 not_leadsNowhere_alone not_leadsNowhere_crowd

/-- A link that leads nowhere and that nobody asks for fails discovery. -/
theorem bystander_not_passed_over :
    (sourceRegistry.base.openRoot (storeWith []) "/r").outcome = .ok sourceTree ∧
      (sourceRegistry.base.openRoot (storeWith dangling) "/r").outcome = .ok sourceTree ∧
      sourceRegistry.SeesSame (storeWith []) (storeWith dangling) sourceTree sourceTree ∧
      ¬ sourceRegistry.Includes "x" ∧
      (∃ units, (sourceRegistry.load (storeWith []) "/r").outcome = .ok units) ∧
      (sourceRegistry.load (storeWith dangling) "/r").outcome =
        .error (.io "res/r/x" (.refused .notFound)) := by
  refine ⟨openRoot_storeWith [], openRoot_storeWith dangling, seesSame_storeWith rfl, by decide,
    ?_, ?_⟩
  · obtain ⟨fileNames, hfiles⟩ := OpenTree.exists_childFiles_eq_ok (openRoot_storeWith [])
      not_leadsNowhere_alone
    rw [load_outcome_of_ok (openRoot_storeWith []), exists_unitsIn_outcome_eq_ok_iff]
    refine ⟨fileNames, hfiles, fun fileName _ hincludes ↦ ?_⟩
    rw [eq_of_includes hincludes]
    exact ⟨⟨_, read_storeWith_source [], "a".isValidUTF8⟩, Or.inl (read_storeWith_oracle rfl)⟩
  · have hnames : (storeWith dangling).names ["res", "r"] = ["a.wast", "x"] := by decide +kernel
    have hlink : (storeWith dangling).find "res/r/x" = .error .notFound := by
      refine Store.find_eq_notFound_of_locate ?_
        (show (storeWith dangling).node? ["res", "r", "nowhere"] = none by decide)
      rw [Store.locate_eq_walk (Path.checkPath_eq_ok_iff.mpr ⟨by decide, by decide, by decide⟩)]
      decide
    obtain ⟨path, fault, hnowhere, hload⟩ := exists_load_eq_error (openRoot_storeWith dangling)
      ⟨_, _, leadsNowhere_storeWith_iff.mpr ⟨"x", by simp [hnames], rfl, hlink⟩⟩
    obtain ⟨name, hmem, rfl, hfind⟩ := leadsNowhere_storeWith_iff.mp hnowhere
    rw [hnames] at hmem
    rcases List.mem_pair.mp hmem with rfl | rfl
    · cases (find_storeWith_source dangling).symm.trans hfind
    · cases hlink.symm.trans hfind
      exact hload

end Registry

end WastSuite
