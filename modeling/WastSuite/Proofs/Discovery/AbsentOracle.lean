import WastSuite.Proofs.Discovery.Outcome
import WastSuite.Proofs.Store.OraclePlace

/-!
# Missing expected outputs

An expected output that is missing should be no error, and in an archive it is none. In a directory
it is one as soon as the store has another reason for not giving the file than that nothing is there
(`OpenTree.PassesOver`): a file in the place of the directory of expected outputs, a directory in
the place of the expected output, or a name or a path that is too long.

Main statement: where all sources and all expected outputs that there are hold texts, discovery
succeeds exactly if every missing expected output is passed over, and otherwise fails with the
reason that the store has (`load_of_missing_oracles`). A store with a file in the way shows that it
can fail so (`missing_oracle_not_passed_over`).
-/

set_option autoImplicit false

namespace WastSuite

namespace OpenTree

variable {store : Store} {opened : OpenTree} {relative : String} {content : ByteArray}

/-- There is a file at a path relative to a root. -/
def HasFile (store : Store) : OpenTree → String → Prop
  | .directory tree, relative => store.isFile (Path.join tree.root relative) = true
  | .archive tree, relative => tree.start ++ relative ∈ tree.archive.names

/-- If there is no file at a path relative to a root, that is no failure: in a directory, because
the store finds nothing there, and in an archive anyway. -/
def PassesOver (store : Store) : OpenTree → String → Prop
  | .directory tree, relative => store.read (Path.join tree.root relative) = .error .notFound
  | .archive _, _ => True

/-- What can be read is a file. -/
theorem hasFile_of_read (h : (opened.answers store).read relative = .ok (some content)) :
    opened.HasFile store relative := by
  cases opened with
  | directory tree =>
    change tree.read store relative = .ok (some content) at h
    exact Store.isFile_iff_exists_read.mpr ⟨content, DirectoryTree.read_eq_some_iff.mp h⟩
  | archive tree =>
    change (tree.read store relative).1 = .ok (some content) at h
    by_contra hnone
    rw [ArchiveTree.read_eq_none_iff.mpr hnone] at h
    cases h

/-- A file that is not there is read as missing exactly if it is passed over. -/
theorem read_eq_none_iff (h : ¬ opened.HasFile store relative) :
    (opened.answers store).read relative = .ok none ↔ opened.PassesOver store relative := by
  cases opened with
  | directory tree => exact DirectoryTree.read_eq_none_iff
  | archive tree => exact iff_of_true (ArchiveTree.read_eq_none_iff.mpr h) trivial

/-- A file that is not there and is not passed over fails with the reason of the store. -/
theorem exists_of_read_eq_error {error : DiscoveryError} (h : ¬ opened.HasFile store relative)
    (herror : (opened.answers store).read relative = .error error) :
    ∃ tree fault, opened = .directory tree ∧
      store.read (Path.join tree.root relative) = .error fault ∧ fault ≠ .notFound ∧
      error = .io (Path.join tree.root relative) (.refused fault) := by
  cases opened with
  | directory tree =>
    obtain ⟨fault, hread, hfault, rfl⟩ := DirectoryTree.read_eq_error_iff.mp herror
    exact ⟨tree, fault, rfl, hread, hfault, rfl⟩
  | archive tree =>
    have hnone : (tree.answers store).read relative = .ok none :=
      ArchiveTree.read_eq_none_iff.mpr h
    change (tree.answers store).read relative = .error error at herror
    rw [hnone] at herror
    cases herror

end OpenTree

namespace Registry

open ResourceTree

variable {registry : Registry} {store : Store} {opened : OpenTree} {root fileName : String}
  {fileNames : List String}

/-- The included files hold texts, and so do those of their expected outputs that there are. -/
structure HoldsTexts (registry : Registry) (store : Store) (opened : OpenTree)
    (fileNames : List String) : Prop where
  source : ∀ fileName ∈ fileNames, registry.Includes fileName → ∃ content,
    (opened.answers store).read fileName = .ok (some content) ∧ content.IsValidUTF8
  oracle : ∀ fileName ∈ fileNames, registry.Includes fileName →
    opened.HasFile store (Catalogue.oraclePath fileName) → ∃ content,
      (opened.answers store).read (Catalogue.oraclePath fileName) = .ok (some content) ∧
        content.IsValidUTF8

/-- Every missing expected output of an included file is passed over. -/
def PassesOverMissing (registry : Registry) (store : Store) (opened : OpenTree)
    (fileNames : List String) : Prop :=
  ∀ fileName ∈ fileNames, registry.Includes fileName →
    ¬ opened.HasFile store (Catalogue.oraclePath fileName) →
      opened.PassesOver store (Catalogue.oraclePath fileName)

/-- An included file can be read exactly if its expected output is there or passed over. -/
theorem readable_iff (h : registry.HoldsTexts store opened fileNames) (hmem : fileName ∈ fileNames)
    (hincludes : registry.Includes fileName) : (opened.answers store).Readable fileName ↔
      (¬ opened.HasFile store (Catalogue.oraclePath fileName) →
        opened.PassesOver store (Catalogue.oraclePath fileName)) := by
  rw [Readable, ← Catalogue.oraclePath_eq]
  constructor
  · rintro ⟨-, horacle⟩ hmissing
    rcases horacle with hnone | ⟨content, hread, -⟩
    · exact (OpenTree.read_eq_none_iff hmissing).mp hnone
    · exact absurd (OpenTree.hasFile_of_read hread) hmissing
  · intro hpasses
    refine ⟨h.source fileName hmem hincludes, ?_⟩
    by_cases hfile : opened.HasFile store (Catalogue.oraclePath fileName)
    · exact Or.inr (h.oracle fileName hmem hincludes hfile)
    · exact Or.inl ((OpenTree.read_eq_none_iff hfile).mpr (hpasses hfile))

/-- Every unit of a list is that of a file. -/
theorem exists_isUnitOf_of_mem {tree : ResourceTree} {units : List TestUnit} {unit : TestUnit}
    (h : List.Forall₂ (IsUnitOf tree) fileNames units) (hmem : unit ∈ units) :
    ∃ fileName ∈ fileNames, IsUnitOf tree fileName unit := by
  induction h with
  | nil => cases hmem
  | cons hhead _ ih =>
    rcases List.mem_cons.mp hmem with rfl | hmem
    · exact ⟨_, List.mem_cons_self, hhead⟩
    · obtain ⟨fileName, hfile, hunit⟩ := ih hmem
      exact ⟨fileName, List.mem_cons_of_mem _ hfile, hunit⟩

/-- A unit whose expected output is missing has none. -/
theorem oracle?_eq_none_of_missing {unit : TestUnit}
    (hunit : IsUnitOf (opened.answers store) fileName unit)
    (hmissing : ¬ opened.HasFile store (Catalogue.oraclePath fileName)) :
    unit.oracle? = none := by
  have hread := hunit.oracle_read
  rw [← Catalogue.oraclePath_eq] at hread
  cases horacle : unit.oracle? with
  | none => rfl
  | some text =>
    rw [horacle] at hread
    exact absurd (OpenTree.hasFile_of_read hread) hmissing

/-- Where the included files hold texts, what fails is a missing expected output, for the reason of
the store. -/
theorem exists_of_fileFault {error : DiscoveryError}
    (h : registry.HoldsTexts store opened fileNames) (hmem : fileName ∈ fileNames)
    (hincludes : registry.Includes fileName)
    (hfault : FileFault (opened.answers store) root fileName error) :
    ∃ tree fault, opened = .directory tree ∧
      store.read (Path.join tree.root (Catalogue.oraclePath fileName)) = .error fault ∧
      fault ≠ .notFound ∧
      error = .io (Path.join tree.root (Catalogue.oraclePath fileName)) (.refused fault) := by
  have htext : ∀ relative content, (opened.answers store).read relative = .ok (some content) →
      content.IsValidUTF8 → ¬ TextFault (opened.answers store) root relative error := by
    intro relative content hread hvalid htext
    obtain ⟨-, other, hsome, hinvalid⟩ := textFault_of_read hread htext
    rw [← Option.some.inj hsome] at hinvalid
    exact hinvalid hvalid
  obtain ⟨content, hread, hvalid⟩ := h.source fileName hmem hincludes
  cases hfault with
  | source hsource =>
    cases hsource with
    | text hfault => exact absurd hfault (htext _ _ hread hvalid)
    | vanished hnone => cases hread.symm.trans hnone
  | oracle _ hfault =>
    rw [← Catalogue.oraclePath_eq] at hfault
    by_cases hfile : opened.HasFile store (Catalogue.oraclePath fileName)
    · obtain ⟨other, hother, hvalid⟩ := h.oracle fileName hmem hincludes hfile
      exact absurd hfault (htext _ _ hother hvalid)
    · cases hfault with
      | refused hrefused => exact OpenTree.exists_of_read_eq_error hfile hrefused
      | notText hother _ => exact absurd (OpenTree.hasFile_of_read hother) hfile

/-- Where the included files hold texts, and all of their expected outputs that there are, a root
gives units exactly if every missing expected output is passed over, and then no unit has one that
is missing. Otherwise the failure is the reason that the store has for not giving some missing
expected output. Below a directory without links in the way, a missing expected output is passed
over exactly if its path is not too long, and the directory of expected outputs is missing or is one
in which nothing has its name, which is not too long. -/
theorem load_of_missing_oracles (hopen : (registry.base.openRoot store root).outcome = .ok opened)
    (hlist : opened.childFiles store = .ok fileNames)
    (htexts : registry.HoldsTexts store opened fileNames) :
    ((∃ units, (registry.load store root).outcome = .ok units ∧ ∀ unit ∈ units,
        ¬ opened.HasFile store (Catalogue.oraclePath (unit.name ++ Catalogue.sourceExtension)) →
          unit.oracle? = none) ↔
      registry.PassesOverMissing store opened fileNames) ∧
    (∀ error, (registry.load store root).outcome = .error error →
      ∃ fileName ∈ fileNames, registry.Includes fileName ∧ ∃ tree fault,
        opened = .directory tree ∧
          store.read (Path.join tree.root (Catalogue.oraclePath fileName)) = .error fault ∧
          fault ≠ .notFound ∧
          error = .io (Path.join tree.root (Catalogue.oraclePath fileName)) (.refused fault)) ∧
    ∀ tree top fileName, opened = .directory tree → store.find tree.root = .ok (top, .directory) →
      Path.IsName fileName →
      (∀ target, store.node? (top ++ [Catalogue.oracleDirectory]) ≠ some (.link target)) →
      (∀ target, store.node? (top ++ Path.oracleNames fileName) ≠ some (.link target)) →
        (opened.PassesOver store (Catalogue.oraclePath fileName) ↔
          (Path.join tree.root (Catalogue.oraclePath fileName)).utf8ByteSize ≤ Store.pathLimit ∧
            store.LacksOracle top fileName) := by
  rw [load_outcome_of_ok hopen]
  refine ⟨⟨?_, fun hpasses ↦ ?_⟩, fun error herror ↦ ?_, ?_⟩
  · rintro ⟨units, hunits, -⟩ fileName hmem hincludes
    obtain ⟨listed, hlisted, hreadable⟩ := exists_unitsIn_outcome_eq_ok_iff.mp ⟨units, hunits⟩
    obtain rfl := Except.ok.inj (hlist.symm.trans hlisted)
    exact (readable_iff htexts hmem hincludes).mp (hreadable fileName hmem hincludes)
  · have hreadable : ∀ fileName ∈ fileNames, registry.Includes fileName →
        (opened.answers store).Readable fileName := fun fileName hmem hincludes ↦
      (readable_iff htexts hmem hincludes).mpr (hpasses fileName hmem hincludes)
    obtain ⟨units, hunits⟩ := exists_unitsIn_outcome_eq_ok_iff.mpr ⟨fileNames, hlist, hreadable⟩
    refine ⟨units, hunits, fun unit hmem hmissing ↦ ?_⟩
    obtain ⟨listed, hlisted, hall⟩ := unitsIn_outcome_eq_ok_iff.mp hunits
    obtain ⟨fileName, -, hunit⟩ := exists_isUnitOf_of_mem hall hmem
    have hname : unit.name ++ Catalogue.sourceExtension = fileName := hunit.name_append
    rw [hname] at hmissing
    exact oracle?_eq_none_of_missing hunit hmissing
  · cases unitsIn_outcome_eq_error_iff.mp herror with
    | listing hlisting => cases hlist.symm.trans hlisting
    | @file before after fileName hfiles _ hincludes hfault =>
      obtain rfl := Except.ok.inj (hlist.symm.trans hfiles)
      have hmem : fileName ∈ before ++ fileName :: after := by simp
      exact ⟨fileName, hmem, hincludes, exists_of_fileFault htexts hmem hincludes hfault⟩
  · rintro tree top fileName rfl hroot hname habove hplace
    exact Store.read_oraclePath_eq_notFound_iff hroot hname habove hplace

/-! ### A file in the place of a directory -/

/-- A store whose root has a file where the directory of expected outputs would be. -/
def blockedStore : Store where
  nodes := [(["res"], .directory), (["res", "r"], .directory), (["res", "r", "a.wast"], .file 0),
    (["res", "r", "expected-output"], .file 0)]
  bodies := ["a".toUTF8]
  working := []

/-- A registry for the blocked store. -/
def blockedRegistry : Registry :=
  ⟨.directory "res", ["/r"], .ofNames ["a.wast"]⟩

/-- The root of the blocked store. -/
def blockedTree : OpenTree :=
  .directory ⟨"res/r"⟩

theorem find_blockedStore_root :
    blockedStore.find "res/r" = .ok (["res", "r"], .directory) :=
  Store.find_of_walk (Path.checkPath_eq_ok_iff.mpr ⟨by decide, by decide, by decide⟩) (by decide)
    (by decide)

theorem find_blockedStore_source :
    blockedStore.find "res/r/a.wast" = .ok (["res", "r", "a.wast"], .file 0) :=
  Store.find_of_walk (Path.checkPath_eq_ok_iff.mpr ⟨by decide, by decide, by decide⟩) (by decide)
    (by decide)

theorem find_blockedStore_blocker :
    blockedStore.find "res/r/expected-output" =
      .ok (["res", "r", "expected-output"], .file 0) :=
  Store.find_of_walk (Path.checkPath_eq_ok_iff.mpr ⟨by decide, by decide, by decide⟩) (by decide)
    (by decide)

theorem find_blockedStore_oracle :
    blockedStore.find "res/r/expected-output/a.wast.log" = .error .notDirectory := by
  apply Store.find_eq_error_of_locate
  rw [Store.locate_eq_walk (Path.checkPath_eq_ok_iff.mpr ⟨by decide, by decide, by decide⟩)]
  decide

theorem openRoot_blockedRegistry :
    (blockedRegistry.base.openRoot blockedStore "/r").outcome = .ok blockedTree := by
  have hplain : Text.beforeTail? "/" "/r" = none := by decide
  have hrelative : ResourceBase.relativeRoot "/r" = "r" := by decide
  have hroot : Path.join "res" "r" = "res/r" := by decide
  have hdirectory : blockedStore.isDirectory "res/r" = true := by
    rw [Store.isDirectory, find_blockedStore_root]
  have hopen : DirectoryTree.openAt blockedStore "res" "r" = .ok ⟨"res/r"⟩ := by
    simp only [DirectoryTree.openAt, hroot, hdirectory, if_true]
  simp only [blockedRegistry, ResourceBase.openRoot, hplain, Option.isSome_none,
    Bool.false_eq_true, if_false, hrelative, OpenTree.ofDirectory, hopen]
  rfl

theorem childFiles_blockedTree :
    blockedTree.childFiles blockedStore = .ok ["a.wast", "expected-output"] := by
  have hlist : blockedStore.list "res/r" = .ok ["a.wast", "expected-output"] := by
    rw [Store.list, find_blockedStore_root]
    exact congrArg Except.ok (by decide +kernel)
  have hsource : Path.join "res/r" "a.wast" = "res/r/a.wast" := by decide
  have hblocker : Path.join "res/r" "expected-output" = "res/r/expected-output" := by decide
  show DirectoryTree.childFiles blockedStore ⟨"res/r"⟩ = _
  simp only [DirectoryTree.childFiles, hlist, DirectoryTree.regularFiles, hsource, hblocker,
    find_blockedStore_source, find_blockedStore_blocker, Except.map]
  exact congrArg Except.ok (by decide)

theorem holds_blockedTree : (blockedTree.answers blockedStore).Holds "a.wast" "a" := by
  apply DirectoryTree.read_eq_some_iff.mpr
  exact Store.read_eq_ok_iff.mpr ⟨_, 0, find_blockedStore_source, rfl⟩

theorem join_oraclePath_blockedTree :
    Path.join "res/r" (Catalogue.oraclePath "a.wast") = "res/r/expected-output/a.wast.log" := by
  decide

theorem not_hasFile_blockedTree :
    ¬ blockedTree.HasFile blockedStore (Catalogue.oraclePath "a.wast") := by
  show ¬ blockedStore.isFile (Path.join "res/r" (Catalogue.oraclePath "a.wast")) = true
  rw [join_oraclePath_blockedTree, Store.isFile, find_blockedStore_oracle]
  simp

/-- The only source is a text, and there is no expected output that could be none. -/
theorem holdsTexts_blockedTree : blockedRegistry.HoldsTexts blockedStore blockedTree
    ["a.wast", "expected-output"] := by
  have honly : ∀ fileName ∈ ["a.wast", "expected-output"],
      blockedRegistry.Includes fileName → fileName = "a.wast" := by
    decide
  refine ⟨fun fileName hmem hincludes ↦ ?_, fun fileName hmem hincludes hfile ↦ ?_⟩
  · rw [honly fileName hmem hincludes]
    exact ⟨_, holds_blockedTree, "a".isValidUTF8⟩
  · rw [honly fileName hmem hincludes] at hfile
    exact absurd hfile not_hasFile_blockedTree

/-- The one expected output is missing, and yet no unit comes without one: not all that is missing
is passed over. -/
theorem load_of_missing_oracles_blocked :
    ¬ ∃ units, (blockedRegistry.load blockedStore "/r").outcome = .ok units ∧ ∀ unit ∈ units,
      ¬ blockedTree.HasFile blockedStore
        (Catalogue.oraclePath (unit.name ++ Catalogue.sourceExtension)) → unit.oracle? = none := by
  rw [(load_of_missing_oracles openRoot_blockedRegistry childFiles_blockedTree
    holdsTexts_blockedTree).1]
  intro hpasses
  have hread : blockedStore.read (Path.join "res/r" (Catalogue.oraclePath "a.wast")) =
      .error .notFound :=
    hpasses "a.wast" (by simp) (by decide) not_hasFile_blockedTree
  rw [join_oraclePath_blockedTree, Store.read_eq_notFound_iff, find_blockedStore_oracle] at hread
  cases hread

/-- All sources are texts, an expected output is missing, and discovery fails because of that. -/
theorem missing_oracle_not_passed_over :
    (blockedRegistry.base.openRoot blockedStore "/r").outcome = .ok blockedTree ∧
      blockedTree.childFiles blockedStore = .ok ["a.wast", "expected-output"] ∧
      blockedRegistry.HoldsTexts blockedStore blockedTree ["a.wast", "expected-output"] ∧
      blockedRegistry.Includes "a.wast" ∧
      ¬ blockedTree.HasFile blockedStore (Catalogue.oraclePath "a.wast") ∧
      (blockedRegistry.load blockedStore "/r").outcome =
        .error (.io "res/r/expected-output/a.wast.log" (.refused .notDirectory)) := by
  refine ⟨openRoot_blockedRegistry, childFiles_blockedTree, holdsTexts_blockedTree, by decide,
    not_hasFile_blockedTree, ?_⟩
  have hread : blockedStore.read "res/r/expected-output/a.wast.log" = .error .notDirectory := by
    rw [Store.read, find_blockedStore_oracle]
    rfl
  have horacle : (blockedTree.answers blockedStore).read (Catalogue.oraclePath "a.wast") =
      .error (.io "res/r/expected-output/a.wast.log" (.refused .notDirectory)) := by
    refine DirectoryTree.read_eq_error_iff.mpr ⟨.notDirectory, ?_, by decide, ?_⟩
    · rw [join_oraclePath_blockedTree, hread]
    · rw [join_oraclePath_blockedTree]
  have hfiles : (blockedTree.answers blockedStore).childFiles =
      .ok ([] ++ "a.wast" :: ["expected-output"]) := childFiles_blockedTree
  rw [load_outcome_of_ok openRoot_blockedRegistry, unitsIn_outcome_eq_error_iff]
  exact .file hfiles (by simp) (by decide) (.oracle holds_blockedTree (.refused horacle))

end Registry

end WastSuite
