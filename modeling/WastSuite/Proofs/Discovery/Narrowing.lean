import WastSuite.Proofs.Discovery.Bystanders
import WastSuite.Proofs.Store.EntryNames

/-!
# Narrower allow-lists

The allow-list of a registry only decides which of the listed files are looked at. So a list that
names no file that a wider one does not leaves out units and adds no failure: each root gives those
of its units that the narrower list names, as they are (`outcome_load_of_narrower`), and so do all
roots together (`outcome_loadAll_of_narrower`).

A list is only ever asked about the names that a root lists and that end like a test source. Two
lists that say the same about these give the same report, log included (`load_eq_of_listed`,
`allUnits_eq_of_listed`). Entries have no slash in their names, so what a list says about a name
with one, or about one that does not end like a test source, is never seen
(`allUnits_eq_of_sameSources`). Main statement: `allUnits_of_narrower`.
-/

set_option autoImplicit false

namespace WastSuite

/-- A list names no file that another does not. -/
def AllowList.Within (narrow wide : AllowList) : Prop :=
  ∀ fileName, narrow.contains fileName = true → wide.contains fileName = true

/-- Two lists say the same about every name that a test source can have. -/
def AllowList.SameSources (first second : AllowList) : Prop :=
  ∀ name, '/' ∉ name.toList → first.contains (name ++ Catalogue.sourceExtension) =
    second.contains (name ++ Catalogue.sourceExtension)

namespace Registry

open ResourceTree

variable {registry : Registry} {store : Store} {tree : ResourceTree}
variable {narrow first second : AllowList}
  {root fileName : String} {fileNames : List String} {units : List TestUnit}

/-! ### Fewer units -/

/-- What the narrower list includes is what the wider list includes and the narrower one names. -/
theorem filter_includes_of_within (h : narrow.Within registry.allowList)
    (fileNames : List String) : fileNames.filter (registry.withAllowList narrow).Includes =
      (fileNames.filter registry.Includes).filter narrow.contains := by
  rw [List.filter_filter]
  refine List.filter_congr fun fileName _ ↦ ?_
  rw [Bool.eq_iff_iff, Bool.and_eq_true, decide_eq_true_eq, decide_eq_true_eq]
  constructor
  · rintro ⟨hname, hcontains⟩
    exact ⟨hcontains, hname, h fileName hcontains⟩
  · rintro ⟨hcontains, hname, -⟩
    exact ⟨hname, hcontains⟩

/-- A root gives the units that the narrower list names. -/
theorem outcome_load_of_narrower (h : narrow.Within registry.allowList)
    (hunits : (registry.load store root).outcome = .ok units) :
    ((registry.withAllowList narrow).load store root).outcome =
      .ok (units.filter fun unit ↦
        narrow.contains (unit.name ++ Catalogue.sourceExtension)) := by
  obtain ⟨opened, hopen, hunits⟩ := load_outcome_eq_ok_iff.mp hunits
  obtain ⟨fileNames, hfiles, hall⟩ := unitsIn_outcome_eq_ok_iff.mp hunits
  refine load_outcome_eq_ok_iff.mpr ⟨opened, hopen, ?_⟩
  refine unitsIn_outcome_eq_ok_iff.mpr ⟨fileNames, hfiles, ?_⟩
  rw [filter_includes_of_within h]
  refine List.rel_filter (fun fileName unit hunit ↦ ?_) hall
  show narrow.contains fileName = true ↔ narrow.contains (unit.name ++ ".wast") = true
  rw [hunit.name_append]

/-- Roots give the units that the narrower list names. -/
theorem outcome_loadAll_of_narrower (h : narrow.Within registry.allowList) {roots : List String}
    (hunits : (registry.loadAll store roots).outcome = .ok units) :
    ((registry.withAllowList narrow).loadAll store roots).outcome =
      .ok (units.filter fun unit ↦
        narrow.contains (unit.name ++ Catalogue.sourceExtension)) := by
  obtain ⟨parts, hparts, rfl⟩ := loadAll_outcome_eq_ok_iff.mp hunits
  rw [loadAll_outcome_eq_ok_iff, List.filter_flatten]
  refine ⟨_, ?_, rfl⟩
  exact List.forall₂_map_right_iff.mpr
    (hparts.imp fun root part hpart ↦ outcome_load_of_narrower h hpart)

/-! ### The same report -/

/-- A list is asked about a file only if the file is named like a test source. -/
theorem unitOf?_eq_of_contains (tree : ResourceTree) (root : String)
    (h : (∃ name, fileName = name ++ Catalogue.sourceExtension) →
      first.contains fileName = second.contains fileName) :
    (registry.withAllowList first).unitOf? tree root fileName =
      (registry.withAllowList second).unitOf? tree root fileName := by
  unfold unitOf?
  cases hname : Text.beforeTail? Catalogue.sourceExtension fileName with
  | none => rfl
  | some name =>
    have hsame : (registry.withAllowList first).allowList.contains fileName =
        (registry.withAllowList second).allowList.contains fileName :=
      h ⟨name, Text.beforeTail?_eq_some_iff.mp hname⟩
    simp only [hsame]

/-- Files give the same under lists that say the same about those named like a test source. -/
theorem unitsOf_eq_of_contains (tree : ResourceTree) (root : String)
    (h : ∀ fileName ∈ fileNames, (∃ name, fileName = name ++ Catalogue.sourceExtension) →
      first.contains fileName = second.contains fileName) :
    (registry.withAllowList first).unitsOf tree root fileNames =
      (registry.withAllowList second).unitsOf tree root fileNames := by
  induction fileNames with
  | nil => rfl
  | cons fileName fileNames ih =>
    have hhead := h fileName List.mem_cons_self
    have htail := ih fun other hmem ↦ h other (List.mem_cons_of_mem _ hmem)
    rw [unitsOf, unitsOf, unitOf?_eq_of_contains tree root hhead, htail]

/-- A root gives the same report under lists that say the same about what can be listed there. -/
theorem load_eq_of_listed (root : String)
    (h : ∀ opened : OpenTree, ∀ fileNames, opened.childFiles store = .ok fileNames →
      ∀ fileName ∈ fileNames, (∃ name, fileName = name ++ Catalogue.sourceExtension) →
        first.contains fileName = second.contains fileName) :
    (registry.withAllowList first).load store root =
      (registry.withAllowList second).load store root := by
  have hunits : ∀ opened : OpenTree,
      (registry.withAllowList first).unitsIn (opened.answers store) root =
        (registry.withAllowList second).unitsIn (opened.answers store) root := by
    intro opened
    rw [unitsIn, unitsIn]
    cases hfiles : (opened.answers store).childFiles with
    | error error => rfl
    | ok fileNames =>
      rw [Report.bind_of_ok rfl, Report.bind_of_ok rfl,
        unitsOf_eq_of_contains _ root (h opened fileNames hfiles)]
  simp only [load, hunits]
  rfl

/-- All roots together give the same report under lists that say the same about what can be
listed. -/
theorem allUnits_eq_of_listed
    (h : ∀ opened : OpenTree, ∀ fileNames, opened.childFiles store = .ok fileNames →
      ∀ fileName ∈ fileNames, (∃ name, fileName = name ++ Catalogue.sourceExtension) →
        first.contains fileName = second.contains fileName) :
    (registry.withAllowList first).allUnits store =
      (registry.withAllowList second).allUnits store := by
  have hroots : ∀ roots, (registry.withAllowList first).loadAll store roots =
      (registry.withAllowList second).loadAll store roots := by
    intro roots
    induction roots with
    | nil => rfl
    | cons root roots ih => rw [loadAll, loadAll, load_eq_of_listed root h, ih]
  exact hroots registry.roots

/-- No file is listed under a name with a slash. -/
theorem slash_notMem_of_childFiles (hstore : store.PlainNames) {opened : OpenTree}
    (hfiles : opened.childFiles store = .ok fileNames) (hmem : fileName ∈ fileNames) :
    '/' ∉ fileName.toList := by
  have hchild := (OpenTree.mem_childFiles_iff hfiles).mp hmem
  cases opened with
  | archive tree => simpa [String.contains_char_eq] using hchild.2.1
  | directory tree =>
    obtain ⟨names, hlist, hname⟩ := hchild.1
    obtain ⟨top, -, rfl⟩ := Store.list_eq_ok_iff.mp hlist
    exact hstore.slash_notMem_of_mem_names hname

/-- Lists that say the same about what can name a test source give the same report. -/
theorem allUnits_eq_of_sameSources (hstore : store.PlainNames) (h : first.SameSources second) :
    (registry.withAllowList first).allUnits store =
      (registry.withAllowList second).allUnits store := by
  refine allUnits_eq_of_listed fun opened fileNames hfiles fileName hmem ↦ ?_
  rintro ⟨name, rfl⟩
  have hslash := slash_notMem_of_childFiles hstore hfiles hmem
  rw [String.toList_append, List.mem_append, not_or] at hslash
  exact h name hslash.1

/-- Take a registry over a store. Under a narrower allow-list, discovery succeeds if it did under
the wider one, and gives exactly the units that the narrower list names, in their order and as they
were. Lists that contain the same names give the same report, such as the catalogue's list and the
set of the same names, which are not equal. So do lists that only differ in names with a slash or in
names that do not end like a test source. -/
theorem allUnits_of_narrower (registry : Registry) (store : Store) :
    (∀ narrow : AllowList, narrow.Within registry.allowList → ∀ units,
      (registry.allUnits store).outcome = .ok units →
        ((registry.withAllowList narrow).allUnits store).outcome =
          .ok (units.filter fun unit ↦
            narrow.contains (unit.name ++ Catalogue.sourceExtension))) ∧
    (∀ first second : AllowList,
      (∀ fileName, first.contains fileName = second.contains fileName) →
        (registry.withAllowList first).allUnits store =
          (registry.withAllowList second).allUnits store) ∧
    (AllowList.knownGood ≠ .ofNames Catalogue.knownGood ∧
      (registry.withAllowList .knownGood).allUnits store =
        (registry.withAllowList (.ofNames Catalogue.knownGood)).allUnits store) ∧
    (store.PlainNames → ∀ first second : AllowList, first.SameSources second →
      (registry.withAllowList first).allUnits store =
        (registry.withAllowList second).allUnits store) := by
  have hsame : ∀ first second : AllowList,
      (∀ fileName, first.contains fileName = second.contains fileName) →
        (registry.withAllowList first).allUnits store =
          (registry.withAllowList second).allUnits store :=
    fun first second h ↦ allUnits_eq_of_listed fun _ _ _ fileName _ _ ↦ h fileName
  refine ⟨fun narrow h units hunits ↦ outcome_loadAll_of_narrower h hunits, hsame,
    ⟨nofun, hsame _ _ AllowList.contains_knownGood⟩, fun hstore first second h ↦ ?_⟩
  exact allUnits_eq_of_sameSources hstore h

/-! ### Two sources -/

/-- A store with a second source beside the first. -/
def twoSources : Store :=
  storeWith [(["res", "r", "b.wast"], .file 0)]

/-- A registry that includes both sources. -/
def twoRegistry : Registry :=
  ⟨.directory "res", ["/r"], .ofNames ["a.wast", "b.wast"]⟩

theorem find_twoSources : twoSources.find "res/r/b.wast" = .ok (["res", "r", "b.wast"], .file 0) :=
  Store.find_of_walk (Path.checkPath_eq_ok_iff.mpr ⟨by decide, by decide, by decide⟩) (by decide)
    (by decide)

theorem read_twoSources :
    (sourceTree.answers twoSources).read "b.wast" = .ok (some "a".toUTF8) := by
  apply DirectoryTree.read_eq_some_iff.mpr
  exact Store.read_eq_ok_iff.mpr ⟨_, 0, find_twoSources, rfl⟩

theorem read_twoSources_oracle :
    (sourceTree.answers twoSources).read (Catalogue.oraclePath "b.wast") = .ok none := by
  have hmissing := Store.find_oracle_of_none
    (find_storeWith_root [(["res", "r", "b.wast"], .file 0)])
    (show Path.IsName "b.wast" by decide) (by decide) (by decide)
  apply DirectoryTree.read_eq_none_iff.mpr
  rw [Path.oraclePath_eq_spelled]
  exact Store.read_eq_notFound_iff.mpr hmissing

theorem childFiles_twoSources :
    sourceTree.childFiles twoSources = .ok ["a.wast", "b.wast"] := by
  have hlist : twoSources.list "res/r" = .ok ["a.wast", "b.wast"] :=
    Store.list_eq_ok_iff.mpr ⟨_, find_storeWith_root _, by decide +kernel⟩
  have hfirst : twoSources.find (Path.join "res/r" "a.wast") =
      .ok (["res", "r", "a.wast"], .file 0) := find_storeWith_source _
  have hsecond : twoSources.find (Path.join "res/r" "b.wast") =
      .ok (["res", "r", "b.wast"], .file 0) := find_twoSources
  show DirectoryTree.childFiles twoSources ⟨"res/r"⟩ = _
  simp only [DirectoryTree.childFiles, hlist, DirectoryTree.regularFiles, hfirst, hsecond,
    Except.map]
  exact congrArg Except.ok (by decide)

theorem allUnits_twoSources : (twoRegistry.allUnits twoSources).outcome =
    .ok [.fresh "a" "a" none, .fresh "b" "a" none] := by
  have hopen : (twoRegistry.base.openRoot twoSources "/r").outcome = .ok sourceTree :=
    openRoot_storeWith _
  have hload : (twoRegistry.load twoSources "/r").outcome =
      .ok [.fresh "a" "a" none, .fresh "b" "a" none] := by
    refine load_outcome_eq_ok_iff.mpr ⟨sourceTree, hopen, ?_⟩
    refine unitsIn_outcome_eq_ok_iff.mpr ⟨_, childFiles_twoSources, ?_⟩
    rw [show ["a.wast", "b.wast"].filter twoRegistry.Includes = ["a.wast", "b.wast"] by decide]
    refine .cons ⟨by decide, read_storeWith_source _, read_storeWith_oracle (by decide),
      mustFail_fresh_iff, rfl, rfl⟩ (.cons ⟨by decide, read_twoSources,
      read_twoSources_oracle, mustFail_fresh_iff, rfl, rfl⟩ .nil)
  exact loadAll_outcome_eq_ok_iff.mpr ⟨[_], .cons hload .nil, rfl⟩

/-- A list of the second source alone leaves out the first, and names that no source can have change
nothing. -/
theorem allUnits_of_narrower_pair :
    ((twoRegistry.withAllowList (.ofNames ["b.wast"])).allUnits twoSources).outcome =
      .ok [.fresh "b" "a" none] ∧
    (twoRegistry.withAllowList (.ofNames ["b.wast", "x/a.wast", "a"])).allUnits twoSources =
      (twoRegistry.withAllowList (.ofNames ["b.wast"])).allUnits twoSources := by
  obtain ⟨hnarrow, -, -, hsources⟩ := allUnits_of_narrower twoRegistry twoSources
  constructor
  · have hwithin : (AllowList.ofNames ["b.wast"]).Within twoRegistry.allowList := by
      intro fileName hcontains
      have hmem := AllowList.contains_ofNames.mp hcontains
      exact AllowList.contains_ofNames.mpr (List.mem_cons_of_mem _ hmem)
    rw [hnarrow _ hwithin _ allUnits_twoSources]
    rfl
  · refine hsources ⟨by decide, by decide⟩ _ _ fun name hslash ↦ ?_
    rw [Bool.eq_iff_iff, AllowList.contains_ofNames, AllowList.contains_ofNames]
    have hslashed : name ++ Catalogue.sourceExtension ≠ "x/a.wast" := by
      intro heq
      have hmem : '/' ∈ (name ++ Catalogue.sourceExtension).toList := by
        rw [heq]
        decide
      simp [hslash, Catalogue.sourceExtension] at hmem
    have hshort : name ++ Catalogue.sourceExtension ≠ "a" := by
      intro heq
      have hcut := Text.beforeTail?_eq_some_iff.mpr heq.symm
      rw [show Text.beforeTail? Catalogue.sourceExtension "a" = none by decide] at hcut
      cases hcut
    simp only [List.mem_cons, List.not_mem_nil, hslashed, hshort, or_false]

end Registry

end WastSuite
