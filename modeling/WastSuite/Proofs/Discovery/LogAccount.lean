import WastSuite.Proofs.Discovery.Narrowing
import WastSuite.Proofs.Resource.EntryContents

/-!
# What discovery logs

The log of discovery accounts for what was done. Each file that is named like a test source leaves
one line, in the order of the files: that it was skipped, or which unit it gave
(`Registry.Accounts`, `unitsOf_of_accounts`, `accounts_of_unitsOf`). A file that fails leaves none,
and ends the log (`unitsOf_of_fileFault`). In front stand the lines of the root itself
(`log_openRoot`), and behind them, if all went well, the number of units (`load_of_unitsIn_ok`).

Main statement: `log_accounts`.
-/

set_option autoImplicit false

namespace WastSuite

/-- The unit that a line tells of, and whether it has an expected output. -/
def LogEvent.foundUnit? : LogEvent → Option (String × Bool)
  | .foundUnit test withOracle => some (test, withOracle)
  | _ => none

/-- What is logged when a root opens. -/
def ResourceBase.openingLines (root : String) : ResourceBase → List LogEvent
  | .directory _ => []
  | .archive path => [.openedArchive path (ArchiveTree.startOf (relativeRoot root))]

namespace Registry

open ResourceTree

/-- Whether a file is named like a test source. -/
def isSource (fileName : String) : Bool :=
  (Text.beforeTail? Catalogue.sourceExtension fileName).isSome

/-- Files that go through, the units that they give, and the lines that they leave in the log. A
file that is not named like a test source leaves no line, a test source that is not on the
allow-list is skipped, and an included file gives its unit. -/
inductive Accounts (registry : Registry) (tree : ResourceTree) (root : String) :
    List String → List TestUnit → List LogEvent → Prop
  | nil : Accounts registry tree root [] [] []
  | other {fileName : String} {fileNames : List String} {units : List TestUnit}
    {lines : List LogEvent} (hname : isSource fileName = false)
    (hrest : Accounts registry tree root fileNames units lines) :
    Accounts registry tree root (fileName :: fileNames) units lines
  | skipped {fileName : String} {fileNames : List String} {units : List TestUnit}
    {lines : List LogEvent} (hname : isSource fileName = true)
    (hlisted : registry.allowList.contains fileName = false)
    (hrest : Accounts registry tree root fileNames units lines) :
    Accounts registry tree root (fileName :: fileNames) units
      (.skippedFile root fileName :: lines)
  | found {fileName : String} {fileNames : List String} {unit : TestUnit} {units : List TestUnit}
    {lines : List LogEvent} (hincludes : registry.Includes fileName)
    (hunit : IsUnitOf tree fileName unit)
    (hrest : Accounts registry tree root fileNames units lines) :
    Accounts registry tree root (fileName :: fileNames) (unit :: units)
      (.foundUnit unit.name unit.oracle?.isSome :: lines)

variable {registry : Registry} {tree : ResourceTree} {store : Store} {opened : OpenTree}
  {root fileName name : String} {fileNames : List String} {unit : TestUnit}
  {unit? : Option TestUnit} {units : List TestUnit} {lines : List LogEvent}
  {error : DiscoveryError}

/-- The lines that tell of units tell of those that were given, in their order. -/
theorem Accounts.filterMap_foundUnit? (h : registry.Accounts tree root fileNames units lines) :
    lines.filterMap LogEvent.foundUnit? =
      units.map fun unit ↦ (unit.name, unit.oracle?.isSome) := by
  induction h with
  | nil => rfl
  | other _ _ ih => exact ih
  | skipped _ _ _ ih => exact ih
  | found _ _ _ ih => exact congrArg (_ :: ·) ih

theorem isSource_iff :
    isSource fileName = true ↔ ∃ name, fileName = name ++ Catalogue.sourceExtension := by
  simp only [isSource, Option.isSome_iff_exists, Text.beforeTail?_eq_some_iff]

/-- There is one line for each file that is named like a test source. -/
theorem Accounts.length_eq (h : registry.Accounts tree root fileNames units lines) :
    lines.length = fileNames.countP isSource := by
  induction h with
  | nil => rfl
  | other hname _ ih => rw [List.countP_cons_of_neg (by simp [hname]), ih]
  | skipped hname _ _ ih => rw [List.countP_cons_of_pos hname, List.length_cons, ih]
  | found hincludes _ _ ih =>
    rw [List.countP_cons_of_pos (isSource_iff.mpr hincludes.1), List.length_cons, ih]

/-! ### One file -/

/-- An included file that gives a unit leaves the line of that unit. -/
theorem log_unitOf_of_ok (h : (unitOf tree root fileName name).outcome = .ok unit) :
    (unitOf tree root fileName name).log = [.foundUnit unit.name unit.oracle?.isSome] := by
  unfold unitOf at h ⊢
  cases hsource : source tree root fileName with
  | error fault =>
    rw [hsource] at h
    cases h
  | ok source =>
    cases horacle : text? tree root (Catalogue.oraclePath fileName) with
    | error fault =>
      rw [hsource, horacle] at h
      cases h
    | ok oracle? =>
      rw [hsource, horacle] at h
      rw [← Except.ok.inj h]
      rfl

/-- An included file that fails leaves no line. -/
theorem log_unitOf_of_error (h : (unitOf tree root fileName name).outcome = .error error) :
    (unitOf tree root fileName name).log = [] := by
  unfold unitOf at h ⊢
  cases hsource : source tree root fileName with
  | error fault => rfl
  | ok source =>
    cases horacle : text? tree root (Catalogue.oraclePath fileName) with
    | error fault => rfl
    | ok oracle? =>
      rw [hsource, horacle] at h
      cases h

/-- A file that is not named like a test source gives nothing and leaves no line. -/
theorem unitOf?_of_not_source (tree : ResourceTree) (root : String)
    (hname : isSource fileName = false) :
    registry.unitOf? tree root fileName = ⟨[], .ok none⟩ := by
  have hnone : Text.beforeTail? Catalogue.sourceExtension fileName = none := by
    simpa [isSource] using hname
  rw [unitOf?, hnone]
  rfl

/-- A test source that is not on the allow-list gives nothing and leaves the line that says so. -/
theorem unitOf?_of_not_listed (tree : ResourceTree) (root : String)
    (hname : isSource fileName = true) (hlisted : registry.allowList.contains fileName = false) :
    registry.unitOf? tree root fileName = ⟨[.skippedFile root fileName], .ok none⟩ := by
  obtain ⟨name, hname⟩ := Option.isSome_iff_exists.mp hname
  simp only [unitOf?, hname, hlisted]
  rfl

/-- An included file gives its unit and leaves the line of it. -/
theorem unitOf?_of_isUnitOf (root : String) (hincludes : registry.Includes fileName)
    (h : IsUnitOf tree fileName unit) : registry.unitOf? tree root fileName =
      ⟨[.foundUnit unit.name unit.oracle?.isSome], .ok (some unit)⟩ := by
  obtain ⟨name, hname, hunit⟩ := unitOf?_of_includes tree root hincludes
  have houtcome : (unitOf tree root fileName name).outcome = .ok unit :=
    (unitOf_outcome_eq_ok_iff hname).mpr h
  rw [hunit, map_eq_pure_bind, Report.bind_of_ok houtcome, log_unitOf_of_ok houtcome]
  rfl

/-- An included file that fails leaves no line. -/
theorem unitOf?_of_fileFault (hincludes : registry.Includes fileName)
    (h : FileFault tree root fileName error) :
    registry.unitOf? tree root fileName = ⟨[], .error error⟩ := by
  obtain ⟨name, -, hunit⟩ := unitOf?_of_includes tree root hincludes
  have houtcome : (unitOf tree root fileName name).outcome = .error error :=
    unitOf_outcome_eq_error_iff.mpr h
  rw [hunit, map_eq_pure_bind, Report.bind_of_error houtcome, log_unitOf_of_error houtcome]

/-! ### All files of a root -/

/-- What some files give and then others is what all of them give. -/
theorem unitsOf_append (before after : List String) :
    registry.unitsOf tree root (before ++ after) = (do
      let units ← registry.unitsOf tree root before
      let others ← registry.unitsOf tree root after
      pure (units ++ others)) := by
  induction before with
  | nil => simp [unitsOf]
  | cons fileName before ih =>
    simp only [List.cons_append, unitsOf, ih, bind_assoc, pure_bind, List.append_assoc]

/-- A file that goes through leaves its lines in front of those of the others. -/
theorem unitsOf_cons_of_ok {head : List LogEvent}
    (hhead : registry.unitOf? tree root fileName = ⟨head, .ok unit?⟩)
    (hrest : registry.unitsOf tree root fileNames = ⟨lines, .ok units⟩) :
    registry.unitsOf tree root (fileName :: fileNames) =
      ⟨head ++ lines, .ok (unit?.toList ++ units)⟩ := by
  rw [unitsOf, hhead, hrest]
  exact congrArg (fun rest ↦ Report.mk (head ++ rest) (.ok (unit?.toList ++ units)))
    (List.append_nil lines)

/-- Files that go through give their units and leave their lines. -/
theorem unitsOf_of_accounts (h : registry.Accounts tree root fileNames units lines) :
    registry.unitsOf tree root fileNames = ⟨lines, .ok units⟩ := by
  induction h with
  | nil => rfl
  | other hname _ ih => exact unitsOf_cons_of_ok (unitOf?_of_not_source tree root hname) ih
  | skipped hname hlisted _ ih =>
    exact unitsOf_cons_of_ok (unitOf?_of_not_listed tree root hname hlisted) ih
  | found hincludes hunit _ ih =>
    exact unitsOf_cons_of_ok (unitOf?_of_isUnitOf root hincludes hunit) ih

/-- Files that give units go through, and the log is that of them. -/
theorem accounts_of_unitsOf (h : registry.unitsOf tree root fileNames = ⟨lines, .ok units⟩) :
    registry.Accounts tree root fileNames units lines := by
  induction fileNames generalizing units lines with
  | nil =>
    cases h
    exact .nil
  | cons fileName fileNames ih =>
    rw [unitsOf] at h
    obtain ⟨head, unit?, tail, hhead, htail, rfl⟩ := Report.bind_eq_ok_iff.mp h
    obtain ⟨rest, others, none, hrest, hpure, rfl⟩ := Report.bind_eq_ok_iff.mp htail
    cases hpure
    have hothers := ih hrest
    by_cases hname : isSource fileName = true
    · cases hlisted : registry.allowList.contains fileName with
      | false =>
        cases (unitOf?_of_not_listed tree root hname hlisted).symm.trans hhead
        rw [List.append_nil]
        exact .skipped hname hlisted hothers
      | true =>
        have hincludes : registry.Includes fileName := ⟨isSource_iff.mp hname, hlisted⟩
        obtain ⟨unit, hunit, rfl⟩ := (unitOf?_outcome_eq_ok_iff hincludes).mp
          (congrArg Report.outcome hhead)
        cases (unitOf?_of_isUnitOf root hincludes hunit).symm.trans hhead
        rw [List.append_nil]
        exact .found hincludes hunit hothers
    · have hother : isSource fileName = false := by simpa using hname
      cases (unitOf?_of_not_source tree root hother).symm.trans hhead
      rw [List.append_nil]
      exact .other hother hothers

/-- A file that fails leaves no line, and the files behind it neither. -/
theorem unitsOf_of_fileFault {before : List String} (after : List String)
    (hbefore : registry.Accounts tree root before units lines)
    (hincludes : registry.Includes fileName) (hfault : FileFault tree root fileName error) :
    registry.unitsOf tree root (before ++ fileName :: after) = ⟨lines, .error error⟩ := by
  rw [unitsOf_append, unitsOf_of_accounts hbefore, unitsOf,
    unitOf?_of_fileFault hincludes hfault]
  exact congrArg (Report.mk · _) (List.append_nil lines)

/-- Files go through, with the lines of all of them, or the first one that fails leaves the lines of
those in front of it. -/
theorem exists_accounts (registry : Registry) (tree : ResourceTree) (root : String)
    (fileNames : List String) :
    (∃ units lines, registry.Accounts tree root fileNames units lines) ∨
      ∃ before fileName after units lines error, fileNames = before ++ fileName :: after ∧
        registry.Accounts tree root before units lines ∧ registry.Includes fileName ∧
        FileFault tree root fileName error := by
  cases houtcome : (registry.unitsOf tree root fileNames).outcome with
  | ok units =>
    refine Or.inl ⟨units, (registry.unitsOf tree root fileNames).log, accounts_of_unitsOf ?_⟩
    rw [← houtcome]
  | error error =>
    obtain ⟨before, fileName, after, rfl, hbefore, hincludes, hfault⟩ :=
      unitsOf_outcome_eq_error_iff.mp houtcome
    obtain ⟨units, hunits⟩ := (exists_unitsOf_outcome_eq_ok_iff root).mpr hbefore
    refine Or.inr ⟨before, fileName, after, units, (registry.unitsOf tree root before).log, error,
      rfl, accounts_of_unitsOf ?_, hincludes, hfault⟩
    rw [← hunits]

/-! ### Roots of a store -/

/-- A root that opens leaves the lines of its base, and one that does not leaves none. -/
theorem log_openRoot (base : ResourceBase) (store : Store) (root : String) :
    (base.openRoot store root).log =
      match (base.openRoot store root).outcome with
      | .ok _ => base.openingLines root
      | .error _ => [] := by
  unfold ResourceBase.openRoot
  split_ifs
  · rfl
  · cases base with
    | directory path =>
      dsimp only [OpenTree.ofDirectory]
      cases DirectoryTree.openAt store path (ResourceBase.relativeRoot root) <;> rfl
    | archive path =>
      dsimp only [OpenTree.ofArchive]
      cases hopen : ArchiveTree.openAt store path (ResourceBase.relativeRoot root) with
      | error error => rfl
      | ok tree =>
        obtain ⟨number, archive, -, rfl⟩ := ArchiveTree.exists_archiveAt_of_openAt hopen
        rfl

/-- A root that does not open leaves no line. -/
theorem load_of_openRoot_error (h : (registry.base.openRoot store root).outcome = .error error) :
    registry.load store root = ⟨[], .error error⟩ := by
  rw [load, Report.bind_of_error h, log_openRoot, h]

/-- The lines with which the report of an open root begins. -/
def firstLines (registry : Registry) (root : String) : List LogEvent :=
  registry.base.openingLines root ++ [.loadingRoot root registry.base.path]

/-- An open root whose files go through leaves their lines, and then the number of units. -/
theorem load_of_unitsIn_ok (hopen : (registry.base.openRoot store root).outcome = .ok opened)
    (h : registry.unitsIn (opened.answers store) root = ⟨lines, .ok units⟩) :
    registry.load store root =
      ⟨registry.firstLines root ++ lines ++ [.loadedRoot units.length root], .ok units⟩ := by
  rw [load, Report.bind_of_ok hopen, log_openRoot, hopen, h]
  simp only [firstLines, List.append_assoc]
  rfl

/-- An open root that fails leaves the lines of the files in front of the failure. -/
theorem load_of_unitsIn_error (hopen : (registry.base.openRoot store root).outcome = .ok opened)
    (h : registry.unitsIn (opened.answers store) root = ⟨lines, .error error⟩) :
    registry.load store root = ⟨registry.firstLines root ++ lines, .error error⟩ := by
  rw [load, Report.bind_of_ok hopen, log_openRoot, hopen, h]
  simp only [firstLines, List.append_assoc]
  rfl

/-- An open root whose files are listed leaves what they leave. -/
theorem unitsIn_of_childFiles (h : tree.childFiles = .ok fileNames) :
    registry.unitsIn tree root = registry.unitsOf tree root fileNames := by
  rw [unitsIn, h]
  rfl

/-- An open root that cannot be listed leaves no line of a file. -/
theorem unitsIn_of_childFiles_error (h : tree.childFiles = .error error) :
    registry.unitsIn tree root = ⟨[], .error error⟩ := by
  rw [unitsIn, h]
  rfl

/-! ### All roots -/

/-- Roots that give units leave the lines of each, one root behind the other. -/
theorem loadAll_of_ok {roots : List String}
    (h : ∀ root ∈ roots, ∃ part, (registry.load store root).outcome = .ok part) :
    ∃ units, registry.loadAll store roots =
      ⟨roots.flatMap fun root ↦ (registry.load store root).log, .ok units⟩ := by
  induction roots with
  | nil => exact ⟨[], rfl⟩
  | cons root roots ih =>
    obtain ⟨part, hpart⟩ := h root List.mem_cons_self
    obtain ⟨others, hothers⟩ := ih fun other hmem ↦ h other (List.mem_cons_of_mem _ hmem)
    refine ⟨part ++ others, ?_⟩
    rw [loadAll, Report.bind_of_ok hpart, hothers, Report.bind_of_ok rfl, Report.pure_eq,
      List.append_nil, List.flatMap_cons]

theorem exists_load_of_loadAll {roots : List String}
    (h : (registry.loadAll store roots).outcome = .ok units) :
    ∀ root ∈ roots, ∃ part, (registry.load store root).outcome = .ok part := by
  obtain ⟨parts, hparts, -⟩ := loadAll_outcome_eq_ok_iff.mp h
  clear h
  induction hparts with
  | nil => exact nofun
  | cons hpart _ ih => exact List.forall_mem_cons.mpr ⟨⟨_, hpart⟩, ih⟩

/-- What some roots give and then others is what all of them give. -/
theorem loadAll_append (before after : List String) :
    registry.loadAll store (before ++ after) = (do
      let units ← registry.loadAll store before
      let others ← registry.loadAll store after
      pure (units ++ others)) := by
  induction before with
  | nil => simp [loadAll]
  | cons root before ih =>
    simp only [List.cons_append, loadAll, ih, bind_assoc, pure_bind, List.append_assoc]

/-- Roots of which one fails leave the lines of those up to it. -/
theorem loadAll_of_error {before : List String} (after : List String)
    (hbefore : ∀ earlier ∈ before, ∃ part, (registry.load store earlier).outcome = .ok part)
    (h : (registry.load store root).outcome = .error error) :
    registry.loadAll store (before ++ root :: after) =
      ⟨(before ++ [root]).flatMap fun root ↦ (registry.load store root).log, .error error⟩ := by
  obtain ⟨units, hunits⟩ := loadAll_of_ok hbefore
  have hrest : registry.loadAll store (root :: after) =
      ⟨(registry.load store root).log, .error error⟩ := by
    rw [loadAll, Report.bind_of_error h]
  rw [loadAll_append, hunits, hrest, List.flatMap_append, List.flatMap_singleton]
  rfl

/-! ### The whole account -/

/-- The log tells what was done. A root that does not open leaves no line. One that opens leaves the
line of its base, if that is an archive, and one that says that it is loaded; then one line for each
file named like a test source, in the order of the files, that it was skipped or which unit it gave,
with its expected output if there is one; then the number of units. Where a file fails, the log ends
with the file in front of it, and where the files cannot be listed, in front of them all. All roots
together leave the lines of each, up to the first that fails. -/
theorem log_accounts (registry : Registry) (store : Store) :
    (∀ root error, (registry.base.openRoot store root).outcome = .error error →
      registry.load store root = ⟨[], .error error⟩) ∧
    (∀ root opened, (registry.base.openRoot store root).outcome = .ok opened →
      (∀ error, opened.childFiles store = .error error →
        registry.load store root = ⟨registry.firstLines root, .error error⟩) ∧
      ∀ fileNames, opened.childFiles store = .ok fileNames →
        (∃ units lines, registry.Accounts (opened.answers store) root fileNames units lines ∧
          registry.load store root =
            ⟨registry.firstLines root ++ lines ++ [.loadedRoot units.length root], .ok units⟩) ∨
        ∃ before fileName after units lines error, fileNames = before ++ fileName :: after ∧
          registry.Accounts (opened.answers store) root before units lines ∧
          registry.Includes fileName ∧ (opened.answers store).FileFault root fileName error ∧
          registry.load store root = ⟨registry.firstLines root ++ lines, .error error⟩) ∧
    (∀ tree root fileNames units lines, registry.Accounts tree root fileNames units lines →
      lines.length = fileNames.countP isSource ∧
      lines.filterMap LogEvent.foundUnit? =
        units.map fun unit ↦ (unit.name, unit.oracle?.isSome)) ∧
    ((∃ units, registry.allUnits store =
        ⟨registry.roots.flatMap fun root ↦ (registry.load store root).log, .ok units⟩) ∨
      ∃ before root after error, registry.roots = before ++ root :: after ∧
        (∀ earlier ∈ before, ∃ part, (registry.load store earlier).outcome = .ok part) ∧
        (registry.load store root).outcome = .error error ∧
        registry.allUnits store =
          ⟨(before ++ [root]).flatMap fun root ↦ (registry.load store root).log,
            .error error⟩) ∧
    ∀ archive start root base fileName test withOracle count,
      (LogEvent.openedArchive archive start).text =
        "opened archive " ++ archive ++ " at " ++ Text.quoted start ∧
      (LogEvent.loadingRoot root base).text = "loading spec units from " ++ root ++ " in " ++ base ∧
      (LogEvent.skippedFile root fileName).text =
        "skipping " ++ root ++ "/" ++ fileName ++ ": not allow-listed" ∧
      (LogEvent.foundUnit test withOracle).text =
        "found spec unit " ++ test ++ (if withOracle then " with expected output" else "") ∧
      (LogEvent.loadedRoot count root).text =
        "loaded " ++ toString count ++ " spec units from " ++ root := by
  refine ⟨fun root error ↦ load_of_openRoot_error, fun root opened hopen ↦ ⟨?_, ?_⟩,
    fun tree root fileNames units lines h ↦ ⟨h.length_eq, h.filterMap_foundUnit?⟩, ?_,
    fun _ _ _ _ _ _ _ _ ↦ ⟨rfl, rfl, rfl, rfl, rfl⟩⟩
  · intro error hlist
    have hload := load_of_unitsIn_error hopen (unitsIn_of_childFiles_error hlist)
    rwa [List.append_nil] at hload
  · intro fileNames hlist
    rcases exists_accounts registry (opened.answers store) root fileNames with
      ⟨units, lines, haccounts⟩ |
      ⟨before, fileName, after, units, lines, error, rfl, haccounts, hincludes, hfault⟩
    · have hunits : registry.unitsIn (opened.answers store) root = ⟨lines, .ok units⟩ :=
        (unitsIn_of_childFiles hlist).trans (unitsOf_of_accounts haccounts)
      exact Or.inl ⟨units, lines, haccounts, load_of_unitsIn_ok hopen hunits⟩
    · have hunits : registry.unitsIn (opened.answers store) root = ⟨lines, .error error⟩ :=
        (unitsIn_of_childFiles hlist).trans
          (unitsOf_of_fileFault after haccounts hincludes hfault)
      exact Or.inr ⟨before, fileName, after, units, lines, error, rfl, haccounts, hincludes, hfault,
        load_of_unitsIn_error hopen hunits⟩
  · cases houtcome : (registry.allUnits store).outcome with
    | ok units =>
      exact Or.inl (loadAll_of_ok (exists_load_of_loadAll houtcome))
    | error error =>
      obtain ⟨before, root, after, hroots, hbefore, hload⟩ :=
        loadAll_outcome_eq_error_iff.mp houtcome
      refine Or.inr ⟨before, root, after, error, hroots, hbefore, hload, ?_⟩
      rw [allUnits, hroots]
      exact loadAll_of_error after hbefore hload

theorem log_accounts_pair :
    ((twoRegistry.withAllowList (.ofNames ["b.wast"])).load twoSources "/r").log =
      [.loadingRoot "/r" "res", .skippedFile "/r" "a.wast", .foundUnit "b" false,
        .loadedRoot 1 "/r"] := by
  have hopen : ((twoRegistry.withAllowList (.ofNames ["b.wast"])).base.openRoot twoSources
      "/r").outcome = .ok sourceTree := openRoot_storeWith _
  have hunit : IsUnitOf (sourceTree.answers twoSources) "b.wast" (.fresh "b" "a" none) :=
    ⟨by decide, read_twoSources, read_twoSources_oracle, mustFail_fresh_iff, rfl, rfl⟩
  have hlines : (twoRegistry.withAllowList (.ofNames ["b.wast"])).Accounts
      (sourceTree.answers twoSources) "/r" ["a.wast", "b.wast"] [.fresh "b" "a" none]
      [.skippedFile "/r" "a.wast", .foundUnit "b" false] :=
    .skipped (by decide) (by decide) (.found (by decide) hunit .nil)
  obtain ⟨-, hroot, -⟩ := log_accounts (twoRegistry.withAllowList (.ofNames ["b.wast"])) twoSources
  rcases (hroot "/r" sourceTree hopen).2 _ childFiles_twoSources with
    ⟨units, lines, haccounts, hload⟩ |
    ⟨before, fileName, after, units, lines, error, hsplit, hbefore, hincludes, hfault, -⟩
  · obtain ⟨rfl, hunits⟩ :=
      Report.mk.inj ((unitsOf_of_accounts haccounts).symm.trans (unitsOf_of_accounts hlines))
    obtain rfl := Except.ok.inj hunits
    rw [hload]
    rfl
  · have herror := unitsOf_of_fileFault after hbefore hincludes hfault
    rw [← hsplit, unitsOf_of_accounts hlines] at herror
    cases herror

end Registry

end WastSuite
