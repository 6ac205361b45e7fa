import Mathlib.Data.List.Forall2
import WastSuite.Discovery
import WastSuite.Proofs.Fallible

/-!
# What discovery answers

The outcome of discovery, told without its steps. A file is included if it is named like a test
source and on the allow-list (`Registry.Includes`). An included file can be read if its source is
there and is UTF-8 and its expected output is missing or UTF-8 (`ResourceTree.Readable`); it then
has exactly one unit (`ResourceTree.IsUnitOf`). Otherwise it has exactly one failure
(`ResourceTree.FileFault`), that of the source before that of the expected output. The paths and
the ends of names are written out here, and do not go through the catalogue.

The files of a root are gone through in order. They give units exactly if each included file can be
read, and then one unit for each of them in their order (`unitsOf_outcome_eq_ok_iff`); otherwise
they give the failure of the first included file that cannot be read
(`unitsOf_outcome_eq_error_iff`). Roots are gone through in the same way
(`loadAll_outcome_eq_ok_iff`, `loadAll_outcome_eq_error_iff`). The main statement
(`discovery_all_or_nothing`) puts this together, with the order in which stores list the files.
-/

set_option autoImplicit false

namespace WastSuite

/-- The first item of a list that is bad, with only fine ones before it, is the head, or the head
is fine and it is in the tail. -/
theorem exists_earliest_cons_iff {α : Type} {fine bad : α → Prop} {head : α} {tail : List α} :
    (∃ before item after, head :: tail = before ++ item :: after ∧
        (∀ earlier ∈ before, fine earlier) ∧ bad item) ↔
      bad head ∨ fine head ∧ ∃ before item after, tail = before ++ item :: after ∧
        (∀ earlier ∈ before, fine earlier) ∧ bad item := by
  constructor
  · rintro ⟨before, item, after, hsplit, hfine, hbad⟩
    cases before with
    | nil =>
      simp only [List.nil_append, List.cons.injEq] at hsplit
      exact Or.inl (hsplit.1 ▸ hbad)
    | cons first before =>
      simp only [List.cons_append, List.cons.injEq] at hsplit
      obtain ⟨rfl, rfl⟩ := hsplit
      exact Or.inr ⟨hfine _ List.mem_cons_self, before, item, after, rfl,
        fun earlier hmem ↦ hfine earlier (List.mem_cons_of_mem _ hmem), hbad⟩
  · rintro (hbad | ⟨hhead, before, item, after, rfl, hfine, hbad⟩)
    · exact ⟨[], head, tail, rfl, by simp, hbad⟩
    · refine ⟨head :: before, item, after, rfl, ?_, hbad⟩
      intro earlier hmem
      rcases List.mem_cons.mp hmem with rfl | hmem
      · exact hhead
      · exact hfine earlier hmem

/-! ### Texts -/

/-- Bytes are read as a text exactly if they are its UTF-8. -/
theorem fromUTF8?_eq_some_iff {content : ByteArray} {text : String} :
    String.fromUTF8? content = some text ↔ content = text.toUTF8 := by
  simp only [String.fromUTF8?]
  constructor
  · intro h
    split at h
    · rename_i hvalid
      rw [← Option.some.inj h]
      rfl
    · cases h
  · rintro rfl
    rw [dif_pos (show text.toUTF8.IsValidUTF8 from text.isValidUTF8)]
    rfl

/-- Bytes are read as no text exactly if they are no UTF-8. -/
theorem fromUTF8?_eq_none_iff {content : ByteArray} :
    String.fromUTF8? content = none ↔ ¬ content.IsValidUTF8 := by
  by_cases h : content.IsValidUTF8 <;> simp [String.fromUTF8?, h]

/-- Bytes are UTF-8 exactly if they are the UTF-8 of some text. -/
theorem isValidUTF8_iff_exists {content : ByteArray} :
    content.IsValidUTF8 ↔ ∃ text : String, content = text.toUTF8 := by
  constructor
  · intro h
    exact ⟨String.fromUTF8 content h, rfl⟩
  · rintro ⟨text, rfl⟩
    exact text.isValidUTF8

namespace ResourceTree

variable {tree : ResourceTree} {root relative fileName : String} {error : DiscoveryError}

/-- The file at a path holds a text, byte for byte. -/
def Holds (tree : ResourceTree) (relative text : String) : Prop :=
  tree.read relative = .ok (some text.toUTF8)

/-- Why the file at a path does not give a text: the tree itself fails, and its failure is passed on
as it is, or the contents are not UTF-8. -/
inductive TextFault (tree : ResourceTree) (root relative : String) : DiscoveryError → Prop
  | refused {error : DiscoveryError} (h : tree.read relative = .error error) :
    TextFault tree root relative error
  | notText {content : ByteArray} (hread : tree.read relative = .ok (some content))
    (hvalid : ¬ content.IsValidUTF8) :
    TextFault tree root relative (.notText (root ++ "/" ++ relative))

/-- Why an included file does not give a source: it gives no text, or it was listed and is not
there. -/
inductive SourceFault (tree : ResourceTree) (root fileName : String) : DiscoveryError → Prop
  | text {error : DiscoveryError} (h : TextFault tree root fileName error) :
    SourceFault tree root fileName error
  | vanished (h : tree.read fileName = .ok none) :
    SourceFault tree root fileName (.io (root ++ "/" ++ fileName) .vanished)

/-- Why an included file does not give a unit: there is no source, or the expected output gives no
text. The expected output only counts once the source is there. -/
inductive FileFault (tree : ResourceTree) (root fileName : String) : DiscoveryError → Prop
  | source {error : DiscoveryError} (h : SourceFault tree root fileName error) :
    FileFault tree root fileName error
  | oracle {error : DiscoveryError} {source : String} (hsource : tree.Holds fileName source)
    (h : TextFault tree root ("expected-output/" ++ fileName ++ ".log") error) :
    FileFault tree root fileName error

/-- An included file can be read: its source is there and UTF-8, and its expected output is missing
or UTF-8. -/
def Readable (tree : ResourceTree) (fileName : String) : Prop :=
  (∃ content, tree.read fileName = .ok (some content) ∧ content.IsValidUTF8) ∧
    (tree.read ("expected-output/" ++ fileName ++ ".log") = .ok none ∨
      ∃ content, tree.read ("expected-output/" ++ fileName ++ ".log") = .ok (some content) ∧
        content.IsValidUTF8)

/-- The unit of an included file: named like the file but for its extension, taken off once, with
the bytes of the source and of the expected output as texts, bound to fail exactly if the file is
named so, and with nothing derived yet. -/
structure IsUnitOf (tree : ResourceTree) (fileName : String) (unit : TestUnit) : Prop where
  name_append : unit.name ++ ".wast" = fileName
  source_holds : tree.Holds fileName unit.source
  oracle_read : tree.read ("expected-output/" ++ fileName ++ ".log") =
    .ok (unit.oracle?.map String.toUTF8)
  mustFail_iff : unit.mustFail = true ↔ ∃ start, fileName = start ++ ".fail.wast"
  forest_none : unit.forestMemo? = none
  script_none : unit.scriptMemo? = none

end ResourceTree

namespace Registry

/-- A file is included if it is named like a test source and is on the allow-list as a whole. -/
def Includes (registry : Registry) (fileName : String) : Prop :=
  (∃ name, fileName = name ++ ".wast") ∧ registry.allowList.contains fileName = true

instance (registry : Registry) : DecidablePred registry.Includes := fun fileName ↦
  decidable_of_iff ((Text.beforeTail? Catalogue.sourceExtension fileName).isSome = true ∧
      registry.allowList.contains fileName = true) (by
    simp only [Includes, Option.isSome_iff_exists, Text.beforeTail?_eq_some_iff,
      Catalogue.sourceExtension])

/-- Why a root does not give units: its files cannot be listed, or one of them that is included does
not give a unit while every included file before it does. -/
inductive EarliestFault (registry : Registry) (tree : ResourceTree) (root : String) :
    DiscoveryError → Prop
  | listing {error : DiscoveryError} (h : tree.childFiles = .error error) :
    EarliestFault registry tree root error
  | file {error : DiscoveryError} {before after : List String} {fileName : String}
    (hfiles : tree.childFiles = .ok (before ++ fileName :: after))
    (hbefore : ∀ earlier ∈ before, registry.Includes earlier → tree.Readable earlier)
    (hincludes : registry.Includes fileName) (h : tree.FileFault root fileName error) :
    EarliestFault registry tree root error

end Registry

namespace Registry

open ResourceTree

variable {tree : ResourceTree} {root relative fileName name : String} {error : DiscoveryError}

/-! ### One file -/

/-- There is no text exactly if there is no file. -/
theorem text?_eq_none_iff (root : String) :
    text? tree root relative = .ok none ↔ tree.read relative = .ok none := by
  unfold text?
  cases hread : tree.read relative with
  | error error => simp [bind, Except.bind]
  | ok content? =>
    cases content? with
    | none => simp [bind, Except.bind]
    | some content =>
      cases htext : String.fromUTF8? content <;> simp [bind, Except.bind, htext]

/-- The text of a file is what its bytes are the UTF-8 of. -/
theorem text?_eq_some_iff (root : String) {text : String} :
    text? tree root relative = .ok (some text) ↔ tree.Holds relative text := by
  unfold text? ResourceTree.Holds
  cases hread : tree.read relative with
  | error error => simp [bind, Except.bind]
  | ok content? =>
    cases content? with
    | none => simp [bind, Except.bind]
    | some content =>
      rw [Except.ok.injEq, Option.some.injEq, ← fromUTF8?_eq_some_iff]
      cases htext : String.fromUTF8? content <;> simp [bind, Except.bind, htext]

/-- Reading a text fails with the tree's own failure or because of bytes that are not UTF-8. -/
theorem text?_eq_error_iff :
    text? tree root relative = .error error ↔ TextFault tree root relative error := by
  constructor
  · intro h
    unfold text? at h
    cases hread : tree.read relative with
    | error other =>
      simp only [hread, bind, Except.bind, Except.error.injEq] at h
      exact .refused (h ▸ hread)
    | ok content? =>
      cases content? with
      | none => simp [hread, bind, Except.bind] at h
      | some content =>
        cases htext : String.fromUTF8? content with
        | some text => simp [hread, htext, bind, Except.bind] at h
        | none =>
          simp only [hread, htext, bind, Except.bind, Except.error.injEq] at h
          exact h ▸ .notText hread (fromUTF8?_eq_none_iff.mp htext)
  · intro h
    cases h with
    | refused hread => simp [text?, hread, bind, Except.bind]
    | notText hread hvalid =>
      simp [text?, pathIn, hread, fromUTF8?_eq_none_iff.mpr hvalid, bind, Except.bind]

/-- Where something is read, or told to be missing, only bytes that are not UTF-8 give no text. -/
theorem textFault_of_read {content? : Option ByteArray} (hread : tree.read relative = .ok content?)
    (h : TextFault tree root relative error) : error = .notText (root ++ "/" ++ relative) ∧
      ∃ content, content? = some content ∧ ¬ content.IsValidUTF8 := by
  cases h with
  | refused hrefused => cases hread.symm.trans hrefused
  | notText hcontent hvalid =>
    obtain rfl := Except.ok.inj (hread.symm.trans hcontent)
    exact ⟨rfl, _, rfl, hvalid⟩

/-- The source of a file is its text. -/
theorem source_eq_ok_iff {text : String} :
    source tree root fileName = .ok text ↔ tree.Holds fileName text := by
  rw [← text?_eq_some_iff root]
  unfold source
  cases htext : text? tree root fileName with
  | error error => simp [bind, Except.bind]
  | ok text? => cases text? <;> simp [bind, Except.bind]

/-- There is no source exactly for one of the reasons of `SourceFault`. -/
theorem source_eq_error_iff :
    source tree root fileName = .error error ↔ SourceFault tree root fileName error := by
  constructor
  · intro h
    unfold source at h
    cases htext : text? tree root fileName with
    | error other =>
      simp only [htext, bind, Except.bind, Except.error.injEq] at h
      exact .text (text?_eq_error_iff.mp (h ▸ htext))
    | ok text? =>
      cases text? with
      | some text => simp [htext, bind, Except.bind] at h
      | none =>
        simp only [htext, bind, Except.bind, Except.error.injEq] at h
        exact h ▸ .vanished ((text?_eq_none_iff root).mp htext)
  · intro h
    cases h with
    | text h => simp [source, text?_eq_error_iff.mpr h, bind, Except.bind]
    | vanished h =>
      simp [source, pathIn, (text?_eq_none_iff root).mpr h, bind, Except.bind]

/-- Whether an expected output is there and what it holds, in one equation. -/
theorem text?_eq_ok_iff {text? : Option String} :
    Registry.text? tree root relative = .ok text? ↔
      tree.read relative = .ok (text?.map String.toUTF8) := by
  cases text? with
  | none => exact text?_eq_none_iff root
  | some text => exact text?_eq_some_iff root

/-- A unit must fail exactly if the file it is named after is named so. -/
theorem mustFail_fresh_iff {text : String} {oracle? : Option String} :
    (TestUnit.fresh name text oracle?).mustFail = true ↔
      ∃ start, name ++ ".wast" = start ++ ".fail.wast" := by
  rw [← Catalogue.failEnding_append, Catalogue.sourceExtension]
  simp only [TestUnit.mustFail, TestUnit.fresh, Option.isSome_iff_exists,
    Text.beforeTail?_eq_some_iff, ← String.append_assoc, String.append_left_inj]

/-- The unit of a file that can be read. Assumes: the file has the name with the extension. -/
theorem unitOf_outcome_eq_ok_iff {unit : TestUnit} (hname : fileName = name ++ ".wast") :
    (unitOf tree root fileName name).outcome = .ok unit ↔ IsUnitOf tree fileName unit := by
  simp only [unitOf, Report.outcome_bind_eq_ok_iff, Report.outcome_ofExcept,
    Report.outcome_record, Report.outcome_pure, source_eq_ok_iff, text?_eq_ok_iff,
    Except.ok.injEq, Catalogue.oraclePath_eq]
  constructor
  · rintro ⟨text, hsource, oracle?, horacle, -, -, rfl⟩
    exact ⟨hname.symm, hsource, horacle, hname ▸ mustFail_fresh_iff, rfl, rfl⟩
  · intro h
    have hunit : unit.name = name :=
      (String.append_left_inj _).mp (h.name_append.trans hname)
    refine ⟨unit.source, h.source_holds, unit.oracle?, h.oracle_read, (), trivial, ?_⟩
    rw [TestUnit.fresh, ← hunit, ← h.forest_none, ← h.script_none]

/-- The failure of a file that cannot be read. -/
theorem unitOf_outcome_eq_error_iff :
    (unitOf tree root fileName name).outcome = .error error ↔
      FileFault tree root fileName error := by
  simp only [unitOf, Report.outcome_bind_eq_error_iff, Report.outcome_ofExcept,
    Report.outcome_record, Report.outcome_pure, source_eq_error_iff, source_eq_ok_iff,
    text?_eq_error_iff, reduceCtorEq, and_false, or_false, exists_false, Catalogue.oraclePath_eq]
  constructor
  · rintro (h | ⟨text, hsource, h⟩)
    · exact .source h
    · exact .oracle hsource h
  · intro h
    cases h with
    | source h => exact Or.inl h
    | oracle hsource h => exact Or.inr ⟨_, hsource, h⟩

/-- A file can be read exactly if it has a unit. Assumes: the file has the name with the
extension. -/
theorem exists_isUnitOf_iff (hname : fileName = name ++ ".wast") :
    (∃ unit, IsUnitOf tree fileName unit) ↔ Readable tree fileName := by
  constructor
  · rintro ⟨unit, h⟩
    refine ⟨⟨_, h.source_holds, unit.source.isValidUTF8⟩, ?_⟩
    have horacle := h.oracle_read
    cases hunit : unit.oracle? with
    | none => exact Or.inl (by rw [horacle, hunit]; rfl)
    | some text => exact Or.inr ⟨text.toUTF8, by rw [horacle, hunit]; rfl, text.isValidUTF8⟩
  · rintro ⟨⟨content, hread, hvalid⟩, horacle⟩
    obtain ⟨text, rfl⟩ := isValidUTF8_iff_exists.mp hvalid
    have hunit : ∃ oracle? : Option String,
        tree.read ("expected-output/" ++ fileName ++ ".log") =
          .ok (oracle?.map String.toUTF8) := by
      rcases horacle with hnone | ⟨content, hsome, hvalid⟩
      · exact ⟨none, hnone⟩
      · obtain ⟨text, rfl⟩ := isValidUTF8_iff_exists.mp hvalid
        exact ⟨some text, hsome⟩
    obtain ⟨oracle?, horacle⟩ := hunit
    exact ⟨.fresh name text oracle?, hname.symm, hread, horacle, hname ▸ mustFail_fresh_iff, rfl,
      rfl⟩

/-- A file that has a unit can be read. -/
theorem readable_of_isUnitOf {unit : TestUnit} (h : IsUnitOf tree fileName unit) :
    Readable tree fileName :=
  (exists_isUnitOf_iff h.name_append.symm).mp ⟨unit, h⟩

/-! ### All files of a root -/

variable {registry : Registry}

/-- A file that is not included gives nothing. -/
theorem unitOf?_outcome_of_not_includes (h : ¬ registry.Includes fileName) :
    (registry.unitOf? tree root fileName).outcome = .ok none := by
  unfold unitOf?
  cases hname : Text.beforeTail? Catalogue.sourceExtension fileName with
  | none => rfl
  | some name =>
    have hlist : registry.allowList.contains fileName = false := by
      refine (Bool.not_eq_true _).mp fun hcontains ↦ ?_
      exact h ⟨⟨name, Text.beforeTail?_eq_some_iff.mp hname⟩, hcontains⟩
    simp only [hlist, Bool.false_eq_true, if_false, Report.outcome_bind_eq_ok_iff]
    exact ⟨(), rfl, rfl⟩

/-- A file that is included gives what its unit gives. -/
theorem unitOf?_of_includes (tree : ResourceTree) (root : String)
    (h : registry.Includes fileName) : ∃ name,
      fileName = name ++ ".wast" ∧
        registry.unitOf? tree root fileName = some <$> unitOf tree root fileName name := by
  obtain ⟨⟨name, hname⟩, hcontains⟩ := h
  have hcut : Text.beforeTail? Catalogue.sourceExtension fileName = some name :=
    Text.beforeTail?_eq_some_iff.mpr hname
  refine ⟨name, hname, ?_⟩
  simp only [unitOf?, hcut, if_pos hcontains]

/-- An included file gives its unit. -/
theorem unitOf?_outcome_eq_ok_iff (h : registry.Includes fileName) {unit? : Option TestUnit} :
    (registry.unitOf? tree root fileName).outcome = .ok unit? ↔
      ∃ unit, IsUnitOf tree fileName unit ∧ unit? = some unit := by
  obtain ⟨name, hname, hunit⟩ := unitOf?_of_includes tree root h
  rw [hunit, map_eq_pure_bind, Report.outcome_bind_eq_ok_iff]
  simp only [unitOf_outcome_eq_ok_iff hname, Report.outcome_pure, Except.ok.injEq, eq_comm]

/-- An included file fails as its unit does. -/
theorem unitOf?_outcome_eq_error_iff (h : registry.Includes fileName) :
    (registry.unitOf? tree root fileName).outcome = .error error ↔
      FileFault tree root fileName error := by
  obtain ⟨name, hname, hunit⟩ := unitOf?_of_includes tree root h
  rw [hunit, map_eq_pure_bind, Report.outcome_bind_eq_error_iff]
  simp [unitOf_outcome_eq_error_iff]

/-- A file goes through exactly if it is not included or can be read. -/
theorem exists_unitOf?_outcome_eq_ok_iff (root : String) :
    (∃ unit?, (registry.unitOf? tree root fileName).outcome = .ok unit?) ↔
      (registry.Includes fileName → Readable tree fileName) := by
  by_cases h : registry.Includes fileName
  · obtain ⟨⟨name, hname⟩, -⟩ := id h
    simp only [unitOf?_outcome_eq_ok_iff h, ← exists_isUnitOf_iff hname, h, true_imp_iff]
    constructor
    · rintro ⟨unit?, unit, hunit, -⟩
      exact ⟨unit, hunit⟩
    · rintro ⟨unit, hunit⟩
      exact ⟨some unit, unit, hunit, rfl⟩
  · simp [unitOf?_outcome_of_not_includes h, h]

/-- Files give one unit for each of them that is included, in their order, and no other units. -/
theorem unitsOf_outcome_eq_ok_iff {fileNames : List String} {units : List TestUnit} :
    (registry.unitsOf tree root fileNames).outcome = .ok units ↔
      List.Forall₂ (IsUnitOf tree) (fileNames.filter registry.Includes) units := by
  induction fileNames generalizing units with
  | nil =>
    simp only [unitsOf, Report.outcome_pure, Except.ok.injEq, List.filter_nil,
      List.forall₂_nil_left_iff]
    exact eq_comm
  | cons fileName fileNames ih =>
    simp only [unitsOf, Report.outcome_bind_eq_ok_iff, Report.outcome_pure, Except.ok.injEq, ih]
    by_cases h : registry.Includes fileName
    · rw [List.filter_cons_of_pos (by simpa using h)]
      simp only [unitOf?_outcome_eq_ok_iff h]
      constructor
      · rintro ⟨_, ⟨unit, hunit, rfl⟩, others, hothers, rfl⟩
        exact .cons hunit hothers
      · intro hall
        obtain ⟨unit, others, hunit, hothers, rfl⟩ := List.forall₂_cons_left_iff.mp hall
        exact ⟨some unit, ⟨unit, hunit, rfl⟩, others, hothers, rfl⟩
    · rw [List.filter_cons_of_neg (by simpa using h)]
      simp [unitOf?_outcome_of_not_includes h]

/-- Files fail with the failure of the first included one that cannot be read. -/
theorem unitsOf_outcome_eq_error_iff {fileNames : List String} :
    (registry.unitsOf tree root fileNames).outcome = .error error ↔
      ∃ before fileName after, fileNames = before ++ fileName :: after ∧
        (∀ earlier ∈ before, registry.Includes earlier → Readable tree earlier) ∧
        registry.Includes fileName ∧ FileFault tree root fileName error := by
  induction fileNames with
  | nil => simp [unitsOf]
  | cons fileName fileNames ih =>
    rw [exists_earliest_cons_iff, ← ih, ← exists_unitOf?_outcome_eq_ok_iff root]
    simp only [unitsOf, Report.outcome_bind_eq_error_iff, Report.outcome_pure, reduceCtorEq,
      and_false, exists_false, or_false]
    refine or_congr ?_ exists_and_right
    by_cases h : registry.Includes fileName
    · simp only [unitOf?_outcome_eq_error_iff h, h, true_and]
    · simp [unitOf?_outcome_of_not_includes h, h]

/-- Files give units exactly if each included one can be read. -/
theorem exists_unitsOf_outcome_eq_ok_iff (root : String) {fileNames : List String} :
    (∃ units, (registry.unitsOf tree root fileNames).outcome = .ok units) ↔
      ∀ fileName ∈ fileNames, registry.Includes fileName → Readable tree fileName := by
  induction fileNames with
  | nil => simp [unitsOf]
  | cons fileName fileNames ih =>
    rw [List.forall_mem_cons, ← ih, ← exists_unitOf?_outcome_eq_ok_iff root]
    simp only [unitsOf, Report.outcome_bind_eq_ok_iff, Report.outcome_pure, Except.ok.injEq]
    constructor
    · rintro ⟨_, unit?, hunit, others, hothers, -⟩
      exact ⟨⟨unit?, hunit⟩, others, hothers⟩
    · rintro ⟨⟨unit?, hunit⟩, others, hothers⟩
      exact ⟨_, unit?, hunit, others, hothers, rfl⟩

/-- What a root gives is what its files give, once they are listed. -/
theorem unitsIn_outcome_of_ok {fileNames : List String} (h : tree.childFiles = .ok fileNames) :
    (registry.unitsIn tree root).outcome = (registry.unitsOf tree root fileNames).outcome := by
  rw [unitsIn, Report.bind_of_ok h]

/-- A root gives the units of its included files. -/
theorem unitsIn_outcome_eq_ok_iff {units : List TestUnit} :
    (registry.unitsIn tree root).outcome = .ok units ↔ ∃ fileNames,
      tree.childFiles = .ok fileNames ∧
        List.Forall₂ (IsUnitOf tree) (fileNames.filter registry.Includes) units := by
  simp only [unitsIn, Report.outcome_bind_eq_ok_iff, Report.outcome_ofExcept,
    unitsOf_outcome_eq_ok_iff]

/-- A root fails with its earliest failure. -/
theorem unitsIn_outcome_eq_error_iff :
    (registry.unitsIn tree root).outcome = .error error ↔
      registry.EarliestFault tree root error := by
  simp only [unitsIn, Report.outcome_bind_eq_error_iff, Report.outcome_ofExcept,
    unitsOf_outcome_eq_error_iff]
  constructor
  · rintro (h | ⟨_, hfiles, before, fileName, after, rfl, hbefore, hincludes, h⟩)
    · exact .listing h
    · exact .file hfiles hbefore hincludes h
  · intro h
    cases h with
    | listing h => exact Or.inl h
    | file hfiles hbefore hincludes h =>
      exact Or.inr ⟨_, hfiles, _, _, _, rfl, hbefore, hincludes, h⟩

/-- A root gives units exactly if its files can be listed and each included one can be read. -/
theorem exists_unitsIn_outcome_eq_ok_iff :
    (∃ units, (registry.unitsIn tree root).outcome = .ok units) ↔ ∃ fileNames,
      tree.childFiles = .ok fileNames ∧
        ∀ fileName ∈ fileNames, registry.Includes fileName → Readable tree fileName := by
  simp only [unitsIn, Report.outcome_bind_eq_ok_iff, Report.outcome_ofExcept,
    ← exists_unitsOf_outcome_eq_ok_iff root]
  constructor
  · rintro ⟨units, fileNames, hfiles, hunits⟩
    exact ⟨fileNames, hfiles, units, hunits⟩
  · rintro ⟨fileNames, hfiles, units, hunits⟩
    exact ⟨units, fileNames, hfiles, hunits⟩

/-! ### Roots of a store -/

variable {store : Store}

/-- What a root gives is what its answers give, once it is open. -/
theorem load_outcome_of_ok {opened : OpenTree}
    (h : (registry.base.openRoot store root).outcome = .ok opened) :
    (registry.load store root).outcome =
      (registry.unitsIn (opened.answers store) root).outcome := by
  rw [load, Report.bind_of_ok h]
  cases hunits : (registry.unitsIn (opened.answers store) root).outcome with
  | error error =>
    rw [Report.outcome_bind_eq_error_iff]
    exact Or.inr ⟨(), rfl, by rw [Report.bind_of_error hunits]⟩
  | ok units =>
    rw [Report.outcome_bind_eq_ok_iff]
    exact ⟨(), rfl, by rw [Report.bind_of_ok hunits]; rfl⟩

theorem load_outcome_of_error (h : (registry.base.openRoot store root).outcome = .error error) :
    (registry.load store root).outcome = .error error := by
  rw [load, Report.bind_of_error h]

/-- A root of a store gives units exactly if it opens and its answers give them. -/
theorem load_outcome_eq_ok_iff {units : List TestUnit} :
    (registry.load store root).outcome = .ok units ↔ ∃ opened,
      (registry.base.openRoot store root).outcome = .ok opened ∧
        (registry.unitsIn (opened.answers store) root).outcome = .ok units := by
  cases hopen : (registry.base.openRoot store root).outcome with
  | error error => simp [load_outcome_of_error hopen]
  | ok opened => simp [load_outcome_of_ok hopen]

/-- A root of a store fails if it does not open or its answers fail. -/
theorem load_outcome_eq_error_iff :
    (registry.load store root).outcome = .error error ↔
      (registry.base.openRoot store root).outcome = .error error ∨ ∃ opened,
        (registry.base.openRoot store root).outcome = .ok opened ∧
          (registry.unitsIn (opened.answers store) root).outcome = .error error := by
  cases hopen : (registry.base.openRoot store root).outcome with
  | error error => simp [load_outcome_of_error hopen]
  | ok opened => simp [load_outcome_of_ok hopen]

/-- The files of a root that a store lists come in strictly increasing order. -/
theorem pairwise_childFiles {opened : OpenTree} {fileNames : List String}
    (h : opened.childFiles store = .ok fileNames) : fileNames.Pairwise (· < ·) := by
  cases opened with
  | directory tree =>
    change tree.childFiles store = .ok fileNames at h
    unfold DirectoryTree.childFiles at h
    split at h
    · cases h
    · obtain ⟨files, -, rfl⟩ := Fallible.map_eq_ok_iff.mp h
      exact (NameSet.ofList files).ordered
  | archive tree =>
    change Except.ok tree.childFiles = .ok fileNames at h
    rw [← Except.ok.inj h]
    exact (NameSet.ofList _).ordered

/-- The files that units are named after, in the order of the units. -/
theorem map_name_of_forall₂ {fileNames : List String} {units : List TestUnit}
    (h : List.Forall₂ (IsUnitOf tree) fileNames units) :
    (units.map fun unit ↦ unit.name ++ ".wast") = fileNames := by
  induction h with
  | nil => rfl
  | cons hunit _ ih => rw [List.map_cons, ih, hunit.name_append]

/-- The units of a root come in the order of their files, which is not that of their names. -/
theorem pairwise_fileName_of_load {units : List TestUnit}
    (h : (registry.load store root).outcome = .ok units) :
    (units.map fun unit ↦ unit.name ++ ".wast").Pairwise (· < ·) := by
  obtain ⟨opened, -, hunits⟩ := load_outcome_eq_ok_iff.mp h
  obtain ⟨fileNames, hfiles, hall⟩ := unitsIn_outcome_eq_ok_iff.mp hunits
  rw [map_name_of_forall₂ hall]
  exact (pairwise_childFiles hfiles).filter _

/-- Roots give the units of each of them, one root behind the other. -/
theorem loadAll_outcome_eq_ok_iff {roots : List String} {units : List TestUnit} :
    (registry.loadAll store roots).outcome = .ok units ↔ ∃ parts,
      List.Forall₂ (fun root part ↦ (registry.load store root).outcome = .ok part) roots parts ∧
        units = parts.flatten := by
  induction roots generalizing units with
  | nil =>
    simp only [loadAll, Report.outcome_pure, Except.ok.injEq, List.forall₂_nil_left_iff,
      exists_eq_left, List.flatten_nil]
    exact eq_comm
  | cons root roots ih =>
    simp only [loadAll, Report.outcome_bind_eq_ok_iff, Report.outcome_pure, Except.ok.injEq, ih,
      List.forall₂_cons_left_iff]
    constructor
    · rintro ⟨part, hpart, _, ⟨parts, hparts, rfl⟩, rfl⟩
      exact ⟨part :: parts, ⟨part, parts, hpart, hparts, rfl⟩, rfl⟩
    · rintro ⟨_, ⟨part, parts, hpart, hparts, rfl⟩, rfl⟩
      exact ⟨part, hpart, parts.flatten, ⟨parts, hparts, rfl⟩, rfl⟩

/-- Roots fail with the failure of the first of them that fails. -/
theorem loadAll_outcome_eq_error_iff {roots : List String} :
    (registry.loadAll store roots).outcome = .error error ↔
      ∃ before root after, roots = before ++ root :: after ∧
        (∀ earlier ∈ before, ∃ part, (registry.load store earlier).outcome = .ok part) ∧
        (registry.load store root).outcome = .error error := by
  induction roots with
  | nil => simp [loadAll]
  | cons root roots ih =>
    rw [exists_earliest_cons_iff, ← ih]
    simp only [loadAll, Report.outcome_bind_eq_error_iff, Report.outcome_pure, reduceCtorEq,
      and_false, exists_false, or_false, exists_and_right]

/-! ### All or nothing -/

/-- Discovery answers what its specification says, and never a part of it. Whatever a tree answers,
its root gives units exactly if its files can be listed and each included one can be read; it then
gives one unit for each included file, in the order of the listing, and otherwise the failure of
the earliest included file that fails. Over a store the listing is in strictly increasing order, a
root fails as it opens or as its answers fail, and all roots together give the units of each, or
the failure of the first root that fails. -/
theorem discovery_all_or_nothing (registry : Registry) :
    (∀ (tree : ResourceTree) (root : String),
      ((∃ units, (registry.unitsIn tree root).outcome = .ok units) ↔
        ∃ fileNames, tree.childFiles = .ok fileNames ∧
          ∀ fileName ∈ fileNames, registry.Includes fileName → tree.Readable fileName) ∧
      (∀ units, (registry.unitsIn tree root).outcome = .ok units ↔
        ∃ fileNames, tree.childFiles = .ok fileNames ∧
          List.Forall₂ tree.IsUnitOf (fileNames.filter registry.Includes) units) ∧
      ∀ error, (registry.unitsIn tree root).outcome = .error error ↔
        registry.EarliestFault tree root error) ∧
    (∀ (store : Store) (root : String),
      (∀ units, (registry.load store root).outcome = .ok units ↔
        ∃ opened, (registry.base.openRoot store root).outcome = .ok opened ∧
          (registry.unitsIn (opened.answers store) root).outcome = .ok units) ∧
      (∀ units, (registry.load store root).outcome = .ok units →
        (units.map fun unit ↦ unit.name ++ ".wast").Pairwise (· < ·)) ∧
      ∀ error, (registry.load store root).outcome = .error error ↔
        (registry.base.openRoot store root).outcome = .error error ∨
          ∃ opened, (registry.base.openRoot store root).outcome = .ok opened ∧
            (registry.unitsIn (opened.answers store) root).outcome = .error error) ∧
    ∀ store : Store,
      (∀ units, (registry.allUnits store).outcome = .ok units ↔
        ∃ parts, List.Forall₂ (fun root part ↦ (registry.load store root).outcome = .ok part)
          registry.roots parts ∧ units = parts.flatten) ∧
      ∀ error, (registry.allUnits store).outcome = .error error ↔
        ∃ before root after, registry.roots = before ++ root :: after ∧
          (∀ earlier ∈ before, ∃ part, (registry.load store earlier).outcome = .ok part) ∧
          (registry.load store root).outcome = .error error := by
  refine ⟨fun tree root ↦ ⟨?_, ?_, ?_⟩, fun store root ↦ ⟨?_, ?_, ?_⟩, fun store ↦ ⟨?_, ?_⟩⟩
  · exact exists_unitsIn_outcome_eq_ok_iff
  · exact fun units ↦ unitsIn_outcome_eq_ok_iff
  · exact fun error ↦ unitsIn_outcome_eq_error_iff
  · exact fun units ↦ load_outcome_eq_ok_iff
  · exact fun units ↦ pairwise_fileName_of_load
  · exact fun error ↦ load_outcome_eq_error_iff
  · exact fun units ↦ loadAll_outcome_eq_ok_iff
  · exact fun error ↦ loadAll_outcome_eq_error_iff

/-! ### A tree with files of every kind -/

/-- A tree with a source that must fail, one with an expected output, one that is listed and not
there, and a file that is no source. -/
def motleyTree (output : ByteArray) : ResourceTree where
  childFiles := .ok ["a.fail.wast", "b.wast", "c.wast", "d.txt"]
  read := fun relative ↦
    if relative = "a.fail.wast" then .ok (some "()".toUTF8)
    else if relative = "b.wast" then .ok (some "b".toUTF8)
    else if relative = "expected-output/b.wast.log" then .ok (some output)
    else .ok none

/-- A registry with some allow-list. -/
def motleyRegistry (names : List String) : Registry :=
  ⟨.directory "res", ["/r"], .ofNames names⟩

theorem isUnitOf_motley_fail (output : ByteArray) :
    (motleyTree output).IsUnitOf "a.fail.wast" (.fresh "a.fail" "()" none) :=
  ⟨by decide, rfl, rfl, mustFail_fresh_iff, rfl, rfl⟩

theorem isUnitOf_motley_output :
    (motleyTree "1".toUTF8).IsUnitOf "b.wast" (.fresh "b" "b" (some "1")) :=
  ⟨by decide, rfl, rfl, mustFail_fresh_iff, rfl, rfl⟩

/-- The two sources that are there give their units. With bytes that are no text as the expected
output of the second, that file is what fails, and otherwise the file that is not there, once it is
on the allow-list. -/
theorem discovery_all_or_nothing_motley :
    ((motleyRegistry ["a.fail.wast", "b.wast", "d.txt"]).unitsIn (motleyTree "1".toUTF8)
        "/r").outcome = .ok [.fresh "a.fail" "()" none, .fresh "b" "b" (some "1")] ∧
      ((motleyRegistry ["a.fail.wast", "b.wast", "c.wast"]).unitsIn (motleyTree ⟨#[0xff]⟩)
        "/r").outcome = .error (.notText "/r/expected-output/b.wast.log") ∧
      ((motleyRegistry ["a.fail.wast", "b.wast", "c.wast"]).unitsIn (motleyTree "1".toUTF8)
        "/r").outcome = .error (.io "/r/c.wast" .vanished) := by
  obtain ⟨hnarrow, -, -⟩ :=
    discovery_all_or_nothing (motleyRegistry ["a.fail.wast", "b.wast", "d.txt"])
  obtain ⟨hwide, -, -⟩ :=
    discovery_all_or_nothing (motleyRegistry ["a.fail.wast", "b.wast", "c.wast"])
  obtain ⟨-, hunits, -⟩ := hnarrow (motleyTree "1".toUTF8) "/r"
  obtain ⟨-, -, hbad⟩ := hwide (motleyTree ⟨#[0xff]⟩) "/r"
  obtain ⟨-, -, hgone⟩ := hwide (motleyTree "1".toUTF8) "/r"
  refine ⟨(hunits _).mpr ⟨_, rfl, ?_⟩, (hbad _).mpr ?_, (hgone _).mpr ?_⟩
  · exact .cons (isUnitOf_motley_fail _) (.cons isUnitOf_motley_output .nil)
  · have hpath : "/r/expected-output/b.wast.log" =
        "/r" ++ "/" ++ ("expected-output/" ++ "b.wast" ++ ".log") := by decide
    have hinvalid : ¬ (ByteArray.mk #[0xff]).IsValidUTF8 := fromUTF8?_eq_none_iff.mp (by decide)
    have hfiles : (motleyTree ⟨#[0xff]⟩).childFiles =
        .ok (["a.fail.wast"] ++ "b.wast" :: ["c.wast", "d.txt"]) := rfl
    have hsource : (motleyTree ⟨#[0xff]⟩).Holds "b.wast" "b" := rfl
    rw [hpath]
    refine .file hfiles ?_ (by decide) (.oracle hsource (.notText rfl hinvalid))
    rintro _ hmem -
    rw [List.mem_singleton.mp hmem]
    exact readable_of_isUnitOf (isUnitOf_motley_fail _)
  · have hpath : "/r/c.wast" = "/r" ++ "/" ++ "c.wast" := by decide
    have hfiles : (motleyTree "1".toUTF8).childFiles =
        .ok (["a.fail.wast", "b.wast"] ++ "c.wast" :: ["d.txt"]) := rfl
    rw [hpath]
    refine .file hfiles ?_ (by decide) (.source (.vanished rfl))
    rintro earlier hmem -
    simp only [List.mem_cons, List.not_mem_nil, or_false] at hmem
    rcases hmem with rfl | rfl
    · exact readable_of_isUnitOf (isUnitOf_motley_fail _)
    · exact readable_of_isUnitOf isUnitOf_motley_output

end Registry

end WastSuite
