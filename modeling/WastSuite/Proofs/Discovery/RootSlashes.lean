import WastSuite.Proofs.Resource.RootSpelling
import WastSuite.Proofs.Resource.StoreFailures

/-!
# Slashes around a root

A root may be written behind any number of slashes. They do not count when it is opened
(`ResourceBase.openRoot_slashes`), and what its files give does not depend on how it is written
(`Registry.exists_failsAs_of_unitsIn`): only the failures in which discovery itself spells the path
of a file tell the root as it was given (`Registry.FailsAs`).

A slash behind a root is refused at once, whatever the base and the store, and no other root fails
so (`Registry.eq_of_load_invalidRoot`).

Main statement: `Registry.load_of_slashes`.
-/

set_option autoImplicit false

namespace WastSuite

namespace ResourceBase

variable {root : String}

/-- The slashes in front of a root that does not end with one do not count when it is opened. -/
theorem openRoot_slashes (base : ResourceBase) (store : Store) (count : Nat) (hne : root ≠ "")
    (hstart : Path.isAbsolute root = false) (hends : Path.endsWithSlash root = false) :
    base.openRoot store (Path.slashes count ++ root) = base.openRoot store root := by
  have hbehind : Path.endsWithSlash (Path.slashes count ++ root) = false := by
    rw [Path.endsWithSlash_append _ hne, hends]
  unfold openRoot
  rw [if_neg (not_isSome_beforeTail? hends), if_neg (not_isSome_beforeTail? hbehind),
    relativeRoot_slashes_append count hstart, relativeRoot_eq_self hstart]

end ResourceBase

namespace Registry

open ResourceTree

/-- How a root fails that is found below a base under a relative path, as a function of how the root
is written: it is not there, the store fails, a file that was listed is no longer there, or a file
does not hold UTF-8. -/
inductive FailsAs (base : ResourceBase) (relative : String) : (String → DiscoveryError) → Prop
  | rootNotFound : FailsAs base relative fun _ ↦ .rootNotFound relative base.path
  | ofStore {error : DiscoveryError} (h : error.OfStore) : FailsAs base relative fun _ ↦ error
  | vanished (fileName : String) :
    FailsAs base relative fun root ↦ .io (root ++ "/" ++ fileName) .vanished
  | notText (file : String) : FailsAs base relative fun root ↦ .notText (root ++ "/" ++ file)

variable {registry : Registry} {base : ResourceBase} {store : Store} {opened : OpenTree}
  {root relative fileName : String} {error : DiscoveryError} {failure : String → DiscoveryError}

/-- No root fails as one with a slash behind it. -/
theorem FailsAs.ne_invalidRoot (h : FailsAs base relative failure) (root named : String) :
    failure root ≠ .invalidRoot named := by
  cases h with
  | rootNotFound => exact nofun
  | vanished => exact nofun
  | notText => exact nofun
  | @ofStore error hstore =>
    intro herror
    change error = .invalidRoot named at herror
    subst herror
    cases hstore

/-! ### Open roots -/

theorem exists_failsAs_of_textFault (base : ResourceBase) (relative : String)
    (h : TextFault (opened.answers store) root fileName error) :
    ∃ failure, FailsAs base relative failure ∧
      ∀ written, TextFault (opened.answers store) written fileName (failure written) := by
  cases h with
  | refused hread => exact ⟨_, .ofStore (OpenTree.ofStore_of_read hread), fun _ ↦ .refused hread⟩
  | notText hread hvalid => exact ⟨_, .notText fileName, fun _ ↦ .notText hread hvalid⟩

theorem exists_failsAs_of_fileFault (base : ResourceBase) (relative : String)
    (h : FileFault (opened.answers store) root fileName error) :
    ∃ failure, FailsAs base relative failure ∧
      ∀ written, FileFault (opened.answers store) written fileName (failure written) := by
  cases h with
  | oracle hsource htext =>
    obtain ⟨failure, hfails, hall⟩ := exists_failsAs_of_textFault base relative htext
    exact ⟨failure, hfails, fun written ↦ .oracle hsource (hall written)⟩
  | source hsource =>
    cases hsource with
    | vanished hread => exact ⟨_, .vanished fileName, fun _ ↦ .source (.vanished hread)⟩
    | text htext =>
      obtain ⟨failure, hfails, hall⟩ := exists_failsAs_of_textFault base relative htext
      exact ⟨failure, hfails, fun written ↦ .source (.text (hall written))⟩

/-- The earliest failure of an open root depends on how the root is written at most in the path of a
file. -/
theorem exists_failsAs_of_earliestFault (base : ResourceBase) (relative : String)
    (h : registry.EarliestFault (opened.answers store) root error) :
    ∃ failure, FailsAs base relative failure ∧
      ∀ written, registry.EarliestFault (opened.answers store) written (failure written) := by
  cases h with
  | listing hlist =>
    exact ⟨_, .ofStore (OpenTree.ofStore_of_childFiles hlist), fun _ ↦ .listing hlist⟩
  | file hfiles hbefore hincludes hfault =>
    obtain ⟨failure, hfails, hall⟩ := exists_failsAs_of_fileFault base relative hfault
    exact ⟨failure, hfails, fun written ↦ .file hfiles hbefore hincludes (hall written)⟩

/-- An open root gives the same units however it is written, or fails in the same way. -/
theorem exists_failsAs_of_unitsIn (registry : Registry) (store : Store) (opened : OpenTree)
    (base : ResourceBase) (relative : String) :
    (∃ units, ∀ written,
        (registry.unitsIn (opened.answers store) written).outcome = .ok units) ∨
      ∃ failure, FailsAs base relative failure ∧ ∀ written,
        (registry.unitsIn (opened.answers store) written).outcome = .error (failure written) := by
  cases hunits : (registry.unitsIn (opened.answers store) relative).outcome with
  | ok units =>
    refine Or.inl ⟨units, fun written ↦ ?_⟩
    rw [unitsIn_outcome_eq_ok_iff] at hunits ⊢
    exact hunits
  | error error =>
    obtain ⟨failure, hfails, hall⟩ := exists_failsAs_of_earliestFault base relative
      (unitsIn_outcome_eq_error_iff.mp hunits)
    exact Or.inr ⟨failure, hfails, fun written ↦ unitsIn_outcome_eq_error_iff.mpr (hall written)⟩

/-! ### Roots of a store -/

/-- A root gives the same units behind any number of slashes, or fails in the same way. -/
theorem exists_failsAs_of_load (registry : Registry) (store : Store) (hne : root ≠ "")
    (hstart : Path.isAbsolute root = false) (hends : Path.endsWithSlash root = false) :
    (∃ units, ∀ count,
        (registry.load store (Path.slashes count ++ root)).outcome = .ok units) ∨
      ∃ failure, FailsAs registry.base root failure ∧ ∀ count,
        (registry.load store (Path.slashes count ++ root)).outcome =
          .error (failure (Path.slashes count ++ root)) := by
  have hsame := fun count ↦
    ResourceBase.openRoot_slashes registry.base store count hne hstart hends
  cases hopen : (registry.base.openRoot store root).outcome with
  | error error =>
    have hload : ∀ count,
        (registry.load store (Path.slashes count ++ root)).outcome = .error error := fun count ↦
      load_outcome_of_error (by rw [hsame, hopen])
    rcases OpenTree.failure_of_openRoot hopen with ⟨hslash, -⟩ | rfl | hstore
    · rw [ResourceBase.isSome_beforeTail?_iff, hends] at hslash
      cases hslash
    · rw [ResourceBase.relativeRoot_eq_self hstart] at hload
      exact Or.inr ⟨_, .rootNotFound, hload⟩
    · exact Or.inr ⟨_, .ofStore hstore, hload⟩
  | ok opened =>
    have hload : ∀ count, (registry.load store (Path.slashes count ++ root)).outcome =
        (registry.unitsIn (opened.answers store) (Path.slashes count ++ root)).outcome :=
      fun count ↦ load_outcome_of_ok (by rw [hsame, hopen])
    simp only [hload]
    rcases exists_failsAs_of_unitsIn registry store opened registry.base root with
      ⟨units, hunits⟩ | ⟨failure, hfails, hall⟩
    · exact Or.inl ⟨units, fun count ↦ hunits _⟩
    · exact Or.inr ⟨failure, hfails, fun count ↦ hall _⟩

/-- Only the root itself is refused for its last slash. -/
theorem eq_of_load_invalidRoot {named : String}
    (h : (registry.load store root).outcome = .error (.invalidRoot named)) : root = named := by
  rcases load_outcome_eq_error_iff.mp h with hopen | ⟨opened, -, hunits⟩
  · rcases OpenTree.failure_of_openRoot hopen with ⟨-, herror⟩ | herror | herror
    · exact (DiscoveryError.invalidRoot.inj herror).symm
    · cases herror
    · cases herror
  · rcases exists_failsAs_of_unitsIn registry store opened registry.base root with
      ⟨units, hall⟩ | ⟨failure, hfails, hall⟩
    · cases hunits.symm.trans (hall root)
    · have herror := Except.error.inj ((hall root).symm.trans hunits)
      exact absurd herror (hfails.ne_invalidRoot root named)

/-- All roots together are refused for the last slash of one of them exactly if every root before it
gives units. -/
theorem allUnits_eq_invalidRoot_iff (hends : Path.endsWithSlash root = true) :
    (registry.allUnits store).outcome = .error (.invalidRoot root) ↔
      ∃ before after, registry.roots = before ++ root :: after ∧
        ∀ earlier ∈ before, ∃ units, (registry.load store earlier).outcome = .ok units := by
  have hload : (registry.load store root).outcome = .error (.invalidRoot root) :=
    load_outcome_of_error (by rw [ResourceBase.openRoot_of_endsWithSlash _ _ hends])
  rw [allUnits, loadAll_outcome_eq_error_iff]
  constructor
  · rintro ⟨before, other, after, hroots, hbefore, hother⟩
    obtain rfl := eq_of_load_invalidRoot hother
    exact ⟨before, after, hroots, hbefore⟩
  · rintro ⟨before, after, hroots, hbefore⟩
    exact ⟨before, root, after, hroots, hbefore, hload⟩

/-- A root gives the same behind any number of slashes: the same units, or the same failure but for
the root as it was given in the paths that discovery spells itself; where it is not there, it is
told without its slashes. A root with a slash behind it is refused with the text that was given,
whatever the base and the store, before anything is logged, and all roots together are refused so
exactly if every root before it gives units. -/
theorem load_of_slashes (registry : Registry) (store : Store) :
    (∀ root, root ≠ "" → Path.isAbsolute root = false → Path.endsWithSlash root = false →
      (∃ units, ∀ count,
        (registry.load store (Path.slashes count ++ root)).outcome = .ok units) ∨
      ∃ failure, FailsAs registry.base root failure ∧ ∀ count,
        (registry.load store (Path.slashes count ++ root)).outcome =
          .error (failure (Path.slashes count ++ root))) ∧
    ∀ front, let root := front ++ "/"
      registry.base.openRoot store root = ⟨[], .error (.invalidRoot root)⟩ ∧
      registry.load store root = ⟨[], .error (.invalidRoot root)⟩ ∧
      ((registry.allUnits store).outcome = .error (.invalidRoot root) ↔
        ∃ before after, registry.roots = before ++ root :: after ∧
          ∀ earlier ∈ before, ∃ units, (registry.load store earlier).outcome = .ok units) := by
  refine ⟨fun root hne hstart hends ↦ exists_failsAs_of_load registry store hne hstart hends,
    fun front ↦ ?_⟩
  have hends : Path.endsWithSlash (front ++ "/") = true := by
    rw [Path.endsWithSlash_append front (by decide)]
    decide
  have hopen := ResourceBase.openRoot_of_endsWithSlash registry.base store hends
  refine ⟨hopen, ?_, allUnits_eq_invalidRoot_iff hends⟩
  rw [load, hopen]
  rfl

/-! ### A source that is no text -/

/-- A store with one source, which is no text. -/
def garbledStore : Store where
  nodes := [(["d"], .directory), (["d", "r"], .directory), (["d", "r", "a.wast"], .file 0)]
  bodies := [⟨#[0xFF]⟩]
  working := []

/-- A registry for that store, with a root that is refused in front. -/
def garbledRegistry : Registry :=
  ⟨.directory "d", ["x/", "/r"], .ofNames ["a.wast"]⟩

theorem find_garbledStore_root : garbledStore.find "d/r" = .ok (["d", "r"], .directory) :=
  Store.find_of_walk (Path.checkPath_eq_ok_iff.mpr ⟨by decide, by decide, by decide⟩) (by decide)
    (by decide)

theorem find_garbledStore_source :
    garbledStore.find "d/r/a.wast" = .ok (["d", "r", "a.wast"], .file 0) :=
  Store.find_of_walk (Path.checkPath_eq_ok_iff.mpr ⟨by decide, by decide, by decide⟩) (by decide)
    (by decide)

theorem load_garbledStore :
    (garbledRegistry.load garbledStore "/r").outcome = .error (.notText "/r/a.wast") := by
  have hjoin : Path.join "d" (ResourceBase.relativeRoot "/r") = "d/r" := by decide
  have hsource : Path.join "d/r" "a.wast" = "d/r/a.wast" := by decide
  have hdirectory : garbledStore.isDirectory "d/r" = true :=
    Store.isDirectory_iff.mpr ⟨_, find_garbledStore_root⟩
  have hopen : (garbledRegistry.base.openRoot garbledStore "/r").outcome =
      .ok (.directory ⟨"d/r"⟩) := by
    apply (ResourceBase.outcome_openRoot_directory garbledStore "d" (by decide)).trans
    rw [hjoin, if_pos hdirectory]
  have hlist : garbledStore.list "d/r" = .ok ["a.wast"] :=
    Store.list_eq_ok_iff.mpr ⟨_, find_garbledStore_root, by decide +kernel⟩
  have hfiles : DirectoryTree.childFiles garbledStore ⟨"d/r"⟩ = .ok ([] ++ "a.wast" :: []) := by
    simp only [DirectoryTree.childFiles, hlist, DirectoryTree.regularFiles, hsource,
      find_garbledStore_source, Except.map]
    exact congrArg Except.ok (by decide)
  have hread : DirectoryTree.read garbledStore ⟨"d/r"⟩ "a.wast" = .ok (some ⟨#[0xFF]⟩) := by
    rw [DirectoryTree.read_eq_some_iff, hsource]
    exact Store.read_eq_ok_iff.mpr ⟨_, 0, find_garbledStore_source, rfl⟩
  have hvalid : ¬ ByteArray.IsValidUTF8 ⟨#[0xFF]⟩ :=
    fromUTF8?_eq_none_iff.mp (by decide +kernel)
  rw [load_outcome_of_ok hopen, unitsIn_outcome_eq_error_iff]
  exact .file hfiles (by simp) (by decide) (.source (.text (.notText hread hvalid)))

theorem load_of_slashes_garbled :
    (∀ count, (garbledRegistry.load garbledStore (Path.slashes count ++ "r")).outcome =
      .error (.notText (Path.slashes count ++ "r" ++ "/" ++ "a.wast"))) ∧
    (garbledRegistry.allUnits garbledStore).outcome = .error (.invalidRoot "x/") := by
  obtain ⟨hroot, hslash⟩ := load_of_slashes garbledRegistry garbledStore
  have hwritten : Path.slashes 1 ++ "r" = "/r" := by decide
  refine ⟨?_, (hslash "x").2.2.mpr ⟨[], ["/r"], rfl, by simp⟩⟩
  rcases hroot "r" (by decide) (by decide) (by decide) with
    ⟨units, hunits⟩ | ⟨failure, hfails, hall⟩
  · have hload := hunits 1
    rw [hwritten, load_garbledStore] at hload
    cases hload
  · have hload := hall 1
    rw [hwritten, load_garbledStore] at hload
    have herror := Except.error.inj hload
    cases hfails with
    | rootNotFound => cases herror
    | vanished => cases herror
    | @ofStore error hstore =>
      change _ = error at herror
      subst herror
      cases hstore
    | notText file =>
      have hfile : "/r/" ++ "a.wast" = "/r/" ++ file := DiscoveryError.notText.inj herror
      rwa [(String.append_right_inj _).mp hfile]

end Registry

end WastSuite
