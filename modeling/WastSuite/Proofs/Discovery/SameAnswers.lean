import WastSuite.Proofs.Discovery.Outcome
import WastSuite.Proofs.Store.FileMap

/-!
# Trees that answer as a file map says

What discovery asks about a root can be told by the files below it (`ResourceTree.Tells`): their
names, and what each included one and its expected output hold. Trees that tell the same files give
the same report (`unitsIn_eq_of_tells`), and nothing but a text that is not UTF-8 can fail it
(`exists_notText_of_tells`).
-/

set_option autoImplicit false

namespace WastSuite

/-- A tree answers what a file map says about the root at a location, as far as discovery asks:
which files there are, what each of them holds, and what is at the place of the expected output of
each included one, if anything is. -/
structure ResourceTree.Tells (tree : ResourceTree) (registry : Registry) (map : FileMap)
    (location : Location) : Prop where
  childFiles : tree.childFiles = .ok (map.childFiles location)
  source : ∀ fileName, map.HasFile (location ++ [fileName]) →
    tree.read fileName = .ok (map.content? (location ++ [fileName]))
  oracle : ∀ fileName, map.HasFile (location ++ [fileName]) → registry.Includes fileName →
    tree.read (Catalogue.oraclePath fileName) =
      .ok (map.content? (location ++ Path.oracleNames fileName))

namespace Registry

open ResourceTree

variable {registry other : Registry} {first second : ResourceTree} {map : FileMap}
  {location : Location} {root : String}

/-- A file gives the same in trees that answer the same about it. -/
theorem unitOf?_congr (hlist : registry.allowList = other.allowList) {fileName : String}
    (h : registry.Includes fileName → first.read fileName = second.read fileName ∧
      first.read (Catalogue.oraclePath fileName) = second.read (Catalogue.oraclePath fileName)) :
    registry.unitOf? first root fileName = other.unitOf? second root fileName := by
  by_cases hincludes : registry.Includes fileName
  · obtain ⟨hsource, horacle⟩ := h hincludes
    simp only [unitOf?, unitOf, source, text?, hsource, horacle, hlist]
  · unfold unitOf?
    cases hname : Text.beforeTail? Catalogue.sourceExtension fileName with
    | none => rfl
    | some name =>
      have hleft : ¬ registry.allowList.contains fileName = true := by
        intro hcontains
        exact hincludes ⟨⟨name, Text.beforeTail?_eq_some_iff.mp hname⟩, hcontains⟩
      have hright : ¬ other.allowList.contains fileName = true := hlist ▸ hleft
      simp only [if_neg hleft, if_neg hright]

/-- Files give the same in trees that answer the same about each of them. -/
theorem unitsOf_congr (hlist : registry.allowList = other.allowList) {fileNames : List String}
    (h : ∀ fileName ∈ fileNames, registry.Includes fileName →
      first.read fileName = second.read fileName ∧
        first.read (Catalogue.oraclePath fileName) =
          second.read (Catalogue.oraclePath fileName)) :
    registry.unitsOf first root fileNames = other.unitsOf second root fileNames := by
  induction fileNames with
  | nil => rfl
  | cons fileName fileNames ih =>
    have hhead := h fileName List.mem_cons_self
    have htail := ih fun name hmem ↦ h name (List.mem_cons_of_mem _ hmem)
    simp only [unitsOf, unitOf?_congr hlist hhead, htail]

/-- Trees that tell the same files give the same report. -/
theorem unitsIn_eq_of_tells (root : String) (hlist : registry.allowList = other.allowList)
    (hfirst : first.Tells registry map location) (hsecond : second.Tells registry map location) :
    registry.unitsIn first root = other.unitsIn second root := by
  rw [unitsIn, unitsIn, hfirst.childFiles, hsecond.childFiles, Report.bind_of_ok rfl,
    Report.bind_of_ok rfl, unitsOf_congr hlist]
  intro fileName hmem hincludes
  have hfile := FileMap.mem_childFiles_iff.mp hmem
  constructor
  · rw [hfirst.source _ hfile, hsecond.source _ hfile]
  · rw [hfirst.oracle _ hfile hincludes, hsecond.oracle _ hfile hincludes]

/-- Where a tree tells what there is, only a text that is none can fail. -/
theorem exists_notText_of_tells (h : first.Tells registry map location) {error : DiscoveryError}
    (herror : (registry.unitsIn first root).outcome = .error error) :
    ∃ path, error = .notText path := by
  cases unitsIn_outcome_eq_error_iff.mp herror with
  | listing hlisting =>
    rw [h.childFiles] at hlisting
    cases hlisting
  | @file before after fileName hfiles _ hincludes hfault =>
    have hfile : map.HasFile (location ++ [fileName]) := by
      rw [← FileMap.mem_childFiles_iff, Except.ok.inj (h.childFiles.symm.trans hfiles)]
      simp
    cases hfault with
    | source hsource =>
      cases hsource with
      | text hfault => exact ⟨_, (textFault_of_read (h.source _ hfile) hfault).1⟩
      | vanished hnone =>
        rw [h.source _ hfile, Except.ok.injEq, FileMap.content?_eq_none_iff] at hnone
        exact absurd hfile hnone
    | oracle _ hfault => exact ⟨_, (textFault_of_read (h.oracle _ hfile hincludes) hfault).1⟩

end Registry

end WastSuite
