import WastSuite.Proofs.Store.Walk
import WastSuite.Store.Change

/-!
# The names of entries

A path is cut at its slashes, so no name that it enters has one (`Path.slash_notMem_of_enter`). A
walk only ever adds such names to where it starts, those of link targets included
(`Store.plain_of_locate`), and a change of the store only puts a node where a walk has led. So no
entry ever gets a name with a slash in it: this holds of a store (`Store.PlainNames`) after each
single change (`plainNames_apply`) and after any run of changes (`plainNames_applyAll`).
-/

set_option autoImplicit false

namespace WastSuite

/-- No name on the way to a location has a slash. -/
def Location.Plain (location : Location) : Prop :=
  ∀ name ∈ location, '/' ∉ name.toList

instance : DecidablePred Location.Plain := fun location ↦
  inferInstanceAs (Decidable (∀ name ∈ location, '/' ∉ name.toList))

namespace Location.Plain

variable {location : Location} {name : String}

theorem append_singleton (h : location.Plain) (hname : '/' ∉ name.toList) :
    Plain (location ++ [name]) := by
  intro other hmem
  rcases List.mem_append.mp hmem with hmem | hmem
  · exact h other hmem
  · rwa [List.mem_singleton.mp hmem]

theorem dropLast (h : location.Plain) : Plain location.dropLast :=
  fun name hmem ↦ h name (List.dropLast_subset _ hmem)

end Location.Plain

namespace Path

/-- No text between slashes has a slash. -/
theorem slash_notMem_of_mem_segments {text segment : List Char} (h : segment ∈ segments text) :
    '/' ∉ segment := by
  induction text generalizing segment with
  | nil => simp_all [segments]
  | cons c text ih =>
    by_cases hslash : c = '/'
    · simp only [segments, if_pos hslash, List.mem_cons] at h
      rcases h with rfl | h
      · simp
      · exact ih h
    · obtain ⟨head, tail, hsplit⟩ := List.exists_cons_of_ne_nil (segments_ne_nil text)
      simp only [segments, if_neg hslash, hsplit, List.mem_cons] at h
      rcases h with rfl | h
      · have hhead : '/' ∉ head := ih (by simp [hsplit])
        simp [Ne.symm hslash, hhead]
      · exact ih (by simp [hsplit, h])

/-- All names that some moves enter are without slashes. -/
def PlainSteps (steps : List Step) : Prop :=
  ∀ name, .enter name ∈ steps → '/' ∉ name.toList

/-- No name that a path enters has a slash. -/
theorem slash_notMem_of_enter (path : String) : PlainSteps (steps path) := by
  intro name hmem
  rw [steps_eq, List.mem_append] at hmem
  rcases hmem with hmem | hmem
  · obtain ⟨segment, hsegment, hstep⟩ := List.mem_filterMap.mp hmem
    unfold step? at hstep
    split_ifs at hstep
    · cases hstep
    · cases hstep
    · cases hstep
      rw [String.toList_ofList]
      exact slash_notMem_of_mem_segments hsegment
  · split_ifs at hmem
    · simp at hmem
    · simp at hmem

end Path

namespace Store

variable {store : Store} {here there : Location} {steps : List Path.Step}

/-! ### Walks -/

/-- A walk leads to a location without slashes. Assumes: so do the walks that go on behind a link,
and neither the start nor the moves have one. -/
theorem plain_of_walkWith {follow : Location → List Path.Step → Except StoreFault Location}
    (hfollow : ∀ here steps, here.Plain → Path.PlainSteps steps → ∀ there,
      follow here steps = .ok there → there.Plain)
    (hhere : here.Plain) (hsteps : Path.PlainSteps steps)
    (h : walkWith store follow here steps = .ok there) : there.Plain := by
  induction steps generalizing here with
  | nil => rwa [← Except.ok.inj h]
  | cons step steps ih =>
    have hrest : Path.PlainSteps steps :=
      fun name hmem ↦ hsteps name (List.mem_cons_of_mem _ hmem)
    cases step with
    | stay => exact ih hhere hrest h
    | up => exact ih hhere.dropLast hrest h
    | enter name =>
      have hname : '/' ∉ name.toList := hsteps name List.mem_cons_self
      have hnext : Location.Plain (here ++ [name]) := hhere.append_singleton hname
      by_cases hsize : name.utf8ByteSize ≤ nameLimit
      · cases hnode : store.node? (here ++ [name]) with
        | none =>
          rw [walkWith_enter_of_none hsize hnode] at h
          split_ifs at h
          rwa [← Except.ok.inj h]
        | some node =>
          cases node with
          | directory =>
            rw [walkWith_enter_of_directory hsize hnode] at h
            exact ih hnext hrest h
          | file body =>
            rw [walkWith_enter_of_file hsize hnode] at h
            split_ifs at h
            rwa [← Except.ok.inj h]
          | link target =>
            rw [walkWith_enter_of_link hsize hnode] at h
            refine hfollow _ _ ?_ ?_ _ h
            · split_ifs
              · simp [Location.Plain]
              · exact hhere
            · intro other hmem
              rcases List.mem_append.mp hmem with hmem | hmem
              · exact Path.slash_notMem_of_enter target other hmem
              · exact hrest other hmem
      · rw [walkWith_enter_of_long (Nat.lt_of_not_le hsize)] at h
        cases h

theorem plain_of_walk {links : Nat} (hhere : here.Plain) (hsteps : Path.PlainSteps steps)
    (h : store.walk links here steps = .ok there) : there.Plain := by
  induction links generalizing here steps there with
  | zero => exact plain_of_walkWith (fun _ _ _ _ _ h ↦ by cases h) hhere hsteps h
  | succ links ih =>
    exact plain_of_walkWith (fun _ _ hhere hsteps _ h ↦ ih hhere hsteps h) hhere hsteps h

/-! ### Changes -/

/-- No entry of a store has a slash in its name, nor has the way to the working directory. -/
structure PlainNames (store : Store) : Prop where
  node : ∀ entry ∈ store.nodes, entry.1.Plain
  working : store.working.Plain

/-- Something that is done to a store: a file is written, a directory or a link is made, or what is
at a path is removed. -/
inductive Change where
  | write (path : String) (content : ByteArray)
  | makeDirectory (path : String)
  | makeLink (path target : String)
  | remove (path : String)

/-- The store after a change. -/
def apply (store : Store) : Change → Store
  | .write path content => store.write path content
  | .makeDirectory path => store.makeDirectory path
  | .makeLink path target => store.makeLink path target
  | .remove path => store.remove path

/-- The store after a run of changes, the first of them done first. -/
def applyAll (store : Store) (changes : List Change) : Store :=
  changes.foldl apply store

variable {location : Location} {path : String}

theorem plain_start (h : store.PlainNames) (path : String) : (store.start path).Plain := by
  unfold start
  split_ifs
  · simp [Location.Plain]
  · exact h.working

/-- A path leads to a location without slashes. -/
theorem plain_of_locate (h : store.PlainNames) (hlocate : store.locate path = .ok location) :
    location.Plain := by
  obtain ⟨⟨⟩, -, hwalk⟩ := Fallible.bind_eq_ok_iff.mp hlocate
  exact plain_of_walk (plain_start h path) (Path.slash_notMem_of_enter path) hwalk

/-- The last name of some moves is at a location without slashes. -/
theorem plain_of_entryAt (h : store.PlainNames) (hsteps : Path.PlainSteps steps)
    (hentry : store.entryAt path steps = .ok location) : location.Plain := by
  obtain ⟨above, habove, hlast⟩ := Fallible.bind_eq_ok_iff.mp hentry
  have hplain : above.Plain := plain_of_walk (plain_start h path)
    (fun name hmem ↦ hsteps name (List.dropLast_subset _ hmem)) habove
  split at hlast
  · rename_i name hname _
    split_ifs at hlast
    rw [← Except.ok.inj hlast]
    exact hplain.append_singleton (hsteps name (List.mem_of_getLast? hname))
  · cases hlast

namespace PlainNames

variable (h : store.PlainNames)

include h

theorem put (hlocation : location.Plain) (node : Node) : (store.put location node).PlainNames := by
  refine ⟨fun entry hmem ↦ ?_, h.working⟩
  rcases List.mem_append.mp hmem with hmem | hmem
  · exact h.node entry (List.mem_of_mem_filter hmem)
  · rwa [List.mem_singleton.mp hmem]

theorem putFile (hlocation : location.Plain) (content : ByteArray) :
    (store.putFile location content).PlainNames :=
  ⟨(h.put hlocation _).node, h.working⟩

theorem overwrite (number : Nat) (content : ByteArray) :
    (store.overwrite number content).PlainNames :=
  ⟨h.node, h.working⟩

theorem cut (location : Location) : (store.cut location).PlainNames :=
  ⟨fun entry hmem ↦ h.node entry (List.mem_of_mem_filter hmem), h.working⟩

theorem clear (location : Location) : (store.clear location).PlainNames :=
  ⟨fun entry hmem ↦ h.node entry (List.mem_of_mem_filter hmem), h.working⟩

theorem ensureDirectory (hsteps : Path.PlainSteps steps) :
    (store.ensureDirectory path steps).PlainNames := by
  unfold Store.ensureDirectory
  split
  · rename_i location hentry
    split
    · exact h.put (plain_of_entryAt h hsteps hentry) _
    · exact h
  · exact h

theorem ensureDirectories (hsteps : Path.PlainSteps steps) :
    (store.ensureDirectories path steps).PlainNames := by
  have hall : ∀ first ∈ (List.range steps.length).map fun count ↦ steps.take (count + 1),
      Path.PlainSteps first := by
    intro first hmem
    obtain ⟨count, -, rfl⟩ := List.mem_map.mp hmem
    exact fun name hname ↦ hsteps name (List.mem_of_mem_take hname)
  unfold Store.ensureDirectories
  generalize (List.range steps.length).map (fun count ↦ steps.take (count + 1)) = parts at hall
  induction parts generalizing store with
  | nil => exact h
  | cons first parts ih =>
    have hfirst : (store.ensureDirectory path first).PlainNames :=
      h.ensureDirectory (hall first List.mem_cons_self)
    exact ih hfirst fun other hmem ↦ hall other (List.mem_cons_of_mem _ hmem)

theorem makeParents (path : String) : (store.makeParents path).PlainNames := by
  refine h.ensureDirectories fun name hmem ↦ ?_
  exact Path.slash_notMem_of_enter path name
    (List.mem_of_mem_filter (List.dropLast_subset _ hmem))

theorem removeDirectory (path : String) : (store.removeDirectory path).PlainNames := by
  unfold Store.removeDirectory
  split
  · split
    · split_ifs
      · exact h.cut _
      · exact h.clear _
    · exact h.clear _
  · exact h

end PlainNames

/-- A change gives no entry a name with a slash. -/
theorem plainNames_apply (h : store.PlainNames) (change : Change) :
    (store.apply change).PlainNames := by
  cases change with
  | makeDirectory path =>
    exact h.ensureDirectories fun name hmem ↦
      Path.slash_notMem_of_enter path name (List.mem_of_mem_filter hmem)
  | write path content =>
    have hparents := h.makeParents path
    simp only [apply, write]
    generalize store.makeParents path = parents at hparents
    split
    · rename_i location hlocate
      split
      · exact hparents.putFile (plain_of_locate hparents hlocate) content
      · exact hparents.overwrite _ content
      · exact hparents
    · exact hparents
  | makeLink path target =>
    have hparents := h.makeParents path
    simp only [apply, makeLink]
    generalize store.makeParents path = parents at hparents
    split
    · rename_i location _ hentry
      obtain ⟨⟨⟩, -, hentry⟩ := Fallible.bind_eq_ok_iff.mp hentry
      split
      · exact hparents.put
          (plain_of_entryAt hparents (Path.slash_notMem_of_enter path) hentry) _
      · exact hparents
    · exact hparents
  | remove path =>
    simp only [apply, remove]
    split
    · exact h.cut _
    · exact h.removeDirectory path

/-- No run of changes gives an entry a name with a slash. -/
theorem plainNames_applyAll (h : store.PlainNames) (changes : List Change) :
    (store.applyAll changes).PlainNames := by
  induction changes generalizing store with
  | nil => exact h
  | cons change changes ih => exact ih (plainNames_apply h change)

/-- A name that is listed has no slash. -/
theorem PlainNames.slash_notMem_of_mem_names (h : store.PlainNames) {name : String}
    (hmem : name ∈ store.names location) : '/' ∉ name.toList := by
  obtain ⟨⟨there, node⟩, hentry, hname⟩ :=
    List.mem_filterMap.mp (List.mem_eraseDups.mp hmem)
  obtain rfl := childName?_eq_some_iff.mp hname
  exact h.node _ hentry name (by simp)

end Store

end WastSuite
