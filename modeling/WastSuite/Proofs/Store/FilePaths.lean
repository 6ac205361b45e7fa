import WastSuite.Proofs.Store.Walk

/-!
# Paths to files

A walk that starts in a directory stays in directories until it ends: what it enters on the way is a
directory, and so is what stands above. So a walk that leads to a file ends by entering a name, with
nothing behind it that stays or goes up (`getLast?_of_walk`), and so does every path to a file
(`getLast?_steps_of_find`).

This asks that the working directory is no file or link, and nothing above it either
(`Store.DirectoriesOnly`): a walk that starts at a file could end there without any move.
-/

set_option autoImplicit false

namespace WastSuite.Store

/-- Nothing but directories stands at a location or above it. -/
def DirectoriesOnly (store : Store) (location : Location) : Prop :=
  ∀ above, above <+: location → ∀ node, store.node? above = some node → node = .directory

namespace DirectoriesOnly

variable {store : Store} {location : Location} {name : String}

/-- The top is always a directory. -/
theorem nil (store : Store) : store.DirectoriesOnly [] := by
  intro above habove node hnode
  rw [List.prefix_nil.mp habove] at hnode
  exact (Option.some.inj hnode).symm

theorem dropLast (h : store.DirectoriesOnly location) :
    store.DirectoriesOnly location.dropLast :=
  fun above habove ↦ h above (habove.trans (List.dropLast_prefix location))

/-- A directory below is one more. -/
theorem append_singleton (h : store.DirectoriesOnly location)
    (hnode : store.node? (location ++ [name]) = some .directory) :
    store.DirectoriesOnly (location ++ [name]) := by
  intro above habove node hfound
  rcases List.prefix_concat_iff.mp habove with rfl | habove
  · exact Option.some.inj (hfound.symm.trans hnode)
  · exact h above habove node hfound

end DirectoriesOnly

variable {store : Store} {here there : Location} {steps : List Path.Step} {number : Nat}

/-- More moves in front do not change how moves end. -/
theorem getLast?_cons_of_enter {step : Path.Step}
    (h : ∃ name, steps.getLast? = some (.enter name)) :
    ∃ name, (step :: steps).getLast? = some (.enter name) := by
  obtain ⟨name, hlast⟩ := h
  exact ⟨name, by simp [List.getLast?_cons, hlast]⟩

/-- A walk to a file ends by entering a name. Assumes: so do the walks that go on behind a link. -/
theorem getLast?_of_walkWith {follow : Location → List Path.Step → Except StoreFault Location}
    (hfollow : ∀ here steps, store.DirectoriesOnly here → follow here steps = .ok there →
      ∃ name, steps.getLast? = some (.enter name))
    (hfile : store.node? there = some (.file number)) (hhere : store.DirectoriesOnly here)
    (h : walkWith store follow here steps = .ok there) :
    ∃ name, steps.getLast? = some (.enter name) := by
  induction steps generalizing here with
  | nil =>
    obtain rfl := Except.ok.inj h
    cases hhere _ List.prefix_rfl _ hfile
  | cons step steps ih =>
    cases step with
    | stay => exact getLast?_cons_of_enter (ih hhere h)
    | up => exact getLast?_cons_of_enter (ih hhere.dropLast h)
    | enter name =>
      by_cases hend : steps = []
      · exact ⟨name, by rw [hend]; rfl⟩
      by_cases hname : name.utf8ByteSize ≤ nameLimit
      · refine getLast?_cons_of_enter ?_
        cases hnode : store.node? (here ++ [name]) with
        | none =>
          rw [walkWith_enter_of_none hname hnode, if_neg hend] at h
          cases h
        | some node =>
          cases node with
          | directory =>
            rw [walkWith_enter_of_directory hname hnode] at h
            exact ih (hhere.append_singleton hnode) h
          | file body =>
            rw [walkWith_enter_of_file hname hnode, if_neg hend] at h
            cases h
          | link target =>
            rw [walkWith_enter_of_link hname hnode] at h
            have hstart : store.DirectoriesOnly (if Path.isAbsolute target then [] else here) := by
              split_ifs
              · exact .nil store
              · exact hhere
            -- the moves of the target come first, so the walk behind the link ends as `steps` does
            obtain ⟨last, hlast⟩ := hfollow _ _ hstart h
            rw [List.getLast?_append_of_ne_nil _ hend] at hlast
            exact ⟨last, hlast⟩
      · rw [walkWith_enter_of_long (Nat.lt_of_not_le hname)] at h
        cases h

theorem getLast?_of_walk {links : Nat} (hfile : store.node? there = some (.file number))
    (hhere : store.DirectoriesOnly here) (h : store.walk links here steps = .ok there) :
    ∃ name, steps.getLast? = some (.enter name) := by
  induction links generalizing here steps with
  | zero =>
    refine getLast?_of_walkWith (fun here steps _ hfail ↦ ?_) hfile hhere h
    cases hfail
  | succ links ih =>
    exact getLast?_of_walkWith (fun here steps hstart hwalk ↦ ih hstart hwalk) hfile hhere h

/-- A path to a file ends with the name that it enters last. Assumes: nothing but directories stands
at the working directory and above it. -/
theorem getLast?_steps_of_find {path : String} (hworking : store.DirectoriesOnly store.working)
    (h : store.find path = .ok (there, .file number)) :
    ∃ name, (Path.steps path).getLast? = some (.enter name) := by
  obtain ⟨hwalk, hfile⟩ := find_eq_ok_iff.mp h
  rw [locate_eq_walk (checkPath_of_find h)] at hwalk
  refine getLast?_of_walk hfile ?_ hwalk
  unfold start
  split_ifs
  · exact .nil store
  · exact hworking

end WastSuite.Store
