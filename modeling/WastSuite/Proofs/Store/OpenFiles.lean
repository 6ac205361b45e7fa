import WastSuite.Proofs.Store.EntryNames

/-!
# Contents of open files

The contents of a file stand apart from its names. Making directories and links and removing entries
change no contents at all, and writing puts a new body behind all others, unless the path leads to a
file, which is then overwritten in place (`Store.Change.Overwrites`). So a body stays what it is
under each change that does not overwrite it (`body_apply`), and so under a run of such changes
(`body_applyAll`). It never goes away (`length_bodies_apply_le`).
-/

set_option autoImplicit false

namespace WastSuite.Store

variable {store : Store} {number : Nat}

/-- A change overwrites a body in place: it is a write to a path that leads to the file with that
body, once the directories above it are made. -/
def Change.Overwrites (store : Store) (number : Nat) : Change → Prop
  | .write path _ => ∃ location, (store.makeParents path).find path = .ok (location, .file number)
  | .makeDirectory _ => False
  | .makeLink _ _ => False
  | .remove _ => False

/-- A run of changes spares a body: none of them overwrites it at its time. -/
def Spares (number : Nat) : Store → List Change → Prop
  | _, [] => True
  | store, change :: changes =>
    ¬ change.Overwrites store number ∧ Spares number (store.apply change) changes

/-! ### Changes without contents -/

theorem bodies_put (store : Store) (location : Location) (node : Node) :
    (store.put location node).bodies = store.bodies := rfl

theorem bodies_ensureDirectory (path : String) (store : Store) (steps : List Path.Step) :
    (store.ensureDirectory path steps).bodies = store.bodies := by
  unfold ensureDirectory
  split
  · split <;> rfl
  · rfl

theorem bodies_ensureDirectories (store : Store) (path : String) (steps : List Path.Step) :
    (store.ensureDirectories path steps).bodies = store.bodies := by
  unfold ensureDirectories
  generalize (List.range steps.length).map (fun count ↦ steps.take (count + 1)) = parts
  induction parts generalizing store with
  | nil => rfl
  | cons first parts ih =>
    rw [List.foldl_cons, ih]
    exact bodies_ensureDirectory path store first

theorem bodies_makeParents (store : Store) (path : String) :
    (store.makeParents path).bodies = store.bodies :=
  bodies_ensureDirectories store path _

theorem bodies_makeLink (store : Store) (path target : String) :
    (store.makeLink path target).bodies = store.bodies := by
  have hparents := bodies_makeParents store path
  unfold makeLink
  dsimp only
  split
  · split
    · rw [bodies_put, hparents]
    · rw [hparents]
  · rw [hparents]

theorem bodies_remove (store : Store) (path : String) :
    (store.remove path).bodies = store.bodies := by
  unfold remove
  split
  · rfl
  · unfold removeDirectory
    split
    · split
      · split <;> rfl
      · rfl
    · rfl

/-! ### Contents -/

/-- What writing comes to: another file, other contents of one that is there, or nothing but the
directories above it. -/
theorem write_cases (store : Store) (path : String) (content : ByteArray) :
    (∃ location, store.write path content = (store.makeParents path).putFile location content) ∨
      (∃ location number, (store.makeParents path).find path = .ok (location, .file number) ∧
        store.write path content = (store.makeParents path).overwrite number content) ∨
      store.write path content = store.makeParents path := by
  unfold write
  dsimp only
  cases hlocate : (store.makeParents path).locate path with
  | error fault => exact Or.inr (Or.inr rfl)
  | ok location =>
    dsimp only
    cases hnode : (store.makeParents path).node? location with
    | none => exact Or.inl ⟨location, rfl⟩
    | some node =>
      cases node with
      | directory => exact Or.inr (Or.inr rfl)
      | link target => exact Or.inr (Or.inr rfl)
      | file number =>
        exact Or.inr (Or.inl ⟨location, number, find_eq_ok_iff.mpr ⟨hlocate, hnode⟩, rfl⟩)

/-- A body that is there keeps its place under each change. -/
theorem length_bodies_apply_le (store : Store) (change : Change) :
    store.bodies.length ≤ (store.apply change).bodies.length := by
  cases change with
  | makeDirectory path =>
    exact Nat.le_of_eq (by rw [apply, makeDirectory, bodies_ensureDirectories])
  | makeLink path target => exact Nat.le_of_eq (by rw [apply, bodies_makeLink])
  | remove path => exact Nat.le_of_eq (by rw [apply, bodies_remove])
  | write path content =>
    rw [apply, ← bodies_makeParents store path]
    rcases write_cases store path content with
      ⟨location, hwrite⟩ | ⟨location, number, -, hwrite⟩ | hwrite
    · simp [hwrite, putFile]
    · simp [hwrite, overwrite]
    · simp [hwrite]

/-- A body stays what it is under a change that does not overwrite it. Assumes: there is such a
body. -/
theorem body_apply (hlt : number < store.bodies.length) {change : Change}
    (h : ¬ change.Overwrites store number) :
    (store.apply change).body number = store.body number := by
  cases change with
  | makeDirectory path => rw [body, body, apply, makeDirectory, bodies_ensureDirectories]
  | makeLink path target => rw [body, body, apply, bodies_makeLink]
  | remove path => rw [body, body, apply, bodies_remove]
  | write path content =>
    have hparents := bodies_makeParents store path
    rw [body, body, apply, ← hparents]
    rcases write_cases store path content with
      ⟨location, hwrite⟩ | ⟨location, other, hfind, hwrite⟩ | hwrite
    · rw [hwrite]
      have hbefore : number < (store.makeParents path).bodies.length := by rwa [hparents]
      simp only [putFile, List.getElem?_append_left hbefore]
    · have hother : other ≠ number := by
        rintro rfl
        exact h ⟨location, hfind⟩
      rw [hwrite]
      simp only [overwrite, List.getElem?_set_ne hother]
    · rw [hwrite]

theorem length_bodies_applyAll_le (store : Store) (changes : List Change) :
    store.bodies.length ≤ (store.applyAll changes).bodies.length := by
  induction changes generalizing store with
  | nil => exact Nat.le_refl _
  | cons change changes ih =>
    exact Nat.le_trans (length_bodies_apply_le store change) (ih (store.apply change))

/-- A run of changes in two parts spares a body if the first part does and then the second. -/
theorem spares_append {first second : List Change} :
    Spares number store (first ++ second) ↔
      Spares number store first ∧ Spares number (store.applyAll first) second := by
  induction first generalizing store with
  | nil => exact (and_iff_right trivial).symm
  | cons change first ih =>
    rw [List.cons_append, Spares, Spares, ih, and_assoc]
    rfl

/-- A body stays what it is under a run of changes that spares it. Assumes: there is such a body. -/
theorem body_applyAll (hlt : number < store.bodies.length) {changes : List Change}
    (h : Spares number store changes) :
    (store.applyAll changes).body number = store.body number := by
  induction changes generalizing store with
  | nil => rfl
  | cons change changes ih =>
    have hnext : number < (store.apply change).bodies.length :=
      Nat.lt_of_lt_of_le hlt (length_bodies_apply_le store change)
    rw [applyAll, List.foldl_cons, ← body_apply hlt h.1]
    exact ih hnext h.2

end WastSuite.Store
