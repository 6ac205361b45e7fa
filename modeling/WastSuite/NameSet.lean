/-!
# Sets of names

A finite set of names, kept as the strictly increasing list of its members. So a set has one form:
equality of sets is equality of lists, and the size is the length. Main statements: a name is in
`ofList names` exactly if it is in `names` (`mem_ofList`), in a set grown by a name exactly if it is
that name or was there (`mem_insert`), and sets with the same members are equal (`eq_of_mem_iff`).
-/

set_option autoImplicit false

namespace WastSuite

/-- A finite set of names, by its members in increasing order. -/
structure NameSet where
  names : List String
  ordered : names.Pairwise (· < ·)
  deriving DecidableEq

namespace NameSet

instance : Membership String NameSet := ⟨fun set name ↦ name ∈ set.names⟩

instance (name : String) (set : NameSet) : Decidable (name ∈ set) :=
  inferInstanceAs (Decidable (name ∈ set.names))

/-- Membership is membership in the list of members. -/
theorem mem_def {name : String} {set : NameSet} : name ∈ set ↔ name ∈ set.names := Iff.rfl

/-- Puts a name into an increasing list, unless it is there. -/
def place (name : String) : List String → List String
  | [] => [name]
  | head :: rest =>
    if name < head then name :: head :: rest
    else if name = head then head :: rest
    else head :: place name rest

/-- Placing adds one name and loses none. -/
theorem mem_place {name other : String} {names : List String} :
    other ∈ place name names ↔ other = name ∨ other ∈ names := by
  induction names with
  | nil => simp [place]
  | cons head rest ih =>
    unfold place
    split
    · simp
    · split
      · rename_i _ heq
        simp [heq]
      · simp only [List.mem_cons, ih]
        exact or_left_comm

/-- Placing keeps a list increasing. -/
theorem pairwise_place {name : String} {names : List String} (h : names.Pairwise (· < ·)) :
    (place name names).Pairwise (· < ·) := by
  induction names with
  | nil => simp [place]
  | cons head rest ih =>
    obtain ⟨hhead, hrest⟩ := List.pairwise_cons.mp h
    unfold place
    split
    · rename_i hless
      refine List.pairwise_cons.mpr ⟨fun other hother ↦ ?_, h⟩
      rcases List.mem_cons.mp hother with rfl | hother
      · exact hless
      · exact String.lt_trans hless (hhead other hother)
    · split
      · exact h
      · rename_i hless hne
        refine List.pairwise_cons.mpr ⟨fun other hother ↦ ?_, ih hrest⟩
        rcases mem_place.mp hother with rfl | hother
        · apply Decidable.byContradiction
          intro hnot
          exact hne (String.le_antisymm (String.not_lt.mp hnot) (String.not_lt.mp hless))
        · exact hhead other hother

/-- The set without members. -/
def empty : NameSet := ⟨[], List.Pairwise.nil⟩

/-- A set with one more name. -/
def insert (name : String) (set : NameSet) : NameSet :=
  ⟨place name set.names, pairwise_place set.ordered⟩

/-- The set of the names in a list. -/
def ofList (names : List String) : NameSet :=
  names.foldr insert empty

/-- The number of members. -/
def size (set : NameSet) : Nat :=
  set.names.length

/-- A set grown by a name holds that name and what it held. -/
theorem mem_insert {name other : String} {set : NameSet} :
    other ∈ set.insert name ↔ other = name ∨ other ∈ set :=
  mem_place

/-- The set of the names in a list holds exactly those names. -/
theorem mem_ofList {name : String} {names : List String} : name ∈ ofList names ↔ name ∈ names := by
  induction names with
  | nil => simp [ofList, empty, mem_def]
  | cons head rest ih =>
    rw [show ofList (head :: rest) = (ofList rest).insert head from rfl, mem_insert, ih,
      List.mem_cons]

/-- Sets with the same members are equal. -/
theorem eq_of_mem_iff {first second : NameSet} (h : ∀ name, name ∈ first ↔ name ∈ second) :
    first = second := by
  obtain ⟨names, hnames⟩ := first
  obtain ⟨others, hothers⟩ := second
  have hperm : names.Perm others :=
    (List.perm_ext_iff_of_nodup (hnames.imp String.ne_of_lt) (hothers.imp String.ne_of_lt)).mpr h
  have hsame := hperm.eq_of_pairwise (fun _ _ _ _ hless hmore ↦
    absurd hmore (String.lt_asymm hless)) hnames hothers
  subst hsame
  rfl

end NameSet

end WastSuite
