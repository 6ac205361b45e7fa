import Mathlib.Data.Finset.Card
import WastSuite.AllowList

/-!
# Sets of names in allow-lists

A set of names is told by its members: sets made of two lists are equal exactly if the lists have
the same names in them, in whatever order and however often (`NameSet.ofList_eq_iff`), and the size
of a set counts the different ones (`NameSet.size_ofList`). So two lists together give at most the
sizes of both, and just these if they share no name (`NameSet.size_ofList_append`).

Main statement: all of this of allow-lists that are made of names, and that the list of the files
known to pass is none of these though it contains the same names as one (`ofNames_as_set`).
-/

set_option autoImplicit false

namespace WastSuite

namespace NameSet

variable {names others : List String}

/-- Sets made of two lists are equal exactly if the lists have the same names in them. -/
theorem ofList_eq_iff : ofList names = ofList others ↔ ∀ name, name ∈ names ↔ name ∈ others := by
  constructor
  · intro h name
    rw [← mem_ofList, h, mem_ofList]
  · intro h
    refine eq_of_mem_iff fun name ↦ ?_
    rw [mem_ofList, mem_ofList]
    exact h name

/-- A set has as many members as the list it was made of has different names. -/
theorem size_ofList (names : List String) : (ofList names).size = names.toFinset.card := by
  have hnodup : (ofList names).names.Nodup := (ordered _).imp String.ne_of_lt
  have hsame : (ofList names).names.toFinset = names.toFinset := by
    ext name
    rw [List.mem_toFinset, List.mem_toFinset, ← mem_def, mem_ofList]
  rw [size, ← hsame, List.toFinset_card_of_nodup hnodup]

/-- The set of two lists together is no larger than both sets, and as large exactly if the lists
share no name. -/
theorem size_ofList_append (names others : List String) :
    (ofList (names ++ others)).size ≤ (ofList names).size + (ofList others).size ∧
      ((ofList (names ++ others)).size = (ofList names).size + (ofList others).size ↔
        names.Disjoint others) := by
  simp only [size_ofList, List.toFinset_append, Finset.card_union_eq_card_add_card,
    List.disjoint_toFinset_iff_disjoint, and_true]
  exact Finset.card_union_le _ _

/-- A set is as large as the empty set only if it is made of no names. -/
theorem size_ofList_eq_zero_iff : (ofList names).size = 0 ↔ names = [] := by
  rw [size_ofList, Finset.card_eq_zero, List.toFinset_eq_empty_iff]

end NameSet

namespace AllowList

/-- Allow-lists made of names are equal exactly if the same names were given. -/
theorem ofNames_beq_iff {names others : List String} :
    (ofNames names == ofNames others) = true ↔ ∀ name, name ∈ names ↔ name ∈ others := by
  rw [beq_iff_eq, ofNames, ofNames, custom.injEq, NameSet.ofList_eq_iff]

theorem size_knownGood_eq : knownGood.size = (ofNames Catalogue.knownGood).size := by
  rw [ofNames, size, size, NameSet.size_ofList,
    List.toFinset_card_of_nodup Catalogue.knownGood_nodup]

/-- Allow-lists made of names are sets. Two of them are equal exactly if the same names were given,
and exactly if they contain the same names; the list of both together is no larger than the two, and
as large exactly if they share no name. Such a list contains the given names and no other, its size
is how many different ones there are, and it is empty exactly if none were given. Equality of
allow-lists is an equivalence. The list of the files known to pass equals none but itself, though
the list made of their names contains the same names and is as large. -/
theorem ofNames_as_set :
    (∀ names others,
      ((ofNames names == ofNames others) = true ↔ ∀ name, name ∈ names ↔ name ∈ others) ∧
      ((ofNames names == ofNames others) = true ↔
        ∀ name, (ofNames names).contains name = (ofNames others).contains name) ∧
      (ofNames (names ++ others)).size ≤ (ofNames names).size + (ofNames others).size ∧
      ((ofNames (names ++ others)).size = (ofNames names).size + (ofNames others).size ↔
        names.Disjoint others)) ∧
    (∀ names,
      (∀ name, (ofNames names).contains name = true ↔ name ∈ names) ∧
      (ofNames names).size = names.toFinset.card ∧
      ((ofNames names).isEmpty = true ↔ names = [])) ∧
    Equivalence (fun first second : AllowList ↦ (first == second) = true) ∧
    (∀ list, (knownGood == list) = true ↔ list = knownGood) ∧
    (knownGood == ofNames Catalogue.knownGood) = false ∧
    (∀ name, knownGood.contains name = (ofNames Catalogue.knownGood).contains name) ∧
    knownGood.size = (ofNames Catalogue.knownGood).size := by
  refine ⟨fun names others ↦ ⟨ofNames_beq_iff, ?_, NameSet.size_ofList_append names others⟩,
    fun names ↦ ⟨fun name ↦ contains_ofNames, NameSet.size_ofList names, ?_⟩,
    ⟨fun list ↦ beq_self_eq_true list, BEq.symm, BEq.trans⟩, fun list ↦ ?_, rfl,
    contains_knownGood, size_knownGood_eq⟩
  · rw [ofNames_beq_iff]
    refine forall_congr' fun name ↦ ?_
    rw [Bool.eq_iff_iff, contains_ofNames, contains_ofNames]
  · rw [isEmpty, beq_iff_eq]
    exact NameSet.size_ofList_eq_zero_iff
  · rw [beq_iff_eq, eq_comm]

end AllowList

end WastSuite
