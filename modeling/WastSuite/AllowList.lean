import WastSuite.Catalogue
import WastSuite.Json.Strings
import WastSuite.NameSet
import WastSuite.Resource.Error

/-!
# Allow-lists

An allow-list says which source files are exercised, by whole file name. It is the catalogue's list
of files known to pass or a set of names, and the two are never equal, whatever names the set
holds. A set can be given as names (`ofNames`) or as a JSON array of strings (`ofJson`).
-/

set_option autoImplicit false

namespace WastSuite

/-- The source files that are exercised: those known to pass, or those in a set of names. -/
inductive AllowList where
  | knownGood
  | custom (names : NameSet)
  deriving DecidableEq

namespace AllowList

instance : Inhabited AllowList := ⟨.knownGood⟩

/-- The allow-list with the given names, in any order and with any repetitions. -/
def ofNames (names : List String) : AllowList :=
  .custom (.ofList names)

/-- The allow-list that a JSON array of strings gives. -/
def ofJson (text : String) : Except DiscoveryError AllowList :=
  match Json.readStrings text with
  | .ok names => .ok (ofNames names)
  | .error fault => .error (.allowList (fault.within text))

/-- Whether a file name is on the list as a whole. -/
def contains (list : AllowList) (fileName : String) : Bool :=
  match list with
  | .knownGood => Catalogue.isKnownGood fileName
  | .custom names => decide (fileName ∈ names)

/-- The number of names on the list. -/
def size : AllowList → Nat
  | .knownGood => Catalogue.knownGood.length
  | .custom names => names.size

/-- Whether no name is on the list. -/
def isEmpty (list : AllowList) : Bool :=
  list.size == 0

/-- A list of given names contains exactly those names. -/
theorem contains_ofNames {names : List String} {fileName : String} :
    (ofNames names).contains fileName = true ↔ fileName ∈ names := by
  simp [contains, ofNames, NameSet.mem_ofList]

/-- The list of the files known to pass contains what the set of the same names does. -/
theorem contains_knownGood (fileName : String) :
    knownGood.contains fileName = (ofNames Catalogue.knownGood).contains fileName := by
  rw [Bool.eq_iff_iff, contains_ofNames]
  exact List.contains_iff_mem

end AllowList

end WastSuite
