import WastSuite.AllowList
import WastSuite.Resource.Base
import WastSuite.TestUnit

/-!
# Discovery of test units

A registry has a base, roots and an allow-list. Each root gives a unit for every file directly in it
that is named like a test source and is on the allow-list, in the order of the file names. The
expected output of a unit stands in a directory of its own below the root, and may be missing. Any
failure to open a root or to read a file that is to be included ends the whole discovery.

`unitsIn` says which units the answers of a resource tree give, whatever they come from; `load` asks
the store about one root, and `allUnits` goes through all roots. Each gives a report: the units or
the failure, with the log up to there.
-/

set_option autoImplicit false

namespace WastSuite

/-- Where tests are looked for, and which of them are exercised: the place below which the roots
are, the roots in the order in which they are searched, and the allow-list of source files. -/
structure Registry where
  base : ResourceBase
  roots : List String
  allowList : AllowList

namespace Registry

/-- The registry of a base, with the default roots and the files known to pass. -/
def ofBase (base : ResourceBase) : Registry :=
  ⟨base, Catalogue.defaultRoots, .knownGood⟩

/-- A registry with other roots. -/
def withRoots (registry : Registry) (roots : List String) : Registry :=
  { registry with roots := roots }

/-- A registry with another allow-list. -/
def withAllowList (registry : Registry) (allowList : AllowList) : Registry :=
  { registry with allowList := allowList }

/-- The path of a file below a root, as failures name it. -/
def pathIn (root relative : String) : String :=
  root ++ "/" ++ relative

/-- The text of the file at a path relative to a root, or nothing if there is none. -/
def text? (tree : ResourceTree) (root relative : String) :
    Except DiscoveryError (Option String) := do
  match ← tree.read relative with
  | none => .ok none
  | some content =>
    match String.fromUTF8? content with
    | some text => .ok (some text)
    | none => .error (.notText (pathIn root relative))

/-- The source text of a file that was listed. -/
def source (tree : ResourceTree) (root fileName : String) : Except DiscoveryError String := do
  match ← text? tree root fileName with
  | some text => .ok text
  | none => .error (.io (pathIn root fileName) .vanished)

/-- The unit of an included file. -/
def unitOf (tree : ResourceTree) (root fileName name : String) : Report TestUnit := do
  let source ← Report.ofExcept (source tree root fileName)
  let oracle? ← Report.ofExcept (text? tree root (Catalogue.oraclePath fileName))
  Report.record (.foundUnit name oracle?.isSome)
  pure (.fresh name source oracle?)

/-- The unit of a file, if it is named like a test source and on the allow-list. -/
def unitOf? (registry : Registry) (tree : ResourceTree) (root fileName : String) :
    Report (Option TestUnit) :=
  match Text.beforeTail? Catalogue.sourceExtension fileName with
  | none => pure none
  | some name =>
    if registry.allowList.contains fileName then
      some <$> unitOf tree root fileName name
    else do
      Report.record (.skippedFile root fileName)
      pure none

/-- The units of files, in the order of the files. -/
def unitsOf (registry : Registry) (tree : ResourceTree) (root : String) :
    List String → Report (List TestUnit)
  | [] => pure []
  | fileName :: fileNames => do
    let unit? ← registry.unitOf? tree root fileName
    let units ← registry.unitsOf tree root fileNames
    pure (unit?.toList ++ units)

/-- The units of a root about which the answers are known. -/
def unitsIn (registry : Registry) (tree : ResourceTree) (root : String) :
    Report (List TestUnit) := do
  let fileNames ← Report.ofExcept tree.childFiles
  registry.unitsOf tree root fileNames

/-- The units of a root. -/
def load (registry : Registry) (store : Store) (root : String) : Report (List TestUnit) := do
  let tree ← registry.base.openRoot store root
  Report.record (.loadingRoot root registry.base.path)
  let units ← registry.unitsIn (tree.answers store) root
  Report.record (.loadedRoot units.length root)
  pure units

/-- The units of roots, in the order of the roots. -/
def loadAll (registry : Registry) (store : Store) : List String → Report (List TestUnit)
  | [] => pure []
  | root :: roots => do
    let units ← registry.load store root
    let others ← registry.loadAll store roots
    pure (units ++ others)

/-- The units of all roots. A test under two roots gives two units. -/
def allUnits (registry : Registry) (store : Store) : Report (List TestUnit) :=
  registry.loadAll store registry.roots

end Registry

end WastSuite
