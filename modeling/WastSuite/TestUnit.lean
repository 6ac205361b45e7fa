import WastSuite.Catalogue
import WastSuite.Failure
import WastSuite.Log
import WastSuite.Text.Cut
import WastSuite.Tolerance

/-!
# Test units

A unit is one test source with its name, its expected output if it has one, and what was derived
from it so far. Whether it must fail and how many memory pages it may use depend on the name alone.

The forest and the script are derived by collaborators that the caller brings, a reader and a
converter, which act in any monad with a log. A derivation asks its collaborator the first time and
keeps the answer in the unit, a failure like a success; from then on every call gets that answer,
whatever collaborator it brings. The script asks for the forest first, and a unit whose source does
not parse never reaches a converter. Main statements: a unit that has derived its forest answers
from memory and does nothing else (`forest_of_memo`), and so for the script (`script_of_memo`).
-/

set_option autoImplicit false

namespace WastSuite

/-- Makes a forest of a source text, or says where and why not. -/
abbrev Reader (m : Type → Type) := String → m (Except ParseFailure (List SExpr))

/-- Makes a script of a forest, given as one list, or says why not. -/
abbrev Converter (m : Type → Type) := SExpr → m (Except String Script)

/-- One test source and what was derived from it: the file name without its extension, the source
text, the expected output if there is one, and the answers of the reader and about the script, once
they were asked for. -/
structure TestUnit where
  name : String
  source : String
  oracle? : Option String
  forestMemo? : Option (Except DerivationError (List SExpr))
  scriptMemo? : Option (Except DerivationError Script)

namespace TestUnit

/-- A unit from which nothing was derived yet. -/
def fresh (name source : String) (oracle? : Option String) : TestUnit :=
  ⟨name, source, oracle?, none, none⟩

/-- Whether the script of the unit as a whole must fail, which its name tells. -/
def mustFail (unit : TestUnit) : Bool :=
  (Text.beforeTail? Catalogue.failEnding unit.name).isSome

/-- The memory pages that the unit may use, which its name tells. -/
def maxPages (unit : TestUnit) : Nat :=
  Catalogue.maxPages unit.name

/-- How the unit is shown. -/
def display (unit : TestUnit) : String :=
  s!"Spec unit: {unit.name}"

/-- Whether a failure of the unit is a warning and no error. -/
def tolerates (unit : TestUnit) (failure : RunFailure) : Bool :=
  isTolerated unit.name failure

section Derivation

variable {m : Type → Type} [Monad m] [Journal m]

/-- The top-level expressions of the source, and the unit that remembers them. -/
def forest (unit : TestUnit) (reader : Reader m) :
    m (Except DerivationError (List SExpr) × TestUnit) :=
  match unit.forestMemo? with
  | some answer => pure (answer, unit)
  | none => do
    Journal.record (.parsing unit.name)
    let reply ← reader unit.source
    let answer := reply.mapError fun failure ↦ failure.ofTest unit.name
    pure (answer, { unit with forestMemo? := some answer })

/-- What the converter makes of a forest, as an answer about the unit. -/
def convert (unit : TestUnit) (converter : Converter m)
    (forest : Except DerivationError (List SExpr)) : m (Except DerivationError Script) :=
  match forest with
  | .error error => pure (.error error)
  | .ok forms => do
    Journal.record (.converting unit.name)
    let reply ← converter (.list forms)
    pure (reply.mapError fun reason ↦ .convert unit.name reason)

/-- The script of the source, and the unit that remembers it. -/
def script (unit : TestUnit) (reader : Reader m) (converter : Converter m) :
    m (Except DerivationError Script × TestUnit) :=
  match unit.scriptMemo? with
  | some answer => pure (answer, unit)
  | none => do
    let (forest, unit) ← unit.forest reader
    let answer ← unit.convert converter forest
    pure (answer, { unit with scriptMemo? := some answer })

/-- A unit that has derived its forest answers from memory, whatever reader is brought. Assumes: a
unit that remembers an answer. -/
theorem forest_of_memo {unit : TestUnit} {answer : Except DerivationError (List SExpr)}
    (h : unit.forestMemo? = some answer) (reader : Reader m) :
    unit.forest reader = pure (answer, unit) := by
  simp [forest, h]

/-- A unit that has derived its script answers from memory, whatever collaborators are brought.
Assumes: a unit that remembers an answer. -/
theorem script_of_memo {unit : TestUnit} {answer : Except DerivationError Script}
    (h : unit.scriptMemo? = some answer) (reader : Reader m) (converter : Converter m) :
    unit.script reader converter = pure (answer, unit) := by
  simp [script, h]

end Derivation

end TestUnit

end WastSuite
