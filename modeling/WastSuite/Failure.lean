import WastSuite.Script

/-!
# Failures of one test

Two kinds of failure belong to a single test. A derivation failure says why its script could not be
made: the reader refused the source at a position, or the converter refused the forest. A run
failure is what a runner reports: an assertion that did not hold, a trap outside any assertion, or
anything else. `DerivationError.message` and `RunFailure.message` give their texts.
-/

set_option autoImplicit false

namespace WastSuite

/-- Why a reader refused a source: the offset into the source, and the reader's own words. -/
structure ParseFailure where
  position : Nat
  reason : String
  deriving DecidableEq, Inhabited

/-- Why the script of a test could not be made: the reader refused the source, or the converter
refused the forest. -/
inductive DerivationError where
  | parse (test : String) (position : Nat) (reason : String)
  | convert (test : String) (reason : String)
  deriving DecidableEq, Inhabited

/-- A reader's failure on the source of a named test. -/
def ParseFailure.ofTest (failure : ParseFailure) (test : String) : DerivationError :=
  .parse test failure.position failure.reason

/-- The text of a derivation failure. -/
def DerivationError.message : DerivationError → String
  | .parse test position reason => s!"{test}[{position}] Parse fail: {reason}"
  | .convert test reason => s!"{test} Script conversion fail: {reason}"

/-- What a runner reports when a script does not go through: an assertion that did not hold, a trap
outside any assertion, or anything else. -/
inductive RunFailure where
  | assertion (broken : Assertion) (reason : String)
  | trap (reason : String)
  | other (reason : String)
  deriving DecidableEq, Inhabited

/-- The text of a run failure. -/
def RunFailure.message : RunFailure → String
  | .assertion _ reason => s!"assertion failed: {reason}"
  | .trap reason => s!"Trap: {reason}"
  | .other reason => reason

end WastSuite
