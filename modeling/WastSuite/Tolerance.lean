import WastSuite.Failure
import WastSuite.Text.Cut

/-!
# Tolerated failures

WebAssembly leaves some bits of a NaN to the implementation, so a different NaN still conforms. In
the two tests that show such bits a failure is a warning if it concerns a NaN
(`RunFailure.concernsNan`): an assertion that a NaN is returned, or an assertion on the results of
a call whose export is named for NaNs. No other test is given any leniency (`isTolerated`).
-/

set_option autoImplicit false

namespace WastSuite

/-- Whether an assertion can fail by the bits of a NaN alone. -/
def Assertion.concernsNan : Assertion → Bool
  | .returnsNan _ => true
  | .returns (.invoke _ name _) _ => Text.occursIn "nan" name
  | _ => false

/-- Whether a failure is a broken assertion that can fail by the bits of a NaN alone. -/
def RunFailure.concernsNan : RunFailure → Bool
  | .assertion broken _ => broken.concernsNan
  | .trap _ => false
  | .other _ => false

/-- The tests whose NaN bits may differ. -/
def nanTolerantTests : List String :=
  ["float_literals", "float_exprs"]

/-- Whether a failure in the named test is a warning and no error. -/
def isTolerated (test : String) (failure : RunFailure) : Bool :=
  nanTolerantTests.contains test && failure.concernsNan

end WastSuite
