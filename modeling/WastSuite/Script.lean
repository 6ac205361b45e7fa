import WastSuite.SExpr.Basic

/-!
# Test scripts

A script is what a converter makes of a forest of expressions: a sequence of commands that define
modules, register them for linking, run actions and state what must happen. Constants keep floats
as raw bits, so that the payload of a NaN survives and equality is equality of bits.

`Assertion.action?` gives the action that an assertion runs, which the assertions about modules do
not have, and `Action.exportName` the export that an action reaches. Equality of all of these is
structural.
-/

set_option autoImplicit false

namespace WastSuite

/-- A typed constant, as an argument or an expected result. Floats are given by their bits. -/
inductive Constant where
  | i32 (bits : UInt32)
  | i64 (bits : UInt64)
  | f32 (bits : UInt32)
  | f64 (bits : UInt64)
  deriving DecidableEq, Inhabited

/-- Something a script does with an export, of a named module or of the latest one: call an exported
function, or read an exported global. -/
inductive Action where
  | invoke (moduleName? : Option String) (name : String) (arguments : List Constant)
  | get (moduleName? : Option String) (name : String)
  deriving DecidableEq, Inhabited

/-- The name of the export that an action reaches. -/
def Action.exportName : Action → String
  | .invoke _ name _ => name
  | .get _ name => name

/-- How a script gives a module: as an expression of the script itself, as the bytes of its binary
form, or as source text inside string literals. -/
inductive ModuleSource where
  | text (form : SExpr)
  | binary (content : List UInt8)
  | quote (content : String)
  deriving DecidableEq, Inhabited

/-- A statement about what must happen. An action returns exactly some values, or a NaN with any
payload, or traps; instantiating a module traps; a module fails validation, parsing or linking; or
an action exhausts a resource. -/
inductive Assertion where
  | returns (action : Action) (expected : List Constant)
  | returnsNan (action : Action)
  | traps (action : Action) (message : String)
  | moduleTraps (source : ModuleSource) (message : String)
  | invalid (source : ModuleSource) (message : String)
  | malformed (source : ModuleSource) (message : String)
  | unlinkable (source : ModuleSource) (message : String)
  | exhausts (action : Action) (message : String)
  deriving DecidableEq, Inhabited

/-- The action that an assertion runs, if it runs one. -/
def Assertion.action? : Assertion → Option Action
  | .returns action _ => some action
  | .returnsNan action => some action
  | .traps action _ => some action
  | .exhausts action _ => some action
  | .moduleTraps _ _ => none
  | .invalid _ _ => none
  | .malformed _ _ => none
  | .unlinkable _ _ => none

/-- One step of a script: define a module, named or not; make the latest or a named module available
to imports under a name; run an action without a statement about it; or check a statement. -/
inductive Command where
  | define (name? : Option String) (source : ModuleSource)
  | register (importName : String) (moduleName? : Option String)
  | act (action : Action)
  | check (assertion : Assertion)
  deriving DecidableEq, Inhabited

/-- A converted test source: its steps, in order. -/
structure Script where
  commands : List Command
  deriving DecidableEq, Inhabited

end WastSuite
