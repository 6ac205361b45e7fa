import WastSuite.Proofs.Derivation

/-!
# Which failures are tolerated

Whether a failure is a warning is told by the name of its test and by very little of the failure:
the kind of the assertion, what its action does, and the name of the export that it reaches
(`Assertion.concernsNan_iff_kind`). Names of modules, arguments, expected constants and messages
have no say (`Assertion.concernsNan_congr`). Derivations keep the name of a unit
(`TestUnit.name_serveAll`), so a runner gets the same answers about a script that it got from the
unit, whatever was asked of the unit before.

Main statement: `TestUnit.tolerates_iff_nan`.
-/

set_option autoImplicit false

namespace WastSuite

/-! ### What an assertion is about -/

/-- The kinds of actions: a call, and a look at a global. -/
inductive Action.Kind where
  | invoke
  | get
  deriving DecidableEq

/-- What an action does. -/
def Action.kind : Action → Kind
  | .invoke _ _ _ => .invoke
  | .get _ _ => .get

/-- The kinds of assertions: an action returns values, returns a NaN or traps, instantiating a
module traps, a module fails validation, parsing or linking, or an action exhausts a resource. -/
inductive Assertion.Kind where
  | returns
  | returnsNan
  | traps
  | moduleTraps
  | invalid
  | malformed
  | unlinkable
  | exhausts
  deriving DecidableEq

namespace Assertion

/-- What an assertion says, apart from what about. -/
def kind : Assertion → Kind
  | .returns _ _ => .returns
  | .returnsNan _ => .returnsNan
  | .traps _ _ => .traps
  | .moduleTraps _ _ => .moduleTraps
  | .invalid _ _ => .invalid
  | .malformed _ _ => .malformed
  | .unlinkable _ _ => .unlinkable
  | .exhausts _ _ => .exhausts

/-- What the action of an assertion does, if it runs one. -/
def actionKind? (assertion : Assertion) : Option Action.Kind :=
  assertion.action?.map Action.kind

/-- The name of the export that an assertion reaches, if it runs an action. -/
def exportName? (assertion : Assertion) : Option String :=
  assertion.action?.map Action.exportName

variable {assertion first second : Assertion}

/-- An assertion concerns a NaN if it says that one is returned, or if it tells the results of a
call whose export is named for NaNs. -/
theorem concernsNan_iff : assertion.concernsNan = true ↔
    (∃ action, assertion = .returnsNan action) ∨
      ∃ moduleName? before after arguments expected, assertion =
        .returns (.invoke moduleName? (before ++ "nan" ++ after) arguments) expected := by
  cases assertion with
  | returns action expected =>
    cases action with
    | invoke moduleName? name arguments =>
      simp only [concernsNan, Text.occursIn_iff, reduceCtorEq, exists_false, false_or,
        returns.injEq, Action.invoke.injEq]
      constructor
      · rintro ⟨before, after, hname⟩
        exact ⟨moduleName?, before, after, arguments, expected, ⟨rfl, hname, rfl⟩, rfl⟩
      · rintro ⟨-, before, after, -, -, ⟨-, hname, -⟩, -⟩
        exact ⟨before, after, hname⟩
    | get moduleName? name => simp [concernsNan]
  | returnsNan action => simp [concernsNan]
  | traps action message => simp [concernsNan]
  | moduleTraps source message => simp [concernsNan]
  | invalid source message => simp [concernsNan]
  | malformed source message => simp [concernsNan]
  | unlinkable source message => simp [concernsNan]
  | exhausts action message => simp [concernsNan]

/-- Whether it does is told by its kind, what its action does, and the name of the export. -/
theorem concernsNan_iff_kind : assertion.concernsNan = true ↔
    assertion.kind = .returnsNan ∨
      assertion.kind = .returns ∧ assertion.actionKind? = some .invoke ∧
        ∃ name, assertion.exportName? = some name ∧ Text.occursIn "nan" name = true := by
  cases assertion with
  | returns action expected =>
    cases action with
    | invoke moduleName? name arguments =>
      simp [concernsNan, kind, actionKind?, exportName?, action?, Action.kind, Action.exportName]
    | get moduleName? name => simp [concernsNan, kind, actionKind?, action?, Action.kind]
  | returnsNan action => simp [concernsNan, kind]
  | traps action message => simp [concernsNan, kind]
  | moduleTraps source message => simp [concernsNan, kind]
  | invalid source message => simp [concernsNan, kind]
  | malformed source message => simp [concernsNan, kind]
  | unlinkable source message => simp [concernsNan, kind]
  | exhausts action message => simp [concernsNan, kind]

/-- Assertions that agree in these concern a NaN alike. -/
theorem concernsNan_congr (hkind : first.kind = second.kind)
    (haction : first.actionKind? = second.actionKind?)
    (hname : first.exportName? = second.exportName?) :
    first.concernsNan = second.concernsNan := by
  rw [Bool.eq_iff_iff, concernsNan_iff_kind, concernsNan_iff_kind, hkind, haction, hname]

/-- The assertions that never concern a NaN: those about modules, those that an action traps or
exhausts a resource, and those about the value of a global. -/
theorem concernsNan_eq_false
    (h : assertion.action? = none ∨ assertion.kind = .traps ∨ assertion.kind = .exhausts ∨
      assertion.kind = .returns ∧ assertion.actionKind? = some .get) :
    assertion.concernsNan = false := by
  rw [← Bool.not_eq_true, concernsNan_iff]
  rintro (⟨action, rfl⟩ | ⟨moduleName?, before, after, arguments, expected, rfl⟩)
  · simp [action?, kind] at h
  · simp [action?, kind, actionKind?, Action.kind] at h

end Assertion

namespace TestUnit

variable {σ : Type} {unit : TestUnit}

/-! ### Names in a run -/

theorem name_forest (reader : Reader (Observed σ)) (scene : Scene σ) :
    (unit.forest reader scene).1.2.name = unit.name := by
  cases hmemo : unit.forestMemo? with
  | some answer =>
    rw [forest_of_memo hmemo]
    rfl
  | none =>
    simp only [forest, hmemo, Observed.bind_apply, Observed.pure_apply]

theorem name_script (reader : Reader (Observed σ)) (converter : Converter (Observed σ))
    (scene : Scene σ) : (unit.script reader converter scene).1.2.name = unit.name := by
  cases hmemo : unit.scriptMemo? with
  | some answer =>
    rw [script_of_memo hmemo]
    rfl
  | none =>
    simp only [script, hmemo, Observed.bind_apply, Observed.pure_apply, name_forest]

/-- A request keeps the name of a unit. -/
theorem name_serve (number : Nat) (scene : Scene σ) (request : Request σ) :
    (unit.serve number scene request).1.2.name = unit.name := by
  cases request with
  | forest reader => exact name_forest _ scene
  | script reader converter => exact name_script _ _ scene

/-- So does a whole run of requests. -/
theorem name_serveAll (number : Nat) (scene : Scene σ) (requests : List (Request σ)) :
    (unit.serveAll number scene requests).1.2.name = unit.name := by
  induction requests generalizing unit number scene with
  | nil => rfl
  | cons request requests ih => exact (ih _ _).trans (name_serve number scene request)

/-! ### What a unit tolerates -/

/-- A unit tolerates a failure if it is one of the tests whose NaN bits may differ and the failure
is about a NaN. -/
theorem tolerates_iff {failure : RunFailure} : unit.tolerates failure = true ↔
    unit.name ∈ nanTolerantTests ∧ failure.concernsNan = true := by
  simp [tolerates, isTolerated]

theorem tolerates_of_notMem (h : unit.name ∉ nanTolerantTests) (failure : RunFailure) :
    unit.tolerates failure = false := by
  rw [← Bool.not_eq_true, tolerates_iff]
  exact fun hboth ↦ h hboth.1

theorem tolerates_of_not_concernsNan {failure : RunFailure} (h : failure.concernsNan = false) :
    unit.tolerates failure = false := by
  rw [← Bool.not_eq_true, tolerates_iff, h]
  exact fun hboth ↦ Bool.false_ne_true hboth.2

/-- No name that goes on before or behind that of a tolerant test is itself the name of one. -/
theorem notMem_nanTolerantTests_of_longer {test before after : String}
    (htest : test ∈ nanTolerantTests) (hlonger : before ++ after ≠ "") :
    before ++ test ++ after ∉ nanTolerantTests := by
  intro hmem
  -- neither name is part of the other, so only the same name could be meant
  have hapart : ∀ test ∈ nanTolerantTests, ∀ other ∈ nanTolerantTests,
      Text.occursIn test other = true → test = other := by
    decide
  have hsame := hapart test htest _ hmem (Text.occursIn_iff.mpr ⟨before, after, rfl⟩)
  have hlength := congrArg String.length hsame
  simp only [String.length_append] at hlength
  refine hlonger (String.length_eq_zero_iff.mp ?_)
  rw [String.length_append]
  omega

/-- A unit whose script could be derived, by whatever requests, tolerates the failure of one of its
assertions exactly if it is one of two tests and the assertion says that a NaN is returned, or tells
the results of a call whose export has `nan` in its name. So failures are tolerated alike if their
assertions are of one kind, with actions of one kind on exports of one name. Never tolerated are the
failures of assertions about modules, traps, exhausted resources and globals, nor those outside
assertions. No unit under another name tolerates any failure, not even if its name has that of a
tolerant test in it. -/
theorem tolerates_iff_nan (unit : TestUnit) :
    (∀ (σ : Type) (requests : List (Request σ)) (number : Nat) (scene : Scene σ) (script : Script)
        (assertion : Assertion) (reason : String),
      .script (.ok script) ∈ (unit.serveAll number scene requests).1.1 →
      .check assertion ∈ script.commands →
        ((unit.serveAll number scene requests).1.2.tolerates (.assertion assertion reason) = true ↔
          (unit.name = "float_literals" ∨ unit.name = "float_exprs") ∧
            ((∃ action, assertion = .returnsNan action) ∨
              ∃ moduleName? before after arguments expected, assertion =
                .returns (.invoke moduleName? (before ++ "nan" ++ after) arguments) expected))) ∧
    (∀ (first second : Assertion) (reason other : String), first.kind = second.kind →
      first.actionKind? = second.actionKind? → first.exportName? = second.exportName? →
        unit.tolerates (.assertion first reason) = unit.tolerates (.assertion second other)) ∧
    (∀ (assertion : Assertion) (reason : String), assertion.action? = none ∨
      assertion.kind = .traps ∨ assertion.kind = .exhausts ∨
        assertion.kind = .returns ∧ assertion.actionKind? = some .get →
          unit.tolerates (.assertion assertion reason) = false) ∧
    (∀ reason, unit.tolerates (.trap reason) = false ∧ unit.tolerates (.other reason) = false) ∧
    (unit.name ≠ "float_literals" → unit.name ≠ "float_exprs" →
      ∀ failure, unit.tolerates failure = false) ∧
    ∀ test ∈ ["float_literals", "float_exprs"], ∀ before after, before ++ after ≠ "" →
      unit.name = before ++ test ++ after → ∀ failure, unit.tolerates failure = false := by
  refine ⟨fun σ requests number scene script assertion reason _ _ ↦ ?_,
    fun first second reason other hkind haction hname ↦ ?_,
    fun assertion reason h ↦ tolerates_of_not_concernsNan (Assertion.concernsNan_eq_false h),
    fun reason ↦ ⟨tolerates_of_not_concernsNan rfl, tolerates_of_not_concernsNan rfl⟩,
    fun hliterals hexprs ↦ tolerates_of_notMem (by simp [nanTolerantTests, hliterals, hexprs]),
    fun test htest before after hlonger hname ↦ tolerates_of_notMem ?_⟩
  · rw [tolerates_iff, name_serveAll, ← Assertion.concernsNan_iff]
    simp [nanTolerantTests, RunFailure.concernsNan]
  · rw [Bool.eq_iff_iff, tolerates_iff, tolerates_iff]
    simp only [RunFailure.concernsNan, Assertion.concernsNan_congr hkind haction hname]
  · rw [hname]
    exact notMem_nanTolerantTests_of_longer htest hlonger

/-! ### A run with a NaN -/

/-- The results of a call, with an export that is named for NaNs. -/
def nanResult (moduleName? : Option String) (payload : UInt32) : Assertion :=
  .returns (.invoke moduleName? "f32.nan_add" [.f32 payload]) [.f32 payload]

/-- The value of a global that is named for NaNs. -/
def nanGlobal : Assertion :=
  .returns (.get none "nan") []

/-- A script with an assertion on such a call. -/
def nanScript : Script :=
  ⟨[.define none (.quote "nan"), .check (nanResult none 0x7fc00000)]⟩

/-- A request for a script, with a converter that makes this one of every forest. -/
def nanRequest : Request Unit :=
  .script (fun _ ↦ pure (.ok [])) fun _ ↦ pure (.ok nanScript)

/-- The failure of a call is tolerated where the test is, like that of the same call in another
module and with other bits. The failure of a look at a global is not, and under a longer name
nothing is. -/
theorem tolerates_iff_nan_call :
    ((fresh "float_exprs" "()" none).serveAll 0 (Scene.mk () [] []) [nanRequest]).1.2.tolerates
        (.assertion (nanResult none 0x7fc00000) "other bits") = true ∧
      (fresh "float_exprs" "()" none).tolerates (.assertion (nanResult none 0) "trap") =
        (fresh "float_exprs" "()" none).tolerates (.assertion (nanResult (some "$M") 1) "") ∧
      (fresh "float_exprs" "()" none).tolerates (.assertion nanGlobal "nan") = false ∧
      (fresh "float_exprs_2" "()" none).tolerates (.assertion (nanResult none 0) "nan") = false ∧
      (fresh "f32" "()" none).tolerates (.assertion (nanResult none 0) "nan") = false := by
  obtain ⟨hrun, halike, hnever, -⟩ := tolerates_iff_nan (fresh "float_exprs" "()" none)
  obtain ⟨-, -, -, -, -, hlonger⟩ := tolerates_iff_nan (fresh "float_exprs_2" "()" none)
  obtain ⟨-, -, -, -, hother, -⟩ := tolerates_iff_nan (fresh "f32" "()" none)
  refine ⟨?_, halike _ _ _ _ rfl rfl rfl, hnever _ _ ?_, ?_, ?_⟩
  · refine (hrun Unit [nanRequest] 0 _ nanScript _ _ ?_ ?_).mpr ⟨Or.inr rfl, Or.inr ?_⟩
    · exact List.mem_singleton.mpr rfl
    · simp [nanScript]
    · exact ⟨none, "f32.", "_add", _, _, rfl⟩
  · exact Or.inr (Or.inr (Or.inr ⟨rfl, rfl⟩))
  · exact hlonger "float_exprs" (by decide) "" "_2" (by decide) (by decide) _
  · exact hother (by decide) (by decide) _

end TestUnit

end WastSuite
