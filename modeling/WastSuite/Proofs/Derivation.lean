import WastSuite.TestUnit

/-!
# Derivations are made once

A unit is asked for its forest and its script any number of times, in any order, and each request
brings collaborators of its own. They are functions that may read and change a world
(`Request`). A run of requests is observed (`serveAll`): every inquiry to a collaborator is noted
with the number of the request that brought it and with what it was given.

A unit that remembers both derivations answers every request from memory and asks nobody
(`serveAll_of_memos`). A run on a unit that remembers no forest goes on as if the reader of its
first request had been asked before it began (`serveAll_of_no_forest`), and a run on a unit that
remembers no script as if the converter of its first request for a script had been
(`serveAll_of_no_script`).
So a whole run asks the first reader once, the first converter at most once, and no other
collaborator ever, and all answers come from these two (`derivations_asked_once`).
-/

set_option autoImplicit false

namespace WastSuite

/-! ### Observed runs -/

/-- A collaborator that was asked: the reader of the request with a number was given a text, or the
converter of one an expression. -/
inductive Inquiry where
  | read (request : Nat) (source : String)
  | convert (request : Nat) (root : SExpr)
  deriving DecidableEq

/-- What a run acts on, and what is seen of it: the world that the collaborators read and change,
and the inquiries and the lines of the log so far, in order. -/
structure Scene (σ : Type) where
  world : σ
  inquiries : List Inquiry
  log : List LogEvent

/-- Computations that are observed. -/
abbrev Observed (σ : Type) := StateM (Scene σ)

instance (σ : Type) : Journal (Observed σ) where
  record event := fun scene ↦ ((), { scene with log := scene.log ++ [event] })

/-- Something that is asked of a unit, with the collaborators that come with it: its forest or its
script. -/
inductive Request (σ : Type) where
  | forest (reader : Reader (StateM σ))
  | script (reader : Reader (StateM σ)) (converter : Converter (StateM σ))

/-- What a unit answers: a forest or a script, or why there is none. -/
inductive Answer where
  | forest (answer : Except DerivationError (List SExpr))
  | script (answer : Except DerivationError Script)

namespace Request

variable {σ : Type}

/-- The reader that a request brings. -/
def reader : Request σ → Reader (StateM σ)
  | .forest reader => reader
  | .script reader _ => reader

/-- Whether a request is for the script, and so may need a converter. -/
def wantsScript : Request σ → Bool
  | .forest _ => false
  | .script _ _ => true

/-- The answer to a request, if the two derivations have these outcomes. -/
def answer (forest : Except DerivationError (List SExpr)) (script : Except DerivationError Script) :
    Request σ → Answer
  | .forest _ => .forest forest
  | .script _ _ => .script script

end Request

namespace Scene

variable {σ : Type}

/-- A reader whose inquiries are noted under a number. -/
def noteReader (number : Nat) (reader : Reader (StateM σ)) : Reader (Observed σ) :=
  fun source scene ↦
    let (reply, world) := reader source scene.world
    (reply, { scene with world, inquiries := scene.inquiries ++ [.read number source] })

/-- A converter whose inquiries are noted under a number. -/
def noteConverter (number : Nat) (converter : Converter (StateM σ)) : Converter (Observed σ) :=
  fun root scene ↦
    let (reply, world) := converter root scene.world
    (reply, { scene with world, inquiries := scene.inquiries ++ [.convert number root] })

/-- What a reader replies, with the inquiry noted. Assumes: what it replies in the world. -/
theorem noteReader_eq {number : Nat} {reader : Reader (StateM σ)} {source : String}
    {scene : Scene σ} {reply : Except ParseFailure (List SExpr)} {world : σ}
    (hreply : reader source scene.world = (reply, world)) :
    noteReader number reader source scene =
      (reply, Scene.mk world (scene.inquiries ++ [.read number source]) scene.log) := by
  simp only [noteReader, hreply]

end Scene

namespace Observed

variable {σ α β : Type}

/-- Observed computations follow one another in the scene. -/
theorem bind_apply (first : Observed σ α) (next : α → Observed σ β) (scene : Scene σ) :
    (first >>= next) scene = next (first scene).1 (first scene).2 := rfl

/-- A result alone leaves the scene. -/
theorem pure_apply (result : α) (scene : Scene σ) :
    (pure result : Observed σ α) scene = (result, scene) := rfl

/-- An event goes to the end of the log. -/
theorem record_apply (event : LogEvent) (scene : Scene σ) :
    (Journal.record event : Observed σ Unit) scene =
      ((), Scene.mk scene.world scene.inquiries (scene.log ++ [event])) := rfl

end Observed

namespace TestUnit

variable {σ : Type}

/-- One request to a unit, under a number: its answer, and unit and scene behind it. -/
def serve (unit : TestUnit) (number : Nat) (scene : Scene σ) :
    Request σ → (Answer × TestUnit) × Scene σ
  | .forest reader =>
    let ((answer, unit), scene) :=
      unit.forest (m := Observed σ) (Scene.noteReader number reader) scene
    ((.forest answer, unit), scene)
  | .script reader converter =>
    let ((answer, unit), scene) := unit.script (m := Observed σ) (Scene.noteReader number reader)
      (Scene.noteConverter number converter) scene
    ((.script answer, unit), scene)

/-- Requests to a unit, one after the other and numbered on: their answers, and unit and scene
behind them. -/
def serveAll (unit : TestUnit) (number : Nat) (scene : Scene σ) :
    List (Request σ) → (List Answer × TestUnit) × Scene σ
  | [] => (([], unit), scene)
  | request :: requests =>
    let ((answer, unit), scene) := unit.serve number scene request
    let ((answers, unit), scene) := unit.serveAll (number + 1) scene requests
    ((answer :: answers, unit), scene)

/-- The unit with a forest remembered. -/
def rememberForest (unit : TestUnit) (forest : Except DerivationError (List SExpr)) : TestUnit :=
  { unit with forestMemo? := some forest }

/-- The unit with a script remembered. -/
def rememberScript (unit : TestUnit) (script : Except DerivationError Script) : TestUnit :=
  { unit with scriptMemo? := some script }

/-! ### Answers from memory -/

variable {unit : TestUnit} {forest : Except DerivationError (List SExpr)}
  {script : Except DerivationError Script} {request : Request σ} {requests : List (Request σ)}

/-- A unit that remembers its forest answers with it and asks nobody. Assumes: a request for the
forest. -/
theorem serve_of_forestMemo (hforest : unit.forestMemo? = some forest)
    (hrequest : request.wantsScript = false) (number : Nat) (scene : Scene σ) :
    unit.serve number scene request = ((.forest forest, unit), scene) := by
  cases request with
  | forest reader =>
    simp only [serve, forest_of_memo hforest]
    rfl
  | script reader converter => cases hrequest

/-- A unit that remembers both derivations answers with them and asks nobody. -/
theorem serve_of_memos (hforest : unit.forestMemo? = some forest)
    (hscript : unit.scriptMemo? = some script) (number : Nat) (scene : Scene σ) :
    unit.serve number scene request = ((request.answer forest script, unit), scene) := by
  cases request with
  | forest reader => exact serve_of_forestMemo hforest rfl number scene
  | script reader converter =>
    simp only [serve, script_of_memo hscript]
    rfl

/-- A unit that remembers both derivations serves a whole run from memory. -/
theorem serveAll_of_memos (hforest : unit.forestMemo? = some forest)
    (hscript : unit.scriptMemo? = some script) (number : Nat) (scene : Scene σ) :
    unit.serveAll number scene requests =
      ((requests.map (Request.answer forest script), unit), scene) := by
  induction requests generalizing number with
  | nil => rfl
  | cons request requests ih =>
    simp only [serveAll, serve_of_memos hforest hscript, ih, List.map_cons]

/-- A unit that remembers its forest serves a run of requests for it from memory. Assumes: no
request for the script. -/
theorem serveAll_of_forestMemo (hforest : unit.forestMemo? = some forest)
    (hrequests : ∀ request ∈ requests, request.wantsScript = false) (number : Nat)
    (scene : Scene σ) :
    unit.serveAll number scene requests =
      ((requests.map fun _ ↦ .forest forest, unit), scene) := by
  induction requests generalizing number with
  | nil => rfl
  | cons request requests ih =>
    have hfirst := serve_of_forestMemo hforest (hrequests request List.mem_cons_self) number scene
    have hothers := ih (fun other hother ↦ hrequests other (List.mem_cons_of_mem _ hother))
      (number + 1)
    simp only [serveAll, hfirst, hothers, List.map_cons]

/-! ### The first inquiries -/

/-- What a unit makes of a reader's reply. -/
def forestAnswer (unit : TestUnit) (reply : Except ParseFailure (List SExpr)) :
    Except DerivationError (List SExpr) :=
  reply.mapError fun failure ↦ failure.ofTest unit.name

/-- What a unit makes of a converter's reply. -/
def scriptAnswer (unit : TestUnit) (reply : Except String Script) :
    Except DerivationError Script :=
  reply.mapError fun reason ↦ .convert unit.name reason

/-- A unit without a forest asks the reader it is brought, once, and remembers the answer. Assumes:
what that reader makes of the source. -/
theorem forest_of_no_memo (hforest : unit.forestMemo? = none) {reader : Reader (StateM σ)}
    {scene : Scene σ} {reply : Except ParseFailure (List SExpr)} {world : σ}
    (hreply : reader unit.source scene.world = (reply, world)) (number : Nat) :
    unit.forest (m := Observed σ) (Scene.noteReader number reader) scene =
      ((unit.forestAnswer reply, unit.rememberForest (unit.forestAnswer reply)),
        Scene.mk world (scene.inquiries ++ [.read number unit.source])
          (scene.log ++ [.parsing unit.name])) := by
  have hasked : Scene.noteReader number reader unit.source
      (Scene.mk scene.world scene.inquiries (scene.log ++ [.parsing unit.name])) = _ :=
    Scene.noteReader_eq hreply
  simp only [TestUnit.forest, hforest, Observed.bind_apply, Observed.record_apply, hasked,
    Observed.pure_apply, forestAnswer, rememberForest]

/-- A unit from which nothing was derived serves a request as if the reader of that request had been
asked before. Assumes: what the reader makes of the source. -/
theorem serve_of_no_forest (hforest : unit.forestMemo? = none)
    (hscript : unit.scriptMemo? = none) {number : Nat} {scene : Scene σ}
    {reply : Except ParseFailure (List SExpr)} {world : σ}
    (hreply : request.reader unit.source scene.world = (reply, world)) :
    unit.serve number scene request =
      (unit.rememberForest (unit.forestAnswer reply)).serve number
        (Scene.mk world (scene.inquiries ++ [.read number unit.source])
          (scene.log ++ [.parsing unit.name])) request := by
  have hread := forest_of_no_memo hforest hreply number
  have hmemo : (unit.rememberForest (unit.forestAnswer reply)).forestMemo? =
      some (unit.forestAnswer reply) := rfl
  cases request with
  | forest reader =>
    simp only [Request.reader] at hread
    simp only [serve, hread, forest_of_memo hmemo, Observed.pure_apply]
  | script reader converter =>
    have hnone : (unit.rememberForest (unit.forestAnswer reply)).scriptMemo? = none := hscript
    simp only [Request.reader] at hread
    simp only [serve, script, hscript, hnone, Observed.bind_apply, hread, forest_of_memo hmemo,
      Observed.pure_apply]

/-- A run on a unit from which nothing was derived goes on as if the reader of its first request had
been asked before it began. Assumes: what that reader makes of the source. -/
theorem serveAll_of_no_forest {first : Request σ} {rest : List (Request σ)}
    (hforest : unit.forestMemo? = none) (hscript : unit.scriptMemo? = none) {number : Nat}
    {scene : Scene σ} {reply : Except ParseFailure (List SExpr)} {world : σ}
    (hreply : first.reader unit.source scene.world = (reply, world)) :
    unit.serveAll number scene (first :: rest) =
      (unit.rememberForest (unit.forestAnswer reply)).serveAll number
        (Scene.mk world (scene.inquiries ++ [.read number unit.source])
          (scene.log ++ [.parsing unit.name])) (first :: rest) := by
  simp only [serveAll, serve_of_no_forest hforest hscript hreply]

/-- What the first request for the script leaves behind, where the forest is remembered: the script,
which the converter makes of the forest if there is one, and the scene. -/
def scriptStage (unit : TestUnit) (number : Nat) (scene : Scene σ)
    (forest : Except DerivationError (List SExpr)) (converter : Converter (StateM σ)) :
    Except DerivationError Script × Scene σ :=
  match forest with
  | .error error => (.error error, scene)
  | .ok forms =>
    let (reply, world) := converter (.list forms) scene.world
    (unit.scriptAnswer reply, ⟨world, scene.inquiries ++ [.convert number (.list forms)],
      scene.log ++ [.converting unit.name]⟩)

/-- The script that a converter makes of a forest, or its refusal, and the scene behind it. Assumes:
what the converter makes of the forest. -/
theorem scriptStage_ok {number : Nat} {scene : Scene σ} {forms : List SExpr}
    {converter : Converter (StateM σ)} {reply : Except String Script} {world : σ}
    (hreply : converter (.list forms) scene.world = (reply, world)) :
    unit.scriptStage number scene (.ok forms) converter =
      (unit.scriptAnswer reply, Scene.mk world (scene.inquiries ++ [.convert number (.list forms)])
        (scene.log ++ [.converting unit.name])) := by
  simp only [scriptStage, hreply]

/-- A unit that remembers its forest but no script serves a request for the script as if the
converter of that request had been asked before. -/
theorem serve_of_no_script (hforest : unit.forestMemo? = some forest)
    (hscript : unit.scriptMemo? = none) (number : Nat) (scene : Scene σ)
    (reader : Reader (StateM σ)) (converter : Converter (StateM σ)) :
    unit.serve number scene (.script reader converter) =
      (unit.rememberScript (unit.scriptStage number scene forest converter).1).serve
        number (unit.scriptStage number scene forest converter).2 (.script reader converter) := by
  have hmemo :
      (unit.rememberScript (unit.scriptStage number scene forest converter).1).forestMemo? =
        some forest := hforest
  rw [serve_of_memos hmemo rfl]
  simp only [serve, script, hscript, forest_of_memo hforest, Observed.bind_apply,
    Observed.pure_apply]
  cases forest with
  | error error => rfl
  | ok forms =>
    simp only [convert, Observed.bind_apply, Observed.record_apply, Observed.pure_apply]
    rfl

/-- A run on a unit that remembers its forest but no script goes on as if the converter of its first
request for the script had been asked before it began. Assumes: only requests for the forest come
before that one. -/
theorem serveAll_of_no_script {before after : List (Request σ)} {reader : Reader (StateM σ)}
    {converter : Converter (StateM σ)} (hforest : unit.forestMemo? = some forest)
    (hscript : unit.scriptMemo? = none) (number : Nat) (scene : Scene σ)
    (hbefore : ∀ request ∈ before, request.wantsScript = false) :
    unit.serveAll number scene (before ++ .script reader converter :: after) =
      (unit.rememberScript
          (unit.scriptStage (number + before.length) scene forest converter).1).serveAll number
        (unit.scriptStage (number + before.length) scene forest converter).2
        (before ++ .script reader converter :: after) := by
  induction before generalizing number with
  | nil =>
    simp only [List.nil_append, serveAll, serve_of_no_script hforest hscript, List.length_nil,
      Nat.add_zero]
  | cons request before ih =>
    have hrequest := hbefore request List.mem_cons_self
    have hothers := ih (number + 1) fun other hother ↦ hbefore other (List.mem_cons_of_mem _ hother)
    have hlength : number + (request :: before).length = number + 1 + before.length := by
      rw [List.length_cons]
      omega
    have hmemo (script : Except DerivationError Script) :
        (unit.rememberScript script).forestMemo? = some forest := hforest
    rw [hlength, List.cons_append]
    simp only [serveAll, serve_of_forestMemo hforest hrequest, hothers,
      serve_of_forestMemo (hmemo _) hrequest]

/-! ### Whole runs -/

/-- Requests are all for the forest, or there is a first one among them for the script. -/
theorem forall_forest_or_exists_first_script (requests : List (Request σ)) :
    (∀ request ∈ requests, request.wantsScript = false) ∨
      ∃ before reader converter after, requests = before ++ .script reader converter :: after ∧
        ∀ request ∈ before, request.wantsScript = false := by
  induction requests with
  | nil => exact Or.inl fun request hmem ↦ absurd hmem List.not_mem_nil
  | cons request requests ih =>
    cases request with
    | script reader converter => exact Or.inr ⟨[], reader, converter, requests, rfl, by simp⟩
    | forest reader =>
      rcases ih with hall | ⟨before, reader', converter, after, rfl, hbefore⟩
      · exact Or.inl (List.forall_mem_cons.mpr ⟨rfl, hall⟩)
      · exact Or.inr ⟨.forest reader :: before, reader', converter, after, rfl,
          List.forall_mem_cons.mpr ⟨rfl, hbefore⟩⟩

/-- The answers to requests for the forest alone do not depend on a script. -/
theorem map_answer_of_forests (hrequests : ∀ request ∈ requests, request.wantsScript = false) :
    requests.map (Request.answer forest script) = requests.map fun _ ↦ .forest forest := by
  refine List.map_congr_left fun request hmem ↦ ?_
  cases request with
  | forest reader => rfl
  | script reader converter => cases hrequests _ hmem

/-- A unit that remembers why it has no forest answers a whole run with that, and asks nobody. -/
theorem serveAll_of_forestMemo_error {error : DerivationError}
    (hforest : unit.forestMemo? = some (.error error)) (hscript : unit.scriptMemo? = none)
    (number : Nat) (scene : Scene σ) :
    (unit.serveAll number scene requests).1.1 =
        requests.map (Request.answer (.error error) (.error error)) ∧
      (unit.serveAll number scene requests).2 = scene := by
  rcases forall_forest_or_exists_first_script requests with
    hall | ⟨before, reader, converter, after, rfl, hbefore⟩
  · rw [serveAll_of_forestMemo hforest hall, map_answer_of_forests hall]
    exact ⟨rfl, rfl⟩
  · rw [serveAll_of_no_script hforest hscript number scene hbefore]
    have hmemo : (unit.rememberScript (.error error)).forestMemo? = some (.error error) := hforest
    rw [show (unit.scriptStage (number + before.length) scene (.error error) converter) =
      (.error error, scene) from rfl, serveAll_of_memos hmemo rfl]
    exact ⟨rfl, rfl⟩

/-- A unit that remembers its forest asks the converter of the first request for the script, and
answers a whole run with the two. Assumes: only requests for the forest come before that one, and
what the converter makes of the forest. -/
theorem serveAll_of_forestMemo_ok {forms : List SExpr} {before after : List (Request σ)}
    {reader : Reader (StateM σ)} {converter : Converter (StateM σ)}
    {reply : Except String Script} {world : σ} {scene : Scene σ}
    (hforest : unit.forestMemo? = some (.ok forms)) (hscript : unit.scriptMemo? = none)
    (hbefore : ∀ request ∈ before, request.wantsScript = false)
    (hreply : converter (.list forms) scene.world = (reply, world)) (number : Nat) :
    unit.serveAll number scene (before ++ .script reader converter :: after) =
      (((before ++ .script reader converter :: after).map
            (Request.answer (.ok forms) (unit.scriptAnswer reply)),
          unit.rememberScript (unit.scriptAnswer reply)),
        Scene.mk world
          (scene.inquiries ++ [.convert (number + before.length) (.list forms)])
          (scene.log ++ [.converting unit.name])) := by
  have hmemo : (unit.rememberScript (unit.scriptAnswer reply)).forestMemo? = some (.ok forms) :=
    hforest
  rw [serveAll_of_no_script hforest hscript number scene hbefore, scriptStage_ok hreply,
    serveAll_of_memos hmemo rfl]

/-- Over a whole run on a new unit, the reader of the first request is asked once, for the source,
and no other reader ever. If it refuses the source, every answer is its refusal, with the name of
the unit, and no converter is asked. If it gives a forest, every request for the forest is answered
with it, and the converter of the first request for the script, if there is one, is asked once, for
the list of that forest, and no other converter ever; every request for the script is answered with
its script, or with its refusal and the name of the unit. A run without requests asks nobody. -/
theorem derivations_asked_once (name source : String) (oracle? : Option String) (world : σ) :
    let run := (fresh name source oracle?).serveAll 0 (Scene.mk world [] [])
    run [] = (([], fresh name source oracle?), Scene.mk world [] []) ∧
    ∀ (first : Request σ) (rest : List (Request σ)) (read : σ),
      (∀ position reason, first.reader source world = (.error ⟨position, reason⟩, read) →
        let error := DerivationError.parse name position reason
        (run (first :: rest)).1.1 =
            (first :: rest).map (Request.answer (.error error) (.error error)) ∧
          (run (first :: rest)).2 = Scene.mk read [.read 0 source] [.parsing name]) ∧
      ∀ forms, first.reader source world = (.ok forms, read) →
        ((∀ request ∈ first :: rest, request.wantsScript = false) →
          (run (first :: rest)).1.1 = (first :: rest).map (fun _ ↦ .forest (.ok forms)) ∧
            (run (first :: rest)).2 = Scene.mk read [.read 0 source] [.parsing name]) ∧
        ∀ before reader converter after reply converted,
          first :: rest = before ++ .script reader converter :: after →
          (∀ request ∈ before, request.wantsScript = false) →
          converter (.list forms) read = (reply, converted) →
            (run (first :: rest)).1.1 = (first :: rest).map
                (Request.answer (.ok forms) (reply.mapError fun reason ↦ .convert name reason)) ∧
              (run (first :: rest)).2 = Scene.mk converted
                [.read 0 source, .convert before.length (.list forms)]
                [.parsing name, .converting name] := by
  refine ⟨rfl, fun first rest read ↦ ⟨?_, ?_⟩⟩
  · intro position reason hreply
    rw [serveAll_of_no_forest rfl rfl hreply]
    exact serveAll_of_forestMemo_error rfl rfl 0 _
  · intro forms hreply
    rw [serveAll_of_no_forest rfl rfl hreply]
    refine ⟨fun hall ↦ ?_, ?_⟩
    · rw [serveAll_of_forestMemo rfl hall]
      exact ⟨rfl, rfl⟩
    · intro before reader converter after reply converted hsplit hbefore hconverter
      rw [hsplit, serveAll_of_forestMemo_ok rfl rfl hbefore hconverter 0, Nat.zero_add]
      exact ⟨rfl, rfl⟩

end TestUnit

end WastSuite
