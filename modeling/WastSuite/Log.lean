import WastSuite.Text.Quoted

/-!
# The log

What the library does is told as events, each with a level and a text. `LogEvent.line` is the
written form. A computation that logs works in a monad with a `Journal`.
-/

set_option autoImplicit false

namespace WastSuite

/-- How much a line of the log matters: it tells what a run did, or each small step of it. -/
inductive LogLevel where
  | debug
  | trace
  deriving DecidableEq

/-- The name of a level. -/
def LogLevel.name : LogLevel → String
  | .debug => "DEBUG"
  | .trace => "TRACE"

/-- Something worth a line of the log. An archive was opened at the entries whose names start with a
given text; the files of a root are about to be listed; a root gave a number of units; a source file
is not on the allow-list; a source file became a unit, with or without an expected output; the
reader is about to be given the source of a unit, or the converter its forest. -/
inductive LogEvent where
  | openedArchive (archive start : String)
  | loadingRoot (root base : String)
  | loadedRoot (count : Nat) (root : String)
  | skippedFile (root fileName : String)
  | foundUnit (test : String) (withOracle : Bool)
  | parsing (test : String)
  | converting (test : String)
  deriving DecidableEq

namespace LogEvent

/-- The level of an event. -/
def level : LogEvent → LogLevel
  | .openedArchive _ _ => .debug
  | .loadingRoot _ _ => .debug
  | .loadedRoot _ _ => .debug
  | .foundUnit _ _ => .debug
  | .skippedFile _ _ => .trace
  | .parsing _ => .trace
  | .converting _ => .trace

/-- The text of an event. -/
def text : LogEvent → String
  | .openedArchive archive start => s!"opened archive {archive} at {Text.quoted start}"
  | .loadingRoot root base => s!"loading spec units from {root} in {base}"
  | .loadedRoot count root => s!"loaded {count} spec units from {root}"
  | .skippedFile root fileName => s!"skipping {root}/{fileName}: not allow-listed"
  | .foundUnit test withOracle =>
    s!"found spec unit {test}" ++ if withOracle then " with expected output" else ""
  | .parsing test => s!"parsing {test}"
  | .converting test => s!"converting {test}"

/-- The line of an event: its level, then its text. -/
def line (event : LogEvent) : String :=
  event.level.name ++ " " ++ event.text

end LogEvent

/-- A monad that keeps a log, to which events are added one by one. -/
class Journal (m : Type → Type) where
  record : LogEvent → m Unit

end WastSuite
