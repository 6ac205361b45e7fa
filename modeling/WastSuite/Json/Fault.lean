import WastSuite.Decimal.Shortest
import WastSuite.Text.Quoted

/-!
# Faults in a JSON text

A fault has a cause and a place. The place is kept as the number of bytes behind it (`unread`),
which a reader that holds the rest of the text knows at once, and turned into a line and a column
when the whole text is at hand (`Place.ofUnread`): lines count from one, and the column of a byte
is its distance in bytes from the start of its line.

A cause belongs to one of three kinds: the text ends too early, a value has the wrong type, or the
text is no JSON. `Cause.message` gives its words, and `Error.message` adds the place.
-/

set_option autoImplicit false

namespace WastSuite.Json

/-- The number of bytes of a text in UTF-8. -/
def byteLength (text : List Char) : Nat :=
  text.foldr (fun c total ↦ c.utf8Size + total) 0

/-- A value of a type that was not expected, as far as a message tells it. A float is kept by its
text, and arrays and objects are not read. -/
inductive Found where
  | null
  | boolean (value : Bool)
  | integer (value : Int)
  | float (text : String)
  | string (value : String)
  | array
  | object
  deriving DecidableEq

/-- The type that was expected in its place. -/
inductive Wanted where
  | array
  | string
  deriving DecidableEq

/-- What is wrong with a text. It ends where a value must go on or start, inside an array, or inside
a string. An item is followed by neither a comma nor the closing bracket, no value starts, a word
starts like a literal and is none, a comma stands before the closing bracket, or something follows
the value. A number is written in a way that JSON does not have, or is too large for a float. A
string has a control character, a backslash that starts no escape, a surrogate without the partner
that it needs before or behind it (`loneSurrogate`), or a high surrogate that no escape follows
(`cutSurrogatePair`). Or a value has another type than the one wanted. -/
inductive Cause where
  | endInValue
  | endInArray
  | endInString
  | noCommaOrBracket
  | noValue
  | noLiteral
  | trailingComma
  | trailingText
  | badNumber
  | hugeNumber
  | controlCharacter
  | badEscape
  | loneSurrogate
  | cutSurrogatePair
  | wrongType (found : Found) (wanted : Wanted)
  deriving DecidableEq

/-- The kinds of faults: the text is no JSON, a value has the wrong type, or the text ends too
early. -/
inductive FaultKind where
  | syntactic
  | data
  | endOfText
  deriving DecidableEq

/-- The kind that a cause belongs to. -/
def Cause.kind : Cause → FaultKind
  | .endInValue => .endOfText
  | .endInArray => .endOfText
  | .endInString => .endOfText
  | .wrongType _ _ => .data
  | _ => .syntactic

/-- Floats are written positionally from `0.00001` up to sixteen digits before the point, and with
a signed exponent beyond. -/
def floatLayout : DecimalLayout where
  leastPositional := -5
  greatestPositional := 15
  plus := "+"

/-- A float that was found. -/
def Found.ofFloat (value : Float) : Found :=
  .float (floatLayout.render value)

/-- How a message names a value that was found. -/
def Found.message : Found → String
  | .null => "null"
  | .boolean value => s!"boolean `{value}`"
  | .integer value => s!"integer `{value}`"
  | .float text => s!"floating point `{text}`"
  | .string value => s!"string {Text.quoted value}"
  | .array => "sequence"
  | .object => "map"

/-- How a message names a type that was wanted. -/
def Wanted.message : Wanted → String
  | .array => "a sequence"
  | .string => "a string"

/-- The words for a cause. -/
def Cause.message : Cause → String
  | .endInValue => "EOF while parsing a value"
  | .endInArray => "EOF while parsing a list"
  | .endInString => "EOF while parsing a string"
  | .noCommaOrBracket => "expected `,` or `]`"
  | .noValue => "expected value"
  | .noLiteral => "expected ident"
  | .trailingComma => "trailing comma"
  | .trailingText => "trailing characters"
  | .badNumber => "invalid number"
  | .hugeNumber => "number out of range"
  | .controlCharacter =>
    "control character (\\u0000-\\u001F) found while parsing a string"
  | .badEscape => "invalid escape"
  | .loneSurrogate => "lone leading surrogate in hex escape"
  | .cutSurrogatePair => "unexpected end of hex escape"
  | .wrongType found wanted => s!"invalid type: {found.message}, expected {wanted.message}"

/-- What is wrong, and how many bytes of the text lie behind the place. -/
structure Fault where
  cause : Cause
  unread : Nat

namespace Fault

/-- A fault in front of the rest of a text. -/
def here (cause : Cause) (rest : List Char) : Fault :=
  ⟨cause, byteLength rest⟩

/-- A fault one byte into the rest of a text, or at its end if nothing is left. -/
def next (cause : Cause) (rest : List Char) : Fault :=
  ⟨cause, byteLength rest - 1⟩

end Fault

/-- A line, counted from one, and a column, the distance in bytes from the start of the line. -/
structure Place where
  line : Nat
  column : Nat
  deriving DecidableEq

/-- The place in front of the last `unread` bytes of a text. -/
def Place.ofUnread (text : String) (unread : Nat) : Place :=
  let before := text.toUTF8.toList.take (text.utf8ByteSize - unread)
  { line := before.count 10 + 1
    column := (before.reverse.takeWhile (· != 10)).length }

/-- Why a text was refused, and where. -/
structure Error where
  cause : Cause
  place : Place
  deriving DecidableEq

/-- The text of a refusal. -/
def Error.message (error : Error) : String :=
  s!"{error.cause.message} at line {error.place.line} column {error.place.column}"

/-- A fault of a whole text, with its place in it. -/
def Fault.within (fault : Fault) (text : String) : Error :=
  ⟨fault.cause, .ofUnread text fault.unread⟩

end WastSuite.Json
