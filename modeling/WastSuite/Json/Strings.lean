import WastSuite.Json.Number

/-!
# JSON arrays of strings

`readStrings` reads a whole text that must be one JSON array of strings, with blanks between its
tokens, and gives the strings. `readString` reads one literal behind its opening quote: characters
from the space upwards stand for themselves, the short escapes and `\uXXXX` stand for one
character, and two escapes that form a surrogate pair for one character beyond U+FFFF. Where a
value of another type stands instead, it is read as far as needed to name it in the fault
(`wrongType`).

Main statement: a literal is never empty, so each step of the array reader leaves less to read
(`length_readString_lt`).
-/

set_option autoImplicit false

namespace WastSuite.Json

/-- Whether a character is a blank between tokens. -/
def isBlank (c : Char) : Bool :=
  c == ' ' || c == '\n' || c == '\t' || c == '\r'

/-- The text from its first character that is no blank. -/
def skipBlanks (text : List Char) : List Char :=
  text.dropWhile isBlank

/-! ### String literals -/

/-- The value of four hexadecimal digits. -/
def hexQuad? (first second third fourth : Char) : Option Nat := do
  let a ← Text.hexValue? first
  let b ← Text.hexValue? second
  let c ← Text.hexValue? third
  let d ← Text.hexValue? fourth
  some (((a * 16 + b) * 16 + c) * 16 + d)

/-- Whether a unit is the first of a surrogate pair. -/
def isHighSurrogate (unit : Nat) : Bool :=
  0xD800 ≤ unit && unit < 0xDC00

/-- Whether a unit is the second of a surrogate pair. -/
def isLowSurrogate (unit : Nat) : Bool :=
  0xDC00 ≤ unit && unit < 0xE000

/-- The character that a surrogate pair stands for. -/
def pairChar (high low : Nat) : Char :=
  Char.ofNat (0x10000 + (high - 0xD800) * 0x400 + (low - 0xDC00))

/-- The character that a backslash and a letter stand for. -/
def shortEscape? (letter : Char) : Option Char :=
  if letter = '"' then some '"'
  else if letter = '\\' then some '\\'
  else if letter = '/' then some '/'
  else if letter = 'b' then some '\x08'
  else if letter = 'f' then some '\x0c'
  else if letter = 'n' then some '\n'
  else if letter = 'r' then some '\r'
  else if letter = 't' then some '\t'
  else none

/-- The fault of four bytes that are no hexadecimal digits, in front of the text that holds them:
there are fewer than four, or they are others. -/
def badQuad (text : List Char) : Fault :=
  if byteLength text < 4 then ⟨.endInString, 0⟩ else ⟨.badEscape, byteLength text - 4⟩

/-- A character in front of what a reader gives. -/
def withChar (c : Char) (read : Except Fault (List Char × List Char)) :
    Except Fault (List Char × List Char) :=
  read.map fun (chars, rest) ↦ (c :: chars, rest)

/-- Reads a string literal behind its opening quote, up to and with its closing quote. -/
def readString : List Char → Except Fault (List Char × List Char)
  | [] => .error (.here .endInString [])
  | '"' :: text => .ok ([], text)
  | '\\' :: 'u' :: a :: b :: c :: d :: text =>
    match hexQuad? a b c d with
    | none => .error (badQuad (a :: b :: c :: d :: text))
    | some unit =>
      if isLowSurrogate unit then .error (.here .loneSurrogate text)
      else if isHighSurrogate unit then
        match text with
        | '\\' :: 'u' :: e :: f :: g :: h :: further =>
          match hexQuad? e f g h with
          | none => .error (badQuad (e :: f :: g :: h :: further))
          | some low =>
            if isLowSurrogate low then withChar (pairChar unit low) (readString further)
            else .error (.here .loneSurrogate further)
        | '\\' :: 'u' :: further => .error (badQuad further)
        | ['\\'] => .error (.here .endInString [])
        | '\\' :: further => .error (.next .cutSurrogatePair further)
        | [] => .error (.here .endInString [])
        | further => .error (.next .cutSurrogatePair further)
      else withChar (Char.ofNat unit) (readString text)
  | '\\' :: 'u' :: text => .error (badQuad text)
  | ['\\'] => .error (.here .endInString [])
  | '\\' :: letter :: text =>
    match shortEscape? letter with
    | some c => withChar c (readString text)
    | none => .error (.next .badEscape (letter :: text))
  | c :: text =>
    if c.toNat < 0x20 then .error (.next .controlCharacter (c :: text))
    else withChar c (readString text)

/-- What `withChar` gives comes from what it was given. -/
theorem withChar_eq_ok {c : Char} {read : Except Fault (List Char × List Char)}
    {chars rest : List Char} (h : withChar c read = .ok (chars, rest)) :
    ∃ tail, read = .ok (tail, rest) ∧ chars = c :: tail := by
  cases read with
  | error fault => simp [withChar, Except.map] at h
  | ok result =>
    obtain ⟨tail, behind⟩ := result
    simp only [withChar, Except.map, Except.ok.injEq, Prod.mk.injEq] at h
    exact ⟨tail, by rw [h.2], h.1.symm⟩

/-- Reading a literal leaves less than there was. -/
theorem length_readString_lt (text : List Char) :
    ∀ {chars rest : List Char}, readString text = .ok (chars, rest) →
      rest.length < text.length := by
  fun_induction readString text with
  | case2 text =>
    intro chars rest h
    simp only [Except.ok.injEq, Prod.mk.injEq] at h
    simp [← h.2]
  | case6 | case13 | case16 | case19 =>
    intro chars rest h
    rename_i ih
    obtain ⟨tail, htail, -⟩ := withChar_eq_ok h
    have := ih htail
    simp only [List.length_cons]
    omega
  | _ => simp

/-! ### Values of other types -/

/-- Reads the letters of a literal behind its first. -/
def readLiteral (found : Found) : List Char → List Char → Except Fault (Found × List Char)
  | [], text => .ok (found, text)
  | _ :: _, [] => .error (.here .endInValue [])
  | letter :: letters, c :: text =>
    if c = letter then readLiteral found letters text
    else .error (.next .noLiteral (c :: text))

/-- Reads a value as far as a message needs to name it. Arrays and objects stay unread. -/
def readFound (text : List Char) : Except Fault (Found × List Char) :=
  match text with
  | 'n' :: rest => readLiteral .null ['u', 'l', 'l'] rest
  | 't' :: rest => readLiteral (.boolean true) ['r', 'u', 'e'] rest
  | 'f' :: rest => readLiteral (.boolean false) ['a', 'l', 's', 'e'] rest
  | '-' :: rest => readNumber true rest
  | '"' :: rest =>
    (readString rest).map fun (chars, rest) ↦ (.string (String.ofList chars), rest)
  | '[' :: _ => .ok (.array, text)
  | '{' :: _ => .ok (.object, text)
  | c :: _ => if isDigit c then readNumber false text else .error (.next .noValue text)
  | [] => .error (.next .noValue [])

/-- The fault of a value that is not of the type wanted, or the fault met while it was read. -/
def wrongType (wanted : Wanted) (text : List Char) : Fault :=
  match readFound text with
  | .ok (found, rest) => .here (.wrongType found wanted) rest
  | .error fault => fault

/-! ### Arrays -/

/-- Reads an item, which must be a string. -/
def readItem (text : List Char) : Except Fault (List Char × List Char) :=
  match text with
  | '"' :: rest => readString rest
  | other => .error (wrongType .string other)

/-- Reading an item leaves less than there was. -/
theorem length_readItem_lt {text chars rest : List Char}
    (h : readItem text = .ok (chars, rest)) : rest.length < text.length := by
  unfold readItem at h
  split at h
  · have := length_readString_lt _ h
    simp only [List.length_cons]
    omega
  · simp at h

/-- Skipping blanks leaves no more than there was. -/
theorem length_skipBlanks_le (text : List Char) : (skipBlanks text).length ≤ text.length :=
  (List.dropWhile_suffix _).length_le

/-- Reads the items behind the first, each behind a comma, up to and with the closing bracket. -/
def readMore (text : List Char) : Except Fault (List String × List Char) :=
  match _hblank : skipBlanks text with
  | [] => .error (.next .endInArray [])
  | ']' :: rest => .ok ([], rest)
  | ',' :: rest =>
    match _hcomma : skipBlanks rest with
    | [] => .error (.next .endInValue [])
    | ']' :: further => .error (.next .trailingComma (']' :: further))
    | start =>
      match _hitem : readItem start with
      | .error fault => .error fault
      | .ok (chars, behind) =>
        (readMore behind).map fun (names, rest) ↦ (String.ofList chars :: names, rest)
  | other => .error (.next .noCommaOrBracket other)
termination_by text.length
decreasing_by
  have first := length_skipBlanks_le text
  have second := length_skipBlanks_le rest
  have third := length_readItem_lt _hitem
  rw [_hblank] at first
  simp only [List.length_cons] at first
  simp_all only
  omega

/-- Reads the items behind the opening bracket, up to and with the closing one. -/
def readItems (text : List Char) : Except Fault (List String × List Char) :=
  match skipBlanks text with
  | [] => .error (.next .endInArray [])
  | ']' :: rest => .ok ([], rest)
  | start => do
    let (chars, behind) ← readItem start
    let (names, rest) ← readMore behind
    .ok (String.ofList chars :: names, rest)

/-- Reads a text that is one JSON array of strings. -/
def readStrings (text : String) : Except Fault (List String) :=
  match skipBlanks text.toList with
  | [] => .error (.next .endInValue [])
  | '[' :: rest => do
    let (names, behind) ← readItems rest
    match skipBlanks behind with
    | [] => .ok names
    | further => .error (.next .trailingText further)
  | other => .error (wrongType .array other)

end WastSuite.Json
