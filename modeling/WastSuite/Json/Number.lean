import WastSuite.Json.Fault

/-!
# JSON numbers

A number is read digit by digit into a significand of 64 bits. Once the next digit would not fit,
the digits that follow in the whole part only scale the value by ten, and those in the fraction are
dropped. Without fraction and exponent a number that fits is an integer, of 64 bits and unsigned, or
signed if it is negative; every other number, and negative zero, is the float that comes from the
significand by one multiplication or division by a power of ten. A number that grows past every
float is refused.

The readers take the text behind the sign and return the number with the rest of the text.
-/

set_option autoImplicit false

namespace WastSuite.Json

/-- The value of a decimal digit, if the character is one. -/
def digitValue? (c : Char) : Option Nat :=
  if '0' ≤ c ∧ c ≤ '9' then some (c.toNat - 48) else none

/-- Whether a character is a decimal digit. -/
def isDigit (c : Char) : Bool :=
  (digitValue? c).isSome

/-- Reads digits behind a number as long as it stays at or below a limit. The result is the number,
how many digits went into it, and the rest of the text. -/
def gatherDigits (limit : Nat) : Nat → List Char → Nat × Nat × List Char
  | value, [] => (value, 0, [])
  | value, c :: text =>
    match digitValue? c with
    | some digit =>
      if value * 10 + digit ≤ limit then
        let (result, count, rest) := gatherDigits limit (value * 10 + digit) text
        (result, count + 1, rest)
      else (value, 0, c :: text)
    | none => (value, 0, c :: text)

/-- The greatest significand. -/
def significandLimit : Nat := Nat.pow 2 64 - 1

/-- The greatest exponent that is counted out. -/
def exponentLimit : Nat := Nat.pow 2 31 - 1

/-- The greatest power of ten that is a float. -/
def powerLimit : Nat := 308

/-- A power of ten as a float. -/
def powerOfTen (exponent : Nat) : Float :=
  Float.ofScientific 1 false exponent

/-- Scales a float by a power of ten. A float that grows past every finite one gives nothing. -/
def scaleByTen (value : Float) (exponent : Int) : Option Float :=
  if exponent.natAbs ≤ powerLimit then
    if 0 ≤ exponent then
      let result := value * powerOfTen exponent.natAbs
      if result.isInf then none else some result
    else some (value / powerOfTen exponent.natAbs)
  else if value == 0.0 then some value
  else if 0 ≤ exponent then none
  else scaleByTen (value / powerOfTen powerLimit) (exponent + powerLimit)
termination_by exponent.natAbs
decreasing_by
  simp only [powerLimit] at *
  omega

/-- A float with its sign. -/
def signed (negative : Bool) (value : Float) : Float :=
  if negative then -value else value

/-- The float of a significand and a power of ten, in front of the rest of a text. -/
def finishFloat (negative : Bool) (significand : Nat) (exponent : Int) (rest : List Char) :
    Except Fault (Float × List Char) :=
  match scaleByTen (UInt64.ofNat significand).toFloat exponent with
  | some value => .ok (signed negative value, rest)
  | none => .error (.here .hugeNumber rest)

/-- Reads the sign and the digits behind the letter of an exponent. -/
def readExponent (negative : Bool) (significand : Nat) (start : Int) (text : List Char) :
    Except Fault (Float × List Char) :=
  let (shrinks, text) := match text with
    | '+' :: text => (false, text)
    | '-' :: text => (true, text)
    | _ => (false, text)
  match text with
  | [] => .error (.here .endInValue [])
  | c :: digits =>
    match digitValue? c with
    | none => .error (.next .badNumber (c :: digits))
    | some first =>
      let (size, _, rest) := gatherDigits exponentLimit first digits
      match rest with
      | d :: further =>
        if isDigit d then
          if significand ≠ 0 ∧ !shrinks then .error (.here .hugeNumber further)
          else .ok (signed negative 0.0, further.dropWhile isDigit)
        else finishFloat negative significand (if shrinks then start - size else start + size) rest
      | [] => finishFloat negative significand (if shrinks then start - size else start + size) []

/-- Reads an exponent if one follows, and makes the float. -/
def readOptionalExponent (negative : Bool) (significand : Nat) (exponent : Int)
    (text : List Char) : Except Fault (Float × List Char) :=
  match text with
  | 'e' :: rest => readExponent negative significand exponent rest
  | 'E' :: rest => readExponent negative significand exponent rest
  | rest => finishFloat negative significand exponent rest

/-- Reads the digits behind the point. There must be one. -/
def readFraction (negative : Bool) (significand : Nat) (exponent : Int) (text : List Char) :
    Except Fault (Float × List Char) :=
  let (significand, count, rest) := gatherDigits significandLimit significand text
  match rest with
  | [] =>
    if count = 0 then .error (.here .endInValue [])
    else finishFloat negative significand (exponent - count) []
  | c :: _ =>
    if count = 0 ∧ !isDigit c then .error (.next .badNumber rest)
    else readOptionalExponent negative significand (exponent - count) (rest.dropWhile isDigit)

/-- Reads what follows the whole part of a number whose digits did not all fit. -/
def readLong (negative : Bool) (significand : Nat) (text : List Char) :
    Except Fault (Float × List Char) :=
  let dropped := (text.takeWhile isDigit).length
  match text.dropWhile isDigit with
  | '.' :: rest => readFraction negative significand dropped rest
  | rest => readOptionalExponent negative significand dropped rest

/-- Reads what follows the whole part of a number. -/
def readTail (negative : Bool) (significand : Nat) (text : List Char) :
    Except Fault (Found × List Char) :=
  let asFloat := fun (read : Except Fault (Float × List Char)) ↦
    read.map fun (value, rest) ↦ (Found.ofFloat value, rest)
  match text with
  | '.' :: rest => asFloat (readFraction negative significand 0 rest)
  | 'e' :: rest => asFloat (readExponent negative significand 0 rest)
  | 'E' :: rest => asFloat (readExponent negative significand 0 rest)
  | rest =>
    if !negative then .ok (.integer significand, rest)
    else if significand = 0 ∨ Nat.pow 2 63 < significand then
      .ok (.ofFloat (-(UInt64.ofNat significand).toFloat), rest)
    else .ok (.integer (-significand), rest)

/-- Reads a number behind its sign. -/
def readNumber (negative : Bool) (text : List Char) : Except Fault (Found × List Char) :=
  match text with
  | [] => .error (.here .endInValue [])
  | c :: text =>
    match digitValue? c with
    | none => .error (.next .badNumber (c :: text))
    | some 0 =>
      match text with
      | d :: _ => if isDigit d then .error (.next .badNumber text) else readTail negative 0 text
      | [] => readTail negative 0 []
    | some first =>
      let (significand, _, rest) := gatherDigits significandLimit first text
      match rest with
      | d :: _ =>
        if isDigit d then
          (readLong negative significand rest).map fun (value, rest) ↦ (.ofFloat value, rest)
        else readTail negative significand rest
      | [] => readTail negative significand []

end WastSuite.Json
