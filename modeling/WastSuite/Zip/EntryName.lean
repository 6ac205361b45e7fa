/-!
# Names of entries

The name of an entry is stored as bytes, and a flag says whether they are UTF-8. If not, each byte
is a character of code page 437 (`ofCodePage`). If they are, each longest piece that starts like a
character and does not go on like one is replaced by U+FFFD, and so is each byte that starts none
(`ofUtf8`), so every byte string has a name.
-/

set_option autoImplicit false

namespace WastSuite.Zip

/-- The characters of code page 437 for the bytes from 0x80 on. -/
def upperHalf : List Char :=
  ['Ç', 'ü', 'é', 'â', 'ä', 'à', 'å', 'ç', 'ê', 'ë', 'è', 'ï', 'î', 'ì', 'Ä', 'Å', 'É', 'æ', 'Æ',
    'ô', 'ö', 'ò', 'û', 'ù', 'ÿ', 'Ö', 'Ü', '¢', '£', '¥', '₧', 'ƒ', 'á', 'í', 'ó', 'ú', 'ñ', 'Ñ',
    'ª', 'º', '¿', '⌐', '¬', '½', '¼', '¡', '«', '»', '░', '▒', '▓', '│', '┤', '╡', '╢', '╖', '╕',
    '╣', '║', '╗', '╝', '╜', '╛', '┐', '└', '┴', '┬', '├', '─', '┼', '╞', '╟', '╚', '╔', '╩', '╦',
    '╠', '═', '╬', '╧', '╨', '╤', '╥', '╙', '╘', '╒', '╓', '╫', '╪', '┘', '┌', '█', '▄', '▌', '▐',
    '▀', 'α', 'ß', 'Γ', 'π', 'Σ', 'σ', 'µ', 'τ', 'Φ', 'Θ', 'Ω', 'δ', '∞', 'φ', 'ε', '∩', '≡', '±',
    '≥', '≤', '⌠', '⌡', '÷', '≈', '°', '∙', '·', '√', 'ⁿ', '²', '■', '\u00a0']

/-- The character of code page 437 for a byte. -/
def codePageChar (byte : UInt8) : Char :=
  if byte < 0x80 then Char.ofNat byte.toNat
  else (upperHalf[byte.toNat - 0x80]?).getD '\u00a0'

/-- The name that bytes spell in code page 437. -/
def ofCodePage (bytes : List UInt8) : String :=
  String.ofList (bytes.map codePageChar)

/-- What stands for a piece that is no character. -/
def replacement : Char := '\uFFFD'

/-- Whether a byte continues a character. -/
def continues (byte : UInt8) : Bool :=
  0x80 ≤ byte && byte ≤ 0xBF

/-- Whether a byte can follow the first byte of a character of three bytes. -/
def secondOfThree (lead byte : UInt8) : Bool :=
  if lead = 0xE0 then 0xA0 ≤ byte && byte ≤ 0xBF
  else if lead = 0xED then 0x80 ≤ byte && byte ≤ 0x9F
  else continues byte

/-- Whether a byte can follow the first byte of a character of four bytes. -/
def secondOfFour (lead byte : UInt8) : Bool :=
  if lead = 0xF0 then 0x90 ≤ byte && byte ≤ 0xBF
  else if lead = 0xF4 then 0x80 ≤ byte && byte ≤ 0x8F
  else continues byte

/-- The character whose scalar value the first byte starts and six bits of each other byte go on. -/
def charOf (start : Nat) (others : List UInt8) : Char :=
  Char.ofNat (others.foldl (fun value byte ↦ value * 64 + byte.toNat % 64) start)

/-- The characters that bytes spell in UTF-8, with replacements. -/
def utf8Chars : List UInt8 → List Char
  | [] => []
  | a :: bytes =>
    if a < 0x80 then Char.ofNat a.toNat :: utf8Chars bytes
    else if 0xC2 ≤ a ∧ a ≤ 0xDF then
      match bytes with
      | b :: rest =>
        if continues b then charOf (a.toNat % 32) [b] :: utf8Chars rest
        else replacement :: utf8Chars (b :: rest)
      | [] => [replacement]
    else if 0xE0 ≤ a ∧ a ≤ 0xEF then
      match bytes with
      | b :: c :: rest =>
        if secondOfThree a b then
          if continues c then charOf (a.toNat % 16) [b, c] :: utf8Chars rest
          else replacement :: utf8Chars (c :: rest)
        else replacement :: utf8Chars (b :: c :: rest)
      | [b] => if secondOfThree a b then [replacement] else replacement :: utf8Chars [b]
      | [] => [replacement]
    else if 0xF0 ≤ a ∧ a ≤ 0xF4 then
      match bytes with
      | b :: c :: d :: rest =>
        if secondOfFour a b then
          if continues c then
            if continues d then charOf (a.toNat % 8) [b, c, d] :: utf8Chars rest
            else replacement :: utf8Chars (d :: rest)
          else replacement :: utf8Chars (c :: d :: rest)
        else replacement :: utf8Chars (b :: c :: d :: rest)
      | [b, c] =>
        if secondOfFour a b then
          if continues c then [replacement] else replacement :: utf8Chars [c]
        else replacement :: utf8Chars [b, c]
      | [b] => if secondOfFour a b then [replacement] else replacement :: utf8Chars [b]
      | [] => [replacement]
    else replacement :: utf8Chars bytes

/-- The name that bytes spell in UTF-8, with replacements. -/
def ofUtf8 (bytes : List UInt8) : String :=
  String.ofList (utf8Chars bytes)

end WastSuite.Zip
