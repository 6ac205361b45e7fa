import WastSuite.Text.Hex
import WastSuite.Text.Unprintable

/-!
# Text in quotes for messages

Messages show a text in double quotes so that every character can be told from its neighbours: the
quote and the backslash take a backslash, NUL, tab, carriage return and newline have their short
escapes, and any other character that does not show is written by its scalar value in hexadecimal
digits without padding, `\u{…}`. All other characters stand for themselves.
-/

set_option autoImplicit false

namespace WastSuite.Text

/-- How one character is written inside quotes. -/
def quotedChar (c : Char) : List Char :=
  if c = '"' then ['\\', '"']
  else if c = '\\' then ['\\', '\\']
  else if c = '\x00' then ['\\', '0']
  else if c = '\t' then ['\\', 't']
  else if c = '\r' then ['\\', 'r']
  else if c = '\n' then ['\\', 'n']
  else if isUnprintable c then ['\\', 'u', '{'] ++ hexDigits c.toNat ++ ['}']
  else [c]

/-- A text in double quotes, with escapes for what could be misread. -/
def quoted (text : String) : String :=
  String.ofList ('"' :: text.toList.flatMap quotedChar ++ ['"'])

end WastSuite.Text
