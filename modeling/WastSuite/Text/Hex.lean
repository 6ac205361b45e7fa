/-!
# Hexadecimal digits

Digits are written in lower case and read in either. Main statement: a digit that is written is read
as its value (`hexValue?_hexDigit`).
-/

set_option autoImplicit false

namespace WastSuite.Text

/-- The hexadecimal digit of a value, in lower case. -/
def hexDigit (value : Nat) : Char :=
  Char.ofNat (if value < 10 then 48 + value else 87 + value)

/-- The digits of a number in base sixteen, in lower case and without leading zeros. -/
def hexDigits (value : Nat) : List Char :=
  Nat.toDigits 16 value

/-- The value of a hexadecimal digit in either case, if the character is one. -/
def hexValue? (c : Char) : Option Nat :=
  if '0' ≤ c ∧ c ≤ '9' then some (c.toNat - 48)
  else if 'a' ≤ c ∧ c ≤ 'f' then some (c.toNat - 87)
  else if 'A' ≤ c ∧ c ≤ 'F' then some (c.toNat - 55)
  else none

theorem hexValue?_hexDigit {value : Nat} (h : value < 16) :
    hexValue? (hexDigit value) = some value := by
  revert value
  decide

end WastSuite.Text
