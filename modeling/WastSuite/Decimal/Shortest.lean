/-!
# The fewest digits that read back

A finite binary float is `mantissa · 2 ^ scale`, and every real number in an interval around it
rounds to it (`Binary.lower`, `Binary.upper`, ends included exactly for an even mantissa). Its
shortest decimal has the fewest digits among the decimals in that interval, and of those with the
fewest it is the nearest, ties to the even digit.

`shortest` tests, for one digit, two digits and so on, the two neighbours of the value on the grid
of decimals with that many digits, in exact natural arithmetic. Seventeen digits always suffice.
`DecimalLayout` holds the decisions of a number format, and `DecimalLayout.render` writes a float.
-/

set_option autoImplicit false

namespace WastSuite

/-- A positive number `mantissa · 2 ^ scale`, with whether the next smaller float is only half as
far away as the next larger one (`narrowBelow`). -/
structure Binary where
  mantissa : Nat
  scale : Int
  narrowBelow : Bool

namespace Binary

/-- The multiple of the unit `2 ^ (scale - 2)` below which decimals round to the next smaller
float. -/
def lower (value : Binary) : Nat :=
  4 * value.mantissa - if value.narrowBelow then 1 else 2

/-- The multiple of the unit `2 ^ (scale - 2)` above which decimals round to the next larger
float. -/
def upper (value : Binary) : Nat :=
  4 * value.mantissa + 2

/-- The unit `2 ^ (scale - 2)` as a fraction. -/
def unit (value : Binary) : Nat × Nat :=
  if 2 ≤ value.scale then (Nat.pow 2 (value.scale - 2).toNat, 1)
  else (1, Nat.pow 2 (2 - value.scale).toNat)

/-- The positive number behind the bits of a finite float without its sign. -/
def ofBits (bits : Nat) : Binary :=
  let hidden : Nat := Nat.pow 2 52
  let exponent : Nat := bits / hidden
  let fraction : Nat := bits % hidden
  if exponent = 0 then ⟨fraction, -1074, false⟩
  else ⟨hidden + fraction, (exponent : Int) - 1075, fraction == 0 && 1 < exponent⟩

end Binary

/-- A decimal `digits · 10 ^ exponent`, its digits read as a natural number. -/
structure Decimal where
  digits : Nat
  exponent : Int

namespace Decimal

/-- A power of ten as a fraction. -/
def tenTo (exponent : Int) : Nat × Nat :=
  if 0 ≤ exponent then (Nat.pow 10 exponent.toNat, 1) else (1, Nat.pow 10 (-exponent).toNat)

/-- The least power of ten above a positive float: `value < 10 ^ ceiling` and no smaller power. -/
def ceiling (value : Binary) : Int :=
  let (num, den) := value.unit
  let above (index : Nat) : Bool :=
    let (top, bottom) := tenTo ((index : Int) - 330)
    4 * value.mantissa * num * bottom < top * den
  ((List.range 650).find? above).getD 650 - 330

/-- The decimal with `count` digits that rounds to the float and is nearest to it, if there is
one. -/
def ofCount? (value : Binary) (count : Nat) : Option Decimal :=
  let (num, den) := value.unit
  let exponent := ceiling value - count
  let (top, bottom) := tenTo exponent
  -- All quantities are compared as multiples of `1 / (den * bottom)`.
  let step := top * den
  let exact := 4 * value.mantissa * num * bottom
  let low := value.lower * num * bottom
  let high := value.upper * num * bottom
  let closed := value.mantissa % 2 == 0
  let holds (digits : Nat) : Bool :=
    let point := digits * step
    if closed then low ≤ point && point ≤ high else low < point && point < high
  let below := exact / step
  let above := below + 1
  let distanceBelow := exact - below * step
  let distanceAbove := above * step - exact
  let preferBelow :=
    distanceBelow < distanceAbove || (distanceBelow == distanceAbove && below % 2 == 0)
  if holds below && holds above then some ⟨if preferBelow then below else above, exponent⟩
  else if holds below then some ⟨below, exponent⟩
  else if holds above then some ⟨above, exponent⟩
  else none

/-- The shortest decimal of a positive float. -/
def shortest (value : Binary) : Decimal :=
  ((List.range 17).findSome? fun index ↦ ofCount? value (index + 1)).getD ⟨0, 0⟩

end Decimal

/-- The decisions of a number format for floats: the least and the greatest power of ten of a
leading digit that is still written positionally, and the sign that is put before an exponent
that is not negative. -/
structure DecimalLayout where
  leastPositional : Int
  greatestPositional : Int
  plus : String

namespace DecimalLayout

/-- The text of a decimal with the given digits, whose leading digit stands for a power of ten. -/
def renderDigits (layout : DecimalLayout) (digits : List Char) (lead : Int) : String :=
  if layout.leastPositional ≤ lead ∧ lead ≤ layout.greatestPositional then
    if lead < 0 then
      String.ofList (['0', '.'] ++ List.replicate (-lead - 1).toNat '0' ++ digits)
    else
      let whole := digits ++ List.replicate (lead.toNat + 1 - digits.length) '0'
      let fraction := whole.drop (lead.toNat + 1)
      String.ofList (whole.take (lead.toNat + 1) ++ ['.'] ++
        if fraction.isEmpty then ['0'] else fraction)
  else
    let fraction := digits.drop 1
    let mantissa := digits.take 1 ++ if fraction.isEmpty then [] else '.' :: fraction
    let sign := if lead < 0 then "-" else layout.plus
    String.ofList mantissa ++ "e" ++ sign ++ String.ofList (Nat.toDigits 10 lead.natAbs)

/-- Digits without the zeros at their end. -/
def significant (digits : List Char) : List Char :=
  (digits.reverse.dropWhile (· = '0')).reverse

/-- The text of a finite float: the sign, then the shortest digits in this layout. -/
def render (layout : DecimalLayout) (value : Float) : String :=
  let bits := value.toBits.toNat
  let signBit := Nat.pow 2 63
  let sign := if bits / signBit = 1 then "-" else ""
  let size := bits % signBit
  if size = 0 then sign ++ "0.0"
  else
    let decimal := Decimal.shortest (Binary.ofBits size)
    let digits := Nat.toDigits 10 decimal.digits
    sign ++ layout.renderDigits (significant digits) (decimal.exponent + digits.length - 1)

end DecimalLayout

end WastSuite
