import WastSuite.SExpr.Basic
import WastSuite.Text.Hex

/-!
# The written form of an expression

A list is written in parentheses with one space between its items, an unquoted atom as its bare
text, and a quoted atom as a string literal. Inside a literal the quote and the backslash are
escaped by a backslash, newline and tab are `\n` and `\t`, and every other control character is a
backslash and two hexadecimal digits. A bytewise atom writes its characters above U+007F that way
too, by their low eight bits, so that the literal spells bytes.

The printers put text in front of a rest (`onto`), so an expression is written in time linear in
its text. Main statement: what stands behind does not change what is written (`onto_append`,
`ontoAll_append`), which is what a reader that stops at the end of an expression needs.
-/

set_option autoImplicit false

namespace WastSuite

namespace Atom

/-- A backslash and the two hexadecimal digits of a byte. -/
def byteEscape (b : UInt8) : List Char :=
  ['\\', Text.hexDigit (b.toNat / 16), Text.hexDigit (b.toNat % 16)]

/-- How one character is written inside a string literal. -/
def escape (bytewise : Bool) (c : Char) : List Char :=
  if c = '"' then ['\\', '"']
  else if c = '\\' then ['\\', '\\']
  else if c = '\n' then ['\\', 'n']
  else if c = '\t' then ['\\', 't']
  else if c.toNat < 0x20 ∨ c.toNat = 0x7f then byteEscape c.val.toUInt8
  else if bytewise ∧ 0x7f < c.toNat then byteEscape c.val.toUInt8
  else [c]

/-- The characters of an atom's written form. -/
def chars (atom : Atom) : List Char :=
  if atom.quoted then '"' :: atom.contents.toList.flatMap (escape atom.bytewise) ++ ['"']
  else atom.contents.toList

/-- The written form of an atom. -/
def render (atom : Atom) : String :=
  String.ofList atom.chars

end Atom

namespace SExpr

mutual

/-- An expression's written form, put in front of a rest. -/
def onto : SExpr → List Char → List Char
  | .atom token, rest => token.chars ++ rest
  | .list items, rest => '(' :: ontoAll items (')' :: rest)

/-- The written forms of a list's items, one space between them, put in front of a rest. -/
def ontoAll : List SExpr → List Char → List Char
  | [], rest => rest
  | [item], rest => onto item rest
  | item :: next :: items, rest => onto item (' ' :: ontoAll (next :: items) rest)

end

/-- The characters of an expression's written form. -/
def chars (expr : SExpr) : List Char :=
  expr.onto []

/-- The written form of an expression. -/
def render (expr : SExpr) : String :=
  String.ofList expr.chars

mutual

/-- What stands behind an expression does not change how it is written. -/
theorem onto_append : ∀ (expr : SExpr) (middle rest : List Char),
    expr.onto (middle ++ rest) = expr.onto middle ++ rest
  | .atom token, middle, rest => by simp [onto]
  | .list items, middle, rest => by
    simp only [onto, List.cons_append]
    rw [← List.cons_append, ontoAll_append items]

/-- What stands behind the items of a list does not change how they are written. -/
theorem ontoAll_append : ∀ (items : List SExpr) (middle rest : List Char),
    ontoAll items (middle ++ rest) = ontoAll items middle ++ rest
  | [], middle, rest => by simp [ontoAll]
  | [item], middle, rest => by simp only [ontoAll, onto_append item]
  | item :: next :: items, middle, rest => by
    simp only [ontoAll]
    rw [ontoAll_append (next :: items), ← List.cons_append, onto_append item]

end

/-- The written form in front of a rest is the written form followed by the rest. -/
theorem onto_eq (expr : SExpr) (rest : List Char) : expr.onto rest = expr.chars ++ rest := by
  rw [chars, ← onto_append, List.nil_append]

end SExpr

end WastSuite
