/-!
# S-expressions

A test source is a forest of S-expressions. An expression is a parenthesised list of expressions or
an atom, one token of the source. An atom keeps the text of its token, whether the token stood in
double quotes, and whether the text holds one character per source byte (`bytewise`), which is how
a reader keeps bytes that are no text.

The views are `asAtom?`, `asList?` and `asSymbol?`, and the two that consumers use most: the symbol
at the head of a list (`headSymbol?`) and whether that symbol is a given keyword (`isHeadedBy`).
`Atom.bytes` narrows each character to its low eight bits. Main statements: it undoes the bytewise
reading of a byte string (`bytes_ofBytes`), its length is the number of characters
(`length_bytes`), and equality of expressions is structural and decidable.
-/

set_option autoImplicit false

namespace WastSuite

/-- One token of the source: its text, without quotes and with escapes resolved, whether it was a
string literal, and whether its bytes were no text (`bytewise`), so that `contents` holds one
character per byte. -/
structure Atom where
  contents : String
  quoted : Bool
  bytewise : Bool
  deriving DecidableEq, Inhabited

namespace Atom

/-- The low eight bits of each character. Where the contents hold one character per byte, these are
the bytes of the source. -/
def bytes (atom : Atom) : List UInt8 :=
  atom.contents.toList.map fun c ↦ c.val.toUInt8

/-- The string literal that holds a byte string, one character per byte. -/
def ofBytes (source : List UInt8) : Atom where
  contents := String.ofList (source.map fun b ↦ Char.ofNat b.toNat)
  quoted := true
  bytewise := true

/-- One byte comes from each character. -/
theorem length_bytes (atom : Atom) : atom.bytes.length = atom.contents.toList.length := by
  simp [bytes]

end Atom

/-- An expression: a parenthesised list, possibly empty and in source order, or a single token. -/
inductive SExpr where
  | list (items : List SExpr)
  | atom (token : Atom)
  deriving Inhabited

namespace SExpr

/-- The unquoted atom with a given text: a keyword, a number or an identifier. -/
def symbol (contents : String) : SExpr :=
  .atom ⟨contents, false, false⟩

/-- The string literal with a given text. -/
def string (contents : String) : SExpr :=
  .atom ⟨contents, true, false⟩

/-- The token, if the expression is an atom. -/
def asAtom? : SExpr → Option Atom
  | .atom token => some token
  | .list _ => none

/-- The children, if the expression is a list. -/
def asList? : SExpr → Option (List SExpr)
  | .list items => some items
  | .atom _ => none

/-- The text, if the expression is an unquoted atom. -/
def asSymbol? : SExpr → Option String
  | .atom ⟨contents, false, _⟩ => some contents
  | _ => none

/-- The text of the first child, if the expression is a list that starts with an unquoted atom. -/
def headSymbol? : SExpr → Option String
  | .list (first :: _) => first.asSymbol?
  | _ => none

/-- Whether the expression is a list that starts with the given keyword. -/
def isHeadedBy (expr : SExpr) (keyword : String) : Bool :=
  expr.headSymbol? == some keyword

/-! ### Structural equality -/

mutual

/-- Whether two expressions have the same shape and the same atoms. -/
def same : SExpr → SExpr → Bool
  | .atom first, .atom second => decide (first = second)
  | .list first, .list second => sameAll first second
  | .atom _, .list _ => false
  | .list _, .atom _ => false

/-- Whether two lists of expressions agree item by item. -/
def sameAll : List SExpr → List SExpr → Bool
  | [], [] => true
  | first :: firsts, second :: seconds => same first second && sameAll firsts seconds
  | [], _ :: _ => false
  | _ :: _, [] => false

end

mutual

/-- The comparison decides equality. -/
theorem same_iff : ∀ first second : SExpr, same first second = true ↔ first = second
  | .atom _, .atom _ => by simp [same]
  | .list firsts, .list seconds => by simp [same, sameAll_iff firsts seconds]
  | .atom _, .list _ => by simp [same]
  | .list _, .atom _ => by simp [same]

/-- The comparison of lists decides equality. -/
theorem sameAll_iff :
    ∀ firsts seconds : List SExpr, sameAll firsts seconds = true ↔ firsts = seconds
  | [], [] => by simp [sameAll]
  | first :: firsts, second :: seconds => by
    simp [sameAll, same_iff first second, sameAll_iff firsts seconds]
  | [], _ :: _ => by simp [sameAll]
  | _ :: _, [] => by simp [sameAll]

end

instance : DecidableEq SExpr := fun first second ↦
  decidable_of_iff _ (same_iff first second)

end SExpr

namespace Atom

/-- A byte read as a character narrows to itself. -/
theorem toUInt8_ofNat_toNat (b : UInt8) : (Char.ofNat b.toNat).val.toUInt8 = b := by
  have bound : b.toNat < 256 := b.toNat_lt
  have valid : b.toNat.isValidChar := Or.inl (by omega)
  apply UInt8.toNat_inj.mp
  rw [Char.ofNat, dif_pos valid, UInt32.toNat_toUInt8]
  show b.toNat % 256 = b.toNat
  omega

/-- Narrowing undoes the bytewise reading of any byte string. -/
theorem bytes_ofBytes (source : List UInt8) : (ofBytes source).bytes = source := by
  simp only [bytes, ofBytes, String.toList_ofList, List.map_map, Function.comp_def,
    toUInt8_ofNat_toNat, List.map_id']

end Atom

end WastSuite
