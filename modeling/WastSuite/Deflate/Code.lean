import WastSuite.Deflate.Bits

/-!
# Canonical codes

A code gives each symbol in use a word of bits, no word being the start of another. It is given by
the lengths of the words alone: words are assigned in order of length and then of symbol, each the
next free place of that size in the range from zero to `2 ^ maxLength`. `Code.ofLengths?` builds the
tree of a code, and refuses lengths that claim more than the whole range, or less. A block may still
give a code without words, or one with a single word of one bit. `Code.readSymbol` walks the tree
bit by bit.

Main statement: a symbol takes at least one bit (`length_readSymbol_lt`).
-/

set_option autoImplicit false

namespace WastSuite.Deflate

/-- The words of a code as the paths of a tree. No word goes through a vacant place, the word of a
symbol ends at a leaf, and at a branch words go on with a zero or a one. -/
inductive Code where
  | vacant
  | leaf (symbol : Nat)
  | branch (zero one : Code)

namespace Code

/-- The greatest length of a word. -/
def maxLength : Nat := 15

/-- The code with one more word. -/
def insert (symbol : Nat) : List Bool → Code → Code
  | [], _ => .leaf symbol
  | bit :: word, .branch zero one =>
    if bit then .branch zero (insert symbol word one) else .branch (insert symbol word zero) one
  | bit :: word, _ =>
    if bit then .branch .vacant (insert symbol word .vacant)
    else .branch (insert symbol word .vacant) .vacant

/-- The bits of a number, high bit first. -/
def wordOf (length value : Nat) : List Bool :=
  ((List.range length).map fun index ↦ value.testBit index).reverse

/-- The code with a word for each pair of a length and a symbol, from a place in the range on. -/
def assign : Nat → List (Nat × Nat) → Code → Code
  | _, [], code => code
  | place, (length, symbol) :: rest, code =>
    let size := Nat.pow 2 (maxLength - length)
    assign (place + size) rest (insert symbol (wordOf length (place / size)) code)

/-- The symbols in use with their lengths, in order of length and then of symbol. -/
def used (lengths : List Nat) : List (Nat × Nat) :=
  (lengths.zipIdx.filter fun entry ↦ entry.1 ≠ 0).mergeSort fun first second ↦ first.1 ≤ second.1

/-- How much of the range the words of a code claim. -/
def claimed (words : List (Nat × Nat)) : Nat :=
  words.foldr (fun entry total ↦ Nat.pow 2 (maxLength - entry.1) + total) 0

/-- Whether there is no word, or one of one bit. -/
def minimal (words : List (Nat × Nat)) : Bool :=
  words.length ≤ 1 && words.all fun word ↦ word.1 == 1

/-- The code with words of the given lengths, zero for a symbol that is not in use. The words must
claim the whole range, unless `lenient` allows a minimal code. -/
def ofLengths? (lenient : Bool) (lengths : List Nat) : Option Code :=
  let words := used lengths
  if claimed words = Nat.pow 2 maxLength ∨ (lenient && minimal words) then
    some (assign 0 words .vacant)
  else none

/-- Reads the rest of a word. The stream is corrupt if no word goes on like this, and truncated if
the bits end within a word. -/
def follow : Code → List Bool → Except InflateFault (Nat × List Bool)
  | .leaf symbol, bits => .ok (symbol, bits)
  | .vacant, _ => .error .corrupt
  | .branch _ _, [] => .error .truncated
  | .branch zero one, bit :: bits => (if bit then one else zero).follow bits

/-- Reads a symbol, which takes at least one bit. -/
def readSymbol : Code → List Bool → Except InflateFault (Nat × List Bool)
  | _, [] => .error .truncated
  | .branch zero one, bit :: bits => (if bit then one else zero).follow bits
  | _, _ :: _ => .error .corrupt

/-- The rest of a word is read from the front. -/
theorem length_follow_le {code : Code} {bits : List Bool} :
    ∀ {symbol : Nat} {rest : List Bool}, code.follow bits = .ok (symbol, rest) →
      rest.length ≤ bits.length := by
  induction bits generalizing code with
  | nil =>
    intro symbol rest h
    cases code <;> simp_all [follow]
  | cons bit bits ih =>
    intro symbol rest h
    cases code with
    | vacant => simp [follow] at h
    | leaf found =>
      simp only [follow, Except.ok.injEq, Prod.mk.injEq] at h
      simp [← h.2]
    | branch zero one =>
      rw [follow] at h
      have := ih h
      simp only [List.length_cons]
      omega

/-- A symbol takes at least one bit. -/
theorem length_readSymbol_lt {code : Code} {bits rest : List Bool} {symbol : Nat}
    (h : code.readSymbol bits = .ok (symbol, rest)) : rest.length < bits.length := by
  unfold readSymbol at h
  split at h
  · cases h
  · have := length_follow_le h
    simp only [List.length_cons]
    omega
  · cases h

end Code

end WastSuite.Deflate
