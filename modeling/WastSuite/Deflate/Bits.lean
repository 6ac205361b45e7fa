/-!
# Reading bits

A compressed stream is a sequence of bits, the low bit of each byte first. Numbers in it have a
fixed number of bits, low bit first. A reader takes the bits that are left and gives its result with
those behind it; it fails if the stream ends (`truncated`) or cannot be right (`corrupt`).

Main statement: a number takes exactly its bits (`length_readNumber`).
-/

set_option autoImplicit false

namespace WastSuite.Deflate

/-- Why a stream does not decompress: it ends before its last block does, or it holds something that
no compressor writes. -/
inductive InflateFault where
  | truncated
  | corrupt
  deriving DecidableEq

/-- The bits of a byte, low bit first. -/
def bitsOfByte (b : UInt8) : List Bool :=
  (List.range 8).map fun index ↦ b.toNat.testBit index

/-- The bits of a stream. -/
def bitsOf (stream : List UInt8) : List Bool :=
  stream.flatMap bitsOfByte

/-- Reads a number of so many bits. -/
def readNumber : Nat → List Bool → Except InflateFault (Nat × List Bool)
  | 0, bits => .ok (0, bits)
  | _ + 1, [] => .error .truncated
  | count + 1, bit :: bits => do
    let (value, rest) ← readNumber count bits
    .ok (2 * value + bit.toNat, rest)

/-- The bits from the next byte boundary on. -/
def alignToByte (bits : List Bool) : List Bool :=
  bits.drop (bits.length % 8)

/-- A number takes exactly its bits. -/
theorem length_readNumber {count : Nat} {bits : List Bool} :
    ∀ {value : Nat} {rest : List Bool}, readNumber count bits = .ok (value, rest) →
      rest.length + count = bits.length := by
  induction count generalizing bits with
  | zero =>
    intro value rest h
    simp only [readNumber, Except.ok.injEq, Prod.mk.injEq] at h
    simp [h.2]
  | succ count ih =>
    intro value rest h
    cases bits with
    | nil => simp [readNumber] at h
    | cons bit bits =>
      cases hrest : readNumber count bits with
      | error fault => simp [readNumber, hrest, bind, Except.bind] at h
      | ok result =>
        simp only [readNumber, hrest, bind, Except.bind, Except.ok.injEq, Prod.mk.injEq] at h
        have := ih hrest
        simp only [List.length_cons, ← h.2]
        omega

end WastSuite.Deflate
