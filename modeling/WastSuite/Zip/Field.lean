/-!
# Fields of an archive

Numbers in an archive stand at byte offsets, low byte first. A number that reaches past the end of
the content is no number. `slice` takes bytes from an offset on, as many as there are.
-/

set_option autoImplicit false

namespace WastSuite.Zip

/-- The byte at an offset, if the content reaches so far. -/
def byteAt? (content : ByteArray) (offset : Nat) : Option Nat :=
  if h : offset < content.size then some (content[offset]).toNat else none

/-- The number of so many bytes at an offset, low byte first. -/
def numberAt? (content : ByteArray) : Nat → Nat → Option Nat
  | 0, _ => some 0
  | width + 1, offset => do
    let low ← byteAt? content offset
    let high ← numberAt? content width (offset + 1)
    some (low + 256 * high)

/-- So many bytes from an offset on, or those that there are. -/
def slice (content : ByteArray) (offset count : Nat) : ByteArray :=
  if offset < content.size then content.extract offset (min (offset + count) content.size)
  else ByteArray.empty

/-- So many bytes from an offset on, if there are as many. -/
def slice? (content : ByteArray) (offset count : Nat) : Option ByteArray :=
  if offset + count ≤ content.size then some (slice content offset count) else none

/-- The number of so many bytes at the front of some bytes, low byte first, and those behind it. -/
def takeNumber? : Nat → List UInt8 → Option (Nat × List UInt8)
  | 0, bytes => some (0, bytes)
  | _ + 1, [] => none
  | width + 1, low :: bytes => do
    let (high, rest) ← takeNumber? width bytes
    some (low.toNat + 256 * high, rest)

end WastSuite.Zip
