import WastSuite.Deflate.Inflate
import WastSuite.Zip.Checksum
import WastSuite.Zip.EndRecord

/-!
# Entries of an archive

The directory of an archive lists its entries: for each a name, a comment, how it is packed, its
sizes, the checksum of its data, and where its local header starts.

The data of an entry start behind its local header (`Entry.dataStart`), of which only the signature
and two lengths count, and are unpacked from as many bytes as the directory says (`Entry.unpack`).
The unpacked size that the directory declares is not compared with anything. But a buffer of that
size is asked for first, and none can be had beyond the greatest size of an object in memory.
-/

set_option autoImplicit false

namespace WastSuite.Zip

/-- What the directory says about an entry: its name with the bytes that this was read from, its
comment, whether it is encrypted and whether an extra field says that it is strongly so, how its
data are packed, their checksum, the number of packed bytes and the declared number of unpacked
ones, and the offset of the local header. -/
structure Entry where
  name : String
  nameBytes : List UInt8
  comment : String
  encrypted : Bool
  stronglyEncrypted : Bool
  method : Nat
  checksum : Nat
  packedSize : Nat
  declaredSize : Nat
  headerStart : Nat
  deriving DecidableEq

/-- Why the data of an entry cannot be had: the archive or the entry is refused, no buffer of the
declared size can be had, the packed data are no deflate stream or end too early, or the data do not
have the checksum. -/
inductive EntryFault where
  | refused (fault : Fault)
  | oversized
  | corruptStream
  | truncatedStream
  | wrongChecksum
  deriving DecidableEq

namespace Entry

/-! ### The data -/

/-- The signature of a local header. -/
def localSignature : Nat := 0x04034B50

/-- The size of a local header without its names. -/
def localSize : Nat := 30

/-- The offset of the data, behind the local header. -/
def dataStart (content : ByteArray) (entry : Entry) : Except Fault Nat :=
  let start := entry.headerStart
  if content.size < start + localSize then .error .unreadable
  else if numberAt? content 4 start ≠ some localSignature then .error .invalid
  else
    let nameLength := (numberAt? content 2 (start + 26)).getD 0
    let extraLength := (numberAt? content 2 (start + 28)).getD 0
    .ok (start + localSize + nameLength + extraLength)

/-- The method of data that are not packed. -/
def storedMethod : Nat := 0

/-- The method of data that are a deflate stream. -/
def deflateMethod : Nat := 8

/-- Whether the data can be had at all, the entry not being marked as encrypted. -/
def supported (entry : Entry) : Except Fault Unit :=
  if entry.method ≠ storedMethod ∧ entry.method ≠ deflateMethod then .error .unsupported
  else if entry.stronglyEncrypted then .error .passwordNeeded
  else .ok ()

/-- The greatest size of an object in memory. -/
def memoryLimit : Nat := Nat.pow 2 63 - 1

/-- The unpacked form of packed bytes. -/
def expand (entry : Entry) (packed : ByteArray) : Except EntryFault ByteArray :=
  if entry.method = storedMethod then .ok packed
  else
    match Deflate.inflate packed.toList with
    | .ok data => .ok data
    | .error .truncated => .error .truncatedStream
    | .error .corrupt => .error .corruptStream

/-- The data of a supported entry that start at an offset. -/
def unpack (content : ByteArray) (entry : Entry) (start : Nat) : Except EntryFault ByteArray :=
  if memoryLimit < entry.declaredSize then .error .oversized
  else do
    let data ← entry.expand (slice content start entry.packedSize)
    if (Zip.checksum data).toNat = entry.checksum then .ok data else .error .wrongChecksum

end Entry

end WastSuite.Zip
