/-!
# The checksum of an entry

Archives keep a cyclic redundancy check of 32 bits for each entry, with the polynomial
`0xEDB88320` taken low bit first, all bits of the register set at the start and inverted at the end.
-/

set_option autoImplicit false

namespace WastSuite.Zip

/-- The register after one bit. -/
def checksumBit (register : UInt32) : UInt32 :=
  if register &&& 1 = 1 then (register >>> 1) ^^^ 0xEDB88320 else register >>> 1

/-- The register after one byte. -/
def checksumByte (register : UInt32) (byte : UInt8) : UInt32 :=
  (List.range 8).foldl (fun register _ ↦ checksumBit register) (register ^^^ byte.toUInt32)

/-- The checksum of some bytes. -/
def checksum (bytes : ByteArray) : UInt32 :=
  bytes.foldl checksumByte 0xFFFFFFFF ^^^ 0xFFFFFFFF

end WastSuite.Zip
