import WastSuite.Zip.ExtraField

/-!
# The directory of an archive

The directory has one record for each entry, and the records stand one behind the other. A record
tells the name, the extra fields and the comment by their lengths, and a flag says whether name and
comment are UTF-8. `Entry.directory?` reads all entries of a layout.

An entry lies in front of the directory: one whose local header would start at the directory or
behind it makes the directory unusable, and so does one that is marked as strongly encrypted without
an extra field that says how.
-/

set_option autoImplicit false

namespace WastSuite.Zip

namespace Entry

/-- The method that stands for strong encryption, the true one being in an extra field. -/
def strongMethod : Nat := 99

/-- The entry with its offset moved by the shift of a layout, if it can be used. -/
def placed? (layout : Layout) (entry : Entry) : Option Entry :=
  let headerStart := entry.headerStart + layout.shift
  if entry.method = strongMethod ∧ !entry.stronglyEncrypted then none
  else if layout.start ≤ headerStart then none
  else some { entry with headerStart := headerStart }

/-- Reads the entry at an offset of the directory, and gives the offset behind it. -/
def at? (content : ByteArray) (layout : Layout) (offset : Nat) : Option (Entry × Nat) := do
  let signature ← numberAt? content 4 offset
  if signature ≠ EndRecord.entrySignature then none
  else
    let flags ← numberAt? content 2 (offset + 8)
    let method ← numberAt? content 2 (offset + 10)
    let checksum ← numberAt? content 4 (offset + 16)
    let packedSize ← numberAt? content 4 (offset + 20)
    let declaredSize ← numberAt? content 4 (offset + 24)
    let nameLength ← numberAt? content 2 (offset + 28)
    let extraLength ← numberAt? content 2 (offset + 30)
    let commentLength ← numberAt? content 2 (offset + 32)
    let headerStart ← numberAt? content 4 (offset + 42)
    let nameStart := offset + EndRecord.entrySize
    let extraStart := nameStart + nameLength
    let commentStart := extraStart + extraLength
    let name ← slice? content nameStart nameLength
    let extra ← slice? content extraStart extraLength
    let comment ← slice? content commentStart commentLength
    let decode := if flags.testBit 11 then ofUtf8 else ofCodePage
    let entry ← applyExtra? extra.toList
      { name := decode name.toList
        nameBytes := name.toList
        comment := decode comment.toList
        encrypted := flags.testBit 0
        stronglyEncrypted := false
        method := method
        checksum := checksum
        packedSize := packedSize
        declaredSize := declaredSize
        headerStart := headerStart }
    let entry ← placed? layout entry
    some (entry, commentStart + commentLength)

/-- Reads so many entries from an offset of the directory on. -/
def sequence? (content : ByteArray) (layout : Layout) : Nat → Nat → Option (List Entry)
  | 0, _ => some []
  | count + 1, offset => do
    let (entry, behind) ← at? content layout offset
    let entries ← sequence? content layout count behind
    some (entry :: entries)

/-- Reads all entries of a layout. -/
def directory? (content : ByteArray) (layout : Layout) : Option (List Entry) :=
  sequence? content layout layout.count layout.start

end Entry

end WastSuite.Zip
