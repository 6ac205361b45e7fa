import WastSuite.Zip.Field

/-!
# The end record of an archive

An archive is read from its end, where a record says how many entries there are and where their
directory starts. The record carries a signature, which is searched backwards, since a comment and
anything else may follow it. Data in front of the archive move all its offsets, so the directory is
taken to start at the first directory signature at or behind the recorded offset, and the distance
is the shift of all offsets. Numbers that do not fit are kept in a second, wide record, which a
locator in front of the end record leads to.

`EndRecord.search` gives the last usable record below a limit with the layout it tells. Main
statement: it lies below that limit (`EndRecord.search_lt`), so searching on below it ends.
-/

set_option autoImplicit false

namespace WastSuite.Zip

/-- Why an archive, or an entry of it, is refused: the content could not be read where it should go
on; it is no archive, or contradicts itself; the entry is packed or encrypted in a way that is not
supported; or it is encrypted and no password is known. -/
inductive Fault where
  | unreadable
  | invalid
  | unsupported
  | passwordNeeded
  deriving DecidableEq

/-- The words for a fault. -/
def Fault.message : Fault → String
  | .unreadable => "the archive cannot be read"
  | .invalid => "the archive is not valid"
  | .unsupported => "the entry is not supported"
  | .passwordNeeded => "the entry needs a password"

/-- Where the directory of an archive starts, how many entries it has, and what is added to every
recorded offset because the archive stands behind other content (`shift`). -/
structure Layout where
  start : Nat
  count : Nat
  shift : Nat
  deriving DecidableEq

/-- The first number that eight bytes do not hold. -/
def wideLimit : Nat := Nat.pow 2 64

namespace EndRecord

/-- The signature of an end record. -/
def signature : Nat := 0x06054B50

/-- The signature of a locator. -/
def locatorSignature : Nat := 0x07064B50

/-- The signature of a wide end record. -/
def wideSignature : Nat := 0x06064B50

/-- The signature of a directory entry. -/
def entrySignature : Nat := 0x02014B50

/-- The size of an end record without its comment. -/
def size : Nat := 22

/-- The size of a locator. -/
def locatorSize : Nat := 20

/-- The size of a directory entry without its names. -/
def entrySize : Nat := 46

/-- The first offset of a signature from `offset` on, among so many. -/
def firstSignature? (content : ByteArray) (wanted : Nat) : Nat → Nat → Option Nat
  | 0, _ => none
  | count + 1, offset =>
    if numberAt? content 4 offset = some wanted then some offset
    else firstSignature? content wanted count (offset + 1)

/-- What an end record says: the number of this disk and of the one on which the directory starts,
the number of entries on this disk and in all, the recorded offset of the directory, and the number
of bytes of the comment. -/
structure Fields where
  disk : Nat
  directoryDisk : Nat
  entriesHere : Nat
  entries : Nat
  directoryOffset : Nat
  commentLength : Nat

/-- The fields of the end record at an offset, if the content reaches so far. -/
def fields? (content : ByteArray) (offset : Nat) : Option Fields := do
  let disk ← numberAt? content 2 (offset + 4)
  let directoryDisk ← numberAt? content 2 (offset + 6)
  let entriesHere ← numberAt? content 2 (offset + 8)
  let entries ← numberAt? content 2 (offset + 10)
  let directoryOffset ← numberAt? content 4 (offset + 16)
  let commentLength ← numberAt? content 2 (offset + 20)
  some ⟨disk, directoryDisk, entriesHere, entries, directoryOffset, commentLength⟩

/-- What a locator says: the number of the disk on which the directory starts, the recorded offset
of the wide record, and the number of disks. -/
structure Locator where
  directoryDisk : Nat
  wideOffset : Nat
  disks : Nat

/-- The locator in front of the end record at an offset, if there is one. -/
def locator? (content : ByteArray) (offset : Nat) : Option Locator := do
  if offset < locatorSize then none
  else
    let start := offset - locatorSize
    let found ← numberAt? content 4 start
    let directoryDisk ← numberAt? content 4 (start + 4)
    let wideOffset ← numberAt? content 8 (start + 8)
    let disks ← numberAt? content 4 (start + 16)
    if found = locatorSignature then some ⟨directoryDisk, wideOffset, disks⟩ else none

/-- What a wide end record says: the size of the record behind its first two fields, the versions
that made the archive and that are needed to read it, the number of this disk and of the one on
which the directory starts, the number of entries on this disk and in all, and the recorded offset
of the directory. -/
structure WideFields where
  length : Nat
  madeBy : Nat
  needed : Nat
  disk : Nat
  directoryDisk : Nat
  entriesHere : Nat
  entries : Nat
  directoryOffset : Nat

/-- The fields of the wide record at an offset, if the content reaches so far. -/
def wideFields? (content : ByteArray) (offset : Nat) : Option WideFields := do
  let length ← numberAt? content 8 (offset + 4)
  let madeBy ← numberAt? content 2 (offset + 12)
  let needed ← numberAt? content 2 (offset + 14)
  let disk ← numberAt? content 4 (offset + 16)
  let directoryDisk ← numberAt? content 4 (offset + 20)
  let entriesHere ← numberAt? content 8 (offset + 24)
  let entries ← numberAt? content 8 (offset + 32)
  let directoryOffset ← numberAt? content 8 (offset + 48)
  some ⟨length, madeBy, needed, disk, directoryDisk, entriesHere, entries, directoryOffset⟩

/-- A number of eight bytes, or the greatest of them. -/
def clamp (value : Nat) : Nat :=
  min value (wideLimit - 1)

/-- The layout that the wide record at an offset tells, in front of its locator. A record that fits
its locator but contradicts itself tells none. -/
def wideLayout (content : ByteArray) (locator : Locator) (locatorOffset offset : Nat) :
    Except Fault (Option Layout) :=
  match wideFields? content offset with
  | none => .error .unreadable
  | some fields =>
    let room := locatorOffset - offset
    let shift := offset - locator.wideOffset
    if fields.length < 44 ∨ fields.length + 12 ≠ room ∨
        fields.directoryDisk ≠ locator.directoryDisk ∨
        offset < clamp (clamp (fields.entries * entrySize) + fields.directoryOffset) then
      .error .invalid
    else if fields.entries < fields.entriesHere ∨ fields.madeBy < fields.needed ∨
        wideLimit ≤ fields.directoryOffset + shift ∨ fields.disk ≠ fields.directoryDisk then
      .ok none
    else .ok (some ⟨fields.directoryOffset + shift, fields.entries, shift⟩)

/-- The layout of the first wide record that fits its locator, among so many offsets from `offset`
on, or the fault of the last one that does not. -/
def wideSearch (content : ByteArray) (locator : Locator) (locatorOffset : Nat) :
    Nat → Nat → Fault → Except Fault (Option Layout)
  | 0, _, fault => .error fault
  | count + 1, offset, fault =>
    if numberAt? content 4 offset = some wideSignature then
      match wideLayout content locator locatorOffset offset with
      | .ok layout => .ok layout
      | .error fault => wideSearch content locator locatorOffset count (offset + 1) fault
    else wideSearch content locator locatorOffset count (offset + 1) fault

/-- A layout if the disks of an end record agree. -/
def Fields.layoutAt? (fields : Fields) (shift : Nat) : Option Layout :=
  if fields.disk = fields.directoryDisk then
    some ⟨fields.directoryOffset + shift, fields.entriesHere, shift⟩
  else none

/-- The layout that an end record tells on its own. -/
def narrowLayout (content : ByteArray) (fields : Fields) (offset : Nat) :
    Except Fault (Option Layout) :=
  if fields.entries = 0 then .ok (fields.layoutAt? (offset - fields.directoryOffset))
  else if offset ≤ fields.directoryOffset then .error .invalid
  else
    match firstSignature? content entrySignature (offset - fields.directoryOffset)
        fields.directoryOffset with
    | some found => .ok (fields.layoutAt? (found - fields.directoryOffset))
    | none => .error .invalid

/-- Whether a record that holds the greatest numbers leaves the true ones to a wide record. -/
def Fields.mayBeWide (fields : Fields) : Bool :=
  fields.entries = 0xFFFF || fields.directoryOffset = 0xFFFFFFFF

/-- The layout that complete fields at an offset tell, alone or with a wide record. -/
def layoutOf (content : ByteArray) (fields : Fields) (offset : Nat) :
    Except Fault (Option Layout) :=
  match if fields.mayBeWide then locator? content offset else none with
  | none => narrowLayout content fields offset
  | some locator =>
    let locatorOffset := offset - locatorSize
    if locatorOffset ≤ locator.wideOffset ∨ 1 < locator.disks then .error .invalid
    else
      wideSearch content locator locatorOffset (locatorOffset - locator.wideOffset)
        locator.wideOffset .invalid

/-- The last record below a limit that tells a layout or that its disks do not agree, with its
offset. `noted` is the fault that the search has met: a record that is cut off is noted only if
nothing was, and any other record that tells no layout always. -/
def search (content : ByteArray) : Nat → Option Fault → Except Fault (Nat × Option Layout)
  | 0, noted => .error (noted.getD .invalid)
  | offset + 1, noted =>
    if numberAt? content 4 offset = some signature then
      match fields? content offset with
      | none => search content offset (noted.or (some .unreadable))
      | some fields =>
        if content.size < offset + size + fields.commentLength then
          search content offset (noted.or (some .invalid))
        else
          match layoutOf content fields offset with
          | .ok layout => .ok (offset, layout)
          | .error fault => search content offset (some fault)
    else search content offset noted

/-- A record that the search gives lies below the limit. -/
theorem search_lt {content : ByteArray} {limit : Nat} :
    ∀ {noted : Option Fault} {offset : Nat} {layout : Option Layout},
      search content limit noted = .ok (offset, layout) → offset < limit := by
  induction limit with
  | zero =>
    intro noted offset layout h
    simp [search] at h
  | succ limit ih =>
    intro noted offset layout h
    unfold search at h
    split at h
    · split at h
      · exact Nat.lt_succ_of_lt (ih h)
      · split at h
        · exact Nat.lt_succ_of_lt (ih h)
        · split at h
          · simp only [Except.ok.injEq, Prod.mk.injEq] at h
            omega
          · exact Nat.lt_succ_of_lt (ih h)
    · exact Nat.lt_succ_of_lt (ih h)

end EndRecord

end WastSuite.Zip
