import WastSuite.Zip.Checksum
import WastSuite.Zip.Entry
import WastSuite.Zip.EntryName

/-!
# Extra fields of an entry

Behind the name of an entry stand extra fields, each with a kind, a length and so many bytes. They
may widen the sizes and the offset to eight bytes, say that the entry is strongly encrypted, give
times, or give the name or the comment anew in UTF-8. A field of another kind is skipped.

Fields are read one after the other (`Entry.applyExtra?`). A field that is malformed makes the
directory unusable. Where the extra data end within a field, what was read so far counts and the
rest is left alone, so a cut is no fault. A name or a comment given anew counts for one text only,
the one with the checksum that the field tells, which may itself come from a field before.
-/

set_option autoImplicit false

namespace WastSuite.Zip

namespace Entry

/-- What an extra field does to an entry. It is read, the extra data end within it, or it makes the
directory unusable. -/
inductive FieldEffect where
  | applied (entry : Entry)
  | ranOut (entry : Entry)
  | refused

/-! ### Wide numbers -/

/-- The greatest number of four bytes, which stands for a wider one kept elsewhere. -/
def narrowMark : Nat := 0xFFFFFFFF

/-- A number kept wide in a field if the entry has the mark for it, or if the field is `full`. The
result is the number, how many bytes it takes in the field, and those behind it. -/
def widen (full : Bool) (narrow : Nat) (bytes : List UInt8) : Option (Nat × Nat × List UInt8) :=
  if full || narrow = narrowMark then
    (takeNumber? 8 bytes).map fun (wide, rest) ↦ (wide, 8, rest)
  else some (narrow, 0, bytes)

/-- Reads the field with wide sizes and the wide offset. -/
def applyWide (length : Nat) (bytes : List UInt8) (entry : Entry) : FieldEffect :=
  let full := 24 ≤ length
  match widen full entry.declaredSize bytes with
  | none => .ranOut entry
  | some (declaredSize, first, bytes) =>
    let entry := { entry with declaredSize := declaredSize }
    match widen full entry.packedSize bytes with
    | none => .ranOut entry
    | some (packedSize, second, bytes) =>
      let entry := { entry with packedSize := packedSize }
      match widen full entry.headerStart bytes with
      | none => .ranOut entry
      | some (headerStart, third, _) =>
        if length < first + second + third then .refused
        else .applied { entry with headerStart := headerStart }

/-! ### Strong encryption -/

/-- Reads the field of a strongly encrypted entry. -/
def applyStrong (length : Nat) (bytes : List UInt8) (entry : Entry) : FieldEffect :=
  if length ≠ 7 then .refused
  else
    match bytes with
    | v₀ :: v₁ :: maker₀ :: maker₁ :: strength :: m₀ :: m₁ :: _ =>
      let version := v₀.toNat + 256 * v₁.toNat
      let known := version = 1 ∨ version = 2
      if maker₀ = 0x41 ∧ maker₁ = 0x45 ∧ known ∧ 1 ≤ strength ∧ strength ≤ 3 then
        .applied { entry with
          method := m₀.toNat + 256 * m₁.toNat
          stronglyEncrypted := true }
      else .refused
    | _ => .ranOut entry

/-! ### Times -/

/-- The length of a field that gives the times that some flags announce, four bytes for each. -/
def timesLength (flags : Nat) : Nat :=
  1 + 4 * [0, 1, 2].countP flags.testBit

/-- Reads the field with up to three times, which must be as long as its flags say, or as long as it
would be with one time. -/
def applyTimes (length : Nat) (bytes : List UInt8) (entry : Entry) : FieldEffect :=
  match bytes with
  | [] => .ranOut entry
  | flags :: _ =>
    if 8 ≤ flags ∨ length ≠ timesLength flags.toNat ∧ length ≠ 5 then .refused
    else .applied entry

/-- Reads the field with the times of a file system, which are one attribute of three times. -/
def applySystemTimes (length : Nat) (bytes : List UInt8) (entry : Entry) : FieldEffect :=
  if length ≠ 32 then .refused
  else
    match takeNumber? 2 (bytes.drop 4) with
    | none => .ranOut entry
    | some (kind, bytes) =>
      if kind ≠ 1 then .refused
      else
        match takeNumber? 2 bytes with
        | none => .ranOut entry
        | some (size, _) => if size ≠ 24 then .refused else .applied entry

/-! ### Texts -/

/-- The size of what stands in front of a text given anew, a version and a checksum. -/
def textStart : Nat := 5

/-- Reads a field with a text for the one that `covered` holds, and puts it into the entry. -/
def applyText (length : Nat) (bytes covered : List UInt8)
    (put : List UInt8 → String → Entry) (entry : Entry) : FieldEffect :=
  match takeNumber? 4 (bytes.drop 1) with
  | none => .ranOut entry
  | some (told, _) =>
    if length < textStart then .refused
    else if bytes.length < length then .ranOut entry
    else if told ≠ (Zip.checksum covered.toByteArray).toNat then .refused
    else
      let content := (bytes.take length).drop textStart
      match String.fromUTF8? content.toByteArray with
      | none => .refused
      | some text => .applied (put content text)

/-- Reads the field with the name. -/
def applyName (length : Nat) (bytes : List UInt8) (entry : Entry) : FieldEffect :=
  applyText length bytes entry.nameBytes
    (fun content name ↦ { entry with nameBytes := content, name := name }) entry

/-- Reads the field with the comment. -/
def applyComment (length : Nat) (bytes : List UInt8) (entry : Entry) : FieldEffect :=
  applyText length bytes entry.comment.toUTF8.toList
    (fun _ comment ↦ { entry with comment := comment }) entry

/-! ### All fields -/

/-- Reads one extra field. -/
def applyField (kind length : Nat) (bytes : List UInt8) (entry : Entry) : FieldEffect :=
  if kind = 0x0001 then applyWide length bytes entry
  else if kind = 0x000A then applySystemTimes length bytes entry
  else if kind = 0x5455 then applyTimes length bytes entry
  else if kind = 0x6375 then applyComment length bytes entry
  else if kind = 0x7075 then applyName length bytes entry
  else if kind = 0x9901 then applyStrong length bytes entry
  else .applied entry

/-- Reads extra fields as far as they go. -/
def applyExtra? (extra : List UInt8) (entry : Entry) : Option Entry :=
  match extra with
  | k₀ :: k₁ :: l₀ :: l₁ :: bytes =>
    let length := l₀.toNat + 256 * l₁.toNat
    match applyField (k₀.toNat + 256 * k₁.toNat) length bytes entry with
    | .refused => none
    | .ranOut entry => some entry
    | .applied entry =>
      if bytes.length < length then some entry else applyExtra? (bytes.drop length) entry
  | _ => some entry
termination_by extra.length
decreasing_by
  simp only [List.length_drop, List.length_cons]
  omega

end Entry

end WastSuite.Zip
