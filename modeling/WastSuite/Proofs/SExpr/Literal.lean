import Mathlib.Data.List.Basic
import WastSuite.Proofs.Fallible
import WastSuite.SExpr.Printer

/-!
# String literals and the bytes that they denote

The text format of WebAssembly writes a byte string between double quotes. Inside stands a sequence
of parts: a character for its UTF-8, or a byte by a backslash and two hexadecimal digits. A quote, a
backslash and a control character cannot stand for themselves; some of them have an escape of their
own, a letter behind a backslash. `Literal.denoted?` reads a text that is exactly one such literal.

An atom writes each character in one of three ways (`Atom.Writes`), as a part that is read back as
it was written (`Writes.foldlM_step`) and that denotes the low byte of the character where the atom
is bytewise, and its UTF-8 otherwise (`Writes.bytes_eq`). Main statement: a quoted atom is written
as one literal that denotes the bytes of the atom if it is bytewise and the UTF-8 of its contents if
not, so that every byte string survives being written (`render_denotes_bytes`).
-/

set_option autoImplicit false

namespace WastSuite

/-- One part of a string literal: a character, which stands for its UTF-8, or a byte by its two
hexadecimal digits. -/
inductive LiteralPart where
  | character (c : Char)
  | byte (b : UInt8)
  deriving DecidableEq

/-- The bytes that a part denotes. -/
def LiteralPart.bytes : LiteralPart → List UInt8
  | .character c => String.utf8EncodeChar c
  | .byte b => [b]

/-- How far a literal was read behind its opening quote, with the parts so far, the last first:
behind a part, behind a backslash, behind a backslash and one hexadecimal digit, or behind the
closing quote. -/
inductive LiteralState where
  | between (parts : List LiteralPart)
  | escaped (parts : List LiteralPart)
  | halfByte (parts : List LiteralPart) (high : Nat)
  | closed (parts : List LiteralPart)
  deriving DecidableEq

namespace Literal

open Fallible Text

/-- The character that stands behind a backslash as a letter or a sign of its own. -/
def named? (c : Char) : Option Char :=
  if c = 't' then some '\t'
  else if c = 'n' then some '\n'
  else if c = 'r' then some '\r'
  else if c = '"' ∨ c = '\'' ∨ c = '\\' then some c
  else none

/-- Reads one more character of a literal. -/
def step : LiteralState → Char → Option LiteralState
  | .between parts, c =>
    if c = '"' then some (.closed parts)
    else if c = '\\' then some (.escaped parts)
    else if c.toNat < 0x20 ∨ c.toNat = 0x7f then none
    else some (.between (.character c :: parts))
  | .escaped parts, c =>
    match named? c with
    | some d => some (.between (.character d :: parts))
    | none => (hexValue? c).map (.halfByte parts)
  | .halfByte parts high, c =>
    (hexValue? c).map fun low ↦ .between (.byte (UInt8.ofNat (16 * high + low)) :: parts)
  | .closed _, _ => none

/-- The parts of a text that is exactly one literal: a quote, complete parts, and a quote as the
last character. -/
def parts? : List Char → Option (List LiteralPart)
  | [] => none
  | c :: text =>
    if c = '"' then
      match text.foldlM step (.between []) with
      | some (.closed parts) => some parts.reverse
      | _ => none
    else none

/-- The byte string that a text denotes which is exactly one literal. -/
def denoted? (text : String) : Option (List UInt8) :=
  (parts? text.toList).map fun parts ↦ parts.flatMap LiteralPart.bytes

section Steps

variable (parts : List LiteralPart) {c d : Char} {low : Nat}

/-- A quote closes the literal. -/
theorem step_quote : step (.between parts) '"' = some (.closed parts) := rfl

/-- A backslash starts an escape. -/
theorem step_backslash : step (.between parts) '\\' = some (.escaped parts) := rfl

/-- A character that may do so stands for itself. -/
theorem step_plain (hquote : c ≠ '"') (hbackslash : c ≠ '\\')
    (hcontrol : ¬ (c.toNat < 0x20 ∨ c.toNat = 0x7f)) :
    step (.between parts) c = some (.between (.character c :: parts)) := by
  rw [step, if_neg hquote, if_neg hbackslash, if_neg hcontrol]

/-- A named escape stands for its character. -/
theorem step_named (h : named? d = some c) :
    step (.escaped parts) d = some (.between (.character c :: parts)) := by
  rw [step, h]

/-- Another escape starts with a digit. -/
theorem step_high {high : Nat} (hname : named? c = none) (h : hexValue? c = some high) :
    step (.escaped parts) c = some (.halfByte parts high) := by
  rw [step, hname, h, Option.map_some]

/-- Two digits stand for a byte. -/
theorem step_low (high : Nat) (h : hexValue? c = some low) : step (.halfByte parts high) c =
    some (.between (.byte (UInt8.ofNat (16 * high + low)) :: parts)) := by
  rw [step, h, Option.map_some]

end Steps

/-- No digit of the printer is a sign with an escape of its own. -/
theorem named?_hexDigit {value : Nat} (h : value < 16) : named? (hexDigit value) = none := by
  revert value
  decide

/-- A byte is read back from its escape. -/
theorem foldlM_step_byteEscape (b : UInt8) (parts : List LiteralPart) :
    (Atom.byteEscape b).foldlM step (.between parts) = some (.between (.byte b :: parts)) := by
  have hb : b.toNat < 256 := b.toNat_lt
  have hhigh : b.toNat / 16 < 16 := by omega
  have hlow : b.toNat % 16 < 16 := by omega
  have hdigit := step_high parts (named?_hexDigit hhigh) (hexValue?_hexDigit hhigh)
  have hbyte := step_low parts (b.toNat / 16) (hexValue?_hexDigit hlow)
  rw [Nat.div_add_mod, UInt8.ofNat_toNat] at hbyte
  rw [Atom.byteEscape, foldlM_cons_of_some (step_backslash parts), foldlM_cons_of_some hdigit,
    foldlM_cons_of_some hbyte, List.foldlM_nil, Option.pure_def]

end Literal

namespace Atom

open Fallible Literal

variable {bytewise : Bool} {c : Char} {signs : List Char} {part : LiteralPart}

/-- How a character of an atom can be written, and the part that it is read as: by a sign of its own
behind a backslash, by the digits of its low byte, or as itself. -/
inductive Writes (bytewise : Bool) (c : Char) : List Char → LiteralPart → Prop
  | named {d : Char} (hname : named? d = some c) (hlow : c.toNat ≤ 0x7f) :
    Writes bytewise c ['\\', d] (.character c)
  | byte (hlow : c.toNat ≤ 0x7f ∨ bytewise = true) :
    Writes bytewise c (byteEscape c.val.toUInt8) (.byte c.val.toUInt8)
  | plain (hquote : c ≠ '"') (hbackslash : c ≠ '\\')
    (hcontrol : ¬ (c.toNat < 0x20 ∨ c.toNat = 0x7f)) (hlow : bytewise = true → c.toNat ≤ 0x7f) :
    Writes bytewise c [c] (.character c)

/-- Every character is written in one of these ways. -/
theorem exists_writes (bytewise : Bool) (c : Char) :
    ∃ part, Writes bytewise c (escape bytewise c) part := by
  unfold escape
  split_ifs with hquote hbackslash hnewline htab hcontrol hhigh
  · subst hquote
    exact ⟨_, .named rfl (by decide)⟩
  · subst hbackslash
    exact ⟨_, .named rfl (by decide)⟩
  · subst hnewline
    exact ⟨_, .named rfl (by decide)⟩
  · subst htab
    exact ⟨_, .named rfl (by decide)⟩
  · exact ⟨_, .byte (Or.inl (by omega))⟩
  · exact ⟨_, .byte (Or.inr hhigh.1)⟩
  · refine ⟨_, .plain hquote hbackslash hcontrol fun hbytewise ↦ ?_⟩
    exact Nat.le_of_not_lt fun hlt ↦ hhigh ⟨hbytewise, hlt⟩

/-- A character is read back as the part that was written for it. -/
theorem Writes.foldlM_step (h : Writes bytewise c signs part) (parts : List LiteralPart) :
    signs.foldlM step (.between parts) = some (.between (part :: parts)) := by
  cases h with
  | named hname _ =>
    rw [foldlM_cons_of_some (step_backslash parts), foldlM_cons_of_some (step_named parts hname),
      List.foldlM_nil, Option.pure_def]
  | byte => exact foldlM_step_byteEscape _ parts
  | plain hquote hbackslash hcontrol _ =>
    rw [foldlM_cons_of_some (step_plain parts hquote hbackslash hcontrol), List.foldlM_nil,
      Option.pure_def]

/-- A character of seven bits is its own UTF-8. -/
theorem utf8EncodeChar_of_le (h : c.toNat ≤ 0x7f) :
    String.utf8EncodeChar c = [c.val.toUInt8] :=
  String.utf8EncodeChar_eq_singleton (Char.utf8Size_eq_one_iff.mpr h)

/-- The part written for a character denotes the low byte of the character if the atom is bytewise,
and the UTF-8 of the character otherwise. -/
theorem Writes.bytes_eq (h : Writes bytewise c signs part) :
    part.bytes = if bytewise then [c.val.toUInt8] else String.utf8EncodeChar c := by
  cases h with
  | named _ hlow => simp [LiteralPart.bytes, utf8EncodeChar_of_le hlow]
  | byte hlow =>
    rcases hlow with hlow | rfl
    · simp [LiteralPart.bytes, utf8EncodeChar_of_le hlow]
    · rfl
  | plain _ _ _ hlow =>
    cases bytewise with
    | false => rfl
    | true => exact utf8EncodeChar_of_le (hlow rfl)

/-- Characters are read back as one part for each of them. -/
theorem exists_parts (bytewise : Bool) (chars : List Char) :
    ∃ parts, List.Forall₂ (fun c part ↦ Writes bytewise c (escape bytewise c) part) chars parts ∧
      ∀ before, (chars.flatMap (escape bytewise)).foldlM step (.between before) =
        some (.between (parts.reverse ++ before)) := by
  induction chars with
  | nil => exact ⟨[], .nil, fun before ↦ rfl⟩
  | cons c chars ih =>
    obtain ⟨part, hpart⟩ := exists_writes bytewise c
    obtain ⟨parts, hparts, hread⟩ := ih
    refine ⟨part :: parts, .cons hpart hparts, fun before ↦ ?_⟩
    rw [List.flatMap_cons, foldlM_append_of_some (hpart.foldlM_step before), hread,
      List.reverse_cons, List.append_assoc, List.singleton_append]

/-- What the parts of an atom denote, character by character. -/
theorem flatMap_bytes_of_writes {chars : List Char} {parts : List LiteralPart}
    (h : List.Forall₂ (fun c part ↦ Writes bytewise c (escape bytewise c) part) chars parts) :
    parts.flatMap LiteralPart.bytes = chars.flatMap fun c ↦
      if bytewise then [c.val.toUInt8] else String.utf8EncodeChar c := by
  induction h with
  | nil => rfl
  | cons hpart _ ih => rw [List.flatMap_cons, List.flatMap_cons, hpart.bytes_eq, ih]

/-- A quoted atom is written as exactly one literal. -/
theorem parts?_chars {atom : Atom} (h : atom.quoted = true) : ∃ parts,
    List.Forall₂ (fun c part ↦ Writes atom.bytewise c (escape atom.bytewise c) part)
        atom.contents.toList parts ∧ Literal.parts? atom.chars = some parts := by
  obtain ⟨parts, hparts, hread⟩ := exists_parts atom.bytewise atom.contents.toList
  refine ⟨parts, hparts, ?_⟩
  rw [chars, if_pos h, List.cons_append, Literal.parts?, if_pos rfl,
    foldlM_append_of_some (hread []), foldlM_cons_of_some (step_quote _), List.append_nil]
  simp only [List.foldlM_nil, Option.pure_def, List.reverse_reverse]

/-- The literal of a quoted atom denotes its characters one by one. -/
theorem denoted?_render {atom : Atom} (h : atom.quoted = true) :
    Literal.denoted? atom.render = some (atom.contents.toList.flatMap fun c ↦
      if atom.bytewise then [c.val.toUInt8] else String.utf8EncodeChar c) := by
  obtain ⟨parts, hparts, hread⟩ := parts?_chars h
  rw [Literal.denoted?, render, String.toList_ofList, hread, Option.map_some,
    flatMap_bytes_of_writes hparts]

/-- A quoted atom is written as exactly one literal, and that literal denotes the bytes of the atom
if it is bytewise, and the UTF-8 of its contents otherwise. So a byte string read into an atom, one
character per byte, and written again is denoted by the literal that is written. -/
theorem render_denotes_bytes :
    (∀ atom : Atom, atom.quoted = true → ∃ denoted,
      Literal.denoted? atom.render = some denoted ∧
        (atom.bytewise = true → denoted = atom.bytes) ∧
        (atom.bytewise = false → denoted.toByteArray = atom.contents.toUTF8)) ∧
    ∀ source : List UInt8, (ofBytes source).bytes = source ∧
      Literal.denoted? (ofBytes source).render = some source := by
  have hbytes : ∀ atom : Atom, (atom.contents.toList.flatMap fun c ↦ [c.val.toUInt8]) =
      atom.bytes := fun atom ↦ List.flatMap_pure_eq_map _ _
  refine ⟨fun atom hquoted ↦ ⟨_, denoted?_render hquoted, fun hbytewise ↦ ?_,
    fun hplain ↦ ?_⟩, fun source ↦ ⟨bytes_ofBytes source, ?_⟩⟩
  · simp only [hbytewise, if_true, hbytes]
  · simp only [hplain, Bool.false_eq_true, if_false]
    exact String.utf8Encode_toList
  · have hbytewise : (ofBytes source).bytewise = true := rfl
    rw [denoted?_render rfl]
    simp only [hbytewise, if_true, hbytes, bytes_ofBytes]

/-- A quote, a letter above U+007F and what looks like an escape, one character per byte. -/
theorem render_denotes_bytes_mixed :
    ∃ denoted, Literal.denoted? (render ⟨"\"\u00e9\\00", true, true⟩) = some denoted ∧
      denoted = [0x22, 0xe9, 0x5c, 0x30, 0x30] := by
  obtain ⟨denoted, hread, hbytes, -⟩ :=
    render_denotes_bytes.1 ⟨"\"\u00e9\\00", true, true⟩ rfl
  exact ⟨denoted, hread, (hbytes rfl).trans (by decide)⟩

end Atom

end WastSuite
