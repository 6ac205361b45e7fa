import Mathlib.Data.List.Forall2
import Mathlib.Data.Nat.Digits.Defs
import WastSuite.Json.Strings

/-!
# String literals of JSON

A string literal of JSON is written between quotes, character by character. There are four ways to
write a character (`Spells`): as itself, as a short escape, by its number in four hexadecimal
digits, and as two such numbers that form a surrogate pair. Every character can be written
(`exists_spells`).

Main statement: the reader accepts exactly the literals, and gives the characters that are spelled
(`readString_eq_ok_iff`). Each way to write a character is one step of the reader
(`Spells.readString_append`), whatever follows it.
-/

set_option autoImplicit false

namespace WastSuite.Json

/-! ### The grammar -/

/-- A character is the hexadecimal digit of a value, in either case. -/
def IsHexDigit (value : Nat) (digit : Char) : Prop :=
  "0123456789abcdef".toList[value]? = some digit ∨ "0123456789ABCDEF".toList[value]? = some digit

instance (value : Nat) (digit : Char) : Decidable (IsHexDigit value digit) :=
  inferInstanceAs (Decidable (_ ∨ _))

/-- Four hexadecimal digits write a number, the highest first. -/
def WritesUnit (unit : Nat) (digits : List Char) : Prop :=
  ∃ values : List Nat, values.length = 4 ∧ List.Forall₂ IsHexDigit values digits ∧
    unit = Nat.ofDigits 16 values.reverse

/-- The letters that stand for a character behind a backslash. -/
def shortEscapes : List (Char × Char) :=
  [('"', '"'), ('\\', '\\'), ('/', '/'), ('b', '\x08'), ('f', '\x0c'), ('n', '\n'), ('r', '\r'),
    ('t', '\t')]

/-- The ways to write a character in a string literal: as itself, unless it is a control character,
a quote or a backslash; as a backslash and a letter; by its number; or as the surrogate pair of a
number beyond four digits. -/
inductive Spells : Char → List Char → Prop
  | plain {c : Char} (hcontrol : 0x20 ≤ c.toNat) (hquote : c ≠ '"') (hbackslash : c ≠ '\\') :
    Spells c [c]
  | short {c letter : Char} (h : (letter, c) ∈ shortEscapes) : Spells c ['\\', letter]
  | unit {c : Char} {digits : List Char} (h : WritesUnit c.toNat digits) :
    Spells c ('\\' :: 'u' :: digits)
  | pair {c : Char} {high low : Nat} {first second : List Char} (hfirst : WritesUnit high first)
      (hsecond : WritesUnit low second) (hhigh : 0xD800 ≤ high ∧ high ≤ 0xDBFF)
      (hlow : 0xDC00 ≤ low ∧ low ≤ 0xDFFF)
      (hvalue : c.toNat = 0x10000 + (high - 0xD800) * 0x400 + (low - 0xDC00)) :
    Spells c ('\\' :: 'u' :: first ++ '\\' :: 'u' :: second)

/-- A string literal for some characters: their spellings one behind the other, in quotes. -/
def SpellsLiteral (chars literal : List Char) : Prop :=
  ∃ parts, List.Forall₂ Spells chars parts ∧ literal = '"' :: parts.flatten ++ ['"']

/-! ### Numbers in digits -/

variable {c letter : Char} {unit value : Nat} {digits text chars rest : List Char}

theorem hexValue?_eq_some_iff : Text.hexValue? c = some value ↔ IsHexDigit value c := by
  constructor
  · have htable : ∀ code < 128, ∀ value ∈ Text.hexValue? (Char.ofNat code),
        IsHexDigit value (Char.ofNat code) := by
      decide
    intro h
    have hsmall : c.toNat < 128 := by
      have hle : ∀ bound : Char, bound.toNat < 128 → c ≤ bound → c.toNat < 128 :=
        fun bound hbound hle ↦ Nat.lt_of_le_of_lt hle hbound
      rw [Text.hexValue?] at h
      split_ifs at h with hdecimal hlower hupper
      · exact hle '9' (by decide) hdecimal.2
      · exact hle 'f' (by decide) hlower.2
      · exact hle 'F' (by decide) hupper.2
    rw [← Char.ofNat_toNat c] at h ⊢
    exact htable c.toNat hsmall value h
  · have hlower : ∀ value (h : value < "0123456789abcdef".toList.length),
        Text.hexValue? "0123456789abcdef".toList[value] = some value := by
      decide
    have hupper : ∀ value (h : value < "0123456789ABCDEF".toList.length),
        Text.hexValue? "0123456789ABCDEF".toList[value] = some value := by
      decide
    rintro (h | h) <;> obtain ⟨hlength, rfl⟩ := List.getElem?_eq_some_iff.mp h
    · exact hlower value hlength
    · exact hupper value hlength

theorem IsHexDigit.lt (h : IsHexDigit value c) : value < 16 := by
  rcases h with h | h
  · exact (List.getElem?_eq_some_iff.mp h).1
  · exact (List.getElem?_eq_some_iff.mp h).1

/-- Four hexadecimal digits are read as the number that they write. -/
theorem hexQuad?_eq_some_iff {c₁ c₂ c₃ c₄ : Char} :
    hexQuad? c₁ c₂ c₃ c₄ = some unit ↔ WritesUnit unit [c₁, c₂, c₃, c₄] := by
  simp only [hexQuad?, Option.bind_eq_bind, Option.bind_eq_some_iff, hexValue?_eq_some_iff,
    Option.some.injEq, WritesUnit]
  constructor
  · rintro ⟨p, hp, q, hq, r, hr, s, hs, rfl⟩
    refine ⟨[p, q, r, s], rfl, .cons hp (.cons hq (.cons hr (.cons hs .nil))), ?_⟩
    simp [Nat.ofDigits_cons]
    omega
  · rintro ⟨values, hlength, hdigits, rfl⟩
    match values, hlength with
    | [p, q, r, s], _ =>
      simp only [List.forall₂_cons, List.forall₂_nil_left_iff, and_true] at hdigits
      obtain ⟨hp, hq, hr, hs⟩ := hdigits
      refine ⟨p, hp, q, hq, r, hr, s, hs, ?_⟩
      simp [Nat.ofDigits_cons]
      omega

theorem WritesUnit.exists_eq (h : WritesUnit unit digits) :
    ∃ c₁ c₂ c₃ c₄, digits = [c₁, c₂, c₃, c₄] := by
  obtain ⟨values, hlength, hdigits, -⟩ := h
  have hdigits := hdigits.length_eq
  rw [hlength] at hdigits
  match digits, hdigits with
  | [c₁, c₂, c₃, c₄], _ => exact ⟨c₁, c₂, c₃, c₄, rfl⟩

/-- A number in four digits has no more than sixteen bits. -/
theorem WritesUnit.lt (h : WritesUnit unit digits) : unit < 0x10000 := by
  obtain ⟨c₁, c₂, c₃, c₄, rfl⟩ := h.exists_eq
  obtain ⟨values, hlength, hdigits, rfl⟩ := h
  match values, hlength with
  | [p, q, r, s], _ =>
    simp only [List.forall₂_cons, List.forall₂_nil_left_iff, and_true] at hdigits
    obtain ⟨hp, hq, hr, hs⟩ := hdigits
    have := hp.lt
    have := hq.lt
    have := hr.lt
    have := hs.lt
    simp [Nat.ofDigits_cons]
    omega

/-- Every number of sixteen bits can be written in four digits. -/
theorem exists_writesUnit (h : unit < 0x10000) : ∃ digits, WritesUnit unit digits := by
  have hdigit : ∀ value < 16, ∃ digit, IsHexDigit value digit := fun value hvalue ↦
    ⟨"0123456789abcdef".toList[value], Or.inl (List.getElem?_eq_getElem hvalue)⟩
  obtain ⟨first, hfirst⟩ := hdigit (unit / 4096) (by omega)
  obtain ⟨second, hsecond⟩ := hdigit (unit / 256 % 16) (by omega)
  obtain ⟨third, hthird⟩ := hdigit (unit / 16 % 16) (by omega)
  obtain ⟨fourth, hfourth⟩ := hdigit (unit % 16) (by omega)
  refine ⟨[first, second, third, fourth], _, rfl,
    .cons hfirst (.cons hsecond (.cons hthird (.cons hfourth .nil))), ?_⟩
  simp [Nat.ofDigits_cons]
  omega

theorem shortEscape?_eq_some_iff : shortEscape? letter = some c ↔ (letter, c) ∈ shortEscapes := by
  simp only [shortEscape?, shortEscapes, List.mem_cons, Prod.mk.injEq, List.not_mem_nil, or_false]
  split_ifs <;> simp_all [eq_comm]

theorem isLowSurrogate_iff : isLowSurrogate unit = true ↔ 0xDC00 ≤ unit ∧ unit ≤ 0xDFFF := by
  simp only [isLowSurrogate, Bool.and_eq_true, decide_eq_true_eq]
  omega

theorem isHighSurrogate_iff : isHighSurrogate unit = true ↔ 0xD800 ≤ unit ∧ unit ≤ 0xDBFF := by
  simp only [isHighSurrogate, Bool.and_eq_true, decide_eq_true_eq]
  omega

/-! ### Single steps of the reader -/

/-- The character of a number has this number, if there is such a character. -/
theorem toNat_ofNat (h : unit.isValidChar) : (Char.ofNat unit).toNat = unit := by
  rw [Char.ofNat, dif_pos h]
  rfl

/-- A character is no part of a surrogate pair. -/
theorem not_surrogate_toNat (c : Char) :
    ¬ isLowSurrogate c.toNat = true ∧ ¬ isHighSurrogate c.toNat = true := by
  rw [isLowSurrogate_iff, isHighSurrogate_iff]
  have hvalid : c.toNat.isValidChar := c.valid
  rw [Nat.isValidChar] at hvalid
  omega

theorem readString_plain (hcontrol : 0x20 ≤ c.toNat) (hquote : c ≠ '"') (hbackslash : c ≠ '\\')
    (text : List Char) : readString (c :: text) = withChar c (readString text) := by
  rw [readString.eq_def]
  simp [hbackslash, Nat.not_lt.mpr hcontrol]

theorem readString_short (h : shortEscape? letter = some c) (text : List Char) :
    readString ('\\' :: letter :: text) = withChar c (readString text) := by
  have hletter : letter ≠ 'u' := by
    rintro rfl
    cases h
  rw [readString.eq_def]
  simp [hletter, h]

theorem readString_unit {c₁ c₂ c₃ c₄ : Char} (h : hexQuad? c₁ c₂ c₃ c₄ = some unit)
    (hlow : ¬ isLowSurrogate unit = true) (hhigh : ¬ isHighSurrogate unit = true)
    (text : List Char) : readString ('\\' :: 'u' :: c₁ :: c₂ :: c₃ :: c₄ :: text) =
      withChar (Char.ofNat unit) (readString text) := by
  rw [readString, h]
  simp only [if_neg hlow, if_neg hhigh]

theorem readString_pair {c₁ c₂ c₃ c₄ d₁ d₂ d₃ d₄ : Char} {low : Nat}
    (hfirst : hexQuad? c₁ c₂ c₃ c₄ = some unit) (hsecond : hexQuad? d₁ d₂ d₃ d₄ = some low)
    (hplain : ¬ isLowSurrogate unit = true) (hhigh : isHighSurrogate unit = true)
    (hlow : isLowSurrogate low = true) (text : List Char) :
    readString
        ('\\' :: 'u' :: c₁ :: c₂ :: c₃ :: c₄ :: '\\' :: 'u' :: d₁ :: d₂ :: d₃ :: d₄ :: text) =
      withChar (pairChar unit low) (readString text) := by
  rw [readString, hfirst]
  simp only [if_neg hplain, if_pos hhigh, hsecond, if_pos hlow]

/-- A character is read from each way to write it, and whatever follows is read on. -/
theorem Spells.readString_append {part : List Char} (h : Spells c part) (text : List Char) :
    readString (part ++ text) = withChar c (readString text) := by
  cases h with
  | plain hcontrol hquote hbackslash => exact readString_plain hcontrol hquote hbackslash text
  | short h => exact readString_short (shortEscape?_eq_some_iff.mpr h) text
  | unit h =>
    obtain ⟨c₁, c₂, c₃, c₄, rfl⟩ := h.exists_eq
    obtain ⟨hlow, hhigh⟩ := not_surrogate_toNat c
    have hread := readString_unit (hexQuad?_eq_some_iff.mpr h) hlow hhigh text
    rwa [Char.ofNat_toNat] at hread
  | @pair high low _ _ hfirst hsecond hhigh hlow hvalue =>
    obtain ⟨c₁, c₂, c₃, c₄, rfl⟩ := hfirst.exists_eq
    obtain ⟨d₁, d₂, d₃, d₄, rfl⟩ := hsecond.exists_eq
    have hplain : ¬ isLowSurrogate high = true := by
      rw [isLowSurrogate_iff]
      omega
    have hchar : pairChar high low = c := by
      rw [pairChar, ← hvalue, Char.ofNat_toNat]
    rw [← hchar]
    exact readString_pair (hexQuad?_eq_some_iff.mpr hfirst) (hexQuad?_eq_some_iff.mpr hsecond)
      hplain (isHighSurrogate_iff.mpr hhigh) (isLowSurrogate_iff.mpr hlow) text

/-! ### Whole literals -/

/-- What is read is spelled in front of a quote. -/
theorem exists_parts_of_readString (text : List Char) : ∀ {chars rest : List Char},
    readString text = .ok (chars, rest) →
      ∃ parts, List.Forall₂ Spells chars parts ∧ text = parts.flatten ++ '"' :: rest := by
  fun_induction readString text with
  | case2 text =>
    intro chars rest h
    cases h
    exact ⟨[], .nil, rfl⟩
  | case6 c₁ c₂ c₃ c₄ high hfirst hplain hhigh d₁ d₂ d₃ d₄ text low hsecond hlow ih =>
    intro chars rest h
    obtain ⟨tail, htail, rfl⟩ := withChar_eq_ok h
    obtain ⟨parts, hparts, rfl⟩ := ih htail
    rw [isHighSurrogate_iff] at hhigh
    rw [isLowSurrogate_iff] at hlow
    have hvalid : (0x10000 + (high - 0xD800) * 0x400 + (low - 0xDC00)).isValidChar := by
      rw [Nat.isValidChar]
      omega
    have hpart := Spells.pair (hexQuad?_eq_some_iff.mp hfirst) (hexQuad?_eq_some_iff.mp hsecond)
      hhigh hlow (toNat_ofNat hvalid)
    exact ⟨_, .cons hpart hparts, by simp⟩
  | case13 c₁ c₂ c₃ c₄ text unit hunit hlow hhigh ih =>
    intro chars rest h
    obtain ⟨tail, htail, rfl⟩ := withChar_eq_ok h
    obtain ⟨parts, hparts, rfl⟩ := ih htail
    have hwrites := hexQuad?_eq_some_iff.mp hunit
    have hvalid : unit.isValidChar := by
      have hlt := hwrites.lt
      rw [isLowSurrogate_iff] at hlow
      rw [isHighSurrogate_iff] at hhigh
      rw [Nat.isValidChar]
      omega
    rw [← toNat_ofNat hvalid] at hwrites
    exact ⟨_, .cons (.unit hwrites) hparts, by simp⟩
  | case16 letter text _ _ c hletter ih =>
    intro chars rest h
    obtain ⟨tail, htail, rfl⟩ := withChar_eq_ok h
    obtain ⟨parts, hparts, rfl⟩ := ih htail
    exact ⟨_, .cons (.short (shortEscape?_eq_some_iff.mp hletter)) hparts, by simp⟩
  | case19 c text hquote _ _ hend hescape hcontrol ih =>
    intro chars rest h
    obtain ⟨tail, htail, rfl⟩ := withChar_eq_ok h
    obtain ⟨parts, hparts, htext⟩ := ih htail
    have hbackslash : c ≠ '\\' := by
      intro hc
      cases text with
      | nil => exact hend hc rfl
      | cons letter text => exact hescape letter text hc rfl
    rw [htext]
    exact ⟨_, .cons (.plain (Nat.le_of_not_lt hcontrol) hquote hbackslash) hparts, by simp⟩
  | _ => simp

/-- Every character can be written. -/
theorem exists_spells (c : Char) : ∃ part, Spells c part := by
  by_cases hcontrol : 0x20 ≤ c.toNat
  · by_cases hquote : c = '"'
    · have hescape : ('"', c) ∈ shortEscapes := by simp [shortEscapes, hquote]
      exact ⟨_, .short hescape⟩
    · by_cases hbackslash : c = '\\'
      · have hescape : ('\\', c) ∈ shortEscapes := by simp [shortEscapes, hbackslash]
        exact ⟨_, .short hescape⟩
      · exact ⟨_, .plain hcontrol hquote hbackslash⟩
  · have hsmall : c.toNat < 0x10000 := by omega
    obtain ⟨digits, hdigits⟩ := exists_writesUnit hsmall
    exact ⟨_, .unit hdigits⟩

/-- So can every list of characters. -/
theorem exists_spellsLiteral (chars : List Char) : ∃ literal, SpellsLiteral chars literal := by
  have hparts : ∃ parts, List.Forall₂ Spells chars parts := by
    induction chars with
    | nil => exact ⟨[], .nil⟩
    | cons c chars ih =>
      obtain ⟨part, hpart⟩ := exists_spells c
      obtain ⟨parts, hparts⟩ := ih
      exact ⟨part :: parts, .cons hpart hparts⟩
  obtain ⟨parts, hparts⟩ := hparts
  exact ⟨_, parts, hparts, rfl⟩

/-- The reader accepts exactly the spellings of characters in front of a quote, and gives the
characters. -/
theorem readString_eq_ok_iff : readString text = .ok (chars, rest) ↔
    ∃ parts, List.Forall₂ Spells chars parts ∧ text = parts.flatten ++ '"' :: rest := by
  refine ⟨exists_parts_of_readString text, ?_⟩
  rintro ⟨parts, hparts, rfl⟩
  induction hparts with
  | nil => rfl
  | cons hpart _ ih =>
    rw [List.flatten_cons, List.append_assoc, hpart.readString_append, ih]
    rfl

end WastSuite.Json
