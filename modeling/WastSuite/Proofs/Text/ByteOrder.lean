import Mathlib.Data.List.Basic

/-!
# The order of texts and the order of their bytes

Texts are ordered by their characters, the first that differs deciding. Their UTF-8 is in the same
order byte by byte: the lead byte of a character tells how many bytes it has, the other bytes are
the digits of its value in base 64, and both grow with the value (`octets_append_lt`). Main
statement: one text comes before another exactly if its bytes do (`lt_iff_utf8_lt`).
-/

set_option autoImplicit false

namespace WastSuite.Text

/-- The bytes of a text in UTF-8. -/
def utf8 (text : String) : List UInt8 :=
  text.toUTF8.data.toList

/-- The bytes of a character value as numbers: a lead byte, and behind it digits in base 64. -/
def octets (value : Nat) : List Nat :=
  if value ≤ 0x7f then [value]
  else if value ≤ 0x7ff then [value / 64 + 192, value % 64 + 128]
  else if value ≤ 0xffff then [value / 4096 + 224, value / 64 % 64 + 128, value % 64 + 128]
  else [value / 262144 + 240, value / 4096 % 64 + 128, value / 64 % 64 + 128, value % 64 + 128]

theorem toNat_le (c : Char) : c.toNat ≤ 0x10ffff := by
  rcases c.valid with h | h
  · exact Nat.le_of_lt (Nat.lt_trans h (by decide))
  · exact Nat.le_of_lt_succ h.2

/-- The bytes of a character are those of its value. -/
theorem map_toNat_utf8EncodeChar (c : Char) :
    (String.utf8EncodeChar c).map UInt8.toNat = octets c.toNat := by
  have hlarge := toNat_le c
  show (String.utf8EncodeChar c).map UInt8.toNat = octets c.val.toNat
  generalize hvalue : c.val.toNat = value
  have hsmall : value ≤ 0x10ffff := hvalue ▸ hlarge
  simp only [String.utf8EncodeChar, octets, hvalue]
  split_ifs with hone htwo hthree <;>
    simp only [List.map_cons, List.map_nil, UInt8.toNat_ofNat', List.cons.injEq, and_true] <;>
    omega

/-- A smaller number has a smaller first digit that differs. -/
theorem digits_lt {first second : Nat} (h : first < second) :
    first / 262144 < second / 262144 ∨ first / 262144 = second / 262144 ∧
      (first / 4096 % 64 < second / 4096 % 64 ∨ first / 4096 % 64 = second / 4096 % 64 ∧
        (first / 64 % 64 < second / 64 % 64 ∨ first / 64 % 64 = second / 64 % 64 ∧
          first % 64 < second % 64)) := by
  omega

/-- A smaller value has smaller bytes, whatever follows. -/
theorem octets_append_lt {first second : Nat} (h : first < second) (rest others : List Nat) :
    octets first ++ rest < octets second ++ others := by
  have hdigits := digits_lt h
  simp only [octets]
  split_ifs <;> simp only [List.cons_append, List.nil_append, List.cons_lt_cons_iff] <;> omega

/-- Bytes are ordered as numbers are. -/
theorem map_toNat_lt_iff {first second : List UInt8} :
    first.map UInt8.toNat < second.map UInt8.toNat ↔ first < second := by
  induction first generalizing second with
  | nil => cases second <;> simp
  | cons byte first ih =>
    cases second with
    | nil => simp
    | cons other second =>
      simp only [List.map_cons, List.cons_lt_cons_iff, ih, UInt8.lt_iff_toNat_lt, UInt8.toNat_inj]

/-- A character in front puts its bytes in front. -/
theorem utf8_ofList_cons (c : Char) (text : List Char) :
    utf8 (String.ofList (c :: text)) = String.utf8EncodeChar c ++ utf8 (String.ofList text) := by
  simp [utf8, String.toUTF8_eq_toByteArray, String.toByteArray_ofList, List.utf8Encode]

/-- An earlier list of characters has earlier bytes. -/
theorem utf8_lt_of_lt {first second : List Char} (h : first < second) :
    utf8 (String.ofList first) < utf8 (String.ofList second) := by
  induction first generalizing second with
  | nil =>
    cases second with
    | nil => simp at h
    | cons d second =>
      rw [utf8_ofList_cons, ← map_toNat_lt_iff, List.map_append, map_toNat_utf8EncodeChar]
      simp only [octets]
      split_ifs <;> exact List.nil_lt_cons _ _
  | cons c first ih =>
    cases second with
    | nil => simp at h
    | cons d second =>
      rw [utf8_ofList_cons, utf8_ofList_cons]
      rcases List.cons_lt_cons_iff.mp h with hless | ⟨rfl, hrest⟩
      · rw [← map_toNat_lt_iff, List.map_append, List.map_append, map_toNat_utf8EncodeChar,
          map_toNat_utf8EncodeChar]
        exact octets_append_lt (UInt32.lt_iff_toNat_lt.mp (Char.lt_def.mp hless)) _ _
      · exact List.append_left_lt (ih hrest)

/-- Texts are in the order of their bytes. -/
theorem lt_iff_utf8_lt {first second : String} : first < second ↔ utf8 first < utf8 second := by
  have hlt : ∀ {first second : String}, first < second → utf8 first < utf8 second := by
    intro first second h
    rw [← String.ofList_toList (s := first), ← String.ofList_toList (s := second)]
    exact utf8_lt_of_lt (String.lt_iff.mp h)
  refine ⟨hlt, fun h ↦ ?_⟩
  by_contra hnot
  by_cases hless : second < first
  · exact List.lt_asymm h (hlt hless)
  · have hsame : first = second :=
      String.le_antisymm (String.not_lt.mp hless) (String.not_lt.mp hnot)
    exact List.lt_irrefl _ (hsame ▸ h)

end WastSuite.Text
