import WastSuite.Proofs.Json.StringArray
import WastSuite.Proofs.NameSet

/-!
# Allow-lists from JSON

An allow-list can be given as a JSON array of strings. However the array is spelled, with blanks
anywhere between its tokens and each character written in any of its ways, the list is the same as
that of the strings themselves, and no other text gives a list.

Main statement: `ofJson_eq_ok_iff_spells`. Every list of names has such a text
(`exists_spellsArray`).
-/

set_option autoImplicit false

namespace WastSuite

namespace Json

/-- Every list of strings is spelled by some text. -/
theorem exists_spellsArray (names : List String) :
    ∃ text : String, SpellsArray names text.toList := by
  have hnone : Blanks [] := fun _ hmem ↦ absurd hmem List.not_mem_nil
  have hitems : ∃ items, List.Forall₂ SpellsItem names items := by
    induction names with
    | nil => exact ⟨[], .nil⟩
    | cons name names ih =>
      obtain ⟨items, hitems⟩ := ih
      obtain ⟨literal, hliteral⟩ := exists_spellsLiteral name.toList
      exact ⟨literal :: items, .cons ⟨[], literal, [], hnone, hliteral, hnone, by simp⟩ hitems⟩
  obtain ⟨items, hitems⟩ := hitems
  have hinside : SpellsItems names ([','].intercalate items) := by
    cases hitems with
    | nil => exact Or.inl ⟨rfl, hnone⟩
    | cons hitem hitems => exact Or.inr ⟨List.cons_ne_nil _ _, _, .cons hitem hitems, rfl⟩
  exact ⟨String.ofList ('[' :: [','].intercalate items ++ [']']), [], _, [], hnone, hinside, hnone,
    by simp⟩

/-- A text spells no two lists of strings. -/
theorem SpellsArray.eq {text : List Char} {names others : List String}
    (h : SpellsArray names text) (hother : SpellsArray others text) : names = others := by
  rw [← String.toList_ofList (l := text)] at h hother
  exact Except.ok.inj ((readStrings_eq_ok_iff.mpr h).symm.trans (readStrings_eq_ok_iff.mpr hother))

end Json

namespace AllowList

theorem ofJson_of_spells {text : String} {names : List String}
    (h : Json.SpellsArray names text.toList) : ofJson text = .ok (ofNames names) := by
  rw [ofJson, Json.readStrings_eq_ok_iff.mpr h]

/-- A text gives an allow-list exactly if it is a JSON array of strings, and then the list is that
of the strings: it contains them and no other name, and its size is how many different ones there
are. Every other text is refused, and every list of names has such a text. -/
theorem ofJson_eq_ok_iff_spells :
    (∀ text list, ofJson text = .ok list ↔
      ∃! names, Json.SpellsArray names text.toList ∧ list = ofNames names) ∧
    (∀ (text : String) names, Json.SpellsArray names text.toList →
      ofJson text = .ok (ofNames names) ∧
        (∀ fileName, (ofNames names).contains fileName = true ↔ fileName ∈ names) ∧
        (ofNames names).size = names.toFinset.card) ∧
    (∀ text : String, (¬ ∃ names, Json.SpellsArray names text.toList) →
      ∃ error, ofJson text = .error (.allowList error)) ∧
    ∀ names, ∃ text : String, Json.SpellsArray names text.toList := by
  refine ⟨fun text list ↦ ⟨fun h ↦ ?_, ?_⟩, fun text names h ↦ ⟨ofJson_of_spells h,
    fun fileName ↦ contains_ofNames, NameSet.size_ofList names⟩, fun text hnone ↦ ?_,
    Json.exists_spellsArray⟩
  · rw [ofJson] at h
    split at h
    · rename_i names hread
      have hspells := Json.readStrings_eq_ok_iff.mp hread
      exact ⟨names, ⟨hspells, (Except.ok.inj h).symm⟩, fun others hothers ↦ hothers.1.eq hspells⟩
    · cases h
  · rintro ⟨names, ⟨hspells, rfl⟩, -⟩
    exact ofJson_of_spells hspells
  · rw [ofJson]
    split
    · rename_i names hread
      exact absurd ⟨names, Json.readStrings_eq_ok_iff.mp hread⟩ hnone
    · exact ⟨_, rfl⟩

/-! ### A text with blanks and escapes -/

open Json

/-- A text with blanks, a short escape, a number in digits of both cases and a surrogate pair. -/
def escapedText : String :=
  " [\t\"a\\/b\" ,\n\"\\u00e9\\uD83d\\uDE00\"]\r"

theorem spellsItem_slash : SpellsItem "a/b" "\t\"a\\/b\" ".toList := by
  have hfirst : Spells 'a' ['a'] := .plain (by decide) (by decide) (by decide)
  have hslash : Spells '/' ['\\', '/'] := .short (by simp [shortEscapes])
  have hlast : Spells 'b' ['b'] := .plain (by decide) (by decide) (by decide)
  have hparts : List.Forall₂ Spells "a/b".toList [['a'], ['\\', '/'], ['b']] :=
    .cons hfirst (.cons hslash (.cons hlast .nil))
  exact ⟨['\t'], _, [' '], by simp [Blanks], ⟨_, hparts, rfl⟩, by simp [Blanks], by decide⟩

theorem spellsItem_numbers :
    SpellsItem "é😀" "\n\"\\u00e9\\uD83d\\uDE00\"".toList := by
  have hunit : WritesUnit 0xE9 "00e9".toList := hexQuad?_eq_some_iff.mp (by decide)
  have hhigh : WritesUnit 0xD83D "D83d".toList := hexQuad?_eq_some_iff.mp (by decide)
  have hlow : WritesUnit 0xDE00 "DE00".toList := hexQuad?_eq_some_iff.mp (by decide)
  have hpair : Spells '😀' "\\uD83d\\uDE00".toList :=
    .pair hhigh hlow (by decide) (by decide) rfl
  have hparts : List.Forall₂ Spells "é😀".toList
      ["\\u00e9".toList, "\\uD83d\\uDE00".toList] :=
    .cons (.unit hunit) (.cons hpair .nil)
  exact ⟨['\n'], _, [], by simp [Blanks], ⟨_, hparts, rfl⟩, by simp [Blanks], by decide⟩

theorem ofJson_eq_ok_iff_spells_escaped :
    ofJson escapedText = .ok (ofNames ["a/b", "é😀"]) ∧
      (∀ fileName, (ofNames ["a/b", "é😀"]).contains fileName = true ↔
        fileName ∈ ["a/b", "é😀"]) ∧
      (ofNames ["a/b", "é😀"]).size = 2 := by
  have hspells : SpellsArray ["a/b", "é😀"] escapedText.toList :=
    ⟨[' '], _, ['\r'], by simp [Blanks], Or.inr ⟨by simp, _,
      .cons spellsItem_slash (.cons spellsItem_numbers .nil), rfl⟩, by simp [Blanks], by decide⟩
  exact ofJson_eq_ok_iff_spells.2.1 escapedText ["a/b", "é😀"] hspells

end AllowList

end WastSuite
