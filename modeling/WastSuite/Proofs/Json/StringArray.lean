import Mathlib.Data.List.TakeWhile
import WastSuite.Proofs.Fallible
import WastSuite.Proofs.Json.StringLiteral

/-!
# JSON arrays of strings

A JSON array of strings stands between brackets, its items separated by commas, with blanks around
every bracket, comma and item (`SpellsArray`). Nothing else may stand in the text, so no comma
behind the last item.

Main statement: the reader accepts exactly these texts, and gives the strings that are spelled
(`readStrings_eq_ok_iff`). Behind the first item it reads a run of items, each behind a comma
(`readMore_eq_ok_iff`).
-/

set_option autoImplicit false

namespace WastSuite.Json

/-! ### The grammar -/

/-- A text of blanks: spaces, tabs, and line and carriage returns. -/
def Blanks (text : List Char) : Prop :=
  ∀ c ∈ text, c ∈ [' ', '\t', '\n', '\r']

/-- An item: a string literal with blanks around it. -/
def SpellsItem (name : String) (item : List Char) : Prop :=
  ∃ before literal after, Blanks before ∧ SpellsLiteral name.toList literal ∧ Blanks after ∧
    item = before ++ literal ++ after

/-- What stands between the brackets: items with commas between them, or only blanks. -/
def SpellsItems (names : List String) (inside : List Char) : Prop :=
  names = [] ∧ Blanks inside ∨
    names ≠ [] ∧ ∃ items, List.Forall₂ SpellsItem names items ∧ inside = [','].intercalate items

/-- A JSON array of strings, with blanks around it. -/
def SpellsArray (names : List String) (text : List Char) : Prop :=
  ∃ before inside after, Blanks before ∧ SpellsItems names inside ∧ Blanks after ∧
    text = before ++ '[' :: inside ++ ']' :: after

variable {c : Char} {text chars rest before : List Char} {names : List String}

/-! ### Blanks -/

theorem isBlank_iff : isBlank c = true ↔ c ∈ [' ', '\t', '\n', '\r'] := by
  simp only [isBlank, Bool.or_eq_true, beq_iff_eq, List.mem_cons, List.not_mem_nil, or_false]
  tauto

theorem skipBlanks_append (h : Blanks before) (text : List Char) :
    skipBlanks (before ++ text) = skipBlanks text :=
  List.dropWhile_append_of_pos fun c hmem ↦ isBlank_iff.mpr (h c hmem)

/-- What is skipped are blanks. -/
theorem exists_blanks (text : List Char) : ∃ before, Blanks before ∧
    text = before ++ skipBlanks text :=
  ⟨text.takeWhile isBlank, fun _ hmem ↦ isBlank_iff.mp (List.mem_takeWhile_imp hmem),
    List.takeWhile_append_dropWhile.symm⟩

theorem skipBlanks_eq_nil_iff : skipBlanks text = [] ↔ Blanks text := by
  constructor
  · intro h
    obtain ⟨before, hbefore, htext⟩ := exists_blanks text
    rw [h, List.append_nil] at htext
    exact htext ▸ hbefore
  · intro h
    rw [← List.append_nil text, skipBlanks_append h]
    rfl

theorem skipBlanks_eq_cons_iff (hc : isBlank c = false) :
    skipBlanks text = c :: rest ↔ ∃ before, Blanks before ∧ text = before ++ c :: rest := by
  constructor
  · intro h
    obtain ⟨before, hbefore, htext⟩ := exists_blanks text
    exact ⟨before, hbefore, h ▸ htext⟩
  · rintro ⟨before, hbefore, rfl⟩
    rw [skipBlanks_append hbefore, skipBlanks, List.dropWhile_cons_of_neg (by simp [hc])]

/-! ### Items -/

/-- An item is read if a literal comes first. -/
theorem readItem_eq_ok_iff : readItem text = .ok (chars, rest) ↔
    ∃ literal, SpellsLiteral chars literal ∧ text = literal ++ rest := by
  constructor
  · intro h
    unfold readItem at h
    split at h
    · obtain ⟨parts, hparts, rfl⟩ := readString_eq_ok_iff.mp h
      exact ⟨_, ⟨parts, hparts, rfl⟩, by simp⟩
    · cases h
  · rintro ⟨literal, ⟨parts, hparts, rfl⟩, rfl⟩
    have hread : readString (parts.flatten ++ '"' :: rest) = .ok (chars, rest) :=
      readString_eq_ok_iff.mpr ⟨parts, hparts, rfl⟩
    simpa [readItem] using hread

/-- A string that is read is a literal for its characters. -/
theorem exists_item_of_readItem {behind : List Char}
    (h : readItem (skipBlanks text) = .ok (chars, behind)) :
    ∃ before literal, Blanks before ∧ SpellsLiteral (String.ofList chars).toList literal ∧
      text = before ++ literal ++ behind := by
  obtain ⟨before, hbefore, htext⟩ := exists_blanks text
  obtain ⟨literal, hliteral, hsplit⟩ := readItem_eq_ok_iff.mp h
  refine ⟨before, literal, hbefore, by rwa [String.toList_ofList], ?_⟩
  rw [List.append_assoc, ← hsplit, ← htext]

/-- An item is read with the blanks in front of it, and those behind it are left. -/
theorem readItem_of_spellsItem {name : String} {item : List Char} (h : SpellsItem name item) :
    ∃ after, Blanks after ∧ ∀ rest,
      readItem (skipBlanks (item ++ rest)) = .ok (name.toList, after ++ rest) := by
  obtain ⟨before, literal, after, hbefore, hliteral, hafter, rfl⟩ := h
  refine ⟨after, hafter, fun rest ↦ ?_⟩
  obtain ⟨parts, hparts, rfl⟩ := id hliteral
  rw [List.append_assoc, List.append_assoc, skipBlanks_append hbefore]
  have hfirst : skipBlanks ('"' :: parts.flatten ++ ['"'] ++ (after ++ rest)) =
      '"' :: parts.flatten ++ ['"'] ++ (after ++ rest) :=
    List.dropWhile_cons_of_neg (by decide)
  rw [hfirst]
  exact readItem_eq_ok_iff.mpr ⟨_, hliteral, rfl⟩

/-! ### Runs of items -/

theorem readMore_of_bracket (h : skipBlanks text = ']' :: rest) :
    readMore text = .ok ([], rest) := by
  rw [readMore]
  split <;> simp_all

theorem readMore_of_comma {behind : List Char} (h : skipBlanks text = ',' :: rest)
    (hitem : readItem (skipBlanks rest) = .ok (chars, behind)) :
    readMore text =
      (readMore behind).map fun (names, rest) ↦ (String.ofList chars :: names, rest) := by
  rw [readMore]
  split
  · rename_i hnone
    cases hnone.symm.trans h
  · rename_i hbracket
    cases hbracket.symm.trans h
  · rename_i hcomma
    cases hcomma.symm.trans h
    split
    · rename_i hnone
      rw [hnone] at hitem
      cases hitem
    · rename_i hbracket
      rw [hbracket] at hitem
      cases hitem
    · split
      · rename_i hfault
        cases hfault.symm.trans hitem
      · rename_i hread
        cases hread.symm.trans hitem
        rfl
  · rename_i hother
    exact absurd h (hother rest)

/-- A run of items, each behind a comma, up to a bracket. -/
def SpellsRun (names : List String) (run : List Char) : Prop :=
  ∃ before items, Blanks before ∧ List.Forall₂ SpellsItem names items ∧
    run = before ++ items.flatMap (',' :: ·)

/-- What is read behind the first item is a run of items in front of a bracket. -/
theorem exists_run_of_readMore (text : List Char) : ∀ {names : List String} {rest : List Char},
    readMore text = .ok (names, rest) → ∃ run, SpellsRun names run ∧ text = run ++ ']' :: rest := by
  fun_induction readMore text with
  | case2 text rest hbracket =>
    intro names behind h
    cases h
    obtain ⟨before, hbefore, rfl⟩ := (skipBlanks_eq_cons_iff (by decide)).mp hbracket
    exact ⟨before, ⟨before, [], hbefore, .nil, by simp⟩, rfl⟩
  | case6 text rest hcomma chars behind _ _ hitem ih =>
    intro names further h
    obtain ⟨⟨tail, last⟩, htail, hresult⟩ := Fallible.map_eq_ok_iff.mp h
    cases hresult
    obtain ⟨run, ⟨after, items, hafter, hitems, rfl⟩, rfl⟩ := ih htail
    obtain ⟨before, hbefore, rfl⟩ := (skipBlanks_eq_cons_iff (by decide)).mp hcomma
    obtain ⟨first, literal, hfirst, hliteral, rfl⟩ := exists_item_of_readItem hitem
    have hhead : SpellsItem (String.ofList chars) (first ++ literal ++ after) :=
      ⟨first, literal, after, hfirst, hliteral, hafter, rfl⟩
    exact ⟨_, ⟨before, _, hbefore, .cons hhead hitems, rfl⟩, by simp⟩
  | _ => simp

/-- The reader accepts exactly the runs of items in front of a bracket, and gives the strings. -/
theorem readMore_eq_ok_iff : readMore text = .ok (names, rest) ↔
    ∃ run, SpellsRun names run ∧ text = run ++ ']' :: rest := by
  refine ⟨exists_run_of_readMore text, ?_⟩
  rintro ⟨_, ⟨before, items, hbefore, hitems, rfl⟩, rfl⟩
  induction hitems generalizing before with
  | nil =>
    refine readMore_of_bracket ((skipBlanks_eq_cons_iff (by decide)).mpr ⟨before, hbefore, ?_⟩)
    simp
  | @cons name item names items hitem hitems ih =>
    obtain ⟨after, hafter, hread⟩ := readItem_of_spellsItem hitem
    have hcomma : skipBlanks (before ++ (item :: items).flatMap (',' :: ·) ++ ']' :: rest) =
        ',' :: (item ++ (items.flatMap (',' :: ·) ++ ']' :: rest)) :=
      (skipBlanks_eq_cons_iff (by decide)).mpr ⟨before, hbefore, by simp⟩
    have hrest := ih after hafter
    rw [List.append_assoc] at hrest
    rw [readMore_of_comma hcomma (hread _), hrest, Except.map, String.ofList_toList]

/-! ### Arrays -/

/-- Items with commas between them are the first item and a run of the others. -/
theorem intercalate_cons (item : List Char) (items : List (List Char)) :
    [','].intercalate (item :: items) = item ++ items.flatMap (',' :: ·) := by
  induction items generalizing item with
  | nil => simp
  | cons other items ih =>
    rw [List.intercalate_cons_cons, ih, List.flatMap_cons]
    simp

theorem readItems_of_item {behind further : List Char}
    (hitem : readItem (skipBlanks text) = .ok (chars, behind))
    (hmore : readMore behind = .ok (names, further)) :
    readItems text = .ok (String.ofList chars :: names, further) := by
  rw [readItems]
  split
  · rename_i hnone
    rw [hnone] at hitem
    cases hitem
  · rename_i hbracket
    rw [hbracket] at hitem
    cases hitem
  · rw [hitem, Fallible.bind_eq_ok_iff]
    exact ⟨_, rfl, Fallible.bind_eq_ok_iff.mpr ⟨_, hmore, rfl⟩⟩

/-- What is read behind the opening bracket are items in front of the closing one. -/
theorem exists_items_of_readItems (h : readItems text = .ok (names, rest)) :
    ∃ inside, SpellsItems names inside ∧ text = inside ++ ']' :: rest := by
  rw [readItems] at h
  split at h
  · cases h
  · rename_i hbracket
    cases h
    obtain ⟨before, hbefore, rfl⟩ := (skipBlanks_eq_cons_iff (by decide)).mp hbracket
    exact ⟨before, Or.inl ⟨rfl, hbefore⟩, rfl⟩
  · obtain ⟨⟨chars, behind⟩, hitem, h⟩ := Fallible.bind_eq_ok_iff.mp h
    obtain ⟨⟨tail, last⟩, hmore, h⟩ := Fallible.bind_eq_ok_iff.mp h
    cases h
    obtain ⟨before, literal, hbefore, hliteral, rfl⟩ := exists_item_of_readItem hitem
    obtain ⟨_, ⟨after, items, hafter, hitems, rfl⟩, rfl⟩ := readMore_eq_ok_iff.mp hmore
    have hhead : SpellsItem (String.ofList chars) (before ++ literal ++ after) :=
      ⟨before, literal, after, hbefore, hliteral, hafter, rfl⟩
    refine ⟨_, Or.inr ⟨List.cons_ne_nil _ _, _, .cons hhead hitems, rfl⟩, ?_⟩
    rw [intercalate_cons]
    simp

/-- The reader accepts exactly the items in front of a bracket, and gives the strings. -/
theorem readItems_eq_ok_iff : readItems text = .ok (names, rest) ↔
    ∃ inside, SpellsItems names inside ∧ text = inside ++ ']' :: rest := by
  refine ⟨exists_items_of_readItems, ?_⟩
  rintro ⟨inside, ⟨rfl, hblanks⟩ | ⟨hne, items, hitems, rfl⟩, rfl⟩
  · have hbracket : skipBlanks (inside ++ ']' :: rest) = ']' :: rest :=
      (skipBlanks_eq_cons_iff (by decide)).mpr ⟨inside, hblanks, rfl⟩
    rw [readItems, hbracket]
    rfl
  · cases hitems with
    | nil => exact absurd rfl hne
    | @cons name item names items hitem hitems =>
      obtain ⟨after, hafter, hread⟩ := readItem_of_spellsItem hitem
      have hmore : readMore (after ++ items.flatMap (',' :: ·) ++ ']' :: rest) =
          .ok (names, rest) :=
        readMore_eq_ok_iff.mpr ⟨_, ⟨after, items, hafter, hitems, rfl⟩, rfl⟩
      rw [List.append_assoc] at hmore
      have hall := readItems_of_item (hread _) hmore
      rwa [String.ofList_toList, ← List.append_assoc, ← intercalate_cons] at hall

/-- The reader accepts exactly the JSON arrays of strings, and gives the strings. -/
theorem readStrings_eq_ok_iff {text : String} :
    readStrings text = .ok names ↔ SpellsArray names text.toList := by
  constructor
  · intro h
    rw [readStrings] at h
    split at h
    · cases h
    · rename_i rest hbracket
      obtain ⟨⟨found, behind⟩, hitems, h⟩ := Fallible.bind_eq_ok_iff.mp h
      simp only at h
      split at h
      · rename_i hend
        cases h
        obtain ⟨before, hbefore, htext⟩ := (skipBlanks_eq_cons_iff (by decide)).mp hbracket
        obtain ⟨inside, hinside, rfl⟩ := readItems_eq_ok_iff.mp hitems
        exact ⟨before, inside, behind, hbefore, hinside, skipBlanks_eq_nil_iff.mp hend, by
          simp [htext]⟩
      · cases h
    · cases h
  · rintro ⟨before, inside, after, hbefore, hinside, hafter, htext⟩
    have hbracket : skipBlanks text.toList = '[' :: (inside ++ ']' :: after) :=
      (skipBlanks_eq_cons_iff (by decide)).mpr ⟨before, hbefore, by simp [htext]⟩
    have hitems : readItems (inside ++ ']' :: after) = .ok (names, after) :=
      readItems_eq_ok_iff.mpr ⟨inside, hinside, rfl⟩
    rw [readStrings, hbracket]
    refine Fallible.bind_eq_ok_iff.mpr ⟨_, hitems, ?_⟩
    simp only [skipBlanks_eq_nil_iff.mpr hafter]

end WastSuite.Json
