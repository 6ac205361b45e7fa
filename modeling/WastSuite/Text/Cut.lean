/-!
# Cutting text at its ends

Names and roots are compared by what they start with, end with and contain. `afterHead?` takes a
head off a text, `beforeTail?` takes a tail off, and `occursIn` looks for a part anywhere. Main
statements: the two cuts undo appending and succeed on nothing else (`afterHead?_eq_some_iff`,
`beforeTail?_eq_some_iff`), and the search finds exactly the contiguous parts (`occursIn_iff`).
-/

set_option autoImplicit false

namespace WastSuite.Text

/-! ### On lists of characters -/

/-- What follows `head` in `text`, if `text` starts with it. -/
def dropHead? : List Char → List Char → Option (List Char)
  | [], text => some text
  | _ :: _, [] => none
  | c :: head, d :: text => if c = d then dropHead? head text else none

/-- Cutting a head off undoes putting it in front. -/
theorem dropHead?_eq_some_iff {head text rest : List Char} :
    dropHead? head text = some rest ↔ text = head ++ rest := by
  induction head generalizing text with
  | nil => simp [dropHead?]
  | cons c head ih =>
    cases text with
    | nil => simp [dropHead?]
    | cons d text =>
      by_cases h : c = d
      · simp [dropHead?, h, ih]
      · simp [dropHead?, h, Ne.symm h]

/-- Whether `part` stands somewhere in a text, in one piece. -/
def holdsPart (part : List Char) : List Char → Bool
  | [] => (dropHead? part []).isSome
  | c :: text => (dropHead? part (c :: text)).isSome || holdsPart part text

/-- The search finds exactly the contiguous parts. -/
theorem holdsPart_iff {part text : List Char} :
    holdsPart part text = true ↔ ∃ before after, text = before ++ part ++ after := by
  induction text with
  | nil =>
    simp only [holdsPart, Option.isSome_iff_exists, dropHead?_eq_some_iff]
    constructor
    · rintro ⟨after, h⟩
      exact ⟨[], after, by simpa using h⟩
    · rintro ⟨before, after, h⟩
      simp only [List.append_assoc, List.nil_eq, List.append_eq_nil_iff] at h
      exact ⟨[], by simp [h.2.1]⟩
  | cons c text ih =>
    simp only [holdsPart, Bool.or_eq_true, Option.isSome_iff_exists, dropHead?_eq_some_iff, ih]
    constructor
    · rintro (⟨after, h⟩ | ⟨before, after, h⟩)
      · exact ⟨[], after, by simpa using h⟩
      · exact ⟨c :: before, after, by simp [h]⟩
    · rintro ⟨before, after, h⟩
      cases before with
      | nil => exact Or.inl ⟨after, by simpa using h⟩
      | cons d before =>
        simp only [List.cons_append, List.cons.injEq] at h
        exact Or.inr ⟨before, after, h.2⟩

/-! ### On texts -/

/-- What follows `head` in `text`, if `text` starts with it. -/
def afterHead? (head text : String) : Option String :=
  (dropHead? head.toList text.toList).map String.ofList

/-- What precedes `tail` in `text`, if `text` ends with it. -/
def beforeTail? (tail text : String) : Option String :=
  (dropHead? tail.toList.reverse text.toList.reverse).map fun rest ↦ String.ofList rest.reverse

/-- Whether `part` stands somewhere in `text`, in one piece. -/
def occursIn (part text : String) : Bool :=
  holdsPart part.toList text.toList

/-- A text starts with a head and continues with `rest` exactly if it is the two put together. -/
theorem afterHead?_eq_some_iff {head text rest : String} :
    afterHead? head text = some rest ↔ text = head ++ rest := by
  simp only [afterHead?, Option.map_eq_some_iff, dropHead?_eq_some_iff, ← String.toList_inj,
    String.toList_append]
  constructor
  · rintro ⟨chars, h, hrest⟩
    rw [h, ← hrest, String.toList_ofList]
  · intro h
    exact ⟨rest.toList, h, String.toList_ofList⟩

/-- A text ends with a tail and starts with `rest` exactly if it is the two put together. -/
theorem beforeTail?_eq_some_iff {tail text rest : String} :
    beforeTail? tail text = some rest ↔ text = rest ++ tail := by
  simp only [beforeTail?, Option.map_eq_some_iff, dropHead?_eq_some_iff, ← String.toList_inj,
    String.toList_append]
  constructor
  · rintro ⟨chars, h, hrest⟩
    rw [← hrest, String.toList_ofList, ← List.reverse_inj, h]
    simp
  · intro h
    exact ⟨rest.toList.reverse, by simp [h], by simp⟩

/-- The search finds exactly the contiguous parts of a text. -/
theorem occursIn_iff {part text : String} :
    occursIn part text = true ↔ ∃ before after, text = before ++ part ++ after := by
  rw [occursIn, holdsPart_iff]
  constructor
  · rintro ⟨before, after, h⟩
    exact ⟨String.ofList before, String.ofList after, by
      rw [← String.toList_inj, h]
      simp⟩
  · rintro ⟨before, after, h⟩
    exact ⟨before.toList, after.toList, by simp [h]⟩

end WastSuite.Text
