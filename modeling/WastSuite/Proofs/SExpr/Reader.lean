import WastSuite.Proofs.SExpr.Literal

/-!
# Reading expressions back

The written form of an expression can be read in one pass that looks at nothing but parentheses,
spaces and string literals (`Reading.step`, `SExpr.ofText?`): every other run of characters is an
unquoted atom. The reader cannot see how the bytes of an unquoted atom, or of one that only holds
characters up to U+007F, were read; it takes such an atom as not bytewise (`SExpr.plain`). All else
comes back.

Expressions are well formed if unquoted atoms are tokens and bytewise strings hold bytes
(`SExpr.WellFormed`). Reading one leads from every state between two tokens to one that, once the
last token is ended, has the expression as one more item (`exists_foldlM_step_chars`,
`exists_foldlM_step_ontoAll`). Main statement: the reader gives back every well-formed expression,
so two of them with the same written form agree in all that can be seen
(`render_uniquely_readable`).
-/

set_option autoImplicit false

namespace WastSuite

/-! ### The reader -/

/-- The character that a part of a literal stands for, a byte being one character. -/
def LiteralPart.toChar : LiteralPart → Char
  | .character c => c
  | .byte b => Char.ofNat b.toNat

/-- Whether a part is a byte that is no character of seven bits, which only bytewise atoms write. -/
def LiteralPart.isHighByte : LiteralPart → Bool
  | .character _ => false
  | .byte b => 0x7f < b.toNat

/-- The quoted atom that a literal of some parts stands for. -/
def Atom.ofParts (parts : List LiteralPart) : Atom where
  contents := String.ofList (parts.map LiteralPart.toChar)
  quoted := true
  bytewise := parts.any LiteralPart.isHighByte

/-- The token that a reader is in: none, an unquoted atom with its characters so far, the last
first, or a string literal. -/
inductive PartialToken where
  | nothing
  | bare (chars : List Char)
  | literal (state : LiteralState)

/-- What was read of a text: the items so far of the lists that are open around the innermost one,
the innermost list and the last item first (`outer`), those of the innermost open list, or of the
text as a whole, the last first, and the token that was begun and not ended. -/
structure Reading where
  outer : List (List SExpr)
  items : List SExpr
  token : PartialToken

namespace Reading

/-- Nothing was read. -/
def start : Reading := ⟨[], [], .nothing⟩

/-- One more item was read. -/
def add (reading : Reading) (item : SExpr) : Reading :=
  ⟨reading.outer, item :: reading.items, .nothing⟩

/-- The unquoted atom that was begun, if any, is ended. -/
def settle (reading : Reading) : Reading :=
  match reading.token with
  | .bare chars => reading.add (.symbol (String.ofList chars.reverse))
  | _ => reading

/-- Reads one more character inside a string literal. -/
def stepLiteral (reading : Reading) (state : LiteralState) (c : Char) : Option Reading :=
  match Literal.step state c with
  | some (.closed parts) => some (reading.add (.atom (.ofParts parts.reverse)))
  | some state => some { reading with token := .literal state }
  | none => none

/-- Reads a sign that ends an unquoted atom. -/
def stepSign (reading : Reading) (c : Char) : Option Reading :=
  if c = '(' then some ⟨reading.items :: reading.outer, [], .nothing⟩
  else if c = ')' then
    match reading.outer with
    | [] => none
    | items :: outer => some (add ⟨outer, items, .nothing⟩ (.list reading.items.reverse))
  else if c = '"' then some { reading with token := .literal (.between []) }
  else some reading

/-- Whether a character ends an unquoted atom. -/
def isSign (c : Char) : Bool :=
  c = '(' || c = ')' || c = '"' || c = ' '

/-- Reads one more character. -/
def step (reading : Reading) (c : Char) : Option Reading :=
  match reading.token with
  | .literal state => reading.stepLiteral state c
  | .nothing =>
    if isSign c then reading.stepSign c else some { reading with token := .bare [c] }
  | .bare chars =>
    if isSign c then reading.settle.stepSign c
    else some { reading with token := .bare (c :: chars) }

/-- The expression that was read, if the text holds exactly one. -/
def result? (reading : Reading) : Option SExpr :=
  match reading.settle with
  | ⟨[], [expr], .nothing⟩ => some expr
  | _ => none

end Reading

namespace SExpr

/-- The expression that a text is the written form of, if it is that of one. -/
def ofText? (text : String) : Option SExpr :=
  (text.toList.foldlM Reading.step .start).bind Reading.result?

end SExpr

/-! ### Well-formed expressions, and what can be seen of them -/

namespace Atom

/-- An atom as a reader of sources makes it. An unquoted atom is a token: it is not empty, and has
no sign that would end it. A bytewise string holds one character per byte. -/
structure WellFormed (atom : Atom) : Prop where
  token : atom.quoted = false →
    atom.contents ≠ "" ∧ ∀ c ∈ atom.contents.toList, Reading.isSign c = false
  byte : atom.quoted = true → atom.bytewise = true →
    ∀ c ∈ atom.contents.toList, c.toNat ≤ 0xff

instance : DecidablePred WellFormed := fun atom ↦
  decidable_of_iff ((atom.quoted = false →
      atom.contents ≠ "" ∧ (atom.contents.toList.all fun c ↦ !Reading.isSign c) = true) ∧
    (atom.quoted = true → atom.bytewise = true →
      (atom.contents.toList.all fun c ↦ decide (c.toNat ≤ 0xff)) = true)) (by
    simp only [List.all_eq_true, Bool.not_eq_true', decide_eq_true_eq]
    exact ⟨fun ⟨token, byte⟩ ↦ ⟨token, byte⟩, fun h ↦ ⟨h.token, h.byte⟩⟩)

/-- Whether the written form shows if an atom is bytewise: it is quoted and has a character above
U+007F. -/
def showsBytewise (atom : Atom) : Bool :=
  atom.quoted && atom.contents.toList.any fun c ↦ 0x7f < c.toNat

/-- An atom that is not bytewise unless that shows. -/
def plain (atom : Atom) : Atom :=
  { atom with bytewise := atom.bytewise && atom.showsBytewise }

/-- Two atoms agree in all that can be seen: their text, whether they are quoted, and whether they
are bytewise, if they are quoted and have a character above U+007F. -/
structure Alike (first second : Atom) : Prop where
  contents_eq : first.contents = second.contents
  quoted_eq : first.quoted = second.quoted
  bytewise_eq : first.quoted = true → (∃ c ∈ first.contents.toList, 0x7f < c.toNat) →
    first.bytewise = second.bytewise

end Atom

namespace SExpr

mutual

/-- The atoms of an expression, from left to right. -/
def atoms : SExpr → List Atom
  | .atom token => [token]
  | .list items => atomsAll items

/-- The atoms of some expressions, from left to right. -/
def atomsAll : List SExpr → List Atom
  | [] => []
  | item :: items => atoms item ++ atomsAll items

end

mutual

/-- An expression whose atoms are not bytewise unless that shows. -/
def plain : SExpr → SExpr
  | .atom token => .atom token.plain
  | .list items => .list (plainAll items)

/-- Expressions whose atoms are not bytewise unless that shows. -/
def plainAll : List SExpr → List SExpr
  | [] => []
  | item :: items => plain item :: plainAll items

end

/-- An expression whose atoms are as a reader of sources makes them. -/
def WellFormed (expr : SExpr) : Prop :=
  ∀ token ∈ expr.atoms, token.WellFormed

instance : DecidablePred WellFormed := fun expr ↦
  inferInstanceAs (Decidable (∀ token ∈ expr.atoms, token.WellFormed))

/-- Two expressions have the same shape, and their atoms agree in all that can be seen. -/
inductive Alike : SExpr → SExpr → Prop
  | atom {first second : Atom} (h : first.Alike second) : Alike (.atom first) (.atom second)
  | list {first second : List SExpr} (h : List.Forall₂ Alike first second) :
    Alike (.list first) (.list second)

end SExpr

/-! ### Reading an atom -/

namespace Atom

variable {bytewise : Bool} {c : Char} {signs : List Char} {part : LiteralPart}

/-- The low byte of a character that is one byte. -/
theorem toNat_toUInt8_of_le (h : c.toNat ≤ 0xff) : c.val.toUInt8.toNat = c.toNat := by
  rw [UInt32.toNat_toUInt8]
  exact Nat.mod_eq_of_lt (Nat.lt_succ_of_le h)

/-- The part that was written for a character stands for it. Assumes: a character of one byte, if
the atom is bytewise. -/
theorem Writes.toChar_eq (h : Writes bytewise c signs part)
    (hbyte : bytewise = true → c.toNat ≤ 0xff) : part.toChar = c := by
  cases h with
  | named => rfl
  | plain => rfl
  | byte hlow =>
    have hc : c.toNat ≤ 0xff := by
      rcases hlow with hlow | hbytewise
      · omega
      · exact hbyte hbytewise
    rw [LiteralPart.toChar, toNat_toUInt8_of_le hc, Char.ofNat_toNat]

/-- A byte beyond seven bits is what a bytewise atom writes for a character above U+007F. Assumes: a
character of one byte, if the atom is bytewise. -/
theorem Writes.isHighByte_eq (h : Writes bytewise c signs part)
    (hbyte : bytewise = true → c.toNat ≤ 0xff) :
    part.isHighByte = (bytewise && decide (0x7f < c.toNat)) := by
  cases h with
  | named _ hlow => simp [LiteralPart.isHighByte, hlow]
  | plain _ _ _ hlow =>
    cases bytewise with
    | false => rfl
    | true => simp [LiteralPart.isHighByte, hlow rfl]
  | byte hlow =>
    rcases hlow with hlow | rfl
    · have hc : c.toNat ≤ 0xff := by omega
      rw [LiteralPart.isHighByte, toNat_toUInt8_of_le hc]
      simp [Nat.not_lt.mpr hlow]
    · rw [LiteralPart.isHighByte, toNat_toUInt8_of_le (hbyte rfl), Bool.true_and]

/-- The parts that were written for some characters stand for them, and show by a byte beyond seven
bits if the atom is bytewise and one of them is above U+007F. -/
theorem map_toChar_of_writes {chars : List Char} {parts : List LiteralPart}
    (h : List.Forall₂ (fun c part ↦ Writes bytewise c (escape bytewise c) part) chars parts)
    (hbyte : bytewise = true → ∀ c ∈ chars, c.toNat ≤ 0xff) :
    parts.map LiteralPart.toChar = chars ∧ parts.any LiteralPart.isHighByte =
      (bytewise && chars.any fun c ↦ 0x7f < c.toNat) := by
  induction h with
  | nil => simp
  | @cons c part chars parts hpart _ ih =>
    have hc : bytewise = true → c.toNat ≤ 0xff := fun h ↦ hbyte h c List.mem_cons_self
    obtain ⟨hchars, hhigh⟩ := ih fun h d hd ↦ hbyte h d (List.mem_cons_of_mem _ hd)
    rw [List.map_cons, List.any_cons, List.any_cons, hpart.toChar_eq hc, hpart.isHighByte_eq hc,
      hchars, hhigh, Bool.and_or_distrib_left]
    exact ⟨rfl, rfl⟩

/-- A well-formed quoted atom comes back from its parts, as far as it can be seen. -/
theorem ofParts_eq_plain {atom : Atom} (h : atom.WellFormed) (hquoted : atom.quoted = true)
    {parts : List LiteralPart} (hparts : List.Forall₂
      (fun c part ↦ Writes atom.bytewise c (escape atom.bytewise c) part)
        atom.contents.toList parts) : ofParts parts = atom.plain := by
  obtain ⟨hchars, hhigh⟩ := map_toChar_of_writes hparts (h.byte hquoted)
  rw [ofParts, plain, showsBytewise, hchars, hhigh, hquoted, Bool.true_and, String.ofList_toList]

/-- An unquoted atom comes back from its characters. -/
theorem plain_eq_of_not_quoted {atom : Atom} (hquoted : atom.quoted = false) :
    atom.plain = ⟨atom.contents, false, false⟩ := by
  rw [plain, showsBytewise, hquoted, Bool.false_and, Bool.and_false]

end Atom

namespace Reading

open Fallible

variable {state : LiteralState} {parts : List LiteralPart}

/-- Inside a literal the reader goes on as far as the literal does. -/
theorem foldlM_step_literal (reading : Reading) {signs : List Char}
    (h : signs.foldlM Literal.step state = some (.between parts)) :
    signs.foldlM step { reading with token := .literal state } =
      some { reading with token := .literal (.between parts) } := by
  induction signs generalizing state with
  | nil =>
    obtain rfl := Option.some.inj h
    rfl
  | cons c signs ih =>
    rw [List.foldlM_cons, Option.bind_eq_bind, Option.bind_eq_some_iff] at h
    obtain ⟨next, hnext, hrest⟩ := h
    have hopen : ∀ parts, next ≠ .closed parts := by
      rintro parts rfl
      cases signs with
      | nil => cases hrest
      | cons d signs => cases hrest
    have hstep : step { reading with token := .literal state } c =
        some { reading with token := .literal next } := by
      -- the literal stays open, so its state is kept
      simp only [step, stepLiteral, hnext]
    rw [foldlM_cons_of_some hstep, ih hrest]

/-- Characters that do not end an unquoted atom are added to it. -/
theorem foldlM_step_bare (reading : Reading) {chars before : List Char}
    (h : ∀ c ∈ chars, isSign c = false) :
    chars.foldlM step { reading with token := .bare before } =
      some { reading with token := .bare (chars.reverse ++ before) } := by
  induction chars generalizing before with
  | nil => rfl
  | cons c chars ih =>
    have hstep : step { reading with token := .bare before } c =
        some { reading with token := .bare (c :: before) } := by
      simp only [step, h c List.mem_cons_self, Bool.false_eq_true, if_false]
    rw [foldlM_cons_of_some hstep, ih fun d hd ↦ h d (List.mem_cons_of_mem _ hd),
      List.reverse_cons, List.append_assoc, List.singleton_append]

/-- A sign ends the token that was begun. Assumes: that is no literal. -/
theorem step_of_isSign {reading : Reading} {c : Char} (hc : isSign c = true)
    (h : reading.settle.token = .nothing) :
    reading.step c = reading.settle.stepSign c := by
  obtain ⟨outer, items, token⟩ := reading
  cases token with
  | nothing => simp only [step, hc, if_true, settle]
  | bare chars => simp only [step, hc, if_true]
  | literal state => cases h

/-- Reading a well-formed atom adds it, as far as it can be seen. -/
theorem exists_foldlM_step_atom {reading : Reading} {atom : Atom} (hatom : atom.WellFormed)
    (hreading : reading.token = .nothing) : ∃ after,
      atom.chars.foldlM step reading = some after ∧
        after.settle = reading.add (.atom atom.plain) := by
  obtain ⟨outer, items, token⟩ := reading
  obtain rfl : token = .nothing := hreading
  cases hquoted : atom.quoted with
  | true =>
    obtain ⟨parts, hparts, hread⟩ := Atom.exists_parts atom.bytewise atom.contents.toList
    have hbody := foldlM_step_literal ⟨outer, items, .nothing⟩ (hread [])
    have hopen : step ⟨outer, items, .nothing⟩ '"' =
        some ⟨outer, items, .literal (.between [])⟩ := rfl
    have hclose : step ⟨outer, items, .literal (.between (parts.reverse ++ []))⟩ '"' =
        some (add ⟨outer, items, .nothing⟩ (.atom (.ofParts parts))) := by
      simp only [step, stepLiteral, Literal.step_quote, List.append_nil, List.reverse_reverse]
      rfl
    rw [Atom.ofParts_eq_plain hatom hquoted hparts] at hclose
    refine ⟨add ⟨outer, items, .nothing⟩ (.atom atom.plain), ?_, rfl⟩
    rw [Atom.chars, if_pos hquoted, List.cons_append, foldlM_cons_of_some hopen,
      foldlM_append_of_some hbody, foldlM_cons_of_some hclose, List.foldlM_nil, Option.pure_def]
  | false =>
    obtain ⟨hne, hsigns⟩ := hatom.token hquoted
    obtain ⟨c, chars, hchars⟩ :=
      List.exists_cons_of_ne_nil (mt String.toList_eq_nil_iff.mp hne)
    rw [hchars] at hsigns
    have hopen : step ⟨outer, items, .nothing⟩ c = some ⟨outer, items, .bare [c]⟩ := by
      simp only [step, hsigns c List.mem_cons_self, Bool.false_eq_true, if_false]
    have hrest : chars.foldlM step ⟨outer, items, .bare [c]⟩ =
        some ⟨outer, items, .bare (chars.reverse ++ [c])⟩ :=
      foldlM_step_bare ⟨outer, items, .nothing⟩ fun d hd ↦ hsigns d (List.mem_cons_of_mem _ hd)
    refine ⟨⟨outer, items, .bare (chars.reverse ++ [c])⟩, ?_, ?_⟩
    · rw [Atom.chars, if_neg (by simp [hquoted]), hchars, foldlM_cons_of_some hopen, hrest]
    · rw [Atom.plain_eq_of_not_quoted hquoted, settle]
      simp only [List.reverse_append, List.reverse_reverse, List.reverse_singleton,
        List.singleton_append, ← hchars, String.ofList_toList]
      rfl

end Reading

/-! ### Reading expressions -/

namespace SExpr

open Fallible Reading

mutual

/-- Reading a well-formed expression adds it, as far as it can be seen. -/
theorem exists_foldlM_step_chars : ∀ (expr : SExpr) (reading : Reading), expr.WellFormed →
    reading.token = .nothing → ∃ after, expr.chars.foldlM step reading = some after ∧
      after.settle = reading.add expr.plain
  | .atom token, reading, hexpr, hreading => by
    have htoken : token.WellFormed := hexpr token (by simp [atoms])
    rw [chars, onto, List.append_nil]
    exact exists_foldlM_step_atom htoken hreading
  | .list items, ⟨outer, before, token⟩, hexpr, hreading => by
    obtain rfl : token = .nothing := hreading
    -- the items are read into a list of their own, on top of what was open
    obtain ⟨last, hread, hlast⟩ := exists_foldlM_step_ontoAll items ⟨before :: outer, [], .nothing⟩
      hexpr rfl
    have hopen : step ⟨outer, before, .nothing⟩ '(' = some ⟨before :: outer, [], .nothing⟩ := rfl
    have hclose : step last ')' =
        some (add ⟨outer, before, .nothing⟩ (.list (plainAll items))) := by
      rw [step_of_isSign rfl (by rw [hlast]), hlast, List.append_nil]
      simp only [stepSign, List.reverse_reverse]
      rfl
    refine ⟨add ⟨outer, before, .nothing⟩ (.list (plainAll items)), ?_, rfl⟩
    rw [chars, onto, foldlM_cons_of_some hopen, ← List.nil_append [')'], ontoAll_append,
      foldlM_append_of_some hread, foldlM_cons_of_some hclose, List.foldlM_nil, Option.pure_def]

/-- Reading well-formed items adds them one after the other, as far as they can be seen. -/
theorem exists_foldlM_step_ontoAll : ∀ (items : List SExpr) (reading : Reading),
    (∀ token ∈ atomsAll items, token.WellFormed) → reading.token = .nothing → ∃ after,
      (ontoAll items []).foldlM step reading = some after ∧
        after.settle = ⟨reading.outer, (plainAll items).reverse ++ reading.items, .nothing⟩
  | [], ⟨outer, before, token⟩, _, hreading => by
    obtain rfl : token = .nothing := hreading
    exact ⟨_, rfl, rfl⟩
  | [item], reading, hitems, hreading => by
    have hitem : item.WellFormed := fun token hmem ↦ hitems token (by simp [atomsAll, hmem])
    obtain ⟨after, hread, hafter⟩ := exists_foldlM_step_chars item reading hitem hreading
    exact ⟨after, hread, hafter⟩
  | item :: next :: items, reading, hitems, hreading => by
    have hitem : item.WellFormed := fun token hmem ↦ hitems token (by simp [atomsAll, hmem])
    have hrest : ∀ token ∈ atomsAll (next :: items), token.WellFormed := by
      intro token hmem
      refine hitems token ?_
      rw [atomsAll]
      exact List.mem_append_right _ hmem
    obtain ⟨middle, hread, hmiddle⟩ := exists_foldlM_step_chars item reading hitem hreading
    have hspace : step middle ' ' = some (reading.add item.plain) := by
      rw [step_of_isSign rfl (by rw [hmiddle]; rfl), hmiddle]
      rfl
    obtain ⟨after, hreadRest, hafter⟩ :=
      exists_foldlM_step_ontoAll (next :: items) (reading.add item.plain) hrest rfl
    refine ⟨after, ?_, ?_⟩
    · rw [ontoAll, onto_eq, foldlM_append_of_some hread, foldlM_cons_of_some hspace, hreadRest]
    · rw [hafter, plainAll.eq_2 item, List.reverse_cons, List.append_assoc, List.singleton_append]
      rfl

end

/-- The reader gives back a well-formed expression from its written form, as far as it can be
seen. -/
theorem ofText?_render {expr : SExpr} (h : expr.WellFormed) :
    ofText? expr.render = some expr.plain := by
  obtain ⟨after, hread, hafter⟩ := exists_foldlM_step_chars expr .start h rfl
  rw [ofText?, render, String.toList_ofList, hread, Option.bind_some, result?, hafter]
  rfl

end SExpr

/-! ### What can be seen -/

namespace Atom

variable {first second : Atom}

/-- Atoms that are plainly the same agree in all that can be seen. -/
theorem alike_of_plain_eq (h : first.plain = second.plain) : first.Alike second := by
  obtain ⟨hcontents, hquoted, hbytewise⟩ := Atom.mk.inj h
  refine ⟨hcontents, hquoted, fun hfirst hhigh ↦ ?_⟩
  have hshows : first.showsBytewise = true := by
    simpa [showsBytewise, hfirst] using hhigh
  have hsame : second.showsBytewise = true := by
    rw [← hshows, showsBytewise, showsBytewise, hcontents, hquoted]
  rw [hshows, hsame, Bool.and_true, Bool.and_true] at hbytewise
  exact hbytewise

/-- An atom agrees with its plain form in all that can be seen. -/
theorem alike_plain (atom : Atom) : atom.Alike atom.plain := by
  refine ⟨rfl, rfl, fun hquoted hhigh ↦ ?_⟩
  have hshows : atom.showsBytewise = true := by
    simpa [showsBytewise, hquoted] using hhigh
  rw [plain, hshows, Bool.and_true]

end Atom

namespace SExpr

mutual

/-- Expressions that are plainly the same agree in all that can be seen. -/
theorem alike_of_plain_eq : ∀ first second : SExpr, first.plain = second.plain →
    first.Alike second
  | .atom _, .atom _, h => .atom (Atom.alike_of_plain_eq (SExpr.atom.inj h))
  | .list firsts, .list seconds, h =>
    .list (forall₂_alike_of_plainAll_eq firsts seconds (SExpr.list.inj h))

/-- So do lists of them, item by item. -/
theorem forall₂_alike_of_plainAll_eq : ∀ firsts seconds : List SExpr,
    plainAll firsts = plainAll seconds → List.Forall₂ Alike firsts seconds
  | [], [], _ => .nil
  | first :: firsts, second :: seconds, h => by
    obtain ⟨hhead, htail⟩ := List.cons.inj h
    exact .cons (alike_of_plain_eq first second hhead)
      (forall₂_alike_of_plainAll_eq firsts seconds htail)

end

mutual

/-- An expression agrees with its plain form in all that can be seen. -/
theorem alike_plain : ∀ expr : SExpr, expr.Alike expr.plain
  | .atom token => .atom token.alike_plain
  | .list items => .list (forall₂_alike_plainAll items)

/-- So do lists of them, item by item. -/
theorem forall₂_alike_plainAll : ∀ items : List SExpr,
    List.Forall₂ Alike items (plainAll items)
  | [] => .nil
  | item :: items => .cons item.alike_plain (forall₂_alike_plainAll items)

end

/-- The reader gives back every well-formed expression from its written form, up to what cannot be
seen: whether an atom is bytewise that is unquoted or only has characters up to U+007F. So two
well-formed expressions with the same written form have the same shape and the same atoms, up to
that. -/
theorem render_uniquely_readable :
    (∀ expr : SExpr, expr.WellFormed →
      ofText? expr.render = some expr.plain ∧ expr.Alike expr.plain) ∧
    ∀ first second : SExpr, first.WellFormed → second.WellFormed →
      first.render = second.render → first.Alike second := by
  refine ⟨fun expr h ↦ ⟨ofText?_render h, expr.alike_plain⟩, fun first second hfirst hsecond h ↦ ?_⟩
  have hread := ofText?_render hfirst
  rw [h, ofText?_render hsecond] at hread
  exact alike_of_plain_eq first second (Option.some.inj hread).symm

/-- Tokens and literals with signs, escapes and what looks like them, in nested lists. -/
def mixedExpr : SExpr :=
  .list [.symbol "f\\n", .atom ⟨"\u00e9\")(", true, true⟩, .list [.list []], .string "\\e9 \u00e9"]

/-- The reader gives back such an expression, and two atoms that are written alike only differ in
what cannot be seen. -/
theorem render_uniquely_readable_mixed :
    mixedExpr.WellFormed ∧ ofText? mixedExpr.render = some mixedExpr ∧
      (SExpr.atom ⟨"a", true, true⟩).Alike (.atom ⟨"a", true, false⟩) := by
  have hmixed : mixedExpr.WellFormed := by decide
  have hplain : mixedExpr.plain = mixedExpr := by decide
  refine ⟨hmixed, ?_, render_uniquely_readable.2 _ _ (by decide) (by decide) (by decide)⟩
  rw [(render_uniquely_readable.1 mixedExpr hmixed).1, hplain]

end SExpr

end WastSuite
