import WastSuite.Deflate.Code

/-!
# Decompression

A deflate stream is a sequence of blocks, the last one marked. A block is stored, or coded with a
code for literals and lengths and a code for distances, either the fixed ones or two that the block
gives at its start. Coded data are bytes and copies: a copy repeats a number of bytes from a
distance back. In front of the first byte lie zeros, so a distance that reaches past the start
copies zeros. What follows the last block is ignored.

`inflate` decompresses a whole stream. Main statement: the body of a block gives back no more bits
than it was given (`length_readBody_le`), so decompression ends.
-/

set_option autoImplicit false

namespace WastSuite.Deflate

/-! ### Copies -/

/-- The least length of each length symbol, with its number of extra bits. -/
def lengthTable : List (Nat × Nat) :=
  [(3, 0), (4, 0), (5, 0), (6, 0), (7, 0), (8, 0), (9, 0), (10, 0), (11, 1), (13, 1), (15, 1),
    (17, 1), (19, 2), (23, 2), (27, 2), (31, 2), (35, 3), (43, 3), (51, 3), (59, 3), (67, 4),
    (83, 4), (99, 4), (115, 4), (131, 5), (163, 5), (195, 5), (227, 5), (258, 0)]

/-- The least distance of each distance symbol, with its number of extra bits. -/
def distanceTable : List (Nat × Nat) :=
  [(1, 0), (2, 0), (3, 0), (4, 0), (5, 1), (7, 1), (9, 2), (13, 2), (17, 3), (25, 3), (33, 4),
    (49, 4), (65, 5), (97, 5), (129, 6), (193, 6), (257, 7), (385, 7), (513, 8), (769, 8),
    (1025, 9), (1537, 9), (2049, 10), (3073, 10), (4097, 11), (6145, 11), (8193, 12),
    (12289, 12), (16385, 13), (24577, 13)]

/-- Reads what a symbol leaves open of the quantity it stands for. -/
def readExtra (table : List (Nat × Nat)) (symbol : Nat) (bits : List Bool) :
    Except InflateFault (Nat × List Bool) :=
  match table[symbol]? with
  | none => .error .corrupt
  | some (least, count) => (readNumber count bits).map fun (extra, rest) ↦ (least + extra, rest)

/-- Reads the length and the distance of a copy, the symbol of the length being known. -/
def readCopy (distances : Code) (symbol : Nat) (bits : List Bool) :
    Except InflateFault ((Nat × Nat) × List Bool) := do
  let (length, bits) ← readExtra lengthTable symbol bits
  let (symbol, bits) ← distances.readSymbol bits
  let (distance, bits) ← readExtra distanceTable symbol bits
  .ok ((length, distance), bits)

/-- The data with so many bytes repeated from a distance back. -/
def copyBack (distance : Nat) : Nat → Array UInt8 → Array UInt8
  | 0, data => data
  | count + 1, data =>
    let byte := if distance ≤ data.size then data.getD (data.size - distance) 0 else 0
    copyBack distance count (data.push byte)

/-- A number is read from the front, also if it is then made into something else. -/
theorem length_map_readNumber_le {α : Type} {count : Nat} {bits : List Bool}
    {make : Nat × List Bool → α × List Bool} {value : α} {rest : List Bool}
    (h : (readNumber count bits).map make = .ok (value, rest))
    (hmake : ∀ read, (make read).2 = read.2) : rest.length ≤ bits.length := by
  cases hnumber : readNumber count bits with
  | error fault => simp [hnumber, Except.map] at h
  | ok read =>
    simp only [hnumber, Except.map, Except.ok.injEq] at h
    have hrest := hmake read
    rw [h] at hrest
    have := length_readNumber hnumber
    simp only at hrest
    rw [hrest]
    omega

/-- Extra bits are taken from the front. -/
theorem length_readExtra_le {table : List (Nat × Nat)} {symbol : Nat} {bits : List Bool}
    {value : Nat} {rest : List Bool} (h : readExtra table symbol bits = .ok (value, rest)) :
    rest.length ≤ bits.length := by
  unfold readExtra at h
  split at h
  · cases h
  · exact length_map_readNumber_le h fun _ ↦ rfl

/-- A copy is read from the front. -/
theorem length_readCopy_le {distances : Code} {symbol : Nat} {bits : List Bool}
    {copy : Nat × Nat} {rest : List Bool} (h : readCopy distances symbol bits = .ok (copy, rest)) :
    rest.length ≤ bits.length := by
  unfold readCopy at h
  cases hlength : readExtra lengthTable symbol bits with
  | error fault => simp [hlength, bind, Except.bind] at h
  | ok first =>
    obtain ⟨length, behind⟩ := first
    cases hsymbol : distances.readSymbol behind with
    | error fault => simp [hlength, hsymbol, bind, Except.bind] at h
    | ok second =>
      obtain ⟨found, after⟩ := second
      cases hdistance : readExtra distanceTable found after with
      | error fault => simp [hlength, hsymbol, hdistance, bind, Except.bind] at h
      | ok third =>
        obtain ⟨distance, last⟩ := third
        simp only [hlength, hsymbol, hdistance, bind, Except.bind, Except.ok.injEq,
          Prod.mk.injEq] at h
        have h₁ := length_readExtra_le hlength
        have h₂ := Code.length_readSymbol_lt hsymbol
        have h₃ := length_readExtra_le hdistance
        rw [← h.2]
        omega

/-! ### Coded data -/

/-- What a symbol of the code for literals and lengths stands for: a byte of the data, the end of
the block, or a copy with one of the lengths of the table. -/
inductive Token where
  | literal (byte : UInt8)
  | stop
  | copy (symbol : Nat)

/-- The token of a symbol: bytes come first, then the end of the block, then the lengths. -/
def Token.ofSymbol (symbol : Nat) : Token :=
  if symbol < 256 then .literal symbol.toUInt8
  else if symbol = 256 then .stop
  else .copy (symbol - 257)

/-- Reads coded data behind what is there, up to the end of the block. -/
def readCoded (literals distances : Code) (data : Array UInt8) (bits : List Bool) :
    Except InflateFault (Array UInt8 × List Bool) :=
  match _hsymbol : literals.readSymbol bits with
  | .error fault => .error fault
  | .ok (symbol, rest) =>
    match Token.ofSymbol symbol with
    | .literal byte => readCoded literals distances (data.push byte) rest
    | .stop => .ok (data, rest)
    | .copy symbol =>
      match _hcopy : readCopy distances symbol rest with
      | .error fault => .error fault
      | .ok ((length, distance), behind) =>
        readCoded literals distances (copyBack distance length data) behind
termination_by bits.length
decreasing_by
  · exact Code.length_readSymbol_lt _hsymbol
  · exact Nat.lt_of_le_of_lt (length_readCopy_le _hcopy) (Code.length_readSymbol_lt _hsymbol)

/-- The code for literals and lengths of a block that gives none. -/
def fixedLiterals : Code :=
  (Code.ofLengths? true (List.replicate 144 8 ++ List.replicate 112 9 ++ List.replicate 24 7 ++
    List.replicate 8 8)).getD .vacant

/-- The code for distances of a block that gives none. -/
def fixedDistances : Code :=
  (Code.ofLengths? true (List.replicate 32 5)).getD .vacant

/-! ### Codes given by a block -/

/-- The order in which a block gives the lengths of the code for lengths. -/
def lengthOrder : List Nat :=
  [16, 17, 18, 0, 8, 7, 9, 6, 10, 5, 11, 4, 12, 3, 13, 2, 14, 1, 15]

/-- Reads so many numbers of three bits. -/
def readTriples : Nat → List Bool → Except InflateFault (List Nat × List Bool)
  | 0, bits => .ok ([], bits)
  | count + 1, bits => do
    let (first, bits) ← readNumber 3 bits
    let (others, bits) ← readTriples count bits
    .ok (first :: others, bits)

/-- The lengths by symbol, from those given in the order of a block. -/
def lengthsInOrder (given : List Nat) : List Nat :=
  (List.range 19).map fun symbol ↦ ((lengthOrder.zip given).lookup symbol).getD 0

/-- Reads what a symbol of the code for lengths stands for, behind the lengths read so far, which
come last first. -/
def readRun (lengths : List Nat) (symbol : Nat) (bits : List Bool) :
    Except InflateFault (List Nat × List Bool) :=
  if symbol < 16 then .ok ([symbol], bits)
  else if symbol = 16 then
    match lengths with
    | [] => .error .corrupt
    | last :: _ =>
      (readNumber 2 bits).map fun (count, rest) ↦ (List.replicate (count + 3) last, rest)
  else if symbol = 17 then
    (readNumber 3 bits).map fun (count, rest) ↦ (List.replicate (count + 3) 0, rest)
  else (readNumber 7 bits).map fun (count, rest) ↦ (List.replicate (count + 11) 0, rest)

/-- A run is read from the front. -/
theorem length_readRun_le {lengths : List Nat} {symbol : Nat} {bits : List Bool}
    {run : List Nat} {rest : List Bool} (h : readRun lengths symbol bits = .ok (run, rest)) :
    rest.length ≤ bits.length := by
  unfold readRun at h
  split at h
  · simp only [Except.ok.injEq, Prod.mk.injEq] at h
    simp [h.2]
  · split at h
    · split at h
      · cases h
      · exact length_map_readNumber_le h fun _ ↦ rfl
    · split at h
      · exact length_map_readNumber_le h fun _ ↦ rfl
      · exact length_map_readNumber_le h fun _ ↦ rfl

/-- Reads lengths until there are so many, behind those read so far, which come last first. -/
def readLengths (code : Code) (count : Nat) (lengths : List Nat) (bits : List Bool) :
    Except InflateFault (List Nat × List Bool) :=
  if lengths.length = count then .ok (lengths.reverse, bits)
  else if count < lengths.length then .error .corrupt
  else
    match _hsymbol : code.readSymbol bits with
    | .error fault => .error fault
    | .ok (symbol, rest) =>
      match _hrun : readRun lengths symbol rest with
      | .error fault => .error fault
      | .ok (run, behind) => readLengths code count (run ++ lengths) behind
termination_by bits.length
decreasing_by
  exact Nat.lt_of_le_of_lt (length_readRun_le _hrun) (Code.length_readSymbol_lt _hsymbol)

/-- A code, or the fault of lengths that give none. -/
def codeOf (lenient : Bool) (lengths : List Nat) : Except InflateFault Code :=
  match Code.ofLengths? lenient lengths with
  | some code => .ok code
  | none => .error .corrupt

/-- Reads the two codes of a block that gives them. -/
def readCodes (bits : List Bool) : Except InflateFault ((Code × Code) × List Bool) := do
  let (moreLiterals, bits) ← readNumber 5 bits
  let (moreDistances, bits) ← readNumber 5 bits
  let (moreLengths, bits) ← readNumber 4 bits
  let literalCount := moreLiterals + 257
  let distanceCount := moreDistances + 1
  if 286 < literalCount ∨ 30 < distanceCount then .error .corrupt
  else
    let (given, bits) ← readTriples (moreLengths + 4) bits
    let code ← codeOf false (lengthsInOrder given)
    let (lengths, bits) ← readLengths code (literalCount + distanceCount) [] bits
    let literals ← codeOf true (lengths.take literalCount)
    let distances ← codeOf true (lengths.drop literalCount)
    .ok ((literals, distances), bits)

/-! ### Blocks -/

/-- Reads bytes behind what is there. -/
def readBytes : Nat → Array UInt8 → List Bool → Except InflateFault (Array UInt8 × List Bool)
  | 0, data, bits => .ok (data, bits)
  | count + 1, data, bits => do
    let (byte, bits) ← readNumber 8 bits
    readBytes count (data.push byte.toUInt8) bits

/-- Reads a stored block behind its head. Its size is given twice, the second time inverted. -/
def readStored (data : Array UInt8) (bits : List Bool) :
    Except InflateFault (Array UInt8 × List Bool) := do
  let (size, bits) ← readNumber 16 (alignToByte bits)
  let (check, bits) ← readNumber 16 bits
  if size + check = 0xFFFF then readBytes size data bits else .error .corrupt

/-- Reads the body of a block of a kind. -/
def readBody (kind : Nat) (data : Array UInt8) (bits : List Bool) :
    Except InflateFault (Array UInt8 × List Bool) :=
  match kind with
  | 0 => readStored data bits
  | 1 => readCoded fixedLiterals fixedDistances data bits
  | 2 => do
    let ((literals, distances), bits) ← readCodes bits
    readCoded literals distances data bits
  | _ => .error .corrupt

/-- What reads like a function of two results in a row takes from the front if both do. -/
theorem length_bind_le {α β : Type} {first : Except InflateFault (α × List Bool)}
    {second : α × List Bool → Except InflateFault (β × List Bool)} {bits : List Bool}
    (hfirst : ∀ {value rest}, first = .ok (value, rest) → rest.length ≤ bits.length)
    (hsecond : ∀ {value rest result last}, second (value, rest) = .ok (result, last) →
      last.length ≤ rest.length)
    {result : β} {last : List Bool} (h : first >>= second = .ok (result, last)) :
    last.length ≤ bits.length := by
  cases hvalue : first with
  | error fault => simp [hvalue, bind, Except.bind] at h
  | ok pair =>
    obtain ⟨value, rest⟩ := pair
    rw [hvalue] at h
    exact Nat.le_trans (hsecond h) (hfirst hvalue)

/-- A number is read from the front. -/
theorem length_readNumber_le {count : Nat} {bits : List Bool} {value : Nat} {rest : List Bool}
    (h : readNumber count bits = .ok (value, rest)) : rest.length ≤ bits.length := by
  have := length_readNumber h
  omega

/-- Coded data are read from the front. -/
theorem length_readCoded_le {literals distances : Code} {data : Array UInt8} {bits : List Bool} :
    ∀ {result : Array UInt8} {rest : List Bool},
      readCoded literals distances data bits = .ok (result, rest) → rest.length ≤ bits.length := by
  fun_induction readCoded literals distances data bits with
  | case1 => simp
  | case2 data bits symbol behind hsymbol _ _ ih =>
    intro result rest h
    have := Code.length_readSymbol_lt hsymbol
    have := ih h
    omega
  | case3 data bits symbol behind hsymbol _ =>
    intro result rest h
    have := Code.length_readSymbol_lt hsymbol
    simp only [Except.ok.injEq, Prod.mk.injEq] at h
    rw [← h.2]
    omega
  | case4 => simp
  | case5 data bits symbol behind hsymbol _ _ length distance after hcopy ih =>
    intro result rest h
    have := Code.length_readSymbol_lt hsymbol
    have := length_readCopy_le hcopy
    have := ih h
    omega

/-- Triples are read from the front. -/
theorem length_readTriples_le {count : Nat} :
    ∀ {bits : List Bool} {given : List Nat} {rest : List Bool},
      readTriples count bits = .ok (given, rest) → rest.length ≤ bits.length := by
  induction count with
  | zero =>
    intro bits given rest h
    simp only [readTriples, Except.ok.injEq, Prod.mk.injEq] at h
    simp [h.2]
  | succ count ih =>
    intro bits given rest h
    refine length_bind_le length_readNumber_le (fun hlast ↦ ?_) h
    refine length_bind_le ih (fun hdone ↦ ?_) hlast
    simp only [Except.ok.injEq, Prod.mk.injEq] at hdone
    simp [hdone.2]

/-- Lengths are read from the front. -/
theorem length_readLengths_le {code : Code} {count : Nat} {lengths : List Nat}
    {bits : List Bool} : ∀ {result : List Nat} {rest : List Bool},
      readLengths code count lengths bits = .ok (result, rest) → rest.length ≤ bits.length := by
  fun_induction readLengths code count lengths bits with
  | case1 =>
    intro result rest h
    simp only [Except.ok.injEq, Prod.mk.injEq] at h
    simp [h.2]
  | case2 => simp
  | case3 => simp
  | case4 => simp
  | case5 lengths bits _ _ symbol behind hsymbol run after hrun ih =>
    intro result rest h
    have := Code.length_readSymbol_lt hsymbol
    have := length_readRun_le hrun
    have := ih h
    omega

/-- The codes of a block are read from the front. -/
theorem length_readCodes_le {bits : List Bool} {codes : Code × Code} {rest : List Bool}
    (h : readCodes bits = .ok (codes, rest)) : rest.length ≤ bits.length := by
  refine length_bind_le length_readNumber_le (fun {_ _ _ _} h ↦ ?_) h
  refine length_bind_le length_readNumber_le (fun {_ _ _ _} h ↦ ?_) h
  refine length_bind_le length_readNumber_le (fun {_ _ _ _} h ↦ ?_) h
  dsimp only at h
  split at h
  · cases h
  refine length_bind_le length_readTriples_le (fun {given _ _ _} h ↦ ?_) h
  dsimp only at h
  cases hcode : codeOf false (lengthsInOrder given) with
  | error fault => simp [hcode, bind, Except.bind] at h
  | ok code =>
    rw [hcode] at h
    refine length_bind_le length_readLengths_le (fun {lengths _ _ _} h ↦ ?_) h
    simp only [bind, Except.bind] at h
    split at h
    · cases h
    split at h
    · cases h
    simp only [Except.ok.injEq, Prod.mk.injEq] at h
    simp [h.2]

/-- Bytes are read from the front. -/
theorem length_readBytes_le {count : Nat} :
    ∀ {data : Array UInt8} {bits : List Bool} {result : Array UInt8} {rest : List Bool},
      readBytes count data bits = .ok (result, rest) → rest.length ≤ bits.length := by
  induction count with
  | zero =>
    intro data bits result rest h
    simp only [readBytes, Except.ok.injEq, Prod.mk.injEq] at h
    simp [h.2]
  | succ count ih =>
    intro data bits result rest h
    exact length_bind_le length_readNumber_le ih h

/-- A stored block is read from the front. -/
theorem length_readStored_le {data : Array UInt8} {bits : List Bool} {result : Array UInt8}
    {rest : List Bool} (h : readStored data bits = .ok (result, rest)) :
    rest.length ≤ bits.length := by
  have halign : (alignToByte bits).length ≤ bits.length := by
    simp only [alignToByte, List.length_drop]
    omega
  refine Nat.le_trans ?_ halign
  refine length_bind_le length_readNumber_le (fun {_ _ _ _} h ↦ ?_) h
  refine length_bind_le length_readNumber_le (fun {_ _ _ _} h ↦ ?_) h
  dsimp only at h
  split at h
  · exact length_readBytes_le h
  · cases h

/-- The body of a block is read from the front. -/
theorem length_readBody_le {kind : Nat} {data : Array UInt8} {bits : List Bool}
    {result : Array UInt8} {rest : List Bool} (h : readBody kind data bits = .ok (result, rest)) :
    rest.length ≤ bits.length := by
  unfold readBody at h
  split at h
  · exact length_readStored_le h
  · exact length_readCoded_le h
  · exact length_bind_le length_readCodes_le length_readCoded_le h
  · cases h

/-- Reads blocks behind what is there, up to and with the last one. -/
def readBlocks (data : Array UInt8) (bits : List Bool) : Except InflateFault (Array UInt8) :=
  match _hhead : readNumber 3 bits with
  | .error fault => .error fault
  | .ok (head, rest) =>
    match _hbody : readBody (head / 2) data rest with
    | .error fault => .error fault
    | .ok (grown, behind) => if head % 2 = 1 then .ok grown else readBlocks grown behind
termination_by bits.length
decreasing_by
  have := length_readNumber _hhead
  have := length_readBody_le _hbody
  omega

/-- Decompresses a stream. -/
def inflate (stream : List UInt8) : Except InflateFault ByteArray :=
  (readBlocks #[] (bitsOf stream)).map ByteArray.mk

end WastSuite.Deflate
