import Mathlib.Data.List.Forall2
import WastSuite.Proofs.Resource.ArchiveRoots
import WastSuite.Proofs.Resource.EntryContents

/-!
# Declared sizes

The directory of an archive declares how large each entry is when unpacked, and nothing compares
this with the data. Two archives can be the same but for what they declare
(`Zip.Entry.SameButSize`), the one saying the truth and the other not.

The declared size matters at one point only: no buffer can be had beyond the greatest size of an
object in memory, so an entry that could otherwise be unpacked breaks the read if it declares more
(`Zip.Entry.Oversized`). Any other size is passed over (`Zip.Entry.contents_of_not_oversized`).

Main statement: the read of a file breaks exactly if its entry is oversized, and it answers the same
for two archives that are the same but for declared sizes, unless the entry is oversized in exactly
one of them (`ArchiveTree.read_alike_iff_oversized_alike`). An archive that could be read if it told the
truth can break a read so (`ArchiveTree.read_broken_by_declared_size`).
-/

set_option autoImplicit false

namespace WastSuite

namespace Zip.Entry

variable {content other : ByteArray} {entry first second : Entry}

/-- The packed data of an entry. -/
def packed (content : ByteArray) (entry : Entry) : Except Fault ByteArray :=
  (entry.dataStart content).map fun start ↦ slice content start entry.packedSize

/-- The packed data of an entry that can be unpacked, or why it cannot. -/
def unpackable (content : ByteArray) (entry : Entry) : Except Fault ByteArray :=
  if entry.encrypted then .error .unsupported
  else do
    let data ← entry.packed content
    entry.supported
    .ok data

/-- The unpacked form of packed bytes, if it has the checksum. -/
def unpacked (entry : Entry) (data : ByteArray) : Except EntryFault ByteArray := do
  let data ← entry.expand data
  if (Zip.checksum data).toNat = entry.checksum then .ok data else .error .wrongChecksum

/-- An entry could be unpacked, but declares more than any buffer can hold. -/
structure Oversized (content : ByteArray) (entry : Entry) : Prop where
  unpackable : ∃ data, entry.unpackable content = .ok data
  beyond : memoryLimit < entry.declaredSize

/-- Two entries of two archives say the same but for the declared size, and have the same packed
data. -/
structure SameButSize (content other : ByteArray) (first second : Entry) : Prop where
  said : { first with declaredSize := second.declaredSize } = second
  packed : first.packed content = second.packed other

/-- An entry that can be unpacked holds its unpacked data, if a buffer of the declared size can be
had. -/
theorem contents_eq (content : ByteArray) (entry : Entry) : entry.contents content =
    match entry.unpackable content with
    | .error fault => .error (.refused fault)
    | .ok data =>
      if memoryLimit < entry.declaredSize then .error .oversized else entry.unpacked data := by
  unfold contents unpackable packed
  cases entry.encrypted with
  | true => rfl
  | false =>
    cases entry.dataStart content with
    | error fault => rfl
    | ok start => cases entry.supported <;> rfl

/-- Unpacking does not fail for want of a buffer. -/
theorem unpacked_ne_oversized (entry : Entry) (data : ByteArray) :
    entry.unpacked data ≠ .error .oversized := by
  intro h
  rcases Fallible.bind_eq_error_iff.mp h with hexpand | ⟨plain, -, hcheck⟩
  · unfold expand at hexpand
    split at hexpand
    · cases hexpand
    · split at hexpand <;> cases hexpand
  · split at hcheck <;> cases hcheck

/-- The data of an oversized entry cannot be had for want of a buffer, and those of no other. -/
theorem contents_eq_oversized_iff :
    entry.contents content = .error .oversized ↔ entry.Oversized content := by
  rw [contents_eq]
  constructor
  · intro h
    split at h
    · cases h
    · rename_i data hdata
      split_ifs at h with hbeyond
      · exact ⟨⟨data, hdata⟩, hbeyond⟩
      · exact absurd h (unpacked_ne_oversized entry data)
  · rintro ⟨⟨data, hdata⟩, hbeyond⟩
    simp only [hdata, if_pos hbeyond]

/-- The declared size of an entry that is not oversized does not matter. -/
theorem contents_of_not_oversized (h : ¬ entry.Oversized content) :
    entry.contents content = (entry.unpackable content).mapError .refused >>= entry.unpacked := by
  rw [contents_eq]
  cases hdata : entry.unpackable content with
  | error fault => rfl
  | ok data =>
    have hwithin : ¬ memoryLimit < entry.declaredSize := fun hbeyond ↦ h ⟨⟨data, hdata⟩, hbeyond⟩
    simp only [if_neg hwithin]
    rfl

/-- Entries that are the same but for the size have the same data to unpack. -/
theorem SameButSize.unpackable (h : SameButSize content other first second) :
    first.unpackable content = second.unpackable other := by
  rw [Entry.unpackable, Entry.unpackable, h.packed, ← h.said]
  rfl

/-- Entries that are the same but for the size hold the same, unless exactly one is oversized. -/
theorem SameButSize.contents_eq_iff (h : SameButSize content other first second) :
    first.contents content = second.contents other ↔
      (first.Oversized content ↔ second.Oversized other) := by
  constructor
  · intro hsame
    rw [← contents_eq_oversized_iff, ← contents_eq_oversized_iff, hsame]
  · intro hboth
    by_cases hfirst : first.Oversized content
    · rw [contents_eq_oversized_iff.mpr hfirst, contents_eq_oversized_iff.mpr (hboth.mp hfirst)]
    · have hunpacked : first.unpacked = second.unpacked := by
        rw [← h.said]
        rfl
      rw [contents_of_not_oversized hfirst, contents_of_not_oversized (mt hboth.mpr hfirst),
        h.unpackable, hunpacked]

end Zip.Entry

/-! ### The entry with a name -/

namespace Zip.Archive

/-- Archives whose entries are related one by one, by a relation that keeps names, have related
entries under each name. -/
theorem find?_rel {related : Entry → Entry → Prop} {first second : Archive}
    (hname : ∀ one other, related one other → one.name = other.name)
    (h : List.Forall₂ related first.entries second.entries) (name : String) :
    Option.Rel related (first.find? name) (second.find? name) := by
  have hreverse := List.forall₂_reverse_iff.mpr h
  unfold find?
  generalize first.entries.reverse = ones at hreverse ⊢
  generalize second.entries.reverse = others at hreverse ⊢
  induction hreverse with
  | nil => exact .none
  | @cons one other ones others hhead _ ih =>
    rw [List.find?_cons, List.find?_cons, hname one other hhead]
    cases other.name == name with
    | true => exact .some hhead
    | false => exact ih

end Zip.Archive

namespace ArchiveTree

variable {content other : ByteArray} {first second : ArchiveTree} {relative : String}

/-- The entry of the file at a path is oversized. -/
def Oversized (content : ByteArray) (tree : ArchiveTree) (relative : String) : Prop :=
  ∃ entry, tree.archive.find? (tree.start ++ relative) = some entry ∧ entry.Oversized content

/-- Two trees stand for the same root of archives that are at the same path, and whose entries are
the same but for the declared sizes. -/
structure SameButSizes (content other : ByteArray) (first second : ArchiveTree) : Prop where
  path : first.path = second.path
  start : first.start = second.start
  entries : List.Forall₂ (Zip.Entry.SameButSize content other) first.archive.entries
    second.archive.entries

/-- The failure to read an entry tells why. -/
theorem ofEntry_injective (path : String) : Function.Injective (DiscoveryError.ofEntry path) := by
  intro first second h
  cases first <;> cases second <;> cases h <;> rfl

/-- The failure to read an entry is for want of a buffer exactly if the entry fails so. -/
theorem ofEntry_eq_oversized_iff {path named : String} {fault : Zip.EntryFault} :
    DiscoveryError.ofEntry path fault = .oversized named ↔ path = named ∧ fault = .oversized := by
  cases fault <;> simp [DiscoveryError.ofEntry]

/-- A tree answers that no buffer can be had exactly if the entry is oversized. -/
theorem told_eq_oversized_iff {tree : ArchiveTree} {named : String} :
    tree.told content relative = .error (.oversized named) ↔
      tree.path ++ "!" ++ (tree.start ++ relative) = named ∧ tree.Oversized content relative := by
  unfold Oversized
  cases hentry : tree.archive.find? (tree.start ++ relative) with
  | none => simp [told_of_find?_eq_none hentry]
  | some entry =>
    rw [told_of_find?_eq_some hentry]
    simp only [Option.some.injEq, exists_eq_left', ← Zip.Entry.contents_eq_oversized_iff]
    cases entry.contents content with
    | ok data => simp [Except.map, Except.mapError]
    | error fault => simp [Except.map, Except.mapError, ofEntry_eq_oversized_iff]

/-- Trees that are the same but for declared sizes answer the same, unless the entry is oversized in
exactly one of them. -/
theorem SameButSizes.told_eq_iff (h : SameButSizes content other first second) :
    first.told content relative = second.told other relative ↔
      (first.Oversized content relative ↔ second.Oversized other relative) := by
  have hfound := Zip.Archive.find?_rel
    (fun one other hsame ↦ by rw [← Zip.Entry.SameButSize.said hsame]) h.entries
    (second.start ++ relative)
  unfold Oversized
  rw [h.start]
  cases hfirst : first.archive.find? (second.start ++ relative) with
  | none =>
    cases hsecond : second.archive.find? (second.start ++ relative) with
    | some two =>
      rw [hfirst, hsecond] at hfound
      cases hfound
    | none =>
      rw [told_of_find?_eq_none (h.start ▸ hfirst), told_of_find?_eq_none hsecond]
      simp
  | some one =>
    cases hsecond : second.archive.find? (second.start ++ relative) with
    | none =>
      rw [hfirst, hsecond] at hfound
      cases hfound
    | some two =>
      rw [hfirst, hsecond] at hfound
      have hsame := Option.rel_some_some.mp hfound
      rw [told_of_find?_eq_some (h.start ▸ hfirst), told_of_find?_eq_some hsecond, h.path, h.start]
      simp only [Option.some.injEq, exists_eq_left', ← hsame.contents_eq_iff]
      cases one.contents content <;> cases two.contents other <;>
        simp [Except.map, Except.mapError, (ofEntry_injective _).eq_iff]

/-- A read of an archive breaks exactly if the entry of the file is oversized, and two archives at
the same path that are the same but for the declared sizes answer the same about a file, unless its
entry is oversized in exactly one of them. Assumes: the same root was opened in both. -/
theorem read_alike_iff_oversized_alike {store changed : Store} {path root : String}
    {first second : ArchiveTree} (hfirst : openAt store path root = .ok first)
    (hsecond : openAt changed path root = .ok second)
    (hsame : List.Forall₂
      (Zip.Entry.SameButSize (store.body first.file) (changed.body second.file))
      first.archive.entries second.archive.entries) (relative : String) :
    (∀ named, (first.read store relative).1 = .error (.oversized named) ↔
      path ++ "!" ++ (startOf root ++ relative) = named ∧
        first.Oversized (store.body first.file) relative) ∧
    ((first.read store relative).1 = (second.read changed relative).1 ↔
      (first.Oversized (store.body first.file) relative ↔
        second.Oversized (changed.body second.file) relative)) := by
  rw [read_eq_told (remembersRightly_of_openAt hfirst _),
    read_eq_told (remembersRightly_of_openAt hsecond _)]
  obtain ⟨_, _, -, rfl⟩ := exists_archiveAt_of_openAt hfirst
  obtain ⟨_, _, -, rfl⟩ := exists_archiveAt_of_openAt hsecond
  exact ⟨fun named ↦ told_eq_oversized_iff, SameButSizes.told_eq_iff ⟨rfl, rfl, hsame⟩⟩

/-! ### An archive that declares too much -/

/-- An archive with one file of two bytes, `r/x.wast`, whose size the directory declares in an extra
field. -/
def declaringArchive (declared : List UInt8) : ByteArray :=
  ⟨⟨[80, 75, 3, 4, 20, 0, 0, 0, 0, 0, 0, 0, 33, 0, 57, 36, 54, 94, 2, 0, 0, 0, 2, 0, 0, 0, 8, 0, 0,
    0, 114, 47, 120, 46, 119, 97, 115, 116, 40, 41, 80, 75, 1, 2, 20, 3, 20, 0, 0, 0, 0, 0, 0, 0,
    33, 0, 57, 36, 54, 94, 2, 0, 0, 0, 255, 255, 255, 255, 8, 0, 12, 0, 0, 0, 0, 0, 0, 0, 0, 0, 128,
    1, 0, 0, 0, 0, 114, 47, 120, 46, 119, 97, 115, 116, 1, 0, 8, 0] ++ declared ++
    [80, 75, 5, 6, 0, 0, 0, 0, 1, 0, 1, 0, 66, 0, 0, 0, 40, 0, 0, 0, 0, 0]⟩⟩

/-- What the directory of that archive says about the file. -/
def declaringEntry (size : Nat) : Zip.Entry where
  name := "r/x.wast"
  nameBytes := "r/x.wast".toUTF8.toList
  comment := ""
  encrypted := false
  stronglyEncrypted := false
  method := 0
  checksum := 1580606521
  packedSize := 2
  declaredSize := size
  headerStart := 0

/-- A store with that archive. -/
def declaringStore (declared : List UInt8) : Store where
  nodes := [(["a.zip"], .file 0)]
  bodies := [declaringArchive declared]
  working := []

/-- The root `r` of that archive, as it is opened. -/
def declaringTree (size : Nat) : ArchiveTree :=
  ⟨"a.zip", 0, ⟨[declaringEntry size]⟩, "r/", []⟩

/-- The true size of the file. -/
def trueSize : List UInt8 := [2, 0, 0, 0, 0, 0, 0, 0]

/-- The least size that is beyond the limit. -/
def hugeSize : List UInt8 := [0, 0, 0, 0, 0, 0, 0, 128]

theorem openAt_declaringStore {declared : List UInt8} {size : Nat}
    (hsearch : Zip.EndRecord.search (declaringArchive declared) (declaringArchive declared).size
      none = .ok (106, some ⟨40, 1, 0⟩))
    (hdirectory : Zip.Entry.directory? (declaringArchive declared) ⟨40, 1, 0⟩ =
      some [declaringEntry size]) :
    openAt (declaringStore declared) "a.zip" "r" = .ok (declaringTree size) := by
  have hcheck : Store.checkPath "a.zip" = .ok () :=
    Path.checkPath_eq_ok_iff.mpr ⟨by decide, by decide, by decide⟩
  have hfind : (declaringStore declared).find "a.zip" = .ok (["a.zip"], .file 0) :=
    Store.find_of_walk hcheck rfl rfl
  have hbody : (declaringStore declared).body 0 = declaringArchive declared := rfl
  have hcontent := Zip.Archive.ofContent_of_directory? hsearch hdirectory
  rw [← hbody] at hcontent
  have hname : startOf "r" ++ "x.wast" = "r/x.wast" := by decide
  rw [openAt_eq (archiveAt_eq_ok_iff.mpr ⟨⟨_, hfind⟩, hcontent⟩),
    if_pos (hasStart_eq_true_iff.mpr ⟨_, List.mem_singleton.mpr hname⟩)]
  rfl

theorem openAt_trueSize :
    openAt (declaringStore trueSize) "a.zip" "r" = .ok (declaringTree 2) :=
  openAt_declaringStore (by decide +kernel) (by decide +kernel)

theorem openAt_hugeSize :
    openAt (declaringStore hugeSize) "a.zip" "r" = .ok (declaringTree (Nat.pow 2 63)) :=
  openAt_declaringStore (by decide +kernel) (by decide +kernel)

theorem find?_declaringTree (size : Nat) :
    (declaringTree size).archive.find? ((declaringTree size).start ++ "x.wast") =
      some (declaringEntry size) := by
  have hname : ("r/x.wast" == "r/" ++ "x.wast") = true := by decide
  exact List.find?_cons_of_pos hname

theorem read_alike_iff_oversized_alike_huge :
    (declaringTree (Nat.pow 2 63)).Oversized (declaringArchive hugeSize) "x.wast" ∧
      ((declaringTree (Nat.pow 2 63)).read (declaringStore hugeSize) "x.wast").1 =
        .error (.oversized "a.zip!r/x.wast") ∧
      ((declaringTree (Nat.pow 2 63)).read (declaringStore hugeSize) "x.wast").1 ≠
        ((declaringTree 2).read (declaringStore trueSize) "x.wast").1 := by
  have hover : (declaringTree (Nat.pow 2 63)).Oversized (declaringArchive hugeSize) "x.wast" :=
    ⟨_, find?_declaringTree _, Zip.Entry.contents_eq_oversized_iff.mp (by decide +kernel)⟩
  have htrue : ¬ (declaringTree 2).Oversized (declaringArchive trueSize) "x.wast" := by
    rintro ⟨entry, hentry, hover⟩
    obtain rfl := Option.some.inj ((find?_declaringTree 2).symm.trans hentry)
    exact absurd hover.beyond (by decide)
  obtain ⟨hbreaks, halike⟩ := read_alike_iff_oversized_alike openAt_hugeSize openAt_trueSize
    (.cons ⟨rfl, by decide +kernel⟩ .nil) "x.wast"
  exact ⟨hover, (hbreaks _).mpr ⟨by decide, hover⟩, fun h ↦ htrue ((halike.mp h).mp hover)⟩

/-- An archive opens whose file could be read if its true size was declared. But a greater one is,
and the read breaks. -/
theorem read_broken_by_declared_size :
    openAt (declaringStore hugeSize) "a.zip" "r" = .ok (declaringTree (Nat.pow 2 63)) ∧
      openAt (declaringStore trueSize) "a.zip" "r" = .ok (declaringTree 2) ∧
      ((declaringTree (Nat.pow 2 63)).read (declaringStore hugeSize) "x.wast").1 =
        .error (.oversized "a.zip!r/x.wast") ∧
      ((declaringTree 2).read (declaringStore trueSize) "x.wast").1 = .ok (some "()".toUTF8) := by
  refine ⟨openAt_hugeSize, openAt_trueSize, ?_, ?_⟩
  · decide +kernel
  · decide +kernel

end ArchiveTree

end WastSuite
