import WastSuite.Proofs.Resource.Listing

/-!
# What an entry holds

The answer about a file in an archive is fixed by its entry and by the contents of the open file
(`Zip.Entry.contents`, `ArchiveTree.told`). A tree also remembers where the data of entries start
that it has read. As long as all that it remembers is right (`ArchiveTree.RemembersRightly`) this
makes no difference: a read answers what the entry holds (`read_eq_told`), and what the tree
remembers afterwards is right again, whether or not the read has succeeded (`exists_read_eq`).
-/

set_option autoImplicit false

namespace WastSuite

namespace Zip

/-- The data of an entry of an archive with some contents, or why they cannot be had. -/
def Entry.contents (content : ByteArray) (entry : Entry) : Except EntryFault ByteArray :=
  if entry.encrypted then .error (.refused .unsupported)
  else do
    let start ← (entry.dataStart content).mapError .refused
    (entry.supported).mapError .refused
    entry.unpack content start

/-- Nothing is no archive. -/
theorem Archive.ofContent_empty : Archive.ofContent ByteArray.empty = .error .invalid := by
  rw [ofContent, ofContentBelow]
  rfl

/-- The entry that is found under a name has it. -/
theorem Archive.name_of_find? {archive : Archive} {name : String} {entry : Entry}
    (h : archive.find? name = some entry) : entry.name = name := by
  simpa using List.find?_some h

end Zip

namespace ArchiveTree

variable {store : Store} {tree : ArchiveTree} {entry : Zip.Entry} {relative : String}

/-- What a tree answers about the file at a path, the open file having some contents. -/
def told (content : ByteArray) (tree : ArchiveTree) (relative : String) :
    Except DiscoveryError (Option ByteArray) :=
  let name := tree.start ++ relative
  match tree.archive.find? name with
  | none => .ok none
  | some entry =>
    match entry.contents content with
    | .ok data => .ok (some data)
    | .error fault => .error (.ofEntry (tree.path ++ "!" ++ name) fault)

/-- There is no file of a name that no entry has. -/
theorem told_of_find?_eq_none {content : ByteArray}
    (h : tree.archive.find? (tree.start ++ relative) = none) :
    tree.told content relative = .ok none := by
  simp only [told, h]

/-- A file is what the entry of its name holds. -/
theorem told_of_find?_eq_some {content : ByteArray}
    (h : tree.archive.find? (tree.start ++ relative) = some entry) :
    tree.told content relative = ((entry.contents content).map some).mapError
      (.ofEntry (tree.path ++ "!" ++ (tree.start ++ relative))) := by
  simp only [told, h]
  cases entry.contents content <;> rfl

/-- Where a tree remembers that the data of an entry start, they do. -/
def RemembersRightly (content : ByteArray) (tree : ArchiveTree) : Prop :=
  ∀ entry start, tree.archive.find? entry.name = some entry →
    tree.located.lookup entry.name = some start → entry.dataStart content = .ok start

/-- Where an entry's data start can be noted in a tree that remembers rightly. -/
theorem RemembersRightly.note {content : ByteArray} {start : Nat}
    (hright : tree.RemembersRightly content)
    (hentry : tree.archive.find? entry.name = some entry)
    (hstart : entry.dataStart content = .ok start) :
    RemembersRightly content { tree with located := (entry.name, start) :: tree.located } := by
  intro other found hother hfound
  by_cases hname : other.name = entry.name
  · obtain rfl : other = entry := Option.some.inj (hother.symm.trans (hname ▸ hentry))
    rw [List.lookup_cons_self] at hfound
    rwa [← Option.some.inj hfound]
  · have hskip : (other.name == entry.name) = false := by simpa using hname
    simp only [List.lookup_cons, hskip] at hfound
    exact hright other found hother hfound

/-- The tree that has found where the data of an entry start remembers this, and nothing else has
changed. -/
theorem locate_eq (hright : tree.RemembersRightly (store.body tree.file))
    (hentry : tree.archive.find? entry.name = some entry) :
    (∃ fault, entry.dataStart (store.body tree.file) = .error fault ∧
        tree.locate store entry = .error fault) ∨
      ∃ start located, entry.dataStart (store.body tree.file) = .ok start ∧
        tree.locate store entry = .ok (start, { tree with located := located }) ∧
        RemembersRightly (store.body tree.file) { tree with located := located } := by
  cases hmemo : tree.located.lookup entry.name with
  | some start =>
    refine Or.inr ⟨start, tree.located, hright entry start hentry hmemo, ?_, hright⟩
    rw [locate, hmemo]
  | none =>
    cases hstart : entry.dataStart (store.body tree.file) with
    | error fault =>
      refine Or.inl ⟨fault, rfl, ?_⟩
      rw [locate, hmemo, hstart]
      rfl
    | ok start =>
      refine Or.inr ⟨start, (entry.name, start) :: tree.located, rfl, ?_, hright.note hentry hstart⟩
      rw [locate, hmemo, hstart]
      rfl

/-- Unpacking an entry gives what it holds, and the tree still remembers rightly. -/
theorem exists_extract_eq (hright : tree.RemembersRightly (store.body tree.file))
    (hentry : tree.archive.find? entry.name = some entry) :
    ∃ located, tree.extract store entry =
        (entry.contents (store.body tree.file), { tree with located := located }) ∧
      RemembersRightly (store.body tree.file) { tree with located := located } := by
  cases hencrypted : entry.encrypted with
  | true =>
    refine ⟨tree.located, ?_, hright⟩
    simp only [extract, Zip.Entry.contents, hencrypted, if_true]
  | false =>
    rcases locate_eq hright hentry with
      ⟨fault, hstart, hlocate⟩ | ⟨start, located, hstart, hlocate, hafter⟩
    · refine ⟨tree.located, ?_, hright⟩
      simp only [extract, Zip.Entry.contents, hencrypted, hlocate, hstart, Bool.false_eq_true,
        if_false]
      rfl
    · refine ⟨located, ?_, hafter⟩
      simp only [extract, Zip.Entry.contents, hencrypted, hlocate, hstart, Bool.false_eq_true,
        if_false]
      rfl

/-- Reading a file answers what its entry holds, and the tree still remembers rightly. -/
theorem exists_read_eq (hright : tree.RemembersRightly (store.body tree.file))
    (relative : String) :
    ∃ located, tree.read store relative =
        (tree.told (store.body tree.file) relative, { tree with located := located }) ∧
      RemembersRightly (store.body tree.file) { tree with located := located } := by
  cases hentry : tree.archive.find? (tree.start ++ relative) with
  | none =>
    refine ⟨tree.located, ?_, hright⟩
    simp only [read, told, hentry]
  | some entry =>
    have hname := Zip.Archive.name_of_find? hentry
    obtain ⟨located, hextract, hafter⟩ := exists_extract_eq hright (by rw [hname, hentry])
    refine ⟨located, ?_, hafter⟩
    simp only [read, told, hentry, hextract]
    cases entry.contents (store.body tree.file) <;> rfl

/-- Reading a file changes nothing in the tree but what it remembers. -/
theorem exists_read_snd_eq (store : Store) (tree : ArchiveTree) (relative : String) :
    ∃ located, (tree.read store relative).2 = { tree with located := located } := by
  cases hentry : tree.archive.find? (tree.start ++ relative) with
  | none =>
    refine ⟨tree.located, ?_⟩
    simp only [read, hentry]
  | some entry =>
    obtain ⟨located, hafter⟩ := exists_extract_snd_eq store tree entry
    refine ⟨located, ?_⟩
    rw [← hafter]
    simp only [read, hentry]
    split <;> rename_i hextract <;> rw [hextract]

/-- A tree that remembers rightly answers what the entries hold. -/
theorem read_eq_told (hright : tree.RemembersRightly (store.body tree.file))
    (relative : String) :
    (tree.read store relative).1 = tree.told (store.body tree.file) relative := by
  obtain ⟨located, hread, -⟩ := exists_read_eq hright relative
  rw [hread]

/-! ### Opening -/

variable {path : String} {number : Nat} {archive : Zip.Archive}

/-- A path leads to an archive if it leads to a file whose contents are one. -/
theorem archiveAt_eq_ok_iff : archiveAt store path = .ok (number, archive) ↔
    (∃ location, store.find path = .ok (location, .file number)) ∧
      Zip.Archive.ofContent (store.body number) = .ok archive := by
  unfold archiveAt
  constructor
  · intro h
    split at h
    · cases h
    · rename_i location other hfind
      split at h
      · rename_i found hcontent
        cases h
        exact ⟨⟨location, hfind⟩, hcontent⟩
      · cases h
    · cases h
  · rintro ⟨⟨location, hfind⟩, hcontent⟩
    simp only [hfind, hcontent]

/-- A tree that was just opened is that of an archive, at the start of its root, and remembers
nothing. -/
theorem exists_archiveAt_of_openAt (h : openAt store path relative = .ok tree) :
    ∃ number archive, archiveAt store path = .ok (number, archive) ∧
      tree = ⟨path, number, archive, startOf relative, []⟩ := by
  obtain ⟨⟨number, archive⟩, harchive, htree⟩ := Fallible.bind_eq_ok_iff.mp h
  dsimp only at htree
  split_ifs at htree
  exact ⟨number, archive, harchive, (Except.ok.inj htree).symm⟩

/-- A tree that was just opened remembers nothing wrong. -/
theorem remembersRightly_of_openAt (h : openAt store path relative = .ok tree)
    (content : ByteArray) : tree.RemembersRightly content := by
  obtain ⟨number, archive, -, rfl⟩ := exists_archiveAt_of_openAt h
  intro entry start _ hmemo
  cases hmemo

/-- A tree that was just opened has a file that is there. -/
theorem file_lt_of_openAt (h : openAt store path relative = .ok tree) :
    tree.file < store.bodies.length := by
  obtain ⟨number, archive, harchive, rfl⟩ := exists_archiveAt_of_openAt h
  by_contra hlate
  have hempty : store.body number = ByteArray.empty := by
    rw [Store.body, List.getElem?_eq_none (Nat.le_of_not_lt hlate)]
    rfl
  have hcontent := (archiveAt_eq_ok_iff.mp harchive).2
  rw [hempty, Zip.Archive.ofContent_empty] at hcontent
  cases hcontent

end ArchiveTree

end WastSuite
