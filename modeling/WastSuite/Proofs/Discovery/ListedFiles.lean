import WastSuite.Proofs.Discovery.Outcome
import WastSuite.Proofs.Resource.StoreFailures

/-!
# Listed files are there

Listing and reading agree about which files are directly in a root. In an archive a name is listed
exactly if reading it does not find nothing; what is listed is read as its contents or fails for a
reason of that entry. In a directory that can be listed, a listed name is always read as something,
and a name behind which something is read is listed, through links as well.

So discovery never finds nothing under a name that was listed to it, and its failure for that case
(`ReadFault.vanished`) cannot occur while the store stays as it is: the store itself never fails so
(`DiscoveryError.OfStore.ne_vanished`). Main statement: `listed_iff_read`.
-/

set_option autoImplicit false

namespace WastSuite

namespace OpenTree

variable {store : Store} {opened : OpenTree} {fileName : String} {fileNames : List String}

/-- What was listed is not read as missing. -/
theorem read_ne_none_of_mem (h : opened.childFiles store = .ok fileNames)
    (hmem : fileName ∈ fileNames) : (opened.answers store).read fileName ≠ .ok none := by
  have hchild := (mem_childFiles_iff h).mp hmem
  cases opened with
  | directory tree =>
    obtain ⟨content, hread⟩ := Store.isFile_iff_exists_read.mp hchild.2
    intro hnone
    cases (DirectoryTree.read_eq_some_iff.mpr hread).symm.trans hnone
  | archive tree => exact fun hnone ↦ ArchiveTree.read_eq_none_iff.mp hnone hchild.2.2

end OpenTree

namespace Registry

open ResourceTree

/-- Discovery does not fail as a listed file that is no longer there. -/
theorem load_ne_vanished (registry : Registry) (store : Store) (root path : String) :
    (registry.load store root).outcome ≠ .error (.io path .vanished) := by
  intro h
  rcases load_outcome_eq_error_iff.mp h with hopen | ⟨opened, -, hunits⟩
  · rcases OpenTree.failure_of_openRoot hopen with ⟨-, herror⟩ | herror | herror
    · cases herror
    · cases herror
    · exact herror.ne_vanished path rfl
  · have htext : ∀ relative, ¬ TextFault (opened.answers store) root relative
        (.io path .vanished) := by
      intro relative hfault
      cases hfault with
      | refused hread => exact (OpenTree.ofStore_of_read hread).ne_vanished path rfl
    cases unitsIn_outcome_eq_error_iff.mp hunits with
    | listing hlisting => exact (OpenTree.ofStore_of_childFiles hlisting).ne_vanished path rfl
    | @file before after fileName hfiles _ _ hfault =>
      cases hfault with
      | oracle _ hfault => exact htext _ hfault
      | source hsource =>
        cases hsource with
        | text hfault => exact htext _ hfault
        | vanished hnone =>
          have hlisted : opened.childFiles store = .ok (before ++ fileName :: after) := hfiles
          exact OpenTree.read_ne_none_of_mem hlisted (by simp) hnone

/-- In an archive, a name without slashes is listed exactly if reading it does not find nothing, and
what is listed is read as its contents or fails for a reason of that entry. In a directory that can
be listed, a listed name is not read as missing, and a name behind which something is read is
listed. So discovery never reads a listed file as missing, and never fails as it would then. -/
theorem listed_iff_read :
    (∀ (store : Store) (tree : ArchiveTree) (name : String), name ≠ "" → '/' ∉ name.toList →
      (name ∈ tree.childFiles ↔ (tree.read store name).1 ≠ .ok none) ∧
      (name ∈ tree.childFiles → (∃ content, (tree.read store name).1 = .ok (some content)) ∨
        ∃ fault, (tree.read store name).1 =
          .error (.ofEntry (tree.path ++ "!" ++ (tree.start ++ name)) fault))) ∧
    (∀ (store : Store) (tree : DirectoryTree) (fileNames : List String),
      tree.childFiles store = .ok fileNames → ∀ name, name ≠ "" → name ≠ "." → name ≠ ".." →
        '/' ∉ name.toList →
          (name ∈ fileNames → tree.read store name ≠ .ok none) ∧
          ((∃ content, tree.read store name = .ok (some content)) → name ∈ fileNames)) ∧
    ∀ (registry : Registry) (store : Store) (root : String),
      (∀ opened fileNames, (registry.base.openRoot store root).outcome = .ok opened →
        opened.childFiles store = .ok fileNames → ∀ fileName ∈ fileNames,
          (opened.answers store).read fileName ≠ .ok none) ∧
      ∀ path, (registry.load store root).outcome ≠ .error (.io path .vanished) := by
  refine ⟨fun store tree name hempty hslash ↦ ?_,
    fun store tree fileNames h name hempty hdot hdots hslash ↦ ?_, fun registry store root ↦ ?_⟩
  · have hlisted : name ∈ tree.childFiles ↔ tree.start ++ name ∈ tree.archive.names := by
      rw [ArchiveTree.mem_childFiles_iff, String.contains_char_eq]
      simp [hempty, hslash]
    refine ⟨?_, fun hmem ↦ ArchiveTree.read_of_mem_names store (hlisted.mp hmem)⟩
    rw [hlisted, Ne, ArchiveTree.read_eq_none_iff, not_not]
  · have hread := DirectoryTree.mem_childFiles_iff_exists_read h hempty hdot hdots hslash
    refine ⟨fun hmem hnone ↦ ?_, hread.mpr⟩
    obtain ⟨content, hcontent⟩ := hread.mp hmem
    cases hcontent.symm.trans hnone
  · exact ⟨fun opened fileNames _ hfiles fileName hmem ↦ OpenTree.read_ne_none_of_mem hfiles hmem,
      load_ne_vanished registry store root⟩

/-- A store with a directory whose one entry is a link to a file beside the directory. -/
def linkedStore : Store where
  nodes := [(["r"], .directory), (["r", "a.wast"], .link "../b"), (["b"], .file 0)]
  bodies := ["b".toUTF8]
  working := []

/-- An archive with one entry, which is encrypted. -/
def encryptedArchive : Zip.Archive where
  entries := [⟨"r/a.wast", [], "", true, false, 0, 0, 0, 0, 0⟩]

theorem find_linkedStore_root : linkedStore.find "r" = .ok (["r"], .directory) :=
  Store.find_of_walk (Path.checkPath_eq_ok_iff.mpr ⟨by decide, by decide, by decide⟩) (by decide)
    (by decide)

theorem find_linkedStore_source : linkedStore.find "r/a.wast" = .ok (["b"], .file 0) :=
  Store.find_of_walk (Path.checkPath_eq_ok_iff.mpr ⟨by decide, by decide, by decide⟩) (by decide)
    (by decide)

theorem childFiles_linkedStore :
    DirectoryTree.childFiles linkedStore ⟨"r"⟩ = .ok ["a.wast"] := by
  have hlist : linkedStore.list "r" = .ok ["a.wast"] :=
    Store.list_eq_ok_iff.mpr ⟨_, find_linkedStore_root, by decide +kernel⟩
  have hjoin : Path.join "r" "a.wast" = "r/a.wast" := by decide
  simp only [DirectoryTree.childFiles, hlist, DirectoryTree.regularFiles, hjoin,
    find_linkedStore_source, Except.map]
  exact congrArg Except.ok (by decide)

/-- An encrypted entry is listed and not read as missing, and neither is a link to a file. -/
theorem listed_iff_read_linked :
    (ArchiveTree.read linkedStore ⟨"a.zip", 0, encryptedArchive, "r/", []⟩ "a.wast").1 ≠ .ok none ∧
      DirectoryTree.read linkedStore ⟨"r"⟩ "a.wast" ≠ .ok none ∧
      ∀ path, (load ⟨.directory "", ["r"], .ofNames ["a.wast"]⟩ linkedStore "r").outcome ≠
        .error (.io path .vanished) := by
  obtain ⟨harchive, hdirectory, hload⟩ := listed_iff_read
  refine ⟨?_, ?_, (hload _ linkedStore "r").2⟩
  · refine (harchive linkedStore _ "a.wast" (by decide) (by decide)).1.mp ?_
    rw [ArchiveTree.mem_childFiles_iff, String.contains_char_eq]
    decide
  · exact (hdirectory _ _ _ childFiles_linkedStore "a.wast" (by decide) (by decide) (by decide)
      (by decide)).1 (by simp)

end Registry

end WastSuite
