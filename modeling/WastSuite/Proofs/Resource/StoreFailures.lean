import WastSuite.Proofs.Resource.Listing

/-!
# Failures that come from the store

The store may refuse a path, and an archive or an entry of it may not be readable
(`DiscoveryError.OfStore`). Such a failure names a path of the store. Listing a root and reading in
it fail in no other way (`OpenTree.ofStore_of_childFiles`, `OpenTree.ofStore_of_read`); opening a
root may also tell that it is not there, or that it is spelled in a way that is not allowed
(`OpenTree.failure_of_openRoot`).
-/

set_option autoImplicit false

namespace WastSuite

/-- A failure that comes from the store: a path that it refuses, an archive or an entry of it that
is refused, or an entry that declares a size for which no buffer can be had. A listed file that is
no longer there is not among them. -/
inductive DiscoveryError.OfStore : DiscoveryError → Prop
  | io (path : String) {fault : ReadFault} (h : fault ≠ .vanished) : OfStore (.io path fault)
  | archive (path : String) (fault : Zip.Fault) : OfStore (.archive path fault)
  | oversized (path : String) : OfStore (.oversized path)

variable {store : Store} {root relative path : String} {error : DiscoveryError}

theorem DiscoveryError.OfStore.ne_vanished (h : error.OfStore) (path : String) :
    error ≠ .io path .vanished := by
  rintro rfl
  cases h with
  | io _ hne => exact hne rfl

theorem DiscoveryError.ofStore_refused (path : String) (fault : StoreFault) :
    (io path (.refused fault)).OfStore :=
  .io path (by simp)

theorem DiscoveryError.ofStore_ofEntry (path : String) (fault : Zip.EntryFault) :
    (ofEntry path fault).OfStore := by
  cases fault with
  | refused fault => exact .archive path fault
  | oversized => exact .oversized path
  | corruptStream => exact .io path (by simp)
  | truncatedStream => exact .io path (by simp)
  | wrongChecksum => exact .io path (by simp)

/-- A directory that does not open as a root is not there. -/
theorem DirectoryTree.failure_of_openAt {base : String}
    (h : openAt store base relative = .error error) : error = .rootNotFound relative base := by
  rw [openAt] at h
  split_ifs at h
  exact (Except.error.inj h).symm

namespace ArchiveTree

theorem ofStore_of_archiveAt (h : archiveAt store path = .error error) : error.OfStore := by
  unfold archiveAt at h
  split at h
  · cases h
    exact DiscoveryError.ofStore_refused path _
  · split at h
    · cases h
    · cases h
      exact .archive path _
  · cases h
    exact .archive path _

/-- An archive that does not open at a root cannot be read, or lacks the root. -/
theorem failure_of_openAt (h : openAt store path relative = .error error) :
    error = .rootNotFound relative path ∨ error.OfStore := by
  rw [openAt, Fallible.bind_eq_error_iff] at h
  rcases h with harchive | ⟨⟨number, archive⟩, -, hstart⟩
  · exact Or.inr (ofStore_of_archiveAt harchive)
  · dsimp only at hstart
    split_ifs at hstart
    exact Or.inl (Except.error.inj hstart).symm

end ArchiveTree

namespace OpenTree

variable {base : ResourceBase} {opened : OpenTree}

/-- A root that does not open ends with a slash, is not there, or fails in the store. -/
theorem failure_of_openRoot (h : (base.openRoot store root).outcome = .error error) :
    (Text.beforeTail? "/" root).isSome ∧ error = .invalidRoot root ∨
      error = .rootNotFound (ResourceBase.relativeRoot root) base.path ∨ error.OfStore := by
  rw [outcome_openRoot] at h
  split_ifs at h with hends
  · exact Or.inl ⟨hends, (Except.error.inj h).symm⟩
  · cases base with
    | directory path =>
      exact Or.inr (Or.inl (DirectoryTree.failure_of_openAt (Fallible.map_eq_error_iff.mp h)))
    | archive path => exact Or.inr (ArchiveTree.failure_of_openAt (Fallible.map_eq_error_iff.mp h))

/-- A root that cannot be listed fails in the store. -/
theorem ofStore_of_childFiles (h : opened.childFiles store = .error error) : error.OfStore := by
  cases opened with
  | archive tree => cases h
  | directory tree =>
    change tree.childFiles store = _ at h
    rw [DirectoryTree.childFiles] at h
    cases hlist : store.list tree.root with
    | error fault =>
      simp only [hlist, Except.error.injEq] at h
      exact h ▸ DiscoveryError.ofStore_refused _ fault
    | ok names =>
      simp only [hlist, Fallible.map_eq_error_iff] at h
      by_cases hall : ∀ name ∈ names, ∃ found, store.find (Path.join tree.root name) = .ok found
      · cases (DirectoryTree.regularFiles_eq_ok hall).symm.trans h
      · obtain ⟨name, -, fault, -, hfiles⟩ := DirectoryTree.exists_regularFiles_eq_error hall
        exact Except.error.inj (hfiles.symm.trans h) ▸ DiscoveryError.ofStore_refused _ fault

/-- A file that cannot be read fails in the store. -/
theorem ofStore_of_read (h : (opened.answers store).read relative = .error error) :
    error.OfStore := by
  cases opened with
  | directory tree =>
    obtain ⟨fault, -, -, rfl⟩ := DirectoryTree.read_eq_error_iff.mp h
    exact DiscoveryError.ofStore_refused _ fault
  | archive tree =>
    change (tree.read store relative).1 = _ at h
    by_cases hmem : tree.start ++ relative ∈ tree.archive.names
    · rcases ArchiveTree.read_of_mem_names store hmem with ⟨content, hread⟩ | ⟨fault, hread⟩
      · cases hread.symm.trans h
      · rw [← Except.error.inj (hread.symm.trans h)]
        exact DiscoveryError.ofStore_ofEntry _ fault
    · cases (ArchiveTree.read_eq_none_iff.mpr hmem).symm.trans h

end OpenTree

end WastSuite
