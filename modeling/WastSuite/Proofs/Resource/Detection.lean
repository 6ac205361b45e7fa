import WastSuite.Proofs.Store.FilePaths
import WastSuite.Proofs.Store.LastName
import WastSuite.Resource.Base

/-!
# Which paths are archives

Whether a path is an archive is told by two tests: what the path leads to, links followed, and the
extension of its last name. The second ignores a slash or a name that stays at the end of the path,
and tells nothing of a name that only starts with a dot; the first leads to no file through such an
end. So together they say that the path leads to a file and that the text behind its last slash is
something followed by the ending of an archive (`Path.NamesArchive`).

Main statement: `detect_eq_archive_iff`.
-/

set_option autoImplicit false

namespace WastSuite

/-- The text behind the last slash of a path is something with the ending of an archive. -/
def Path.NamesArchive (path : String) : Prop :=
  ∃ stem, stem ≠ "" ∧
    (afterLastSlash path = stem ++ ".zip" ∨ afterLastSlash path = stem ++ ".jar")

namespace ResourceBase

variable {store : Store} {path : String}

/-! ### Names of archives -/

/-- The name of an archive is longer than the ending. -/
theorem length_of_namesArchive (h : Path.NamesArchive path) :
    4 < (Path.afterLastSlash path).toList.length := by
  obtain ⟨stem, hstem, hname⟩ := h
  have hlength : 0 < stem.toList.length := by
    simpa [List.length_pos_iff] using hstem
  have hzip : (stem ++ ".zip").toList.length = stem.toList.length + 4 := by simp
  have hjar : (stem ++ ".jar").toList.length = stem.toList.length + 4 := by simp
  rcases hname with hname | hname
  · rw [hname, hzip]
    omega
  · rw [hname, hjar]
    omega

/-- The name of an archive ends with one of two characters. -/
theorem getLast?_of_namesArchive (h : Path.NamesArchive path) :
    (Path.afterLastSlash path).toList.getLast? = some 'p' ∨
      (Path.afterLastSlash path).toList.getLast? = some 'r' := by
  obtain ⟨stem, -, hname | hname⟩ := h
  · exact Or.inl (by simp [hname])
  · exact Or.inr (by simp [hname])

/-- A path whose last segment stands for entering a name has the extension of an archive exactly if
that name is that of one. -/
theorem exists_archiveExtension_iff {name : String}
    (h : Path.step? (Path.afterLastSlash path).toList = some (.enter name)) :
    (∃ extension ∈ archiveExtensions, Path.extension? path = some extension) ↔
      Path.NamesArchive path := by
  have hzip : ∀ stem : String, stem ++ "." ++ "zip" = stem ++ ".zip" :=
    fun _ ↦ String.append_assoc
  have hjar : ∀ stem : String, stem ++ "." ++ "jar" = stem ++ ".jar" :=
    fun _ ↦ String.append_assoc
  simp only [archiveExtensions, List.mem_cons, List.not_mem_nil, or_false, exists_eq_or_imp,
    exists_eq_left, Path.extension?_eq_some_iff h, hzip, hjar, Path.NamesArchive]
  constructor
  · rintro (⟨stem, hstem, hname, -⟩ | ⟨stem, hstem, hname, -⟩)
    · exact ⟨stem, hstem, Or.inl hname⟩
    · exact ⟨stem, hstem, Or.inr hname⟩
  · rintro ⟨stem, hstem, hname | hname⟩
    · exact Or.inl ⟨stem, hstem, hname, by decide⟩
    · exact Or.inr ⟨stem, hstem, hname, by decide⟩

/-- Nothing behind the last slash, or only a name that stays, is no name of an archive. -/
theorem not_namesArchive_of_stay {front : String}
    (h : path = front ++ "/" ∨ path = front ++ "/.") : ¬ Path.NamesArchive path := by
  intro hname
  have hlength := length_of_namesArchive hname
  rcases h with rfl | rfl
  · rw [← String.append_empty (s := front ++ "/"), Path.afterLastSlash_append (by simp)] at hlength
    simp at hlength
  · rw [show "/." = "/" ++ "." by decide, ← String.append_assoc,
      Path.afterLastSlash_append (by simp)] at hlength
    simp at hlength

/-- An ending alone is no name of an archive, nor is a name with another ending. -/
theorem not_namesArchive_of_ending {stem : String}
    (h : Path.afterLastSlash path ∈ [".zip", ".jar", stem ++ ".ZIP", stem ++ ".zip.bak"]) :
    ¬ Path.NamesArchive path := by
  intro hname
  have hlength := length_of_namesArchive hname
  have hlast := getLast?_of_namesArchive hname
  simp only [List.mem_cons, List.not_mem_nil, or_false] at h
  rcases h with hending | hending | hending | hending
  · rw [hending] at hlength
    simp at hlength
  · rw [hending] at hlength
    simp at hlength
  · rw [hending] at hlast
    simp at hlast
  · rw [hending] at hlast
    simp at hlast

/-! ### Detection -/

/-- A path is taken for one or the other as it stands. -/
theorem detect_eq_or (store : Store) (path : String) :
    detect store path = .archive path ∨ detect store path = .directory path := by
  simp only [detect]
  split_ifs
  · exact Or.inl rfl
  · exact Or.inr rfl

theorem detect_eq_directory_iff :
    detect store path = .directory path ↔ detect store path ≠ .archive path := by
  rcases detect_eq_or store path with h | h
  · simp [h]
  · simp [h]

/-- A path is an archive if it leads to a file and has the extension of one. -/
theorem detect_eq_archive_iff_extension : detect store path = .archive path ↔
    store.isFile path = true ∧
      ∃ extension ∈ archiveExtensions, Path.extension? path = some extension := by
  unfold detect
  cases Path.extension? path with
  | none => simp
  | some extension => simp

/-- What leads to a file is an archive exactly if it is named like one, whatever the name of that
file. Assumes: nothing but directories stands at the working directory and above it. -/
theorem detect_of_find (hworking : store.DirectoriesOnly store.working) {location : Location}
    {number : Nat} (hfind : store.find path = .ok (location, .file number)) :
    detect store path = .archive path ↔ Path.NamesArchive path := by
  obtain ⟨name, hlast⟩ := Store.getLast?_steps_of_find hworking hfind
  rw [detect_eq_archive_iff_extension, ← exists_archiveExtension_iff
    (Path.step?_of_getLast?_steps hlast)]
  exact and_iff_right (Store.isFile_iff.mpr ⟨location, number, hfind⟩)

/-- What leads to no file is no archive. -/
theorem detect_of_not_file
    (hfind : ∀ location number, store.find path ≠ .ok (location, .file number)) :
    detect store path = .directory path := by
  rw [detect_eq_directory_iff, ne_eq, detect_eq_archive_iff_extension]
  rintro ⟨hfile, -⟩
  obtain ⟨location, number, hfound⟩ := Store.isFile_iff.mp hfile
  exact hfind location number hfound

theorem detect_iff (hworking : store.DirectoriesOnly store.working) :
    detect store path = .archive path ↔
      (∃ location number, store.find path = .ok (location, .file number)) ∧
        Path.NamesArchive path := by
  constructor
  · intro h
    obtain ⟨location, number, hfind⟩ :=
      Store.isFile_iff.mp (detect_eq_archive_iff_extension.mp h).1
    exact ⟨⟨location, number, hfind⟩, (detect_of_find hworking hfind).mp h⟩
  · rintro ⟨⟨location, number, hfind⟩, hname⟩
    exact (detect_of_find hworking hfind).mpr hname

theorem detect_of_not_namesArchive (hworking : store.DirectoriesOnly store.working)
    (h : ¬ Path.NamesArchive path) : detect store path = .directory path := by
  rw [detect_eq_directory_iff, ne_eq, detect_iff hworking]
  exact fun hboth ↦ h hboth.2

/-- A path is kept as it is, and taken for an archive exactly if it leads to a regular file and the
text behind its last slash is something with the ending of an archive. Otherwise it is taken for a
directory: so is what leads to a directory or nowhere, what ends with a slash or a name that stays,
and what is named by an ending alone or with another ending. What leads to a file is taken for what
its own name says, whatever the file behind its links is called. Assumes: nothing but directories
stands at the working directory and above it. -/
theorem detect_eq_archive_iff (hworking : store.DirectoriesOnly store.working) (path : String) :
    (detect store path).path = path ∧
    (detect store path = .archive path ↔
      (∃ location number, store.find path = .ok (location, .file number)) ∧
        Path.NamesArchive path) ∧
    (detect store path = .directory path ↔
      ¬ ((∃ location number, store.find path = .ok (location, .file number)) ∧
        Path.NamesArchive path)) ∧
    (∀ location, store.find path = .ok (location, .directory) →
      detect store path = .directory path) ∧
    (∀ fault, store.find path = .error fault → detect store path = .directory path) ∧
    (∀ location number, store.find path = .ok (location, .file number) →
      (detect store path = .archive path ↔ Path.NamesArchive path)) ∧
    (∀ front, path = front ++ "/" ∨ path = front ++ "/." →
      detect store path = .directory path) ∧
    ∀ stem, Path.afterLastSlash path ∈ [".zip", ".jar", stem ++ ".ZIP", stem ++ ".zip.bak"] →
      detect store path = .directory path := by
  refine ⟨?_, detect_iff hworking, ?_, fun location hfind ↦ ?_, fun fault hfind ↦ ?_,
    fun location number ↦ detect_of_find hworking,
    fun front h ↦ detect_of_not_namesArchive hworking (not_namesArchive_of_stay h),
    fun stem h ↦ detect_of_not_namesArchive hworking (not_namesArchive_of_ending h)⟩
  · rcases detect_eq_or store path with h | h
    · rw [h]
      rfl
    · rw [h]
      rfl
  · rw [detect_eq_directory_iff, ne_eq, detect_iff hworking]
  · exact detect_of_not_file (by simp [hfind])
  · exact detect_of_not_file (by simp [hfind])

/-! ### Paths of every kind -/

/-- A store whose working directory holds files, a directory and links, under names of archives and
others. -/
def mixedStore : Store where
  nodes := [(["w"], .directory), (["w", "x.zip"], .file 0), (["w", "plain"], .file 0),
    (["w", ".zip"], .file 0), (["w", "x.ZIP"], .file 0), (["w", "x.zip.bak"], .file 0),
    (["w", "d.zip"], .directory), (["w", "lost.zip"], .link "nowhere"),
    (["w", "x.jar"], .link "d.zip/../plain"), (["w", "bare"], .link "x.zip")]
  bodies := [ByteArray.empty]
  working := ["w"]

theorem checkPath_mixed {path : String}
    (h : path ∈ ["x.zip", "d.zip", "lost.zip", "x.jar", "bare"]) :
    Store.checkPath path = .ok () := by
  have hplain : ∀ path ∈ ["x.zip", "d.zip", "lost.zip", "x.jar", "bare"],
      '\x00' ∉ path.toList ∧ path ≠ "" ∧ path.utf8ByteSize ≤ Store.pathLimit := by
    decide
  exact Path.checkPath_eq_ok_iff.mpr (hplain path h)

/-- A file named like an archive and a link named so are archives, the link whatever the file that
it leads to is called. A link named otherwise is none though it leads to one, and neither are a
directory, a link that leads nowhere, and names that only look alike. -/
theorem detect_eq_archive_iff_mixed :
    detect mixedStore "x.zip" = .archive "x.zip" ∧ detect mixedStore "x.jar" = .archive "x.jar" ∧
      detect mixedStore "bare" = .directory "bare" ∧
      detect mixedStore "d.zip" = .directory "d.zip" ∧
      detect mixedStore "lost.zip" = .directory "lost.zip" ∧
      detect mixedStore "x.zip/" = .directory "x.zip/" ∧
      detect mixedStore "x.zip/." = .directory "x.zip/." ∧
      detect mixedStore ".zip" = .directory ".zip" ∧
      detect mixedStore "x.ZIP" = .directory "x.ZIP" ∧
      detect mixedStore "x.zip.bak" = .directory "x.zip.bak" := by
  have hworking : mixedStore.DirectoriesOnly mixedStore.working :=
    Store.DirectoriesOnly.append_singleton (.nil mixedStore) (by decide)
  have hfile : mixedStore.find "x.zip" = .ok (["w", "x.zip"], .file 0) :=
    Store.find_of_walk (checkPath_mixed (by simp)) (by decide) (by decide)
  have hlink : mixedStore.find "x.jar" = .ok (["w", "plain"], .file 0) :=
    Store.find_of_walk (checkPath_mixed (by simp)) (by decide) (by decide)
  have hbare : mixedStore.find "bare" = .ok (["w", "x.zip"], .file 0) :=
    Store.find_of_walk (checkPath_mixed (by simp)) (by decide) (by decide)
  have hdirectory : mixedStore.find "d.zip" = .ok (["w", "d.zip"], .directory) :=
    Store.find_of_walk (checkPath_mixed (by simp)) (by decide) (by decide)
  have hlost : mixedStore.find "lost.zip" = .error .notFound := by
    have hlocate : mixedStore.locate "lost.zip" = .ok ["w", "nowhere"] :=
      (Store.locate_eq_walk (checkPath_mixed (by simp))).trans (by decide)
    exact Store.find_eq_notFound_of_locate hlocate (by decide)
  have hdetect := detect_eq_archive_iff hworking
  refine ⟨?_, ?_, ?_, ?_, ?_, ?_, ?_, ?_, ?_, ?_⟩
  · obtain ⟨-, harchive, -⟩ := hdetect "x.zip"
    exact harchive.mpr ⟨⟨_, _, hfile⟩, "x", by decide, Or.inl (by decide)⟩
  · obtain ⟨-, -, -, -, -, hfound, -⟩ := hdetect "x.jar"
    exact (hfound _ _ hlink).mpr ⟨"x", by decide, Or.inr (by decide)⟩
  · obtain ⟨-, -, -, -, -, hfound, -⟩ := hdetect "bare"
    rw [detect_eq_directory_iff, ne_eq, hfound _ _ hbare]
    exact fun hname ↦ absurd (length_of_namesArchive hname) (by decide)
  · obtain ⟨-, -, -, hdirectories, -⟩ := hdetect "d.zip"
    exact hdirectories _ hdirectory
  · obtain ⟨-, -, -, -, hnowhere, -⟩ := hdetect "lost.zip"
    exact hnowhere _ hlost
  · obtain ⟨-, -, -, -, -, -, hends, -⟩ := hdetect "x.zip/"
    exact hends "x.zip" (Or.inl (by decide))
  · obtain ⟨-, -, -, -, -, -, hends, -⟩ := hdetect "x.zip/."
    exact hends "x.zip" (Or.inr (by decide))
  · obtain ⟨-, -, -, -, -, -, -, hending⟩ := hdetect ".zip"
    exact hending "x" (by decide)
  · obtain ⟨-, -, -, -, -, -, -, hending⟩ := hdetect "x.ZIP"
    exact hending "x" (by decide)
  · obtain ⟨-, -, -, -, -, -, -, hending⟩ := hdetect "x.zip.bak"
    exact hending "x" (by decide)

end ResourceBase

end WastSuite
