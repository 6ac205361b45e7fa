import WastSuite.Proofs.Fallible
import WastSuite.Proofs.Store.Spelling

/-!
# Walks that go on

A walk that leads to a directory can be gone on with: what more moves lead to depends on that
directory and on how many links may still be followed, not on the way to it
(`exists_walk_append`). So every path behind a path to a directory is walked from that directory
(`exists_locate_join`). Where only directories stand on the way, the walk enters one name after the
other (`walk_of_directories`), and where no links do, it leads nowhere else than its names say
(`eq_of_walk`).
-/

set_option autoImplicit false

namespace WastSuite.Store

variable {store : Store} {here there : Location} {first second rest : List Path.Step}
  {name : String}

/-! ### Single moves -/

section Moves

variable {follow : Location → List Path.Step → Except StoreFault Location}

theorem walkWith_nil : walkWith store follow here [] = .ok here := rfl

/-- A name that is too long is not even looked for. -/
theorem walkWith_enter_of_long (h : nameLimit < name.utf8ByteSize) :
    walkWith store follow here (.enter name :: rest) = .error .nameTooLong := by
  rw [walkWith, if_pos h]

/-- A directory is entered. -/
theorem walkWith_enter_of_directory (hname : name.utf8ByteSize ≤ nameLimit)
    (hnode : store.node? (here ++ [name]) = some .directory) :
    walkWith store follow here (.enter name :: rest) =
      walkWith store follow (here ++ [name]) rest := by
  rw [walkWith, if_neg (Nat.not_lt.mpr hname), hnode]

/-- A walk may end where nothing stands. -/
theorem walkWith_enter_of_none (hname : name.utf8ByteSize ≤ nameLimit)
    (hnode : store.node? (here ++ [name]) = none) :
    walkWith store follow here (.enter name :: rest) =
      if rest = [] then .ok (here ++ [name]) else .error .notFound := by
  rw [walkWith, if_neg (Nat.not_lt.mpr hname), hnode]

/-- A walk may end at a file, and goes on from none. -/
theorem walkWith_enter_of_file (hname : name.utf8ByteSize ≤ nameLimit) {body : Nat}
    (hnode : store.node? (here ++ [name]) = some (.file body)) :
    walkWith store follow here (.enter name :: rest) =
      if rest = [] then .ok (here ++ [name]) else .error .notDirectory := by
  rw [walkWith, if_neg (Nat.not_lt.mpr hname), hnode]

/-- A link is followed. -/
theorem walkWith_enter_of_link (hname : name.utf8ByteSize ≤ nameLimit) {target : String}
    (hnode : store.node? (here ++ [name]) = some (.link target)) :
    walkWith store follow here (.enter name :: rest) =
      follow (if Path.isAbsolute target then [] else here) (Path.steps target ++ rest) := by
  rw [walkWith, if_neg (Nat.not_lt.mpr hname), hnode]

end Moves

/-- A walk makes single moves, however many links it may follow. -/
theorem exists_walk_eq_walkWith (store : Store) (links : Nat) :
    ∃ follow, store.walk links = walkWith store follow := by
  cases links with
  | zero => exact ⟨_, rfl⟩
  | succ links => exact ⟨_, rfl⟩

theorem walk_nil (links : Nat) : store.walk links here [] = .ok here := by
  cases links <;> rfl

/-! ### Going on -/

/-- A walk to a directory goes on from there. Assumes: so do the walks that go on behind a link. -/
theorem exists_walkWith_append {follow : Location → List Path.Step → Except StoreFault Location}
    (hfollow : ∀ here first, follow here first = .ok there →
      ∃ links, ∀ second, follow here (first ++ second) = store.walk links there second)
    (links : Nat) (hwalk : store.walk links = walkWith store follow)
    (hthere : store.node? there = some .directory)
    (h : walkWith store follow here first = .ok there) :
    ∃ links, ∀ second,
      walkWith store follow here (first ++ second) = store.walk links there second := by
  induction first generalizing here with
  | nil =>
    obtain rfl := Except.ok.inj h
    exact ⟨links, fun second ↦ by rw [hwalk, List.nil_append]⟩
  | cons step first ih =>
    cases step with
    | stay => exact ih h
    | up => exact ih h
    | enter name =>
      by_cases hname : name.utf8ByteSize ≤ nameLimit
      · cases hnode : store.node? (here ++ [name]) with
        | none =>
          rw [walkWith_enter_of_none hname hnode] at h
          split_ifs at h
          obtain rfl := Except.ok.inj h
          rw [hthere] at hnode
          cases hnode
        | some node =>
          cases node with
          | directory =>
            rw [walkWith_enter_of_directory hname hnode] at h
            obtain ⟨links, hlinks⟩ := ih h
            refine ⟨links, fun second ↦ ?_⟩
            rw [List.cons_append, walkWith_enter_of_directory hname hnode, hlinks]
          | file body =>
            rw [walkWith_enter_of_file hname hnode] at h
            split_ifs at h
            obtain rfl := Except.ok.inj h
            rw [hthere] at hnode
            cases hnode
          | link target =>
            rw [walkWith_enter_of_link hname hnode] at h
            obtain ⟨links, hlinks⟩ := hfollow _ _ h
            refine ⟨links, fun second ↦ ?_⟩
            rw [List.cons_append, walkWith_enter_of_link hname hnode, ← List.append_assoc, hlinks]
      · rw [walkWith_enter_of_long (Nat.lt_of_not_le hname)] at h
        cases h

/-- A walk to a directory goes on from there, with some of the links left. -/
theorem exists_walk_append {links : Nat} (hthere : store.node? there = some .directory)
    (h : store.walk links here first = .ok there) :
    ∃ left, ∀ second, store.walk links here (first ++ second) = store.walk left there second := by
  induction links generalizing here first with
  | zero =>
    refine exists_walkWith_append (fun here first hfail ↦ ?_) 0 rfl hthere h
    cases hfail
  | succ links ih => exact exists_walkWith_append (fun here first ↦ ih) (links + 1) rfl hthere h

/-- Staying may be left out in front of other moves. Assumes: so it may behind a link. -/
theorem walkWith_append_stay {follow : Location → List Path.Step → Except StoreFault Location}
    (hfollow : ∀ here first,
      follow here (first ++ .stay :: rest) = follow here (first ++ rest)) (hrest : rest ≠ []) :
    walkWith store follow here (first ++ .stay :: rest) =
      walkWith store follow here (first ++ rest) := by
  induction first generalizing here with
  | nil => rfl
  | cons step first ih =>
    cases step with
    | stay => exact ih
    | up => exact ih
    | enter name =>
      have hleft : first ++ .stay :: rest ≠ [] := by simp
      have hright : first ++ rest ≠ [] := by simp [hrest]
      have hlink : ∀ there target, follow there (Path.steps target ++ (first ++ .stay :: rest)) =
          follow there (Path.steps target ++ (first ++ rest)) := by
        intro there target
        rw [← List.append_assoc, hfollow, List.append_assoc]
      rw [List.cons_append, List.cons_append, walkWith, walkWith, ih]
      simp only [if_neg hleft, if_neg hright, hlink]

theorem walk_append_stay {links : Nat} (hrest : rest ≠ []) :
    store.walk links here (first ++ .stay :: rest) = store.walk links here (first ++ rest) := by
  induction links generalizing here first with
  | zero => exact walkWith_append_stay (fun _ _ ↦ rfl) hrest
  | succ links ih => exact walkWith_append_stay (fun _ _ ↦ ih) hrest

/-! ### What a path leads to -/

variable {base path : String} {top location : Location} {node : Node}

/-- What a path leads to is what stands where its walk ends. -/
theorem find_eq_ok_iff : store.find path = .ok (location, node) ↔
    store.locate path = .ok location ∧ store.node? location = some node := by
  rw [find, Fallible.bind_eq_ok_iff]
  constructor
  · rintro ⟨there, hlocate, h⟩
    cases hnode : store.node? there with
    | none => simp [hnode] at h
    | some other =>
      simp only [hnode, Except.ok.injEq, Prod.mk.injEq] at h
      obtain ⟨rfl, rfl⟩ := h
      exact ⟨hlocate, hnode⟩
  · rintro ⟨hlocate, hnode⟩
    exact ⟨location, hlocate, by rw [hnode]⟩

/-- Nothing is found where a walk fails. -/
theorem find_eq_error_of_locate {fault : StoreFault} (h : store.locate path = .error fault) :
    store.find path = .error fault := by
  rw [find, h]
  rfl

/-- Nothing is found where a walk ends and nothing stands. -/
theorem find_eq_notFound_of_locate (h : store.locate path = .ok location)
    (hnode : store.node? location = none) : store.find path = .error .notFound := by
  rw [find, h]
  simp only [bind, Except.bind, hnode]

/-- A path that leads somewhere can be walked. -/
theorem checkPath_of_find {found : Location × Node} (h : store.find path = .ok found) :
    checkPath path = .ok () := by
  obtain ⟨hlocate, -⟩ := find_eq_ok_iff.mp h
  obtain ⟨⟨⟩, hcheck, -⟩ := Fallible.bind_eq_ok_iff.mp hlocate
  exact hcheck

theorem ne_empty_of_find {found : Location × Node} (h : store.find path = .ok found) :
    path ≠ "" :=
  (Path.checkPath_eq_ok_iff.mp (checkPath_of_find h)).2.1

/-- A path is that of a file if a file stands where it leads. -/
theorem isFile_iff : store.isFile path = true ↔
    ∃ location number, store.find path = .ok (location, .file number) := by
  unfold isFile
  split <;> simp_all

/-- A path is that of a directory if a directory stands where it leads. -/
theorem isDirectory_iff : store.isDirectory path = true ↔
    ∃ location, store.find path = .ok (location, .directory) := by
  unfold isDirectory
  split <;> simp_all

/-- What can be listed are the names in directories. -/
theorem list_eq_ok_iff {names : List String} : store.list path = .ok names ↔
    ∃ location, store.find path = .ok (location, .directory) ∧ store.names location = names := by
  rw [list, Fallible.bind_eq_ok_iff]
  constructor
  · rintro ⟨⟨location, node⟩, hfind, hnames⟩
    cases node with
    | directory => exact ⟨location, hfind, Except.ok.inj hnames⟩
    | file number => cases hnames
    | link target => cases hnames
  · rintro ⟨location, hfind, rfl⟩
    exact ⟨_, hfind, rfl⟩

/-- What can be read are the contents of files. -/
theorem read_eq_ok_iff {content : ByteArray} : store.read path = .ok content ↔
    ∃ location number, store.find path = .ok (location, .file number) ∧
      store.body number = content := by
  rw [read, Fallible.bind_eq_ok_iff]
  constructor
  · rintro ⟨⟨location, node⟩, hfind, hcontent⟩
    cases node with
    | file number => exact ⟨location, number, hfind, Except.ok.inj hcontent⟩
    | directory => cases hcontent
    | link target => cases hcontent
  · rintro ⟨location, number, hfind, rfl⟩
    exact ⟨_, hfind, rfl⟩

/-- Nothing is read where nothing is found. -/
theorem read_eq_notFound_iff :
    store.read path = .error .notFound ↔ store.find path = .error .notFound := by
  rw [read, Fallible.bind_eq_error_iff]
  apply or_iff_left
  rintro ⟨⟨location, node⟩, -, hfault⟩
  cases node <;> cases hfault

theorem isFile_iff_exists_read : store.isFile path = true ↔
    ∃ content, store.read path = .ok content := by
  simp only [isFile_iff, read_eq_ok_iff]
  constructor
  · rintro ⟨location, number, hfind⟩
    exact ⟨_, location, number, hfind, rfl⟩
  · rintro ⟨content, location, number, hfind, -⟩
    exact ⟨location, number, hfind⟩

/-- A path is walked by its moves. Assumes: it can be walked at all. -/
theorem locate_eq_walk (h : checkPath path = .ok ()) :
    store.locate path = store.walk linkLimit (store.start path) (Path.steps path) := by
  rw [locate, h]
  rfl

theorem find_of_walk (h : checkPath path = .ok ())
    (hwalk : store.walk linkLimit (store.start path) (Path.steps path) = .ok location)
    (hnode : store.node? location = some node) : store.find path = .ok (location, node) :=
  find_eq_ok_iff.mpr ⟨(locate_eq_walk h).trans hwalk, hnode⟩

/-! ### Names behind a path -/

/-- Every path behind a path to a directory is walked from that directory. Assumes: it does not
start at the top, and can be walked at all. -/
theorem exists_locate_join (h : store.find base = .ok (top, .directory)) :
    ∃ links, ∀ relative, Path.isAbsolute relative = false →
      checkPath (Path.join base relative) = .ok () →
        store.locate (Path.join base relative) = store.walk links top (Path.steps relative) := by
  obtain ⟨hwalk, hnode⟩ := find_eq_ok_iff.mp h
  have hcheck := checkPath_of_find h
  rw [locate_eq_walk hcheck] at hwalk
  obtain ⟨links, hlinks⟩ := exists_walk_append hnode hwalk
  obtain ⟨follow, hfollow⟩ := exists_walk_eq_walkWith store links
  refine ⟨links, fun relative habsolute hjoin ↦ ?_⟩
  have hne : base ≠ "" := (Path.checkPath_eq_ok_iff.mp hcheck).2.1
  have hstart : store.start (Path.join base relative) = store.start base := by
    rw [start, start, Path.isAbsolute_join hne habsolute]
  rw [locate_eq_walk hjoin, hstart]
  by_cases hrelative : relative = ""
  · have hstay : store.walk links top [.stay] = store.walk links top [] := by
      rw [hfollow]
      rfl
    rw [hrelative, Path.steps_join_empty hne, show Path.steps "" = [] by decide]
    cases hends : Path.endsWithSlash base with
    | false => simpa [Path.steps_eq, hends, hstay] using hlinks [.stay]
    | true => simpa [Path.steps_eq, hends] using hlinks []
  · have hmoves := Path.steps_ne_nil hrelative habsolute
    rw [Path.steps_join hne hrelative habsolute, ← hlinks, Path.steps_eq base]
    cases Path.endsWithSlash base with
    | false => simp
    | true =>
      simp only [if_true, List.append_assoc, List.singleton_append, walk_append_stay hmoves]

/-- So is the path of every location below it, unless it is too long. -/
theorem exists_locate_below (h : store.find base = .ok (top, .directory)) :
    ∃ links, ∀ location, Path.Canonical location →
      (Path.below base location).utf8ByteSize ≤ pathLimit →
        store.locate (Path.below base location) =
          store.walk links top (location.map .enter) := by
  obtain ⟨links, hlinks⟩ := exists_locate_join h
  refine ⟨links, fun location hlocation hfits ↦ ?_⟩
  rw [← Path.steps_spelled hlocation]
  exact hlinks _ (Path.isAbsolute_spelled hlocation)
    (Path.checkPath_below (checkPath_of_find h) hlocation hfits)

/-- Every name leads from a directory to the next, and none is too long. -/
structure DirectoriesTo (store : Store) (top location : Location) : Prop where
  size_le : ∀ name ∈ location, name.utf8ByteSize ≤ nameLimit
  directory : ∀ first, first <+: location → first ≠ [] →
    store.node? (top ++ first) = some .directory

theorem DirectoriesTo.nil : store.DirectoriesTo top [] :=
  ⟨by simp, fun first hfirst hne ↦ absurd (List.prefix_nil.mp hfirst) hne⟩

theorem DirectoriesTo.singleton {name : String} (hname : name.utf8ByteSize ≤ nameLimit)
    (hnode : store.node? (top ++ [name]) = some .directory) : store.DirectoriesTo top [name] := by
  refine ⟨by simpa using hname, fun first hfirst hne ↦ ?_⟩
  obtain ⟨head, tail, rfl⟩ := List.exists_cons_of_ne_nil hne
  obtain ⟨rfl, hnil⟩ := List.cons_prefix_cons.mp hfirst
  rw [List.prefix_nil.mp hnil]
  exact hnode

theorem DirectoriesTo.tail {name : String} (h : store.DirectoriesTo top (name :: location)) :
    store.DirectoriesTo (top ++ [name]) location := by
  refine ⟨fun other hmem ↦ h.size_le other (List.mem_cons_of_mem _ hmem), fun first hfirst _ ↦ ?_⟩
  rw [List.append_assoc, List.singleton_append]
  exact h.directory (name :: first) (by simpa using hfirst) (by simp)

/-- Directories are entered one after the other, and staying in between changes nothing. -/
theorem walk_of_directories {links : Nat} {moves : List Path.Step} (hup : .up ∉ moves)
    (h : store.DirectoriesTo top (Path.entered moves)) :
    store.walk links top (moves ++ rest) =
      store.walk links (top ++ Path.entered moves) rest := by
  obtain ⟨follow, hwalk⟩ := exists_walk_eq_walkWith store links
  rw [hwalk]
  induction moves generalizing top with
  | nil => simp [Path.entered]
  | cons move moves ih =>
    rw [List.mem_cons, not_or] at hup
    cases move with
    | stay => exact ih hup.2 h
    | up => exact absurd rfl hup.1
    | enter name =>
      rw [Path.entered_cons_enter] at h ⊢
      have hhead : store.node? (top ++ [name]) = some .directory :=
        h.directory [name] (by simp) (by simp)
      rw [List.cons_append,
        walkWith_enter_of_directory (h.size_le name List.mem_cons_self) hhead, ih hup.2 h.tail,
        List.append_assoc, List.singleton_append]

theorem walk_enter_of_directories {links : Nat} (h : store.DirectoriesTo top location) :
    store.walk links top (location.map .enter ++ rest) =
      store.walk links (top ++ location) rest := by
  have hwalk : store.walk links top (location.map .enter ++ rest) =
      store.walk links (top ++ Path.entered (location.map .enter)) rest :=
    walk_of_directories (by simp) (by rwa [Path.entered_map_enter])
  rwa [Path.entered_map_enter] at hwalk

/-- Without links on the way, moves that do not go up lead to no other location than the names that
they enter say. -/
theorem eq_of_walk {links : Nat} {there : Location} {moves : List Path.Step} (hup : .up ∉ moves)
    (hlinks : ∀ first, first <+: Path.entered moves → ∀ target,
      store.node? (top ++ first) ≠ some (.link target))
    (h : store.walk links top moves = .ok there) : there = top ++ Path.entered moves := by
  obtain ⟨follow, hwalk⟩ := exists_walk_eq_walkWith store links
  rw [hwalk] at h
  induction moves generalizing top with
  | nil =>
    rw [← Except.ok.inj h]
    simp [Path.entered]
  | cons move moves ih =>
    rw [List.mem_cons, not_or] at hup
    cases move with
    | stay => exact ih hup.2 hlinks h
    | up => exact absurd rfl hup.1
    | enter name =>
      rw [Path.entered_cons_enter] at hlinks ⊢
      by_cases hname : name.utf8ByteSize ≤ nameLimit
      · have hend : ∀ fault : StoreFault, (if moves = [] then
            Except.ok (top ++ [name]) else .error fault) = .ok there →
              there = top ++ name :: Path.entered moves := by
          intro fault hend
          split_ifs at hend with hempty
          rw [← Except.ok.inj hend, hempty]
          rfl
        cases hnode : store.node? (top ++ [name]) with
        | none =>
          rw [walkWith_enter_of_none hname hnode] at h
          exact hend _ h
        | some node =>
          cases node with
          | directory =>
            rw [walkWith_enter_of_directory hname hnode] at h
            have hrest := ih hup.2 (fun first hfirst target ↦ ?_) h
            · rw [hrest, List.append_assoc, List.singleton_append]
            · rw [List.append_assoc, List.singleton_append]
              exact hlinks (name :: first) (by simpa using hfirst) target
          | file body =>
            rw [walkWith_enter_of_file hname hnode] at h
            exact hend _ h
          | link target => exact absurd hnode (hlinks [name] (by simp) target)
      · rw [walkWith_enter_of_long (Nat.lt_of_not_le hname)] at h
        cases h

/-! ### What stands behind a path -/

variable {above others : Location}

/-- Nothing is found at a path that is too long. -/
theorem find_below_of_long_path (hbase : store.find base = .ok (top, .directory))
    (hlocation : Path.Canonical location)
    (hlong : pathLimit < (Path.below base location).utf8ByteSize) :
    store.find (Path.below base location) = .error .nameTooLong := by
  apply find_eq_error_of_locate
  rw [locate, Path.checkPath_below_of_long (checkPath_of_find hbase) hlocation hlong]
  rfl

section Behind

variable (hbase : store.find base = .ok (top, .directory))
  (hlocation : Path.Canonical (above ++ name :: others))
  (hfits : (Path.below base (above ++ name :: others)).utf8ByteSize ≤ pathLimit)
  (habove : store.DirectoriesTo top above)

include hbase hlocation hfits habove

/-- The last of some names is looked for in the directory that the others lead to. -/
theorem exists_locate_below_eq_walkWith : ∃ follow,
    store.locate (Path.below base (above ++ name :: others)) =
      walkWith store follow (top ++ above) (.enter name :: others.map .enter) := by
  obtain ⟨links, hlinks⟩ := exists_locate_below hbase
  obtain ⟨follow, hwalk⟩ := exists_walk_eq_walkWith store links
  refine ⟨follow, ?_⟩
  rw [hlinks _ hlocation hfits, List.map_append, walk_enter_of_directories habove, hwalk,
    List.map_cons]

/-- No name that is too long is looked for. -/
theorem find_below_of_long (hname : nameLimit < name.utf8ByteSize) :
    store.find (Path.below base (above ++ name :: others)) =
      .error .nameTooLong := by
  obtain ⟨follow, hlocate⟩ := exists_locate_below_eq_walkWith hbase hlocation hfits habove
  rw [walkWith_enter_of_long hname] at hlocate
  exact find_eq_error_of_locate hlocate

/-- Nothing is found at or behind a name that is not there. -/
theorem find_below_of_none (hname : name.utf8ByteSize ≤ nameLimit)
    (hnode : store.node? (top ++ above ++ [name]) = none) :
    store.find (Path.below base (above ++ name :: others)) = .error .notFound := by
  obtain ⟨follow, hlocate⟩ := exists_locate_below_eq_walkWith hbase hlocation hfits habove
  rw [walkWith_enter_of_none hname hnode] at hlocate
  by_cases hlast : others.map Path.Step.enter = []
  · rw [if_pos hlast] at hlocate
    exact find_eq_notFound_of_locate hlocate hnode
  · rw [if_neg hlast] at hlocate
    exact find_eq_error_of_locate hlocate

/-- Nothing is found behind a file. -/
theorem find_below_of_file (hname : name.utf8ByteSize ≤ nameLimit) {body : Nat}
    (hnode : store.node? (top ++ above ++ [name]) = some (.file body)) (hothers : others ≠ []) :
    store.find (Path.below base (above ++ name :: others)) =
      .error .notDirectory := by
  obtain ⟨follow, hlocate⟩ := exists_locate_below_eq_walkWith hbase hlocation hfits habove
  rw [walkWith_enter_of_file hname hnode, if_neg (by simpa using hothers)] at hlocate
  exact find_eq_error_of_locate hlocate

end Behind

/-- What a directory holds is found behind its path, if only directories stand on the way. -/
theorem find_below_of_node {node : Node} (hbase : store.find base = .ok (top, .directory))
    (hlocation : Path.Canonical (above ++ [name]))
    (hfits : (Path.below base (above ++ [name])).utf8ByteSize ≤ pathLimit)
    (habove : store.DirectoriesTo top above) (hname : name.utf8ByteSize ≤ nameLimit)
    (hnode : store.node? (top ++ above ++ [name]) = some node)
    (hplain : ∀ target, node ≠ .link target) :
    store.find (Path.below base (above ++ [name])) =
      .ok (top ++ above ++ [name], node) := by
  obtain ⟨follow, hlocate⟩ := exists_locate_below_eq_walkWith hbase hlocation hfits habove
  refine find_eq_ok_iff.mpr ⟨hlocate.trans ?_, hnode⟩
  rw [List.map_nil]
  cases node with
  | directory => rw [walkWith_enter_of_directory hname hnode, walkWith_nil]
  | file body => rw [walkWith_enter_of_file hname hnode, if_pos rfl]
  | link target => exact absurd rfl (hplain target)

end WastSuite.Store
