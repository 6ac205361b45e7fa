import Mathlib.Data.List.Basic
import WastSuite.Catalogue
import WastSuite.Store.Resolve

/-!
# The spelling of locations

A location below a directory is spelled as its names with slashes between them (`Path.spelled`).
Where each of them is a name that an entry can have (`Path.IsName`), the location is canonical
(`Path.Canonical`), and its spelling is read back as entering one name after the other
(`steps_spelled`).

A spelling put behind a path adds these moves to those of the path (`steps_join`), and it
can be walked if the path can be and the two are not too long together (`checkPath_below`).
One spelling starts with another and a slash only if its location goes on from the other's
(`exists_of_spelled_eq`).
-/

set_option autoImplicit false

namespace WastSuite.Path

/-! ### Segments -/

/-- There is always a text in front of the first slash. -/
theorem segments_ne_nil (text : List Char) : segments text ≠ [] := by
  cases text with
  | nil => exact List.cons_ne_nil _ _
  | cons c text =>
    unfold segments
    split
    · exact List.cons_ne_nil _ _
    · split <;> exact List.cons_ne_nil _ _

/-- A slash separates the segments in front of it from those behind it. -/
theorem segments_append_slash (first second : List Char) :
    segments (first ++ '/' :: second) = segments first ++ segments second := by
  induction first with
  | nil => simp [segments]
  | cons c first ih =>
    by_cases hslash : c = '/'
    · simp only [List.cons_append, segments, if_pos hslash, ih]
    · obtain ⟨head, tail, hsplit⟩ := List.exists_cons_of_ne_nil (segments_ne_nil first)
      simp only [List.cons_append, segments, if_neg hslash, ih, hsplit]

/-- A text without slashes is one segment. -/
theorem segments_of_notMem {text : List Char} (h : '/' ∉ text) : segments text = [text] := by
  induction text with
  | nil => rfl
  | cons c text ih =>
    simp only [List.mem_cons, not_or] at h
    simp only [segments, if_neg (Ne.symm h.1), ih h.2]

/-! ### Names and locations -/

/-- A name that an entry of a directory can have: it is not empty, stands neither for the directory
itself nor for the one above, and has neither a slash nor a NUL character. -/
structure IsName (name : String) : Prop where
  ne_empty : name ≠ ""
  ne_dot : name ≠ "."
  ne_dots : name ≠ ".."
  slash_notMem : '/' ∉ name.toList
  nul_notMem : '\x00' ∉ name.toList

instance : DecidablePred IsName := fun name ↦
  decidable_of_iff (name ≠ "" ∧ name ≠ "." ∧ name ≠ ".." ∧ '/' ∉ name.toList ∧
    '\x00' ∉ name.toList)
    ⟨fun ⟨hempty, hdot, hdots, hslash, hnul⟩ ↦ ⟨hempty, hdot, hdots, hslash, hnul⟩,
      fun h ↦ ⟨h.ne_empty, h.ne_dot, h.ne_dots, h.slash_notMem, h.nul_notMem⟩⟩

/-- A location below a directory, whose names can all be those of entries. -/
def Canonical (location : Location) : Prop :=
  location ≠ [] ∧ ∀ name ∈ location, IsName name

instance : DecidablePred Canonical := fun location ↦
  inferInstanceAs (Decidable (location ≠ [] ∧ ∀ name ∈ location, IsName name))

/-- How a location below a directory is written. -/
def spelled (location : Location) : String :=
  "/".intercalate location

@[simp] theorem spelled_singleton (name : String) : spelled [name] = name :=
  String.intercalate_singleton

/-- The spelling of a location that goes on from another. -/
theorem spelled_append {first second : Location} (hfirst : first ≠ []) (hsecond : second ≠ []) :
    spelled (first ++ second) = spelled first ++ "/" ++ spelled second :=
  String.intercalate_append_of_ne_nil hfirst hsecond

theorem spelled_cons (name : String) {location : Location} (h : location ≠ []) :
    spelled (name :: location) = name ++ "/" ++ spelled location := by
  rw [← List.singleton_append, spelled_append (by simp) h, spelled_singleton]

/-- A part of a canonical location is canonical. -/
theorem Canonical.of_append {first second : Location} (h : Canonical (first ++ second))
    (hfirst : first ≠ []) : Canonical first :=
  ⟨hfirst, fun name hmem ↦ h.2 name (List.mem_append_left _ hmem)⟩

theorem Canonical.of_append_right {first second : Location} (h : Canonical (first ++ second))
    (hsecond : second ≠ []) : Canonical second :=
  ⟨hsecond, fun name hmem ↦ h.2 name (List.mem_append_right _ hmem)⟩

theorem Canonical.append {first second : Location} (hfirst : Canonical first)
    (hsecond : Canonical second) : Canonical (first ++ second) := by
  refine ⟨by simp [hfirst.1], fun name hmem ↦ ?_⟩
  rcases List.mem_append.mp hmem with hmem | hmem
  · exact hfirst.2 name hmem
  · exact hsecond.2 name hmem

/-- The segments of a spelling are the names. -/
theorem segments_spelled {location : Location} (h : Canonical location) :
    segments (spelled location).toList = location.map String.toList := by
  obtain ⟨hne, hnames⟩ := h
  induction location with
  | nil => exact absurd rfl hne
  | cons name location ih =>
    have hname := segments_of_notMem (hnames name List.mem_cons_self).slash_notMem
    by_cases hlast : location = []
    · subst hlast
      rw [spelled_singleton, hname]
      rfl
    · have hrest := ih hlast fun other hmem ↦ hnames other (List.mem_cons_of_mem _ hmem)
      rw [spelled_cons name hlast]
      simp only [String.toList_append, List.append_assoc, show "/".toList = ['/'] from rfl,
        List.singleton_append]
      rw [segments_append_slash, hname, hrest]
      rfl

/-- The move that a name stands for. -/
theorem step?_of_isName {name : String} (h : IsName name) :
    step? name.toList = some (.enter name) := by
  have hempty : name.toList ≠ [] := mt String.toList_eq_nil_iff.mp h.ne_empty
  have hdot : name.toList ≠ ['.'] := fun heq ↦ h.ne_dot (String.toList_inj.mp heq)
  have hdots : name.toList ≠ ['.', '.'] := fun heq ↦ h.ne_dots (String.toList_inj.mp heq)
  rw [step?, if_neg hempty, if_neg hdot, if_neg hdots, String.ofList_toList]

/-- A spelling is not empty. -/
theorem spelled_ne_empty {location : Location} (h : Canonical location) :
    spelled location ≠ "" := by
  intro hempty
  have hsegments := segments_spelled h
  rw [hempty] at hsegments
  obtain ⟨name, rest, rfl⟩ := List.exists_cons_of_ne_nil h.1
  have hname := (h.2 name List.mem_cons_self).ne_empty
  simp only [String.toList_empty, segments, List.map_cons, List.cons.injEq] at hsegments
  exact hname (String.toList_inj.mp hsegments.1.symm)

/-- No segment of a spelling is empty. -/
theorem nil_notMem_segments_spelled {location : Location} (h : Canonical location) :
    [] ∉ segments (spelled location).toList := by
  rw [segments_spelled h]
  intro hmem
  obtain ⟨name, hname, hempty⟩ := List.mem_map.mp hmem
  exact (h.2 name hname).ne_empty (String.toList_inj.mp hempty)

/-- A spelling does not start at the top. -/
theorem isAbsolute_spelled {location : Location} (h : Canonical location) :
    isAbsolute (spelled location) = false := by
  refine (Bool.not_eq_true _).mp fun habsolute ↦ nil_notMem_segments_spelled h ?_
  simp only [isAbsolute, beq_iff_eq, List.head?_eq_some_iff] at habsolute
  obtain ⟨rest, htext⟩ := habsolute
  rw [htext, show '/' :: rest = [] ++ '/' :: rest from rfl, segments_append_slash]
  exact List.mem_append_left _ (by simp [segments])

/-- A spelling does not end with a slash. -/
theorem endsWithSlash_spelled {location : Location} (h : Canonical location) :
    endsWithSlash (spelled location) = false := by
  refine (Bool.not_eq_true _).mp fun hends ↦ nil_notMem_segments_spelled h ?_
  simp only [endsWithSlash, beq_iff_eq, List.getLast?_eq_some_iff] at hends
  obtain ⟨text, htext⟩ := hends
  rw [htext, segments_append_slash]
  exact List.mem_append_right _ (by simp [segments])

/-- A spelling has no NUL character. -/
theorem nul_notMem_spelled {location : Location} (h : Canonical location) :
    '\x00' ∉ (spelled location).toList := by
  obtain ⟨hne, hnames⟩ := h
  induction location with
  | nil => exact absurd rfl hne
  | cons name location ih =>
    have hname := (hnames name List.mem_cons_self).nul_notMem
    by_cases hlast : location = []
    · subst hlast
      rwa [spelled_singleton]
    · have hrest := ih hlast fun other hmem ↦ hnames other (List.mem_cons_of_mem _ hmem)
      rw [spelled_cons name hlast]
      simp [hname, hrest]

/-- Locations that are spelled alike are the same. -/
theorem spelled_inj {first second : Location} (hfirst : Canonical first)
    (hsecond : Canonical second) (h : spelled first = spelled second) : first = second := by
  have hsegments := segments_spelled hfirst
  rw [h, segments_spelled hsecond] at hsegments
  exact (List.map_inj_right fun _ _ heq ↦ String.toList_inj.mp heq).mp hsegments.symm

/-- The segments of a text with slashes between them are the text. -/
theorem spelled_segments (text : List Char) :
    spelled ((segments text).map String.ofList) = String.ofList text := by
  induction text with
  | nil => rfl
  | cons c text ih =>
    obtain ⟨head, tail, hsplit⟩ := List.exists_cons_of_ne_nil (segments_ne_nil text)
    by_cases hslash : c = '/'
    · rw [hslash, segments, if_pos rfl, List.map_cons, spelled_cons _ (by simp [hsplit]), ih,
        ← String.toList_inj]
      simp
    · have hmove : spelled (String.ofList (c :: head) :: tail.map String.ofList) =
          String.ofList [c] ++ spelled (String.ofList head :: tail.map String.ofList) := by
        have hhead : String.ofList (c :: head) = String.ofList [c] ++ String.ofList head := by
          rw [← String.ofList_append, List.singleton_append]
        by_cases htail : tail.map String.ofList = []
        · rw [htail, spelled_singleton, spelled_singleton, hhead]
        · rw [spelled_cons _ htail, spelled_cons _ htail, hhead]
          simp only [String.append_assoc]
      rw [hsplit, List.map_cons] at ih
      simp only [segments, if_neg hslash, hsplit, List.map_cons]
      rw [hmove, ih, ← String.ofList_append]
      rfl

/-- A slash in the spelling of a location stands between its names: what is in front of it is the
spelling of the first of them, and what is behind it has the others as segments. -/
theorem exists_of_spelled_eq {location : Location} (h : Canonical location) {text rest : String}
    (hspelled : spelled location = text ++ "/" ++ rest) :
    ∃ first second, location = first ++ second ∧ first ≠ [] ∧ second ≠ [] ∧
      text = spelled first ∧ segments rest.toList = second.map String.toList := by
  have hsegments := segments_spelled h
  rw [hspelled] at hsegments
  simp only [String.toList_append, List.append_assoc, show "/".toList = ['/'] from rfl,
    List.singleton_append] at hsegments
  rw [segments_append_slash] at hsegments
  obtain ⟨first, second, hsplit, hfirst, hsecond⟩ := List.map_eq_append_iff.mp hsegments.symm
  refine ⟨first, second, hsplit, ?_, ?_, ?_, hsecond.symm⟩
  · rintro rfl
    exact segments_ne_nil text.toList hfirst.symm
  · rintro rfl
    exact segments_ne_nil rest.toList hsecond.symm
  · have htext := spelled_segments text.toList
    rw [← hfirst, List.map_map] at htext
    simpa [Function.comp_def] using htext.symm

/-! ### Moves -/

/-- The moves that the names of a path stand for, whether or not a slash follows them. -/
def turns (path : String) : List Step :=
  (segments path.toList).filterMap step?

/-- The moves of a path are those of its names, and one that stays for a slash at the end. -/
theorem steps_eq (path : String) :
    steps path = turns path ++ if endsWithSlash path then [.stay] else [] := rfl

/-- Names are entered. -/
theorem filterMap_step?_of_isName {location : Location} (h : ∀ name ∈ location, IsName name) :
    (location.map String.toList).filterMap step? = location.map .enter := by
  induction location with
  | nil => rfl
  | cons name location ih =>
    rw [List.map_cons, List.filterMap_cons_some (step?_of_isName (h name List.mem_cons_self)),
      ih fun other hmem ↦ h other (List.mem_cons_of_mem _ hmem), List.map_cons]

/-- The names that moves enter. -/
def entered (moves : List Step) : Location :=
  moves.filterMap fun
    | .enter name => some name
    | _ => none

@[simp] theorem entered_cons_enter (name : String) (moves : List Step) :
    entered (.enter name :: moves) = name :: entered moves := rfl

@[simp] theorem entered_cons_stay (moves : List Step) :
    entered (.stay :: moves) = entered moves := rfl

@[simp] theorem entered_map_enter (location : Location) :
    entered (location.map .enter) = location := by
  induction location with
  | nil => rfl
  | cons name location ih => rw [List.map_cons, entered_cons_enter, ih]

/-- The names in a path, without those that are empty or stand for the directory itself. -/
def properNames (path : String) : Location :=
  ((segments path.toList).filter fun name ↦ name ≠ [] ∧ name ≠ ['.']).map String.ofList

/-- Without names that go up, the moves of a path enter its proper names. -/
theorem entered_filterMap_step? {names : List (List Char)} (h : ['.', '.'] ∉ names) :
    .up ∉ names.filterMap step? ∧ entered (names.filterMap step?) =
      (names.filter fun name ↦ name ≠ [] ∧ name ≠ ['.']).map String.ofList := by
  induction names with
  | nil => exact ⟨List.not_mem_nil, rfl⟩
  | cons name names ih =>
    rw [List.mem_cons, not_or] at h
    obtain ⟨hup, hnames⟩ := ih h.2
    by_cases hempty : name = []
    · subst hempty
      simpa [step?] using And.intro hup hnames
    · by_cases hdot : name = ['.']
      · subst hdot
        simpa [step?] using And.intro hup hnames
      · have hstep : step? name = some (.enter (String.ofList name)) := by
          rw [step?, if_neg hempty, if_neg hdot, if_neg (Ne.symm h.1)]
        rw [List.filterMap_cons_some hstep, List.filter_cons_of_pos (by simp [hempty, hdot]),
          entered_cons_enter, hnames, List.map_cons]
        exact ⟨by simp [hup], rfl⟩

/-- So do they with one that stays for a slash at the end. -/
theorem entered_steps {path : String} (h : ['.', '.'] ∉ segments path.toList) :
    .up ∉ steps path ∧ entered (steps path) = properNames path := by
  obtain ⟨hup, hnames⟩ := entered_filterMap_step? h
  rw [steps]
  cases endsWithSlash path with
  | false => simpa [properNames] using And.intro hup hnames
  | true => simpa [properNames, entered] using And.intro hup hnames

theorem properNames_spelled {location : Location} (h : Canonical location) :
    properNames (spelled location) = location := by
  have hproper : ∀ name ∈ location.map String.toList,
      decide (name ≠ [] ∧ name ≠ ['.']) = true := by
    intro name hmem
    obtain ⟨text, htext, rfl⟩ := List.mem_map.mp hmem
    have hname := h.2 text htext
    refine decide_eq_true ⟨mt String.toList_eq_nil_iff.mp hname.ne_empty, fun hdot ↦ ?_⟩
    exact hname.ne_dot (String.toList_inj.mp hdot)
  rw [properNames, segments_spelled h, List.filter_eq_self.mpr hproper, List.map_map]
  simp [Function.comp_def]

/-- No name in a spelling goes up. -/
theorem dots_notMem_segments_spelled {location : Location} (h : Canonical location) :
    ['.', '.'] ∉ segments (spelled location).toList := by
  rw [segments_spelled h]
  intro hmem
  obtain ⟨name, hname, hdots⟩ := List.mem_map.mp hmem
  exact (h.2 name hname).ne_dots (String.toList_inj.mp hdots)

/-- A character other than slash and dot stands in one of the proper names. -/
theorem exists_mem_properNames {path : String} {c : Char} (hslash : c ≠ '/') (hdot : c ≠ '.')
    (h : c ∈ path.toList) : ∃ name ∈ properNames path, c ∈ name.toList := by
  have hsegment : ∀ {text : List Char}, c ∈ text → ∃ segment ∈ segments text, c ∈ segment := by
    intro text hmem
    induction text with
    | nil => cases hmem
    | cons d text ih =>
      obtain ⟨head, tail, hsplit⟩ := List.exists_cons_of_ne_nil (segments_ne_nil text)
      rw [segments, hsplit]
      rcases List.mem_cons.mp hmem with rfl | hmem
      · rw [if_neg hslash]
        exact ⟨_, List.mem_cons_self, List.mem_cons_self⟩
      · obtain ⟨segment, hmember, hc⟩ := ih hmem
        rw [hsplit] at hmember
        by_cases hd : d = '/'
        · rw [if_pos hd]
          exact ⟨segment, List.mem_cons_of_mem _ hmember, hc⟩
        · rw [if_neg hd]
          rcases List.mem_cons.mp hmember with rfl | hmember
          · exact ⟨_, List.mem_cons_self, List.mem_cons_of_mem _ hc⟩
          · exact ⟨segment, List.mem_cons_of_mem _ hmember, hc⟩
  obtain ⟨segment, hmem, hc⟩ := hsegment h
  refine ⟨String.ofList segment, List.mem_map_of_mem (List.mem_filter.mpr ⟨hmem, ?_⟩), by simpa⟩
  refine decide_eq_true ⟨?_, ?_⟩
  · rintro rfl
    cases hc
  · rintro rfl
    exact hdot (List.mem_singleton.mp hc)

/-- The moves of a spelling enter one name after the other. -/
theorem steps_spelled {location : Location} (h : Canonical location) :
    steps (spelled location) = location.map .enter := by
  rw [steps_eq, endsWithSlash_spelled h, turns, segments_spelled h,
    filterMap_step?_of_isName h.2]
  simp

/-- Whether a text ends with a slash is told by its last part. -/
theorem endsWithSlash_append (front : String) {back : String} (h : back ≠ "") :
    endsWithSlash (front ++ back) = endsWithSlash back := by
  have hne : back.toList ≠ [] := mt String.toList_eq_nil_iff.mp h
  simp only [endsWithSlash, String.toList_append, List.getLast?_append_of_ne_nil _ hne]

/-- What follows a path and a slash adds its moves. -/
theorem steps_append_slash {base relative : String} (h : relative ≠ "") :
    steps (base ++ "/" ++ relative) = turns base ++ steps relative := by
  have hturns : turns (base ++ "/" ++ relative) = turns base ++ turns relative := by
    simp only [turns, String.toList_append, List.append_assoc, show "/".toList = ['/'] from rfl,
      List.singleton_append, segments_append_slash, List.filterMap_append]
  rw [steps_eq, hturns, endsWithSlash_append _ h, steps_eq relative, List.append_assoc]

theorem turns_append_slash (front : String) : turns (front ++ "/") = turns front := by
  simp only [turns, String.toList_append, show "/".toList = ['/'] from rfl, segments_append_slash,
    List.filterMap_append]
  simp [segments, step?]

/-- A path that ends with a slash is another one with a slash behind it. -/
theorem exists_of_endsWithSlash {base : String} (h : endsWithSlash base = true) :
    ∃ front, base = front ++ "/" := by
  simp only [endsWithSlash, beq_iff_eq, List.getLast?_eq_some_iff] at h
  obtain ⟨front, hbase⟩ := h
  refine ⟨String.ofList front, ?_⟩
  rw [← String.toList_inj, hbase]
  simp

/-- A path behind another adds its moves. Assumes: neither is empty, and the second does not start
at the top. -/
theorem steps_join {base relative : String} (hbase : base ≠ "") (hrelative : relative ≠ "")
    (habsolute : isAbsolute relative = false) :
    steps (join base relative) = turns base ++ steps relative := by
  have hempty : base.isEmpty = false := by simpa using hbase
  rw [join, habsolute, hempty]
  by_cases hends : endsWithSlash base = true
  · obtain ⟨front, rfl⟩ := exists_of_endsWithSlash hends
    rw [hends, turns_append_slash]
    exact steps_append_slash hrelative
  · rw [(Bool.not_eq_true _).mp hends]
    exact steps_append_slash hrelative

/-- The empty path behind another asks for a directory. -/
theorem steps_join_empty {base : String} (hbase : base ≠ "") :
    steps (join base "") = turns base ++ [.stay] := by
  have hempty : base.isEmpty = false := by simpa using hbase
  have hplain : isAbsolute "" = false := by decide
  rw [join, hplain, hempty]
  by_cases hends : endsWithSlash base = true
  · simp [hends, steps_eq]
  · rw [(Bool.not_eq_true _).mp hends]
    simp [steps_eq, turns_append_slash, endsWithSlash_append base (show "/" ≠ "" by decide),
      show endsWithSlash "/" = true by decide]

/-- A path that is not empty moves, or at least stays. Assumes: it does not start at the top. -/
theorem steps_ne_nil {relative : String} (hrelative : relative ≠ "")
    (habsolute : isAbsolute relative = false) : steps relative ≠ [] := by
  obtain ⟨c, rest, hchars⟩ :=
    List.exists_cons_of_ne_nil (mt String.toList_eq_nil_iff.mp hrelative)
  have hslash : c ≠ '/' := by simpa [isAbsolute, hchars] using habsolute
  obtain ⟨head, tail, hsplit⟩ := List.exists_cons_of_ne_nil (segments_ne_nil rest)
  obtain ⟨step, hstep⟩ : ∃ step, step? (c :: head) = some step := by
    rw [step?, if_neg (List.cons_ne_nil _ _)]
    split_ifs <;> exact ⟨_, rfl⟩
  rw [steps, hchars, segments, if_neg hslash, hsplit]
  simp [hstep]

/-- What stands between a path and another that is put behind it. -/
def gap (base : String) : String :=
  if endsWithSlash base then "" else "/"

theorem join_eq_append {base relative : String} (hbase : base ≠ "")
    (habsolute : isAbsolute relative = false) :
    join base relative = base ++ gap base ++ relative := by
  have hempty : base.isEmpty = false := by simpa using hbase
  rw [join, habsolute, hempty, gap]
  cases endsWithSlash base <;> simp

/-- A path behind another starts where the first does. -/
theorem isAbsolute_join {base relative : String} (hbase : base ≠ "")
    (habsolute : isAbsolute relative = false) :
    isAbsolute (join base relative) = isAbsolute base := by
  obtain ⟨c, rest, hchars⟩ :=
    List.exists_cons_of_ne_nil (mt String.toList_eq_nil_iff.mp hbase)
  simp only [isAbsolute, join_eq_append hbase habsolute, String.toList_append, hchars,
    List.cons_append, List.head?_cons]

/-! ### Slashes -/

/-- So many slashes. -/
def slashes (count : Nat) : String :=
  String.ofList (List.replicate count '/')

theorem slashes_succ (count : Nat) : slashes (count + 1) = slashes count ++ "/" := by
  rw [← String.toList_inj]
  simp [slashes, List.replicate_succ']

theorem utf8ByteSize_slashes (count : Nat) : (slashes count).utf8ByteSize = count := by
  induction count with
  | zero => rfl
  | succ count ih =>
    rw [slashes_succ, String.utf8ByteSize_append, ih]
    rfl

/-- Slashes at the end of a path do not move, but the last of them stays. -/
theorem steps_append_slashes (front : String) (count : Nat) :
    steps (front ++ slashes (count + 1)) = turns front ++ [.stay] := by
  have hturns : turns (front ++ slashes (count + 1)) = turns front := by
    induction count + 1 with
    | zero => simp [slashes]
    | succ count ih => rw [slashes_succ, ← String.append_assoc, turns_append_slash, ih]
  have hends : endsWithSlash (front ++ slashes (count + 1)) = true := by
    rw [slashes_succ, ← String.append_assoc, endsWithSlash_append _ (by decide)]
    decide
  rw [steps_eq, hturns, hends, if_pos rfl]

/-! ### Paths of a location -/

/-- The path of a location below the directory that a path leads to. -/
def below (base : String) (location : Location) : String :=
  join base (spelled location)

variable {base : String} {location others : Location}

theorem below_eq_append (hbase : base ≠ "") (h : Canonical location) :
    below base location = base ++ gap base ++ spelled location :=
  join_eq_append hbase (isAbsolute_spelled h)

theorem below_ne_empty (hbase : base ≠ "") (h : Canonical location) :
    below base location ≠ "" := by
  rw [below_eq_append hbase h]
  intro hempty
  exact spelled_ne_empty h (String.append_eq_empty_iff.mp hempty).2

/-- Going on below a location is going on below the path that it belongs to. -/
theorem join_below (hbase : base ≠ "") (h : Canonical location) (hothers : Canonical others) :
    join (below base location) (spelled others) = below base (location ++ others) := by
  have hlast : endsWithSlash (below base location) = false := by
    rw [below_eq_append hbase h, endsWithSlash_append _ (spelled_ne_empty h),
      endsWithSlash_spelled h]
  have hboth : Canonical (location ++ others) := h.append hothers
  rw [join_eq_append (below_ne_empty hbase h) (isAbsolute_spelled hothers), gap, hlast,
    below_eq_append hbase h, below_eq_append hbase hboth, spelled_append h.1 hothers.1]
  simp [String.append_assoc]

/-- The path of a location is no longer than the paths of those that go on from it. -/
theorem utf8ByteSize_below_le (hbase : base ≠ "") (h : Canonical location)
    (hothers : Canonical others) : (below base location).utf8ByteSize ≤
      (below base (location ++ others)).utf8ByteSize := by
  rw [← join_below hbase h hothers, join_eq_append (below_ne_empty hbase h)
    (isAbsolute_spelled hothers), String.utf8ByteSize_append, String.utf8ByteSize_append,
    Nat.add_assoc]
  exact Nat.le_add_right _ _

/-- A path can be walked if it is not empty, not too long and without NUL characters. -/
theorem checkPath_eq_ok_iff {path : String} : Store.checkPath path = .ok () ↔
    '\x00' ∉ path.toList ∧ path ≠ "" ∧ path.utf8ByteSize ≤ Store.pathLimit := by
  simp only [Store.checkPath, String.contains_char_eq, decide_eq_true_eq, String.isEmpty_iff]
  split_ifs with hnul hempty hlong
  · simp [hnul]
  · simp [hempty]
  · simp [hlong]
  · simp [hnul, hempty, Nat.le_of_not_lt hlong]

/-- What is put behind a path that can be walked can be walked too if it has no NUL character and
the two are not too long together. -/
theorem checkPath_join_iff {relative : String} (hbase : Store.checkPath base = .ok ())
    (habsolute : isAbsolute relative = false) :
    Store.checkPath (join base relative) = .ok () ↔
      '\x00' ∉ relative.toList ∧ (join base relative).utf8ByteSize ≤ Store.pathLimit := by
  obtain ⟨hnul, hne, -⟩ := checkPath_eq_ok_iff.mp hbase
  have hfilled : join base relative ≠ "" := by
    rw [join_eq_append hne habsolute]
    simp [String.append_eq_empty_iff, hne]
  have hchars : '\x00' ∈ (join base relative).toList ↔ '\x00' ∈ relative.toList := by
    rw [join_eq_append hne habsolute, gap]
    cases endsWithSlash base <;> simp [hnul]
  rw [checkPath_eq_ok_iff, hchars]
  simp [hfilled]

theorem nul_notMem_below (hbase : Store.checkPath base = .ok ()) (h : Canonical location) :
    '\x00' ∉ (below base location).toList := by
  obtain ⟨hnul, hne, -⟩ := checkPath_eq_ok_iff.mp hbase
  rw [below_eq_append hne h, gap]
  cases endsWithSlash base <;> simp [hnul, nul_notMem_spelled h]

/-- A location below a path that can be walked can be walked too if it is not too long. -/
theorem checkPath_below (hbase : Store.checkPath base = .ok ()) (h : Canonical location)
    (hfits : (below base location).utf8ByteSize ≤ Store.pathLimit) :
    Store.checkPath (below base location) = .ok () := by
  have hne := (checkPath_eq_ok_iff.mp hbase).2.1
  exact checkPath_eq_ok_iff.mpr ⟨nul_notMem_below hbase h, below_ne_empty hne h, hfits⟩

/-- A location below a path that can be walked is refused if it is too long. -/
theorem checkPath_below_of_long (hbase : Store.checkPath base = .ok ()) (h : Canonical location)
    (hlong : Store.pathLimit < (below base location).utf8ByteSize) :
    Store.checkPath (below base location) = .error .nameTooLong := by
  have hne := below_ne_empty (checkPath_eq_ok_iff.mp hbase).2.1 h
  simp only [Store.checkPath, String.contains_char_eq, nul_notMem_below hbase h, decide_false,
    Bool.false_eq_true, if_false, String.isEmpty_iff, hne, hlong, if_true]

/-! ### The place of an expected output -/

/-- The names that lead from a root to the expected output of a file. -/
def oracleNames (fileName : String) : Location :=
  [Catalogue.oracleDirectory, fileName ++ ".log"]

theorem oraclePath_eq_spelled (fileName : String) :
    Catalogue.oraclePath fileName = spelled (oracleNames fileName) := by
  rw [oracleNames, spelled_cons _ (by simp), spelled_singleton, Catalogue.oraclePath,
    String.append_assoc]

/-- A name with the ending of an expected output is a name. -/
theorem IsName.append_log {fileName : String} (h : IsName fileName) :
    IsName (fileName ++ ".log") := by
  have hlength : (fileName ++ ".log").toList.length = fileName.toList.length + 4 := by simp
  refine ⟨?_, ?_, ?_, ?_, ?_⟩
  · intro heq
    simp [heq] at hlength
  · intro heq
    simp [heq] at hlength
  · intro heq
    simp [heq] at hlength
  · simp [h.slash_notMem]
  · simp [h.nul_notMem]

theorem canonical_oracleNames {fileName : String} (h : IsName fileName) :
    Canonical (oracleNames fileName) := by
  refine ⟨by simp [oracleNames], fun name hmem ↦ ?_⟩
  rcases List.mem_cons.mp hmem with rfl | hmem
  · exact ⟨by decide, by decide, by decide, by decide, by decide⟩
  · rw [List.mem_singleton.mp hmem]
    exact h.append_log

end WastSuite.Path
