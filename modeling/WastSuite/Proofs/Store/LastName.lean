import Mathlib.Data.List.TakeWhile
import WastSuite.Proofs.Store.Spelling

/-!
# The last name of a path

A text is cut at its last slash (`eq_append_lastSlash`). What stands behind the last slash of a path
is its last segment (`getLast?_segments`). If the moves of the path end by entering a name, that
segment is the name (`step?_of_getLast?_steps`), and the path has it as its last name
(`lastName?_of_step?`); otherwise the last name stands further in front, or there is none. A name
has an extension exactly if something stands in front of its last dot (`extensionOf?_eq_some_iff`).
-/

set_option autoImplicit false

namespace WastSuite.Path

/-! ### The last slash -/

/-- The text before the last slash, which is empty if there is none. -/
def beforeLastSlash (text : String) : String :=
  String.ofList ((text.toList.reverse.dropWhile (· ≠ '/')).drop 1).reverse

/-- The text behind the last slash, which is all of it if there is none. -/
def afterLastSlash (text : String) : String :=
  String.ofList (text.toList.reverse.takeWhile (· ≠ '/')).reverse

/-- Read from behind, a text without a slash has only other characters. -/
theorem forall_reverse_ne_slash {text : String} (h : '/' ∉ text.toList) :
    ∀ c ∈ text.toList.reverse, decide (c ≠ '/') = true := by
  refine fun c hmem ↦ decide_eq_true fun hslash ↦ h ?_
  exact hslash ▸ List.mem_reverse.mp hmem

theorem reverse_append_slash (front back : String) : (front ++ "/" ++ back).toList.reverse =
    back.toList.reverse ++ '/' :: front.toList.reverse := by
  simp

theorem beforeLastSlash_of_notMem {text : String} (h : '/' ∉ text.toList) :
    beforeLastSlash text = "" := by
  have hnone : text.toList.reverse.dropWhile (· ≠ '/') = [] :=
    List.dropWhile_eq_nil_iff.mpr (forall_reverse_ne_slash h)
  rw [beforeLastSlash, hnone]
  rfl

theorem beforeLastSlash_append {front back : String} (h : '/' ∉ back.toList) :
    beforeLastSlash (front ++ "/" ++ back) = front := by
  rw [beforeLastSlash, reverse_append_slash,
    List.dropWhile_append_of_pos (forall_reverse_ne_slash h), List.dropWhile_cons_of_neg (by simp)]
  simp

theorem slash_notMem_afterLastSlash (text : String) : '/' ∉ (afterLastSlash text).toList := by
  rw [afterLastSlash, String.toList_ofList, List.mem_reverse]
  intro hmem
  simpa using List.mem_takeWhile_imp hmem

theorem afterLastSlash_of_notMem {text : String} (h : '/' ∉ text.toList) :
    afterLastSlash text = text := by
  have hall : text.toList.reverse.takeWhile (· ≠ '/') = text.toList.reverse :=
    List.takeWhile_eq_self_iff.mpr (forall_reverse_ne_slash h)
  rw [afterLastSlash, hall]
  simp

theorem afterLastSlash_append {front back : String} (h : '/' ∉ back.toList) :
    afterLastSlash (front ++ "/" ++ back) = back := by
  rw [afterLastSlash, reverse_append_slash,
    List.takeWhile_append_of_pos (forall_reverse_ne_slash h), List.takeWhile_cons_of_neg (by simp)]
  simp

/-- A text with a slash is cut at the last one. -/
theorem eq_append_lastSlash {text : String} (h : '/' ∈ text.toList) :
    text = beforeLastSlash text ++ "/" ++ afterLastSlash text := by
  cases hrest : text.toList.reverse.dropWhile (· ≠ '/') with
  | nil =>
    have hplain := List.dropWhile_eq_nil_iff.mp hrest '/' (List.mem_reverse.mpr h)
    simp at hplain
  | cons c front =>
    have hslash : ¬ decide (c ≠ '/') = true := by
      have hhead := List.head?_dropWhile_not (· ≠ '/') text.toList.reverse
      rw [hrest] at hhead
      simpa using hhead
    obtain rfl : c = '/' := by simpa using hslash
    have hreverse : text.toList.reverse =
        text.toList.reverse.takeWhile (· ≠ '/') ++ '/' :: front := by
      rw [← hrest, List.takeWhile_append_dropWhile]
    rw [← String.toList_inj, ← List.reverse_inj, hreverse]
    simp only [beforeLastSlash, afterLastSlash, hrest]
    simp

/-! ### The last segment -/

variable {path : String}

/-- What stands behind the last slash of a path is its last segment. -/
theorem getLast?_segments (path : String) :
    (segments path.toList).getLast? = some (afterLastSlash path).toList := by
  have hlast : segments (afterLastSlash path).toList = [(afterLastSlash path).toList] :=
    segments_of_notMem (slash_notMem_afterLastSlash path)
  by_cases hslash : '/' ∈ path.toList
  · have hcut : path.toList =
        (beforeLastSlash path).toList ++ '/' :: (afterLastSlash path).toList := by
      conv_lhs => rw [eq_append_lastSlash hslash]
      simp
    rw [hcut, segments_append_slash, hlast]
    simp
  · rw [afterLastSlash_of_notMem hslash] at hlast ⊢
    rw [hlast]
    rfl

/-- A path ends with a slash if nothing stands behind its last slash. Assumes: it is not empty. -/
theorem endsWithSlash_of_afterLastSlash (hpath : path ≠ "") (h : afterLastSlash path = "") :
    endsWithSlash path = true := by
  have hslash : '/' ∈ path.toList := by
    by_contra hnone
    exact hpath ((afterLastSlash_of_notMem hnone).symm.trans h)
  rw [eq_append_lastSlash hslash, h, String.append_empty, endsWithSlash_append _ (by decide)]
  decide

/-- A segment stands for entering a name if it is no other move. -/
theorem step?_eq_enter_iff {segment : List Char} {name : String} :
    step? segment = some (.enter name) ↔
      segment = name.toList ∧ segment ≠ [] ∧ segment ≠ ['.'] ∧ segment ≠ ['.', '.'] := by
  unfold step?
  split_ifs with hempty hdot hdots
  · simp [hempty]
  · simp [hdot]
  · simp [hdots]
  · simp [hempty, hdot, hdots, ← String.toList_inj]

/-- If the moves of a path end by entering a name, its last segment stands for that move. -/
theorem step?_of_getLast?_steps {name : String} (h : (steps path).getLast? = some (.enter name)) :
    step? (afterLastSlash path).toList = some (.enter name) := by
  obtain ⟨front, hfront⟩ := List.getLast?_eq_some_iff.mp (getLast?_segments path)
  cases hends : endsWithSlash path with
  | true => simp [steps_eq, hends] at h
  | false =>
    have hlast : (afterLastSlash path).toList ≠ [] := by
      intro hempty
      have hpath : path ≠ "" := by
        rintro rfl
        rw [show steps "" = [] by decide] at h
        cases h
      have hslash := endsWithSlash_of_afterLastSlash hpath (String.toList_eq_nil_iff.mp hempty)
      exact Bool.false_ne_true (hends.symm.trans hslash)
    obtain ⟨step, hstep⟩ : ∃ step, step? (afterLastSlash path).toList = some step := by
      rw [step?, if_neg hlast]
      split_ifs <;> exact ⟨_, rfl⟩
    rw [steps_eq, hends, turns, hfront, List.filterMap_append,
      List.filterMap_cons_some hstep] at h
    rw [hstep]
    simpa using h

/-- The last segment of a path is its last name if it stands for entering one. -/
theorem lastName?_of_step? {name : String}
    (h : step? (afterLastSlash path).toList = some (.enter name)) :
    lastName? path = some (afterLastSlash path).toList := by
  obtain ⟨front, hfront⟩ := List.getLast?_eq_some_iff.mp (getLast?_segments path)
  obtain ⟨-, hempty, hdot, hdots⟩ := step?_eq_enter_iff.mp h
  rw [lastName?, hfront, List.filter_append, List.filter_cons_of_pos (by simp [hempty, hdot]),
    List.filter_nil, List.getLast?_concat]
  split
  · rename_i heq
    exact absurd (Option.some.inj heq) hdots
  · rfl

/-! ### Extensions -/

/-- A name has an extension if something stands in front of its last dot, and then it is what stands
behind that dot. -/
theorem extensionOf?_eq_some_iff {name extension : List Char} :
    extensionOf? name = some extension ↔
      ∃ stem, stem ≠ [] ∧ name = stem ++ '.' :: extension ∧ '.' ∉ extension := by
  constructor
  · intro h
    simp only [extensionOf?] at h
    split at h
    · rename_i d c rest hdrop
      have hdot : d = '.' := by
        have hhead := List.head?_dropWhile_not (· ≠ '.') name.reverse
        rw [hdrop] at hhead
        simpa using hhead
      have hcut : name.reverse.takeWhile (· ≠ '.') ++ '.' :: c :: rest = name.reverse := by
        rw [hdot] at hdrop
        rw [← hdrop, List.takeWhile_append_dropWhile]
      obtain rfl := Option.some.inj h
      refine ⟨(c :: rest).reverse, by simp, ?_, fun hmem ↦ ?_⟩
      · rw [← List.reverse_inj]
        refine hcut.symm.trans ?_
        simp
      · simpa using List.mem_takeWhile_imp (List.mem_reverse.mp hmem)
    · cases h
  · rintro ⟨stem, hstem, rfl, hdot⟩
    have hplain : ∀ c ∈ extension.reverse, decide (c ≠ '.') = true := by
      refine fun c hmem ↦ decide_eq_true fun heq ↦ hdot ?_
      exact heq ▸ List.mem_reverse.mp hmem
    have hreverse : (stem ++ '.' :: extension).reverse =
        extension.reverse ++ '.' :: stem.reverse := by
      simp
    obtain ⟨c, rest, hcons⟩ := List.exists_cons_of_ne_nil (mt List.reverse_eq_nil_iff.mp hstem)
    simp only [extensionOf?, hreverse, List.dropWhile_append_of_pos hplain,
      List.takeWhile_append_of_pos hplain, hcons]
    simp

/-- A path whose last segment stands for entering a name has the extension of that segment. -/
theorem extension?_eq_some_iff {name extension : String}
    (h : step? (afterLastSlash path).toList = some (.enter name)) :
    extension? path = some extension ↔
      ∃ stem, stem ≠ "" ∧ afterLastSlash path = stem ++ "." ++ extension ∧
        '.' ∉ extension.toList := by
  rw [extension?, lastName?_of_step? h, Option.bind_some, Option.map_eq_some_iff]
  constructor
  · rintro ⟨text, htext, rfl⟩
    obtain ⟨stem, hstem, hname, hdot⟩ := extensionOf?_eq_some_iff.mp htext
    refine ⟨String.ofList stem, by simpa using hstem, ?_, by simpa using hdot⟩
    rw [← String.toList_inj, hname]
    simp
  · rintro ⟨stem, hstem, hname, hdot⟩
    refine ⟨extension.toList, extensionOf?_eq_some_iff.mpr ⟨stem.toList, ?_, ?_, hdot⟩, by simp⟩
    · exact mt String.toList_eq_nil_iff.mp hstem
    · simp [hname]

end WastSuite.Path
