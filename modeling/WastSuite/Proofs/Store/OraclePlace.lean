import WastSuite.Proofs.Store.Walk

/-!
# The place of an expected output

Below a directory the expected output of a file has its place in a directory of its own. The place
is free if that directory is missing, or is one that has no entry of the name, which must not be too
long (`Store.LacksOracle`). Where no link is in the way, and the path is not too long, this is
exactly when the store finds nothing there (`read_oraclePath_eq_notFound_iff`). In all other cases
it finds something or has another reason for not giving it.
-/

set_option autoImplicit false

namespace WastSuite

namespace Store

variable {store : Store} {root fileName : String} {top : Location}

/-- Below a directory there is nothing at the place of an expected output, and the way to it only
leads through directories: the directory of expected outputs is missing, or it is one and has no
entry of that name, which is not too long. -/
def LacksOracle (store : Store) (top : Location) (fileName : String) : Prop :=
  store.node? (top ++ [Catalogue.oracleDirectory]) = none ∨
    store.node? (top ++ [Catalogue.oracleDirectory]) = some .directory ∧
      (fileName ++ ".log").utf8ByteSize ≤ nameLimit ∧
      store.node? (top ++ Path.oracleNames fileName) = none

/-- Nothing is found at the place of an expected output if the directory of expected outputs is
missing. -/
theorem find_oracle_of_none (hroot : store.find root = .ok (top, .directory))
    (hname : Path.IsName fileName)
    (hfits : (Path.below root (Path.oracleNames fileName)).utf8ByteSize ≤ pathLimit)
    (hnode : store.node? (top ++ [Catalogue.oracleDirectory]) = none) :
    store.find (Path.below root (Path.oracleNames fileName)) = .error .notFound := by
  have hcanonical : Path.Canonical ([] ++ Catalogue.oracleDirectory :: [fileName ++ ".log"]) :=
    Path.canonical_oracleNames hname
  have hfind := find_below_of_none hroot hcanonical hfits .nil (by decide)
    (by rwa [List.append_nil])
  exact hfind

/-- What is found at the place of an expected output in a directory of expected outputs. -/
theorem find_oracle_iff_of_directory (hroot : store.find root = .ok (top, .directory))
    (hname : Path.IsName fileName)
    (hfits : (Path.below root (Path.oracleNames fileName)).utf8ByteSize ≤ pathLimit)
    (habove : store.node? (top ++ [Catalogue.oracleDirectory]) = some .directory)
    (hplace : ∀ target, store.node? (top ++ Path.oracleNames fileName) ≠ some (.link target)) :
    store.find (Path.below root (Path.oracleNames fileName)) = .error .notFound ↔
      (fileName ++ ".log").utf8ByteSize ≤ nameLimit ∧
        store.node? (top ++ Path.oracleNames fileName) = none := by
  have hcanonical : Path.Canonical ([Catalogue.oracleDirectory] ++ [fileName ++ ".log"]) :=
    Path.canonical_oracleNames hname
  have hsplit : top ++ Path.oracleNames fileName =
      top ++ [Catalogue.oracleDirectory] ++ [fileName ++ ".log"] := by
    rw [List.append_assoc]
    rfl
  have hdirectories : store.DirectoriesTo top [Catalogue.oracleDirectory] :=
    .singleton (by decide) habove
  rw [hsplit] at hplace ⊢
  by_cases hsize : (fileName ++ ".log").utf8ByteSize ≤ nameLimit
  · cases hnode : store.node? (top ++ [Catalogue.oracleDirectory] ++ [fileName ++ ".log"]) with
    | none =>
      have hfind := find_below_of_none hroot hcanonical hfits hdirectories hsize hnode
      exact iff_of_true hfind ⟨hsize, rfl⟩
    | some node =>
      have hfind := find_below_of_node hroot hcanonical hfits hdirectories hsize hnode
        fun target hlink ↦ hplace target (hlink ▸ hnode)
      refine iff_of_false (fun hmissing ↦ ?_) (by simp)
      cases hfind.symm.trans hmissing
  · have hfind := find_below_of_long hroot hcanonical hfits hdirectories (Nat.lt_of_not_le hsize)
    refine iff_of_false (fun hmissing ↦ ?_) fun h ↦ hsize h.1
    cases hfind.symm.trans hmissing

/-- Where no link is in the way, the store finds nothing at the place of an expected output exactly
if its path is not too long and its place is free. -/
theorem read_oraclePath_eq_notFound_iff (hroot : store.find root = .ok (top, .directory))
    (hname : Path.IsName fileName)
    (habove : ∀ target, store.node? (top ++ [Catalogue.oracleDirectory]) ≠ some (.link target))
    (hplace : ∀ target, store.node? (top ++ Path.oracleNames fileName) ≠ some (.link target)) :
    store.read (Path.join root (Catalogue.oraclePath fileName)) = .error .notFound ↔
      (Path.join root (Catalogue.oraclePath fileName)).utf8ByteSize ≤ pathLimit ∧
        store.LacksOracle top fileName := by
  have hcanonical : Path.Canonical ([] ++ Catalogue.oracleDirectory :: [fileName ++ ".log"]) :=
    Path.canonical_oracleNames hname
  rw [Path.oraclePath_eq_spelled, ← Path.below, read_eq_notFound_iff, LacksOracle]
  by_cases hfits : (Path.below root (Path.oracleNames fileName)).utf8ByteSize ≤ pathLimit
  · rw [and_iff_right hfits]
    cases hnode : store.node? (top ++ [Catalogue.oracleDirectory]) with
    | none =>
      exact iff_of_true (find_oracle_of_none hroot hname hfits hnode) (Or.inl rfl)
    | some node =>
      cases node with
      | directory =>
        rw [find_oracle_iff_of_directory hroot hname hfits hnode hplace]
        simp
      | file body =>
        have hfind := find_below_of_file hroot hcanonical hfits .nil (by decide)
          (by rw [List.append_nil, hnode]) (by simp)
        refine iff_of_false (fun hmissing ↦ ?_) (by simp)
        cases hfind.symm.trans hmissing
      | link target => exact absurd hnode (habove target)
  · have hfind := find_below_of_long_path hroot hcanonical (Nat.lt_of_not_le hfits)
    refine iff_of_false (fun hmissing ↦ ?_) fun h ↦ hfits h.1
    cases hfind.symm.trans hmissing

end Store

end WastSuite
