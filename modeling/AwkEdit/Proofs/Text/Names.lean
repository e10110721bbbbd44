import AwkEdit.Text.Names
import Mathlib.Data.List.Nodup

/-!
# Sets of names in order

A list without its repetitions has none, and the names of a set ascend as they are listed; names that ascend already are listed
as they are.
-/

namespace AwkEdit

variable {names : List String}

/-- Nothing is repeated once repetitions are dropped. -/
theorem nodup_eraseDups (names : List String) : names.eraseDups.Nodup := by
  induction h : names.length using Nat.strongRecOn generalizing names with
  | ind n ih =>
    cases names with
    | nil => exact List.nodup_nil
    | cons name rest =>
      rw [List.eraseDups_cons, List.nodup_cons]
      have hshorter : (rest.filter fun other => !other == name).length < n := by
        rw [← h, List.length_cons]
        exact Nat.lt_succ_of_le (List.length_filter_le _ _)
      exact ⟨by simp, ih _ hshorter _ rfl⟩

/-- Where nothing is repeated nothing is dropped. -/
theorem eraseDups_eq_self (h : names.Nodup) : names.eraseDups = names := by
  induction names with
  | nil => rfl
  | cons name rest ih =>
    obtain ⟨hname, hrest⟩ := List.nodup_cons.1 h
    have hkept : (rest.filter fun other => !other == name) = rest :=
      List.filter_eq_self.2 fun other hother => by
        rw [Bool.not_eq_true', beq_eq_false_iff_ne]
        exact ne_of_mem_of_not_mem hother hname
    rw [List.eraseDups_cons, hkept, ih hrest]

theorem sortBy_names_pairwise (names : List String) :
    (sortBy (fun a b => !decide (b < a)) names).Pairwise fun a b => ¬b < a := by
  refine (sortBy_pairwise (fun a b c hab hbc => ?_) (fun a b => ?_) names).imp fun {a b} h => by simpa using h
  · simp only [Bool.not_eq_true', decide_eq_false_iff_not, String.not_lt] at hab hbc ⊢
    exact String.le_trans hab hbc
  · simp only [Bool.or_eq_true, Bool.not_eq_true', decide_eq_false_iff_not, String.not_lt]
    exact String.le_total a b

/-- Sorted names ascend. -/
theorem sortedNames_pairwise (names : List String) : (sortedNames names).Pairwise (· < ·) := by
  have hnodup : (sortedNames names).Nodup := (sortBy_perm _ _).nodup_iff.2 (nodup_eraseDups names)
  refine ((sortBy_names_pairwise names.eraseDups).and hnodup).imp fun {a b} ⟨hle, hne⟩ => ?_
  exact Classical.byContradiction fun hlt => hne (String.le_antisymm (String.not_lt.1 hle) (String.not_lt.1 hlt))

/-- Names that ascend are left as they are. -/
theorem sortedNames_eq_self (h : names.Pairwise (· < ·)) : sortedNames names = names := by
  have hnodup : names.Nodup := h.imp fun {a b} hlt heq => by
    rw [heq] at hlt
    exact String.lt_irrefl b hlt
  have hle : names.Pairwise fun a b => ¬b < a := h.imp fun {a b} hlt hgt => String.lt_asymm hlt hgt
  rw [sortedNames, eraseDups_eq_self hnodup]
  refine List.Perm.eq_of_pairwise (fun a b _ _ hab hba => ?_) (sortBy_names_pairwise names) hle (sortBy_perm _ _)
  exact String.le_antisymm (String.not_lt.1 hab) (String.not_lt.1 hba)

end AwkEdit
