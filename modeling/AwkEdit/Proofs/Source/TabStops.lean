import AwkEdit.Proofs.Source.Columns

/-!
# Columns and tab stops

A tab reaches to the next tab stop, so what follows a tab has its column from there and not from where the line was. Hence text
that moves keeps its width exactly when it has no tab in it, or moves from stop to stop: `width_eq_iff`.
-/

namespace AwkEdit.Source

variable {s : Source} {l b : Nat} {tabWidth : Int}

/-! ## Characters -/

/-- A tab reaches to the multiple of the tab width that comes next. -/
theorem advance_tab (h : 0 < tabWidth) (column : Int) : advance tabWidth column '\t' = tabWidth * (column / tabWidth + 1) := by
  have hdiv := Int.mul_ediv_add_emod column tabWidth
  rw [advance, if_pos rfl, Int.fmod_eq_emod_of_nonneg column (Int.le_of_lt h), Int.mul_add]
  omega

/-- A character takes up at least one column. -/
theorem lt_advance (h : 0 < tabWidth) (column : Int) (c : Char) : column < advance tabWidth column c := by
  rw [advance]
  split
  · have := Int.emod_lt_of_pos column h
    rw [Int.fmod_eq_emod_of_nonneg column (Int.le_of_lt h)]
    omega
  · omega

/-- A tab moves the column by at most the tab width, and to a tab stop. -/
theorem advance_tab_range (h : 0 < tabWidth) (column : Int) :
    column + 1 ≤ advance tabWidth column '\t' ∧ advance tabWidth column '\t' ≤ column + tabWidth ∧
      tabWidth ∣ advance tabWidth column '\t' := by
  refine ⟨lt_advance h column '\t', ?_, ?_⟩
  · have := Int.emod_nonneg column (Int.ne_of_gt h)
    rw [advance, if_pos rfl, Int.fmod_eq_emod_of_nonneg column (Int.le_of_lt h)]
    omega
  · rw [advance_tab h]
    exact Int.dvd_mul_right _ _

/-- Characters never lead back to the left. -/
theorem le_foldl_advance (h : 0 < tabWidth) (column : Int) (cs : List Char) : column ≤ cs.foldl (advance tabWidth) column := by
  induction cs generalizing column with
  | nil => exact Int.le_refl _
  | cons c cs ih => exact Int.le_trans (Int.le_of_lt (lt_advance h column c)) (ih _)

/-- Between two columns a tab is as wide at one as at the other exactly when they are whole tabs apart. -/
theorem tab_width_eq_iff (h : 0 < tabWidth) (x y : Int) :
    advance tabWidth x '\t' - x = advance tabWidth y '\t' - y ↔ tabWidth ∣ x - y := by
  simp only [advance, if_pos, Int.fmod_eq_emod_of_nonneg _ (Int.le_of_lt h)]
  rw [Int.dvd_iff_emod_eq_zero, ← Int.emod_eq_emod_iff_emod_sub_eq_zero]
  omega

/-- Characters are as wide at one column as at another exactly when there is no tab among them or the columns are whole tabs
apart. -/
theorem width_eq_iff (h : 0 < tabWidth) (x y : Int) (cs : List Char) :
    cs.foldl (advance tabWidth) x - x = cs.foldl (advance tabWidth) y - y ↔ '\t' ∉ cs ∨ tabWidth ∣ x - y := by
  induction cs generalizing x y with
  | nil => simp
  | cons c cs ih =>
    rw [List.foldl_cons, List.foldl_cons, List.mem_cons, not_or]
    by_cases hc : '\t' = c
    · subst hc
      -- After the tab both are at a stop, so what follows is as wide on both sides.
      have hstops : tabWidth ∣ advance tabWidth x '\t' - advance tabWidth y '\t' :=
        Int.dvd_sub (advance_tab_range h x).2.2 (advance_tab_range h y).2.2
      have hrest := (ih (advance tabWidth x '\t') (advance tabWidth y '\t')).2 (.inr hstops)
      simp only [not_true_eq_false, false_and, false_or]
      rw [← tab_width_eq_iff h x y]
      omega
    · have hrest := ih (x + 1) (y + 1)
      rw [show x + 1 - (y + 1) = x - y by omega] at hrest
      simp only [advance, if_neg (Ne.symm hc), hc, not_false_eq_true, true_and]
      rw [← hrest]
      omega

/-! ## Columns on a line -/

/-- The column of a position is never to the left of the first. -/
theorem column_nonneg (h : 0 < tabWidth) (pos : Int) : 0 ≤ s.column tabWidth pos := le_foldl_advance h 0 _

/-- The characters from the first significant byte of a line up to another. -/
theorem chars_firstNonblank_add (h : s.firstNonblank l = some b) {k : Nat} (hk : b + k ≤ s.lineEnd l) :
    s.chars b (b + k : Nat) = Utf8.decode ((s.significant l).take k) := by
  have hend := lineEnd_le_size (lt_lineCount_of_firstNonblank h)
  rw [chars_eq (by omega) (by omega)]
  exact congrArg Utf8.decode (between_firstNonblank_add (i := 0) h hk)

end AwkEdit.Source
