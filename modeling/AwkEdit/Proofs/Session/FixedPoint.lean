import AwkEdit.Proofs.Session.Lines

/-!
# Texts that are indented

Indenting a whole text measures a line that was indented before where it has moved to; indenting one line measures everything
where it stands. On a text whose lines stand where they belong nothing moves, so the two decide alike. `isIndented_iff` says
that a text is indented exactly when every line stands at the column that is decided for it alone, and that all decisions are
the same then.
-/

namespace AwkEdit.Session

variable {s : Session} {moved : List (Nat × Int)}

/-- No line is put to the left of the first column. -/
theorem resolveWith_column_nonneg (s : Session) (measure : Int → Int) (line : Nat) :
    0 ≤ (s.language.indent.resolveWith s.config measure s.tree line).1.column := Int.le_max_left _ _

/-! ## Measuring where nothing has moved -/

/-- The new columns are those at which the lines stand. -/
def Unmoved (s : Session) (moved : List (Nat × Int)) : Prop :=
  ∀ l b, s.source.firstNonblank l = some b → ∀ column ∈ moved.lookup l, column = s.columnOf b

/-- Where nothing has moved, every byte is measured where it stands. -/
theorem columnAfter_of_unmoved (h : s.Unmoved moved) : s.columnAfter moved = s.columnOf := by
  funext pos
  simp only [columnAfter]
  split
  next column bol hlookup hbol =>
    have := h _ bol hbol column hlookup
    split
    · rfl
    · omega
  next => rfl

/-- So every line is decided as it is alone. -/
theorem resolveWith_of_unmoved (h : s.Unmoved moved) (line : Nat) :
    s.language.indent.resolveWith s.config (s.columnAfter moved) s.tree line = s.indentLine line := by
  rw [columnAfter_of_unmoved h]
  rfl

/-- A line that is put at the column at which it stands has not moved. -/
theorem Unmoved.moveLine (h : s.Unmoved moved) {line : Nat} {d : IndentDecision} (hcolumn : 0 ≤ d.column)
    (hd : s.source.StandsAt line d.column) : s.Unmoved (s.moveLine moved line d) := by
  intro l b hb column hlookup
  rw [lookup_moveLine] at hlookup
  split at hlookup
  next hl =>
    obtain rfl := hl.1
    rw [columnOf, Source.column_of_standsAt _ hcolumn hb hd]
    exact (Option.some.inj hlookup).symm
  next => exact h l b hb column hlookup

/-! ## The run over all lines -/

/-- The lines stand at the columns that are decided for them one after another exactly when each stands at the column that is
decided for it alone, as long as nothing has moved before. -/
theorem standsAt_indentAfter_iff (h : s.Unmoved moved) (lines : List Nat) :
    List.Forall₂ (fun l d => s.source.StandsAt l d.column) lines (s.indentAfter moved lines).1 ↔
      ∀ l ∈ lines, s.source.StandsAt l (s.indentLine l).1.column := by
  induction lines generalizing moved with
  | nil => simp [indentAfter]
  | cons line lines ih =>
    simp only [indentAfter, List.forall₂_cons, List.forall_mem_cons, resolveWith_of_unmoved h]
    -- Only where the line stands as decided does nothing move; where it does not, both sides fail.
    refine and_congr_right fun hline => ?_
    exact ih (h.moveLine (resolveWith_column_nonneg s _ line) hline)

/-- On lines that stand where they belong, the decisions are those for each line alone. -/
theorem indentAfter_eq_map (h : s.Unmoved moved) {lines : List Nat}
    (hlines : ∀ l ∈ lines, s.source.StandsAt l (s.indentLine l).1.column) :
    (s.indentAfter moved lines).1 = lines.map fun l => (s.indentLine l).1 := by
  induction lines generalizing moved with
  | nil => rfl
  | cons line lines ih =>
    rw [List.forall_mem_cons] at hlines
    simp only [indentAfter, List.map_cons, resolveWith_of_unmoved h]
    exact congrArg _ (ih (h.moveLine (resolveWith_column_nonneg s _ line) hlines.1) hlines.2)

theorem unmoved_nil (s : Session) : s.Unmoved [] := fun _ _ _ _ hcolumn => by simp at hcolumn

/-! ## What `isIndented` answers -/

theorem isIndented_fst (s : Session) : s.isIndented.1 = s.reindent.1.map (· == s.text) := rfl

/-- The text is indented exactly when every line stands where its decision puts it. -/
theorem isIndented_iff_standsAt (s : Session) :
    s.isIndented.1 = .ok true ↔
      List.Forall₂ (fun l d => s.source.StandsAt l d.column) (List.range s.source.lineCount) (s.indentLines 0 none).1 := by
  rw [← linesUnder_eq_text_iff s.length_indentLines, isIndented_fst]
  constructor
  · intro h
    cases htext : s.reindent.1 with
    | error fault =>
      rw [htext] at h
      cases h
    | ok text =>
      rw [htext] at h
      rw [← eq_of_reindent htext]
      exact eq_of_beq (Except.ok.inj h)
  · intro h
    rw [reindent_fst, newLines_of_standsAt ((linesUnder_eq_text_iff s.length_indentLines).1 h)]
    exact congrArg Except.ok (beq_iff_eq.2 h)

/-- A text is indented exactly when every line with a significant byte stands at the column that is decided for it alone, led
by spaces only, and every blank line is empty or a carriage return. Then the decisions for the whole text are those for each
line. -/
theorem isIndented_iff (s : Session) :
    (s.isIndented.1 = .ok true ↔ ∀ l < s.source.lineCount, s.source.StandsAt l (s.indentLine l).1.column) ∧
      (s.isIndented.1 = .ok true →
        (s.indentLines 0 none).1 = (List.range s.source.lineCount).map fun l => (s.indentLine l).1) := by
  have hlines : s.isIndented.1 = .ok true ↔
      ∀ l ∈ List.range s.source.lineCount, s.source.StandsAt l (s.indentLine l).1.column := by
    rw [isIndented_iff_standsAt, indentLines, region_all]
    exact standsAt_indentAfter_iff (unmoved_nil s) _
  refine ⟨by simpa only [List.mem_range] using hlines, fun h => ?_⟩
  rw [indentLines, region_all]
  exact indentAfter_eq_map (unmoved_nil s) (hlines.1 h)

end AwkEdit.Session
