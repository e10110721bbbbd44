import AwkEdit.Proofs.Source.Lines

/-!
# Lines and newlines

What a text has for lines is said by its newlines: the lines are what the newlines part, and a position is on the line that has
as many lines above it as there are newlines before the position (`line_structure`). A newline belongs to the line that it ends,
and the end of the text to the last line, which may be empty.
-/

namespace AwkEdit.Source

/-- A position outside the text is brought to its nearer end. -/
theorem natCast_clamp (s : Source) (pos : Int) : (s.clamp pos : Int) = max 0 (min pos s.bytes.length) := by
  rw [clamp, length_bytes]
  omega

/-- The lines of a byte string join to it by newlines, have none of their own, and are one more than the newlines. Every position
lies from the start to the end of its line, whose number is that of the newlines before the position, and the lines that start
at or before the position are its own and those above; later positions are on no earlier line, and each line has its own start and
end. -/
theorem line_structure (bytes : List UInt8) :
    let s := ofBytes bytes
    [newline].intercalate ((List.range s.lineCount).map s.lineBytes) = bytes ∧ s.lineCount = bytes.count newline + 1 ∧
      (∀ l < s.lineCount, s.line? l = .ok l ∧ newline ∉ s.lineBytes l ∧ s.lineOf (s.lineStart l) = l ∧
        s.lineOf (s.lineEnd l) = l) ∧
      (∀ pos : Int, (s.clamp pos : Int) = max 0 (min pos bytes.length) ∧ s.lineOf pos < s.lineCount ∧
        s.lineOf pos = (bytes.take (s.clamp pos)).count newline ∧ s.lineStart (s.lineOf pos) ≤ s.clamp pos ∧
        s.clamp pos ≤ s.lineEnd (s.lineOf pos) ∧ ∀ l < s.lineCount, s.lineStart l ≤ s.clamp pos ↔ l ≤ s.lineOf pos) ∧
      ∀ p q : Int, p ≤ q → s.lineOf p ≤ s.lineOf q := by
  intro s
  refine ⟨?_, s.lineCount_eq_count, fun l hl => ?_, fun pos => ?_, fun p q => lineOf_mono⟩
  · rw [← lines_eq_map, intercalate_lines]
    rfl
  · exact ⟨line?_natCast hl, newline_not_mem_lineBytes hl, lineOf_lineStart hl, lineOf_lineEnd hl⟩
  · obtain ⟨hline, hlow, hhigh⟩ := s.lineOf_spec pos
    exact ⟨s.natCast_clamp pos, hline, s.lineOf_eq_count pos, hlow, hhigh, fun l hl => lineStart_le_clamp_iff hl⟩

/-- A text with an empty line and no newline at its end. -/
def unfinished : List UInt8 := [0x61, 0x62, newline, newline, 0x63]

/-- The first newline belongs to the line that it ends, the second is all there is to the next one, and what lies beyond the end of
the text is on the last line. -/
theorem line_structure_unfinished :
    let s := ofBytes unfinished
    (∀ l : Nat, l < 3 → s.line? l = .ok l ∧ newline ∉ s.lineBytes l) ∧ [2, 3, 4, 9].map (s.lineOf ·) = [0, 1, 2, 2] ∧
      (3 : Int) ≤ 9 ∧ s.lineOf 3 ≤ s.lineOf 9 := by
  obtain ⟨-, hcount, hlines, -, hmono⟩ := line_structure unfinished
  exact ⟨fun l hl => ⟨(hlines l (hcount ▸ hl)).1, (hlines l (hcount ▸ hl)).2.1⟩, by decide, by decide, hmono 3 9 (by decide)⟩

end AwkEdit.Source
