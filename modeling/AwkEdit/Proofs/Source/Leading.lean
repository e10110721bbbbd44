import AwkEdit.Proofs.Source.Lines
import Mathlib.Data.List.TakeWhile

/-!
# The first significant byte of a line

A line is its leading blanks and what comes after them, which starts with the first significant byte unless the line is blank.
The first significant byte lies on its line, and so does every position from it to the end of the line.
-/

namespace AwkEdit.Source

variable {s : Source} {l b : Nat}

/-- The leading blanks of a line. -/
def leading (s : Source) (l : Nat) : List UInt8 := (s.lineBytes l).takeWhile isBlankByte

/-- What comes after the leading blanks of a line. -/
def significant (s : Source) (l : Nat) : List UInt8 := (s.lineBytes l).dropWhile isBlankByte

theorem leading_append_significant (s : Source) (l : Nat) : s.leading l ++ s.significant l = s.lineBytes l :=
  List.takeWhile_append_dropWhile

theorem isBlankByte_of_mem_leading {c : UInt8} (h : c ∈ s.leading l) : isBlankByte c = true :=
  List.mem_takeWhile_imp h

/-- What comes after the leading blanks does not start with a blank. -/
theorem head?_significant (s : Source) (l : Nat) : ∀ c ∈ (s.significant l).head?, isBlankByte c = false := by
  intro c hc
  have := List.head?_dropWhile_not isBlankByte (s.lineBytes l)
  rw [significant] at hc
  rw [Option.mem_def.1 hc] at this
  simpa using this

/-- The first significant byte of a line comes right after the leading blanks, when anything comes after them. -/
theorem firstNonblank_eq (s : Source) (l : Nat) :
    s.firstNonblank l = if s.significant l = [] then none else some (s.lineStart l + (s.leading l).length) := by
  have hlen := congrArg List.length (s.leading_append_significant l)
  rw [List.length_append] at hlen
  unfold firstNonblank
  by_cases hs : s.significant l = []
  · rw [if_pos hs, if_neg]
    rw [hs, List.length_nil] at hlen
    simp only [leading] at hlen
    omega
  · have := List.length_pos_iff.2 hs
    rw [if_neg hs, if_pos]
    · rfl
    · simp only [leading] at hlen
      omega

/-- A line is blank exactly when nothing comes after its leading blanks. -/
theorem firstNonblank_eq_none_iff : s.firstNonblank l = none ↔ s.significant l = [] := by
  rw [firstNonblank_eq]
  split <;> simp_all

/-- Nothing but blanks stands on a blank line. -/
theorem leading_of_blank (h : s.firstNonblank l = none) : s.leading l = s.lineBytes l := by
  rw [← leading_append_significant, firstNonblank_eq_none_iff.1 h, List.append_nil]

theorem firstNonblank_eq_some (h : s.firstNonblank l = some b) :
    s.significant l ≠ [] ∧ b = s.lineStart l + (s.leading l).length := by
  rw [firstNonblank_eq] at h
  split at h
  · cases h
  · exact ⟨‹_›, (Option.some.inj h).symm⟩

/-- Only a line of the text has a significant byte. -/
theorem lt_lineCount_of_firstNonblank (h : s.firstNonblank l = some b) : l < s.lineCount := by
  rcases Nat.lt_or_ge l s.lineCount with hl | hl
  · exact hl
  · have hstart : s.lineStart l = s.size := by
      rw [lineStart, List.getD_eq_getElem?_getD, List.getElem?_eq_none (by rwa [← lineCount]), Option.getD_none]
    have hbytes : s.lineBytes l = [] := by
      rw [lineBytes, between_eq, hstart]
      refine List.drop_eq_nil_of_le ?_
      rw [List.length_take, length_bytes]
      exact Nat.min_le_right _ _
    have hne := (firstNonblank_eq_some h).1
    rw [significant, hbytes] at hne
    exact absurd rfl hne

/-- The first significant byte lies on its line, before the end. -/
theorem firstNonblank_range (h : s.firstNonblank l = some b) : s.lineStart l ≤ b ∧ b < s.lineEnd l := by
  obtain ⟨hne, rfl⟩ := firstNonblank_eq_some h
  have hend := length_lineBytes (lt_lineCount_of_firstNonblank h)
  rw [← leading_append_significant, List.length_append] at hend
  have := List.length_pos_iff.2 hne
  omega

/-- A line with a significant byte ends where what comes after its leading blanks ends. -/
theorem lineEnd_of_firstNonblank (h : s.firstNonblank l = some b) : s.lineEnd l = b + (s.significant l).length := by
  have hend := length_lineBytes (lt_lineCount_of_firstNonblank h)
  obtain ⟨-, rfl⟩ := firstNonblank_eq_some h
  rw [hend, ← leading_append_significant, List.length_append, Nat.add_assoc]

/-- Positions on a line from its first significant byte on belong to the line. -/
theorem lineOf_of_firstNonblank {pos : Int} (h : s.firstNonblank l = some b) (hlow : b ≤ pos) (hhigh : pos ≤ s.lineEnd l) :
    s.lineOf pos = l := by
  have hrange := firstNonblank_range h
  exact lineOf_of_range (lt_lineCount_of_firstNonblank h) (by omega) hhigh

/-! ## Slices of a line -/

/-- The bytes of a line are those of the text from its start on. -/
theorem getElem?_lineBytes {i : Nat} (hi : s.lineStart l + i < s.lineEnd l) :
    (s.lineBytes l)[i]? = s.bytes[s.lineStart l + i]? := by
  rw [lineBytes, between_eq, List.getElem?_drop, List.getElem?_take_of_lt hi]

/-- The bytes between two offsets of a line. -/
theorem between_of_line {i j : Nat} (hj : s.lineStart l + j ≤ s.lineEnd l) :
    s.between (s.lineStart l + i) (s.lineStart l + j) = ((s.lineBytes l).take j).drop i := by
  rw [lineBytes, between_eq, between_eq, List.take_drop, List.take_take, Nat.min_eq_left hj, List.drop_drop]

/-- The leading blanks of a line run up to its first significant byte. -/
theorem between_lineStart (h : s.firstNonblank l = some b) : s.between (s.lineStart l) b = s.leading l := by
  have hrange := firstNonblank_range h
  obtain ⟨-, rfl⟩ := firstNonblank_eq_some h
  have := between_of_line (i := 0) (Nat.le_of_lt hrange.2)
  rw [Nat.add_zero, List.drop_zero] at this
  rw [this, ← leading_append_significant, List.take_left]

/-- What comes after the leading blanks of a line runs from its first significant byte to its end. -/
theorem between_lineEnd (h : s.firstNonblank l = some b) : s.between b (s.lineEnd l) = s.significant l := by
  have hl := lt_lineCount_of_firstNonblank h
  obtain ⟨-, rfl⟩ := firstNonblank_eq_some h
  have hend := length_lineBytes hl
  have := between_of_line (s := s) (l := l) (i := (s.leading l).length) (j := (s.lineBytes l).length) (by omega)
  rw [← hend, List.take_length] at this
  rw [this, ← leading_append_significant, List.drop_left]

/-- The bytes from an offset after the first significant byte of a line up to another. -/
theorem between_firstNonblank_add (h : s.firstNonblank l = some b) {i j : Nat} (hj : b + j ≤ s.lineEnd l) :
    s.between (b + i) (b + j) = ((s.significant l).take j).drop i := by
  obtain ⟨-, rfl⟩ := firstNonblank_eq_some h
  rw [Nat.add_assoc, Nat.add_assoc, between_of_line (by omega), ← leading_append_significant, List.take_length_add_append,
    List.drop_length_add_append]

/-- Up to an offset after its first significant byte a line has its leading blanks and what comes after them so far. -/
theorem between_lineStart_add (h : s.firstNonblank l = some b) {k : Nat} (hk : b + k ≤ s.lineEnd l) :
    s.between (s.lineStart l) (b + k) = s.leading l ++ (s.significant l).take k := by
  obtain ⟨-, rfl⟩ := firstNonblank_eq_some h
  have := between_of_line (s := s) (l := l) (i := 0) (j := (s.leading l).length + k) (by omega)
  rw [Nat.add_zero, List.drop_zero, ← leading_append_significant, List.take_length_add_append, ← Nat.add_assoc] at this
  exact this

/-! ## The beginning of the line of a position -/

/-- The beginning of a line with a significant byte is that byte. -/
theorem bol_eq {pos : Int} (h : s.firstNonblank (s.lineOf pos) = some b) : s.bol pos = b := by rw [bol, h, Option.getD_some]

/-- The beginning of the line of a position lies on that line. -/
theorem lineOf_bol (pos : Int) : s.lineOf (s.bol pos) = s.lineOf pos := by
  obtain ⟨hline, -, -⟩ := s.lineOf_spec pos
  cases hb : s.firstNonblank (s.lineOf pos) with
  | some b =>
    have := firstNonblank_range hb
    rw [bol_eq hb, lineOf_of_firstNonblank hb (by omega) (by omega)]
  | none => rw [bol, hb, Option.getD_none, lineOf_lineEnd hline]

end AwkEdit.Source
