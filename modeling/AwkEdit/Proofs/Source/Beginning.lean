import AwkEdit.Proofs.Source.Leading

/-!
# Back to the indentation

The beginning of the line of a position is where the leading blanks of the line end: at its first significant byte, or at the end
of a blank line. It belongs to the line, so going there once more leads nowhere else (`bol_beginning`).
-/

namespace AwkEdit.Source

variable {s : Source} {l b : Nat}

/-- A line has no significant byte exactly when it has nothing but blanks. -/
theorem firstNonblank_eq_none_iff_blank : s.firstNonblank l = none ↔ ∀ c ∈ s.lineBytes l, isBlankByte c = true := by
  rw [firstNonblank_eq_none_iff, significant, List.dropWhile_eq_nil_iff]

/-- The first significant byte of a line is no blank. -/
theorem getElem?_firstNonblank (h : s.firstNonblank l = some b) : ∃ c, s.bytes[b]? = some c ∧ isBlankByte c = false := by
  have hrange := firstNonblank_range h
  obtain ⟨hne, rfl⟩ := firstNonblank_eq_some h
  obtain ⟨c, rest, hsig⟩ := List.exists_cons_of_ne_nil hne
  refine ⟨c, ?_, s.head?_significant l c (by rw [hsig]; rfl)⟩
  rw [← getElem?_lineBytes hrange.2, ← leading_append_significant, List.getElem?_append_right (Nat.le_refl _), Nat.sub_self, hsig]
  rfl

/-- What lies between the start of the line of a position and the beginning of the line are the leading blanks. -/
theorem between_lineStart_bol (s : Source) (pos : Int) :
    s.between (s.lineStart (s.lineOf pos)) (s.bol pos) = s.leading (s.lineOf pos) := by
  cases hb : s.firstNonblank (s.lineOf pos) with
  | some b => rw [bol_eq hb, between_lineStart hb]
  | none =>
    rw [leading_of_blank hb, bol, hb, Option.getD_none]
    rfl

/-- The beginning of a line lies from its start to its end, and at its end only when the line is blank. -/
theorem bol_range (s : Source) (pos : Int) :
    s.lineStart (s.lineOf pos) ≤ s.bol pos ∧ s.bol pos ≤ s.lineEnd (s.lineOf pos) ∧
      (s.bol pos = s.lineEnd (s.lineOf pos) ↔ s.firstNonblank (s.lineOf pos) = none) := by
  cases hb : s.firstNonblank (s.lineOf pos) with
  | some b =>
    have hrange := firstNonblank_range hb
    rw [bol_eq hb]
    exact ⟨hrange.1, Nat.le_of_lt hrange.2, iff_of_false (Nat.ne_of_lt hrange.2) nofun⟩
  | none =>
    rw [bol, hb, Option.getD_none]
    exact ⟨lineStart_le_lineEnd (s.lineOf_spec pos).1, Nat.le_refl _, iff_of_true rfl rfl⟩

/-- The beginning of the line of a position is that of its own line. -/
theorem bol_bol (s : Source) (pos : Int) : s.bol (s.bol pos) = s.bol pos := by
  rw [bol, lineOf_bol, ← bol]

/-- A line of a byte string has no significant byte exactly when all its bytes are blank. From any position one gets back to the
indentation of its line: to a place on the line that nothing but blanks lead up to, which is the end of the line if the line is
blank and otherwise a byte that is not; from there one gets nowhere else. -/
theorem bol_beginning (bytes : List UInt8) :
    let s := ofBytes bytes
    (∀ l < s.lineCount, s.firstNonblank l = none ↔ ∀ b ∈ s.lineBytes l, isBlankByte b = true) ∧
      ∀ pos : Int, s.lineOf (s.bol pos) = s.lineOf pos ∧
        s.lineStart (s.lineOf pos) ≤ s.bol pos ∧ s.bol pos ≤ s.lineEnd (s.lineOf pos) ∧
        (∀ b ∈ s.between (s.lineStart (s.lineOf pos)) (s.bol pos), isBlankByte b = true) ∧
        (s.bol pos = s.lineEnd (s.lineOf pos) ↔ ∀ b ∈ s.lineBytes (s.lineOf pos), isBlankByte b = true) ∧
        (s.bol pos ≠ s.lineEnd (s.lineOf pos) → ∃ b, bytes[s.bol pos]? = some b ∧ isBlankByte b = false) ∧
        s.bol (s.bol pos) = s.bol pos := by
  intro s
  refine ⟨fun l _ => firstNonblank_eq_none_iff_blank, fun pos => ?_⟩
  obtain ⟨hlow, hhigh, hend⟩ := s.bol_range pos
  refine ⟨lineOf_bol pos, hlow, hhigh, fun b hb => ?_, hend.trans firstNonblank_eq_none_iff_blank, fun hne => ?_, s.bol_bol pos⟩
  · rw [between_lineStart_bol] at hb
    exact isBlankByte_of_mem_leading hb
  · obtain ⟨b, hb⟩ := Option.ne_none_iff_exists'.1 (mt hend.2 hne)
    rw [bol_eq hb]
    exact getElem?_firstNonblank hb

/-- A line led by two spaces, a blank one, and an empty one at the end of the text. -/
def threeLines : List UInt8 := [0x20, 0x20, 0x78, newline, 0x20, 0x09, newline]

/-- The blank line begins at its end, and the empty one where it starts. -/
theorem bol_beginning_blank :
    let s := ofBytes threeLines
    0 < s.lineCount ∧ 1 < s.lineCount ∧ ¬(∀ b ∈ s.lineBytes 0, isBlankByte b = true) ∧ s.firstNonblank 1 = none ∧
      [0, 4, 99].map (fun pos : Int => s.bol pos) = [2, 6, 7] ∧ s.bol 0 ≠ s.lineEnd (s.lineOf 0) ∧
      ∃ b, threeLines[s.bol 0]? = some b ∧ isBlankByte b = false := by
  obtain ⟨hblank, hbol⟩ := bol_beginning threeLines
  have hletter : ¬∀ b ∈ (ofBytes threeLines).lineBytes 0, isBlankByte b = true :=
    fun hall => absurd (List.all_eq_true.2 hall) (by decide)
  have hspaces : ∀ b ∈ (ofBytes threeLines).lineBytes 1, isBlankByte b = true := List.all_eq_true.1 (by decide)
  exact ⟨by decide, by decide, hletter, (hblank 1 (by decide)).2 hspaces, by decide, by decide,
    (hbol 0).2.2.2.2.2.1 (by decide)⟩

end AwkEdit.Source
