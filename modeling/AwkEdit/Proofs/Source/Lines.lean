import AwkEdit.Source

/-!
# The lines of a text

The lines are the bytes split at the newlines: joined by newlines they are the text again, and no line has a newline of its
own. The offsets that a source keeps are those of these lines, so a line runs from its start to its end, the next one starts
just after the newline at its end, and a position belongs to the one line whose range holds it, which has as many lines above it
as there are newlines before the position.
-/

namespace AwkEdit

/-- The offset at which one of several lines starts when they are joined by newlines. -/
def offset : List (List UInt8) → Nat → Nat
  | [], _ => 0
  | _, 0 => 0
  | line :: lines, k + 1 => line.length + 1 + offset lines k

@[simp] theorem offset_zero (lines : List (List UInt8)) : offset lines 0 = 0 := by cases lines <;> rfl

theorem offset_cons_succ (line : List UInt8) (lines : List (List UInt8)) (k : Nat) :
    offset (line :: lines) (k + 1) = line.length + 1 + offset lines k := rfl

/-- A line starts just after the end of the one before it. -/
theorem offset_succ {lines : List (List UInt8)} {k : Nat} (h : k < lines.length) :
    offset lines (k + 1) = offset lines k + lines[k].length + 1 := by
  induction lines generalizing k with
  | nil => simp at h
  | cons line lines ih =>
    cases k with
    | zero => simp [offset_cons_succ]
    | succ k =>
      have := ih (Nat.lt_of_succ_lt_succ h)
      rw [offset_cons_succ, offset_cons_succ, List.getElem_cons_succ]
      omega

/-- After the last line there would be one more newline. -/
theorem offset_length {lines : List (List UInt8)} (h : lines ≠ []) :
    offset lines lines.length = ([newline].intercalate lines).length + 1 := by
  induction lines with
  | nil => exact absurd rfl h
  | cons line lines ih =>
    rw [List.length_cons, offset_cons_succ]
    cases lines with
    | nil => simp
    | cons next lines =>
      rw [ih (List.cons_ne_nil _ _), List.intercalate_cons_cons]
      simp only [List.length_append, List.length_singleton]
      omega

/-- What is left of joined lines from the start of one of them are the lines from that one on. -/
theorem drop_offset {lines : List (List UInt8)} {k : Nat} (h : k < lines.length) :
    ([newline].intercalate lines).drop (offset lines k) = [newline].intercalate (lines.drop k) := by
  induction lines generalizing k with
  | nil => simp at h
  | cons line lines ih =>
    cases k with
    | zero => simp
    | succ k =>
      have hk := Nat.lt_of_succ_lt_succ h
      have hne : lines ≠ [] := fun hnil => by simp [hnil] at hk
      rw [offset_cons_succ, List.intercalate_cons_of_ne_nil hne, List.drop_succ_cons, ← ih hk, ← List.drop_drop]
      congr 1
      rw [show line.length + 1 = (line ++ [newline]).length by simp, List.append_assoc, ← List.append_assoc]
      exact List.drop_left

theorem offset_lt {lines : List (List UInt8)} {j k : Nat} (h : j < k) (hk : k ≤ lines.length) :
    offset lines j < offset lines k := by
  induction k with
  | zero => omega
  | succ k ih =>
    have hsucc := offset_succ (Nat.lt_of_succ_le hk)
    rcases Nat.lt_or_ge j k with hj | hj
    · have := ih hj (Nat.le_of_succ_le hk)
      omega
    · obtain rfl : j = k := by omega
      omega

/-- The offsets of the lines of a text are those just after the newlines, and that of the first byte. -/
theorem getElem?_startsAfter (bytes : List UInt8) (i k : Nat) :
    (i :: startsAfter i bytes)[k]? =
      if k < (bytes.splitOn newline).length then some (i + offset (bytes.splitOn newline) k) else none := by
  induction bytes generalizing i k with
  | nil => cases k <;> simp [startsAfter]
  | cons b bytes ih =>
    by_cases hb : b = newline
    · subst hb
      rw [List.splitOn_cons_eq_if_modifyHead, if_pos BEq.rfl, startsAfter, if_pos rfl]
      cases k with
      | zero => simp
      | succ k =>
        rw [List.getElem?_cons_succ, ih, List.length_cons, offset_cons_succ, List.length_nil]
        simp only [Nat.add_lt_add_iff_right]
        split
        · congr 1
          omega
        · rfl
    · obtain ⟨line, lines, hsplit⟩ := List.exists_cons_of_ne_nil (List.splitOn_ne_nil newline bytes)
      have hne : (b == newline) = false := beq_eq_false_iff_ne.2 hb
      rw [List.splitOn_cons_eq_if_modifyHead, hne, if_neg Bool.false_ne_true, startsAfter, if_neg hb, hsplit,
        List.modifyHead_cons]
      cases k with
      | zero => simp
      | succ k =>
        have := ih (i + 1) (k + 1)
        rw [hsplit, List.getElem?_cons_succ] at this
        rw [List.getElem?_cons_succ, this, offset_cons_succ, offset_cons_succ, List.length_cons, List.length_cons,
          List.length_cons]
        split
        · congr 1
          omega
        · rfl

/-- What a list is split at is in none of the parts. -/
theorem not_mem_of_mem_splitOn {α : Type} [DecidableEq α] {a : α} {items part : List α} (h : part ∈ items.splitOn a) :
    a ∉ part := by
  induction items generalizing part with
  | nil => simp_all
  | cons b items ih =>
    obtain ⟨first, rest, hsplit⟩ := List.exists_cons_of_ne_nil (List.splitOn_ne_nil a items)
    rw [List.splitOn_cons_eq_if_modifyHead] at h
    split at h
    next =>
      rcases List.mem_cons.1 h with rfl | h
      · exact List.not_mem_nil
      · exact ih h
    next hb =>
      rw [hsplit] at ih
      rw [hsplit, List.modifyHead_cons] at h
      rcases List.mem_cons.1 h with rfl | h
      · intro hmem
        rcases List.mem_cons.1 hmem with rfl | hmem
        · exact hb BEq.rfl
        · exact ih List.mem_cons_self hmem
      · exact ih (List.mem_cons_of_mem _ h)

namespace Source

/-- The lines of a text, without their newlines. -/
def lines (s : Source) : List (List UInt8) := s.bytes.splitOn newline

theorem lines_ne_nil (s : Source) : s.lines ≠ [] := List.splitOn_ne_nil newline s.bytes

/-- The lines joined by newlines are the text. -/
theorem intercalate_lines (s : Source) : [newline].intercalate s.lines = s.bytes := List.intercalate_splitOn newline

/-- Lines without newlines that join to the text are its lines. -/
theorem lines_eq_of_intercalate {s : Source} {lines : List (List UInt8)} (hne : lines ≠ [])
    (hlines : ∀ line ∈ lines, newline ∉ line) (h : [newline].intercalate lines = s.bytes) : s.lines = lines := by
  rw [Source.lines, ← h]
  exact List.splitOn_intercalate newline hlines hne

theorem getElem?_lineStarts (s : Source) (k : Nat) :
    s.lineStarts[k]? = if k < s.lines.length then some (offset s.lines k) else none := by
  have := getElem?_startsAfter s.bytes 0 k
  rw [Nat.zero_add] at this
  rw [s.lineStarts_eq]
  exact this

theorem lineStarts_eq_map (s : Source) : s.lineStarts = (List.range s.lines.length).map (offset s.lines) := by
  refine List.ext_getElem? fun k => ?_
  rw [getElem?_lineStarts, List.getElem?_map]
  split
  next h => rw [List.getElem?_range h, Option.map_some]
  next h => rw [List.getElem?_eq_none (by simpa using h), Option.map_none]

/-- There are as many lines as the text has starts of lines. -/
theorem lineCount_eq (s : Source) : s.lineCount = s.lines.length := by simp [lineCount, lineStarts_eq_map]

theorem length_startsAfter (i : Nat) (bytes : List UInt8) : (startsAfter i bytes).length = bytes.count newline := by
  induction bytes generalizing i with
  | nil => rfl
  | cons b bytes ih =>
    rw [startsAfter]
    by_cases hb : b = newline
    · rw [if_pos hb, hb, List.length_cons, ih, List.count_cons_self]
    · rw [if_neg hb, ih, List.count_cons_of_ne hb]

/-- There is one line more than there are newlines. -/
theorem lineCount_eq_count (s : Source) : s.lineCount = s.bytes.count newline + 1 := by
  rw [lineCount, s.lineStarts_eq, List.length_cons, length_startsAfter, bytes]

theorem lineCount_pos (s : Source) : 0 < s.lineCount := by
  rw [lineCount_eq]
  exact List.length_pos_iff.2 s.lines_ne_nil

variable {s : Source} {l : Nat}

/-- A line of the text is one that can be asked for. -/
theorem line?_natCast (h : l < s.lineCount) : s.line? l = .ok l := by
  rw [line?, if_pos (by omega), Int.toNat_natCast]

theorem lineStart_eq (h : l < s.lines.length) : s.lineStart l = offset s.lines l := by
  rw [lineStart, List.getD_eq_getElem?_getD, getElem?_lineStarts, if_pos h, Option.getD_some]

/-- A line ends where its bytes end. -/
theorem lineEnd_eq (h : l < s.lines.length) : s.lineEnd l = offset s.lines l + s.lines[l].length := by
  have hsucc := offset_succ h
  rw [lineEnd, getElem?_lineStarts]
  by_cases hnext : l + 1 < s.lines.length
  · rw [if_pos hnext]
    simp only
    omega
  · have hlast : offset s.lines (l + 1) = s.size + 1 := by
      rw [show l + 1 = s.lines.length by omega, offset_length s.lines_ne_nil, intercalate_lines, length_bytes]
    rw [if_neg hnext]
    simp only
    omega

/-- The bytes from the start to the end of a line are the line. -/
theorem lineBytes_eq (h : l < s.lines.length) : s.lineBytes l = s.lines[l] := by
  rw [lineBytes, between_eq, lineStart_eq h, lineEnd_eq h, List.drop_take, Nat.add_sub_cancel_left, ← intercalate_lines,
    drop_offset h, List.drop_eq_getElem_cons h]
  cases hrest : s.lines.drop (l + 1) with
  | nil => rw [List.intercalate_singleton, List.take_length]
  | cons next rest => rw [List.intercalate_cons_cons, List.append_assoc, List.take_left]

/-- The lines of a text, by their numbers. -/
theorem lines_eq_map (s : Source) : s.lines = (List.range s.lineCount).map s.lineBytes := by
  refine List.ext_getElem (by simp [lineCount_eq]) fun l h _ => ?_
  rw [List.getElem_map, List.getElem_range, lineBytes_eq h]

/-! ## Where lines lie -/

theorem length_lineBytes (h : l < s.lineCount) : s.lineEnd l = s.lineStart l + (s.lineBytes l).length := by
  rw [lineCount_eq] at h
  rw [lineEnd_eq h, lineStart_eq h, lineBytes_eq h]

theorem lineStart_le_lineEnd (h : l < s.lineCount) : s.lineStart l ≤ s.lineEnd l := by
  rw [length_lineBytes h]
  exact Nat.le_add_right _ _

/-- The first line starts at the first byte. -/
theorem lineStart_zero (s : Source) : s.lineStart 0 = 0 := by
  rw [lineStart_eq (List.length_pos_iff.2 s.lines_ne_nil), offset_zero]

theorem lineStart_succ (h : l + 1 < s.lineCount) : s.lineStart (l + 1) = s.lineEnd l + 1 := by
  rw [lineCount_eq] at h
  rw [lineStart_eq h, lineEnd_eq (Nat.lt_of_succ_lt h), offset_succ (Nat.lt_of_succ_lt h)]

/-- The last line ends at the end of the text. -/
theorem lineEnd_last (h : l + 1 = s.lineCount) : s.lineEnd l = s.size := by
  rw [lineCount_eq] at h
  rw [lineEnd, getElem?_lineStarts, if_neg (by omega)]

/-- A line ends before a later one starts. -/
theorem lineEnd_lt_lineStart {k : Nat} (hkl : k < l) (h : l < s.lineCount) : s.lineEnd k < s.lineStart l := by
  rw [lineCount_eq] at h
  have hsucc := offset_succ (Nat.lt_trans hkl h)
  rw [lineEnd_eq (Nat.lt_trans hkl h), lineStart_eq h]
  rcases Nat.lt_or_ge (k + 1) l with hk | hk
  · have := offset_lt hk (Nat.le_of_lt h)
    omega
  · obtain rfl : l = k + 1 := by omega
    omega

theorem lineEnd_le_size (h : l < s.lineCount) : s.lineEnd l ≤ s.size := by
  rcases Nat.lt_or_ge (l + 1) s.lineCount with hl | hl
  · have hlast := lineEnd_last (s := s) (l := s.lineCount - 1) (by omega)
    have := lineEnd_lt_lineStart (s := s) (k := l) (l := s.lineCount - 1) (by omega) (by omega)
    have := length_lineBytes (s := s) (l := s.lineCount - 1) (by omega)
    omega
  · exact Nat.le_of_eq (lineEnd_last (by omega))

/-- A line has no newline. -/
theorem newline_not_mem_lineBytes (h : l < s.lineCount) : newline ∉ s.lineBytes l := by
  rw [lineCount_eq] at h
  rw [lineBytes_eq h]
  exact not_mem_of_mem_splitOn (List.getElem_mem h)

/-! ## The line of a position -/

theorem countP_range_le {n l : Nat} (h : l < n) : (List.range n).countP (· ≤ l) = l + 1 := by
  induction n with
  | zero => omega
  | succ n ih =>
    rw [List.range_succ, List.countP_append, List.countP_singleton]
    rcases Nat.lt_or_ge l n with hl | hl
    · rw [ih hl, if_neg (by simpa using hl)]
    · obtain rfl : l = n := by omega
      have : (List.range l).countP (· ≤ l) = (List.range l).length :=
        List.countP_eq_length.2 fun k hk => by simpa using Nat.le_of_lt (List.mem_range.1 hk)
      rw [this, List.length_range, if_pos (by simp)]

/-- A position within the range of a line belongs to the line. -/
theorem lineOf_eq {pos : Int} (h : l < s.lineCount) (hlow : s.lineStart l ≤ s.clamp pos) (hhigh : s.clamp pos ≤ s.lineEnd l) :
    s.lineOf pos = l := by
  have hcount : s.lineStarts.countP (· ≤ s.clamp pos) = (List.range s.lines.length).countP (· ≤ l) := by
    rw [lineStarts_eq_map, List.countP_map]
    refine List.countP_congr fun k hk => ?_
    have hk := List.mem_range.1 hk
    simp only [Function.comp_apply, decide_eq_true_eq]
    rw [← lineStart_eq hk]
    rw [← lineCount_eq] at hk
    constructor
    · intro hle
      rcases Nat.lt_or_ge l k with hlk | hkl
      · have := lineEnd_lt_lineStart hlk hk
        omega
      · exact hkl
    · intro hkl
      rcases Nat.eq_or_lt_of_le hkl with rfl | hkl
      · exact hlow
      · have := lineEnd_lt_lineStart hkl h
        have := length_lineBytes hk
        omega
  rw [lineOf, hcount, countP_range_le (s.lineCount_eq ▸ h), Nat.add_sub_cancel]

/-- Every offset lies within the range of a line. -/
theorem exists_line {pos : Nat} (h : pos ≤ s.size) : ∃ l, l < s.lineCount ∧ s.lineStart l ≤ pos ∧ pos ≤ s.lineEnd l := by
  have hfind : ∀ n, n ≤ s.lineCount →
      (∀ l < n, s.lineEnd l < pos) ∨ ∃ l, l < s.lineCount ∧ s.lineStart l ≤ pos ∧ pos ≤ s.lineEnd l := by
    intro n hn
    induction n with
    | zero => exact .inl fun l hl => absurd hl (Nat.not_lt_zero l)
    | succ n ih =>
      rcases ih (Nat.le_of_succ_le hn) with hbelow | hfound
      · rcases Nat.lt_or_ge (s.lineEnd n) pos with hend | hend
        · refine .inl fun l hl => ?_
          rcases Nat.lt_succ_iff_lt_or_eq.1 hl with hl | rfl
          · exact hbelow l hl
          · exact hend
        · refine .inr ⟨n, hn, ?_, hend⟩
          cases n with
          | zero => simp [lineStart_zero]
          | succ n =>
            have := hbelow n (Nat.lt_succ_self n)
            rw [lineStart_succ hn]
            omega
      · exact .inr hfound
  rcases hfind s.lineCount (Nat.le_refl _) with hbelow | hfound
  · have hpos := s.lineCount_pos
    have hlast := lineEnd_last (s := s) (l := s.lineCount - 1) (by omega)
    have := hbelow (s.lineCount - 1) (by omega)
    omega
  · exact hfound

/-- The line of a position is one of the lines, and its range holds the position. -/
theorem lineOf_spec (s : Source) (pos : Int) :
    s.lineOf pos < s.lineCount ∧ s.lineStart (s.lineOf pos) ≤ s.clamp pos ∧ s.clamp pos ≤ s.lineEnd (s.lineOf pos) := by
  obtain ⟨l, hl, hlow, hhigh⟩ := exists_line (show s.clamp pos ≤ s.size from Nat.min_le_right _ _)
  rw [lineOf_eq hl hlow hhigh]
  exact ⟨hl, hlow, hhigh⟩

/-- A position from the start of a line to its end belongs to the line. -/
theorem lineOf_of_range {pos : Int} (h : l < s.lineCount) (hlow : s.lineStart l ≤ pos) (hhigh : pos ≤ s.lineEnd l) :
    s.lineOf pos = l := by
  have := lineEnd_le_size h
  refine lineOf_eq h ?_ ?_ <;> rw [clamp] <;> omega

/-- The start of a line belongs to the line. -/
theorem lineOf_lineStart (h : l < s.lineCount) : s.lineOf (s.lineStart l) = l :=
  lineOf_of_range h (Int.le_refl _) (Int.ofNat_le.2 (lineStart_le_lineEnd h))

/-- The end of a line belongs to the line. -/
theorem lineOf_lineEnd (h : l < s.lineCount) : s.lineOf (s.lineEnd l) = l :=
  lineOf_of_range h (Int.ofNat_le.2 (lineStart_le_lineEnd h)) (Int.le_refl _)

/-- The lines that start at or before a position are its own and those above. -/
theorem lineStart_le_clamp_iff {pos : Int} (h : l < s.lineCount) : s.lineStart l ≤ s.clamp pos ↔ l ≤ s.lineOf pos := by
  obtain ⟨hline, hlow, hhigh⟩ := s.lineOf_spec pos
  constructor
  · intro hstart
    refine Nat.le_of_not_lt fun hlt => ?_
    have := lineEnd_lt_lineStart hlt h
    omega
  · intro hle
    rcases Nat.eq_or_lt_of_le hle with rfl | hlt
    · exact hlow
    · have := lineEnd_lt_lineStart hlt hline
      have := lineStart_le_lineEnd h
      omega

/-- A later position is on no earlier line. -/
theorem lineOf_mono {p q : Int} (h : p ≤ q) : s.lineOf p ≤ s.lineOf q := by
  obtain ⟨hp, hplow, -⟩ := s.lineOf_spec p
  refine (lineStart_le_clamp_iff hp).1 (Nat.le_trans hplow ?_)
  unfold clamp
  omega

/-- Up to an offset there are as many starts of lines after the first as newlines before the offset. -/
theorem countP_startsAfter (bytes : List UInt8) (i k : Nat) :
    (startsAfter i bytes).countP (· ≤ k) = (bytes.take (k - i)).count newline := by
  induction bytes generalizing i with
  | nil => simp [startsAfter]
  | cons b bytes ih =>
    rw [startsAfter]
    rcases Nat.lt_or_ge i k with hik | hki
    · rw [show k - i = k - (i + 1) + 1 by omega, List.take_succ_cons]
      by_cases hb : b = newline
      · rw [if_pos hb, List.countP_cons_of_pos (by simpa using Nat.succ_le_of_lt hik), ih, hb, List.count_cons_self]
      · rw [if_neg hb, ih, List.count_cons_of_ne hb]
    · have hrest : (startsAfter (i + 1) bytes).countP (· ≤ k) = 0 := by
        rw [ih, show k - (i + 1) = 0 by omega, List.take_zero, List.count_nil]
      rw [show k - i = 0 by omega, List.take_zero, List.count_nil]
      by_cases hb : b = newline
      · rw [if_pos hb, List.countP_cons_of_neg (by simpa using Nat.lt_succ_of_le hki), hrest]
      · rw [if_neg hb, hrest]

/-- The line of a position is the number of newlines before the position. -/
theorem lineOf_eq_count (s : Source) (pos : Int) : s.lineOf pos = (s.bytes.take (s.clamp pos)).count newline := by
  rw [lineOf, s.lineStarts_eq, List.countP_cons_of_pos (by simp), Nat.add_sub_cancel, countP_startsAfter, Nat.sub_zero, bytes]

end Source

end AwkEdit
