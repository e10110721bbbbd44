import AwkEdit.Proofs.Source.Leading
import AwkEdit.Proofs.Text.Decoding

/-!
# Lines as characters, and their columns

A text is read line by line, and a line is its leading blanks and what comes after them, each read for itself. A line stands
at a column when its leading blanks are that many spaces; then the column is that of its first significant byte.
-/

namespace AwkEdit.Source

variable {s : Source} {l b : Nat}

/-! ## Characters -/

theorem bound_natCast {i : Nat} (h : i ≤ s.size) : s.bound i = i := by
  rw [bound, if_neg (by omega), Int.toNat_natCast, Nat.min_eq_left h]

/-- The characters between two offsets in the text. -/
theorem chars_eq {i j : Nat} (hi : i ≤ s.size) (hj : j ≤ s.size) : s.chars i j = Utf8.decode (s.between i j) := by
  rw [chars, slice, bound_natCast hi, bound_natCast hj]

/-- The text is read line by line. -/
theorem chars_lines (s : Source) :
    s.chars 0 s.size = ['\n'].intercalate ((List.range s.lineCount).map fun l => Utf8.decode (s.lineBytes l)) := by
  have hwhole : s.between 0 s.size = s.bytes := by
    rw [between_eq, List.drop_zero, ← length_bytes, List.take_length]
  have hchars := chars_eq (s := s) (Nat.zero_le _) (Nat.le_refl _)
  rw [hwhole] at hchars
  rw [show (0 : Int) = ((0 : Nat) : Int) from rfl, hchars, ← intercalate_lines, Utf8.decode_intercalate, lines_eq_map,
    List.map_map]
  rfl

/-- Lines of characters are the lines of the text that they join to. -/
theorem lines_ofString {lines : List (List Char)} (hne : lines ≠ []) (hlines : ∀ line ∈ lines, '\n' ∉ line) :
    (ofString (String.ofList (['\n'].intercalate lines))).lines = lines.map Utf8.encode := by
  refine lines_eq_of_intercalate (fun hnil => hne (List.map_eq_nil_iff.1 hnil)) (List.forall_mem_map.2 fun line hline => ?_) ?_
  · exact Utf8.newline_not_mem_encode (hlines line hline)
  · rw [ofString, bytes_ofBytes, String.toList_ofList, Utf8.encode_intercalate]

/-- A line of a text without broken parts has none. -/
theorem valid_lineBytes (h : Utf8.Valid s.bytes) (hl : l < s.lineCount) : Utf8.Valid (s.lineBytes l) := by
  rw [← intercalate_lines, lines_eq_map] at h
  refine h.line (List.forall_mem_map.2 fun k hk => ?_) _ (List.mem_map_of_mem (List.mem_range.2 hl))
  exact newline_not_mem_lineBytes (List.mem_range.1 hk)

/-- Blanks are ASCII bytes. -/
theorem lt_of_isBlankByte {c : UInt8} (h : isBlankByte c = true) : c < 0x80 := by
  simp only [isBlankByte, Bool.or_eq_true, beq_iff_eq] at h
  rcases h with (((rfl | rfl) | rfl) | rfl) | rfl <;> decide

/-- What comes after the leading blanks of a line has no broken parts if the line has none. -/
theorem valid_significant (h : Utf8.Valid (s.lineBytes l)) : Utf8.Valid (s.significant l) := by
  rw [← leading_append_significant] at h
  exact (Utf8.valid_ascii_append_iff fun c hc => lt_of_isBlankByte (isBlankByte_of_mem_leading hc)).1 h

/-- A line is read as its leading blanks and what comes after them. -/
theorem decode_lineBytes (s : Source) (l : Nat) :
    Utf8.decode (s.lineBytes l) = (s.leading l).map (Char.ofNat ·.toNat) ++ Utf8.decode (s.significant l) := by
  rw [← leading_append_significant]
  exact Utf8.decode_ascii_append (fun c hc => lt_of_isBlankByte (isBlankByte_of_mem_leading hc)) _

/-- A blank line is read blank by blank. -/
theorem decode_lineBytes_of_blank (h : s.firstNonblank l = none) :
    Utf8.decode (s.lineBytes l) = (s.lineBytes l).map (Char.ofNat ·.toNat) := by
  rw [decode_lineBytes, firstNonblank_eq_none_iff.1 h, Utf8.decode_nil, List.append_nil, leading_of_blank h]

/-- What comes after the leading blanks of a line is read as the characters from its first significant byte to its end. -/
theorem chars_lineEnd (h : s.firstNonblank l = some b) : s.chars b (s.lineEnd l) = Utf8.decode (s.significant l) := by
  have hend := lineEnd_le_size (lt_lineCount_of_firstNonblank h)
  have hrange := firstNonblank_range h
  rw [chars_eq (by omega) hend, between_lineEnd h]

/-- A line is read without a newline. -/
theorem newline_not_mem_decode_lineBytes (h : l < s.lineCount) : '\n' ∉ Utf8.decode (s.lineBytes l) :=
  Utf8.newline_not_mem_decode (newline_not_mem_lineBytes h)

/-- A byte is read as a space only if it is one. -/
theorem ofNat_eq_space {c : UInt8} (h : isBlankByte c = true) : Char.ofNat c.toNat = ' ' ↔ c = 0x20 := by
  simp only [isBlankByte, Bool.or_eq_true, beq_iff_eq] at h
  rcases h with (((rfl | rfl) | rfl) | rfl) | rfl <;> decide

/-! ## Columns -/

/-- The line stands at a column: so many spaces lead it, and a blank line has at most a carriage return. -/
def StandsAt (s : Source) (l : Nat) (column : Int) : Prop :=
  match s.firstNonblank l with
  | some bol => s.between (s.lineStart l) bol = List.replicate column.toNat 0x20
  | none => s.lineBytes l = [] ∨ s.lineBytes l = [0x0D]

/-- A line with a significant byte stands at a column when its leading blanks are that many spaces. -/
theorem standsAt_iff_of_firstNonblank {column : Int} (h : s.firstNonblank l = some b) :
    s.StandsAt l column ↔ s.leading l = List.replicate column.toNat 0x20 := by
  rw [StandsAt, h]
  simp only [between_lineStart h]

/-- A blank line stands as it should when it has at most a carriage return. -/
theorem standsAt_iff_of_blank {column : Int} (h : s.firstNonblank l = none) :
    s.StandsAt l column ↔ s.lineBytes l = [] ∨ s.lineBytes l = [0x0D] := by
  rw [StandsAt, h]

/-- The leading blanks of a line are read as spaces exactly when they are spaces. -/
theorem leading_eq_replicate_iff {n : Nat} :
    (s.leading l).map (Char.ofNat ·.toNat) = List.replicate n ' ' ↔ s.leading l = List.replicate n 0x20 := by
  rw [List.eq_replicate_iff, List.eq_replicate_iff, List.length_map, List.forall_mem_map]
  refine and_congr_right fun _ => forall₂_congr fun c hc => ?_
  exact ofNat_eq_space (isBlankByte_of_mem_leading hc)

/-- A character that is no tab moves the column by one. -/
theorem advance_of_ne {c : Char} (h : c ≠ '\t') (tabWidth column : Int) : advance tabWidth column c = column + 1 := if_neg h

/-- Characters without a tab move the column by their number. -/
theorem foldl_advance_of_not_mem {cs : List Char} (h : '\t' ∉ cs) (tabWidth column : Int) :
    cs.foldl (advance tabWidth) column = column + cs.length := by
  induction cs generalizing column with
  | nil => simp
  | cons c cs ih =>
    rw [List.mem_cons, not_or] at h
    rw [List.foldl_cons, advance_of_ne (Ne.symm h.1), ih h.2, List.length_cons]
    omega

/-- The column of a position on a line is that of the characters that the bytes of the line up to there are read as. -/
theorem column_lineStart_add (tabWidth : Int) (h : l < s.lineCount) {k : Nat} (hk : k ≤ (s.lineBytes l).length) :
    s.column tabWidth (s.lineStart l + k : Nat) = (Utf8.decode ((s.lineBytes l).take k)).foldl (advance tabWidth) 0 := by
  have hend := length_lineBytes h
  have hsize := lineEnd_le_size h
  have hbytes := between_of_line (s := s) (l := l) (i := 0) (j := k) (by omega)
  rw [Nat.add_zero, List.drop_zero] at hbytes
  rw [column, lead, lineOf_of_range h (by omega) (by omega), chars_eq (by omega) (by omega), hbytes]

/-- The start of a line has the first column. -/
theorem column_lineStart (tabWidth : Int) (h : l < s.lineCount) : s.column tabWidth (s.lineStart l) = 0 := by
  have hcolumn := column_lineStart_add tabWidth h (Nat.zero_le _)
  rwa [Nat.add_zero, List.take_zero, Utf8.decode_nil, List.foldl_nil] at hcolumn

/-- Up to the first significant byte of a line the characters are those that its leading blanks are read as. -/
theorem decode_take_leading (s : Source) (l k : Nat) :
    Utf8.decode ((s.lineBytes l).take ((s.leading l).length + k)) =
      (s.leading l).map (Char.ofNat ·.toNat) ++ Utf8.decode ((s.significant l).take k) := by
  rw [← leading_append_significant, List.take_length_add_append]
  exact Utf8.decode_ascii_append (fun c hc => lt_of_isBlankByte (isBlankByte_of_mem_leading hc)) _

/-- The column of the first significant byte of a line is that of the characters that its leading blanks are read as. -/
theorem column_firstNonblank (tabWidth : Int) (h : s.firstNonblank l = some b) :
    s.column tabWidth b = ((s.leading l).map (Char.ofNat ·.toNat)).foldl (advance tabWidth) 0 := by
  have hl := lt_lineCount_of_firstNonblank h
  have hrange := firstNonblank_range h
  have hend := length_lineBytes hl
  obtain ⟨-, rfl⟩ := firstNonblank_eq_some h
  have hread := s.decode_take_leading l 0
  rw [Nat.add_zero, List.take_zero, Utf8.decode_nil, List.append_nil] at hread
  rw [column_lineStart_add tabWidth hl (by omega), hread]

/-- A byte after the first significant byte of its line has the column that the characters between lead to from there. -/
theorem column_firstNonblank_add (tabWidth : Int) (h : s.firstNonblank l = some b) {k : Nat} (hk : b + k ≤ s.lineEnd l) :
    s.column tabWidth (b + k : Nat) =
      (Utf8.decode ((s.significant l).take k)).foldl (advance tabWidth) (s.column tabWidth b) := by
  have hl := lt_lineCount_of_firstNonblank h
  have hend := length_lineBytes hl
  rw [column_firstNonblank tabWidth h]
  obtain ⟨-, rfl⟩ := firstNonblank_eq_some h
  rw [Nat.add_assoc, column_lineStart_add tabWidth hl (by omega), decode_take_leading, List.foldl_append]

/-- The first significant byte of a line that stands at a column has that column. -/
theorem column_of_standsAt {column : Int} (tabWidth : Int) (hcolumn : 0 ≤ column) (h : s.firstNonblank l = some b)
    (hs : s.StandsAt l column) : s.column tabWidth b = column := by
  rw [standsAt_iff_of_firstNonblank h, ← leading_eq_replicate_iff] at hs
  rw [column_firstNonblank tabWidth h, hs, foldl_advance_of_not_mem (by simp), List.length_replicate]
  omega

/-- A line has room for the column that it stands at. -/
theorem le_size_of_standsAt {column : Int} (h : s.firstNonblank l = some b) (hs : s.StandsAt l column) : column ≤ s.size := by
  rw [standsAt_iff_of_firstNonblank h] at hs
  have hrange := firstNonblank_range h
  have hend := lineEnd_le_size (lt_lineCount_of_firstNonblank h)
  have hlead := (firstNonblank_eq_some h).2
  rw [hs, List.length_replicate] at hlead
  omega

end AwkEdit.Source
