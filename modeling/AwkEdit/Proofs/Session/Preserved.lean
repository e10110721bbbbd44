import AwkEdit.Proofs.Session.Lines

/-!
# What indenting keeps

A line that is put somewhere is its new spaces and, after them, what it was from its first significant byte on, which is read and
written again. So indenting a text anew keeps the number of its lines and what comes after the leading blanks of each, as far
as it can be read: a broken part is written as what it is read as.
-/

namespace AwkEdit.Session

variable {s : Session} {text : String}

/-- Spaces are written as spaces. -/
theorem encode_spaces (n : Nat) : Utf8.encode (List.replicate n ' ') = List.replicate n 0x20 := by
  have hascii : ∀ b ∈ List.replicate n (0x20 : UInt8), b < 0x80 := by
    intro b hb
    rw [List.eq_of_mem_replicate hb]
    decide
  have := Utf8.encode_ascii hascii
  rwa [List.map_replicate] at this

/-- Wherever a line is put, what comes after its leading blanks is what it was, read and written again. -/
theorem significant_newLine (s : Session) (l : Nat) (d : IndentDecision) :
    (Utf8.encode (s.newLine l d)).dropWhile isBlankByte = Utf8.encode (Utf8.decode (s.source.significant l)) := by
  cases hb : s.source.firstNonblank l with
  | some b =>
    simp only [newLine, hb]
    rw [Source.chars_lineEnd hb, Utf8.encode_append, encode_spaces, List.dropWhile_append_of_pos,
      Utf8.dropWhile_encode_decode (s.source.head?_significant l)]
    intro c hc
    rw [List.eq_of_mem_replicate hc]
    rfl
  | none =>
    have hreturn : Utf8.encode ['\r'] = [0x0D] := by decide
    simp only [newLine, hb, Source.firstNonblank_eq_none_iff.1 hb]
    split
    · simp [hreturn, isBlankByte]
    · simp

/-- The lines of a text that was indented anew are its lines, each put where the decision for it says. -/
theorem lineBytes_of_reindent (h : s.reindent.1 = .ok text) :
    (Source.ofString text).lineCount = s.source.lineCount ∧
      ∀ l < s.source.lineCount, ∃ d, (s.indentLines 0 none).1[l]? = some d ∧
        (Source.ofString text).lineBytes l = Utf8.encode (s.newLine l d) := by
  obtain rfl := eq_of_reindent h
  have hlen := s.length_indentLines
  generalize (s.indentLines 0 none).1 = ds at hlen ⊢
  have hunder : (s.linesUnder ds).length = s.source.lineCount := by simp [linesUnder, region_all, hlen]
  have hne : s.linesUnder ds ≠ [] := List.ne_nil_of_length_pos (hunder ▸ s.source.lineCount_pos)
  have hlines := Source.lines_ofString hne (newline_not_mem_linesUnder s ds)
  generalize Source.ofString (String.ofList (['\n'].intercalate (s.linesUnder ds))) = t at hlines ⊢
  have hcount : t.lineCount = s.source.lineCount := by rw [Source.lineCount_eq, hlines, List.length_map, hunder]
  refine ⟨hcount, fun l hl => ⟨ds[l], List.getElem?_eq_getElem _, ?_⟩⟩
  rw [Source.lineBytes_eq (by rw [← Source.lineCount_eq, hcount]; exact hl)]
  simp only [hlines, List.getElem_map, linesUnder, region_all, List.getElem_zipWith, List.getElem_range]

/-- Indenting a text anew keeps what comes after the leading blanks of each line, read and written again. -/
theorem significant_of_reindent (h : s.reindent.1 = .ok text) {l : Nat} (hl : l < s.source.lineCount) :
    (Source.ofString text).significant l = Utf8.encode (Utf8.decode (s.source.significant l)) := by
  obtain ⟨d, -, hd⟩ := (lineBytes_of_reindent h).2 l hl
  rw [← s.significant_newLine l d, ← hd]
  rfl

end AwkEdit.Session
