import AwkEdit.Proofs.Session.Canonical

/-!
# The decisions of a run

When a whole text is indented, the decision for a line is taken where the lines before it have moved to their new columns and
nothing else has moved (`indentLines_eq_map`). In the text that results, every line stands at the column decided for it.
-/

namespace AwkEdit.Session

variable {s : Session}

/-! ## What has moved -/

/-- The new columns of the lines before a line. -/
def movedBefore (s : Session) : Nat → List (Nat × Int)
  | 0 => []
  | l + 1 =>
    s.moveLine (s.movedBefore l) l (s.language.indent.resolveWith s.config (s.columnAfter (s.movedBefore l)) s.tree l).1

/-- The decision for a line when the lines before it have moved. -/
def decisionAt (s : Session) (l : Nat) : IndentDecision :=
  (s.language.indent.resolveWith s.config (s.columnAfter (s.movedBefore l)) s.tree l).1

theorem movedBefore_succ (s : Session) (l : Nat) :
    s.movedBefore (l + 1) = s.moveLine (s.movedBefore l) l (s.decisionAt l) := rfl

/-- The column of a decision is that of its anchor, moved by its offset. -/
theorem decisionAt_column (s : Session) (l : Nat) :
    (s.decisionAt l).column =
      max 0 (s.columnAfter (s.movedBefore l) (s.decisionAt l).anchor + (s.decisionAt l).offset * s.config.indentUnit) := rfl

/-- A decision is that of a rule, but for the column, whatever has moved. -/
theorem exists_decisionAt (s : Session) (l : Nat) :
    ∃ r, (IndentRules.select (.ofLine s.tree l) s.language.indent.rules).1 = some r ∧
      (s.decisionAt l).anchor = r.anchor.position (.ofLine s.tree l) ∧ (s.decisionAt l).offset = r.offset := by
  obtain ⟨r, hr, hdecision⟩ :=
    s.language.indent.exists_resolve_eq s.config (s.columnAfter (s.movedBefore l)) (.ofLine s.tree l)
  refine ⟨r, hr, ?_⟩
  rw [decisionAt, IndentRules.resolveWith, hdecision]
  exact ⟨rfl, rfl⟩

/-- The decisions for lines in a row, once the lines before them have moved. -/
theorem indentAfter_range' (s : Session) (l n : Nat) :
    (s.indentAfter (s.movedBefore l) (List.range' l n)).1 = (List.range' l n).map s.decisionAt := by
  induction n generalizing l with
  | zero => rfl
  | succ n ih =>
    simp only [List.range'_succ, indentAfter, List.map_cons]
    exact congrArg _ (ih (l + 1))

/-- The decisions for all lines. -/
theorem indentLines_eq_map (s : Session) : (s.indentLines 0 none).1 = (List.range s.source.lineCount).map s.decisionAt := by
  rw [indentLines, region_all, List.range_eq_range']
  exact s.indentAfter_range' 0 _

theorem getElem?_indentLines {l : Nat} (hl : l < s.source.lineCount) : (s.indentLines 0 none).1[l]? = some (s.decisionAt l) := by
  rw [indentLines_eq_map, List.getElem?_map, List.getElem?_range hl, Option.map_some]

/-- What has moved before a line are the lines before it that have a significant byte, each to the column decided for it. -/
theorem lookup_movedBefore (s : Session) (l k : Nat) :
    (s.movedBefore l).lookup k =
      if k < l ∧ (s.source.firstNonblank k).isSome = true then some (s.decisionAt k).column else none := by
  induction l with
  | zero => simp [movedBefore]
  | succ l ih =>
    rw [movedBefore_succ, lookup_moveLine, ih]
    by_cases hk : k = l
    · subst hk
      simp
    · have hlater : k < l + 1 ↔ k < l := by omega
      simp only [hk, hlater, false_and, if_false]

/-- No line is put to the left of the first column. -/
theorem decisionAt_column_nonneg (s : Session) (l : Nat) : 0 ≤ (s.decisionAt l).column := Int.le_max_left _ _

/-! ## The text that results -/

variable {text : String}

/-- A line of the text that results is the line as it is put. -/
theorem lineBytes_eq_newLine (h : s.reindent.1 = .ok text) {l : Nat} (hl : l < s.source.lineCount) :
    (Source.ofString text).lineBytes l = Utf8.encode (s.newLine l (s.decisionAt l)) := by
  obtain ⟨d, hd, hline⟩ := (lineBytes_of_reindent h).2 l hl
  rw [getElem?_indentLines hl] at hd
  rw [Option.some.inj hd]
  exact hline

/-- A line with a significant byte is led by as many spaces as the column decided for it says. -/
theorem leading_of_reindent (h : s.reindent.1 = .ok text) {l b : Nat} (hb : s.source.firstNonblank l = some b) :
    (Source.ofString text).leading l = List.replicate (s.decisionAt l).column.toNat 0x20 := by
  have hplain : (Utf8.encode (Utf8.decode (s.source.significant l))).takeWhile isBlankByte = [] := by
    have hsplit := List.takeWhile_append_dropWhile (p := isBlankByte) (l := Utf8.encode (Utf8.decode (s.source.significant l)))
    rw [Utf8.dropWhile_encode_decode (s.source.head?_significant l)] at hsplit
    exact List.append_left_eq_self.1 hsplit
  have hspaces : ∀ c ∈ List.replicate (s.decisionAt l).column.toNat (0x20 : UInt8), isBlankByte c = true := by
    intro c hc
    rw [List.eq_of_mem_replicate hc]
    rfl
  rw [Source.leading, lineBytes_eq_newLine h (Source.lt_lineCount_of_firstNonblank hb)]
  simp only [newLine, hb]
  rw [Source.chars_lineEnd hb, Utf8.encode_append, encode_spaces, List.takeWhile_append_of_pos hspaces, hplain,
    List.append_nil]

/-- Every line of the text that results stands at the column decided for it. -/
theorem standsAt_of_reindent (hvalid : Utf8.Valid s.source.bytes) (h : s.reindent.1 = .ok text) {l : Nat}
    (hl : l < s.source.lineCount) : (Source.ofString text).StandsAt l (s.decisionAt l).column := by
  have hvariant := variant_of_reindent hvalid h
  cases hb : s.source.firstNonblank l with
  | some b =>
    obtain ⟨c, hc⟩ := hvariant.exists_firstNonblank hb
    rw [Source.standsAt_iff_of_firstNonblank hc]
    exact leading_of_reindent h hb
  | none =>
    rw [Source.standsAt_iff_of_blank (hvariant.firstNonblank_eq_none hb), lineBytes_eq_newLine h hl]
    simp only [newLine, hb]
    split
    · exact .inr (by decide)
    · exact .inl rfl

end AwkEdit.Session
