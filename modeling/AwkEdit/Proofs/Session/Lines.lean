import AwkEdit.Proofs.Source.Columns
import AwkEdit.Session
import Mathlib.Data.List.Forall2

/-!
# Lines that are put somewhere

Decisions put every line of a text at a column. No line that is put somewhere has a newline, so the text that results is what
it was exactly when every line is, which means that the line stands where it is put. There is room for lines that stand in the
text already.
-/

namespace AwkEdit.Session

variable {s : Session}

theorem region_all (s : Session) : s.region 0 none = List.range s.source.lineCount := by
  simp [region]

/-- There is a decision for each line. -/
theorem length_indentAfter (s : Session) (moved : List (Nat × Int)) (lines : List Nat) :
    (s.indentAfter moved lines).1.length = lines.length := by
  induction lines generalizing moved with
  | nil => rfl
  | cons line lines ih => simp only [indentAfter, List.length_cons, ih]

theorem length_indentLines (s : Session) : (s.indentLines 0 none).1.length = s.source.lineCount := by
  rw [indentLines, length_indentAfter, region_all, List.length_range]

/-- After a line is put at a column, that is its new column if it has a significant byte; the other lines are where they were. -/
theorem lookup_moveLine (s : Session) (moved : List (Nat × Int)) (line : Nat) (d : IndentDecision) (k : Nat) :
    (s.moveLine moved line d).lookup k =
      if k = line ∧ (s.source.firstNonblank k).isSome = true then some d.column else moved.lookup k := by
  rw [moveLine]
  by_cases hk : k = line
  · subst hk
    split
    next hsome => rw [List.lookup_cons_self, if_pos ⟨rfl, hsome⟩]
    next hblank => rw [if_neg fun h => hblank h.2]
  · have hne : (k == line) = false := beq_eq_false_iff_ne.2 hk
    simp only [hk, false_and, if_false]
    split
    next => rw [List.lookup_cons, hne]
    next => rfl

/-! ## One line -/

/-- What is kept of a blank line is all of it exactly when there is no more than a carriage return. -/
theorem blankLine_eq_iff (bytes : List UInt8) :
    (if bytes.getLast? = some 0x0D then ['\r'] else []) = bytes.map (Char.ofNat ·.toNat) ↔ bytes = [] ∨ bytes = [0x0D] := by
  rcases bytes with _ | ⟨b, _ | ⟨c, bytes⟩⟩
  · simp
  · by_cases hb : b = 0x0D
    · subst hb
      decide
    · simp [hb]
  · have hlen : ∀ line : List Char, line.length ≤ 1 → line ≠ (b :: c :: bytes).map (Char.ofNat ·.toNat) := by
      intro line hline heq
      simp [heq] at hline
    refine iff_of_false (hlen _ ?_) (by simp)
    split <;> simp

/-- A line is the same after it is put at a column exactly when it stands there. -/
theorem newLine_eq_iff (l : Nat) (d : IndentDecision) :
    s.newLine l d = Utf8.decode (s.source.lineBytes l) ↔ s.source.StandsAt l d.column := by
  cases h : s.source.firstNonblank l with
  | some b =>
    rw [Source.standsAt_iff_of_firstNonblank h, newLine, h]
    simp only
    rw [Source.chars_lineEnd h, Source.decode_lineBytes, List.append_left_inj, eq_comm, Source.leading_eq_replicate_iff]
  | none =>
    rw [Source.standsAt_iff_of_blank h, newLine, h]
    simp only
    rw [Source.decode_lineBytes_of_blank h]
    exact blankLine_eq_iff _

/-- A line that is put at a column has no newline. -/
theorem newline_not_mem_newLine {l : Nat} (h : l < s.source.lineCount) (d : IndentDecision) : '\n' ∉ s.newLine l d := by
  cases hb : s.source.firstNonblank l with
  | some b =>
    rw [newLine, hb]
    simp only
    rw [Source.chars_lineEnd hb, List.mem_append, not_or]
    have hline := Source.newline_not_mem_decode_lineBytes h
    rw [Source.decode_lineBytes, List.mem_append, not_or] at hline
    exact ⟨fun hmem => absurd (List.eq_of_mem_replicate hmem) (by decide), hline.2⟩
  | none =>
    rw [newLine, hb]
    simp only
    split <;> decide

theorem newline_not_mem_linesUnder (s : Session) (ds : List IndentDecision) : ∀ line ∈ s.linesUnder ds, '\n' ∉ line := by
  intro line hline
  rw [linesUnder, region_all, ← List.map_uncurry_zip_eq_zipWith] at hline
  obtain ⟨⟨l, d⟩, hld, rfl⟩ := List.mem_map.1 hline
  exact newline_not_mem_newLine (List.mem_range.1 (List.of_mem_zip hld).1) d

/-! ## All lines -/

/-- Lines without newlines that join to the same text are the same. -/
theorem intercalate_inj {lines other : List (List Char)} (hlines : ∀ line ∈ lines, '\n' ∉ line)
    (hother : ∀ line ∈ other, '\n' ∉ line) (hlen : lines.length = other.length)
    (h : ['\n'].intercalate lines = ['\n'].intercalate other) : lines = other := by
  by_cases hne : lines = []
  · subst hne
    exact (List.length_eq_zero_iff.1 hlen.symm).symm
  · have hne' : other ≠ [] := fun hnil => hne (List.length_eq_zero_iff.1 (by rw [hlen, hnil, List.length_nil]))
    rw [← List.splitOn_intercalate '\n' hlines hne, h, List.splitOn_intercalate '\n' hother hne']

/-- Two lists agree entry by entry, one of them made from pairs. -/
theorem zipWith_eq_map_iff {α β γ : Type} (f : α → β → γ) (g : α → γ) {as : List α} {bs : List β}
    (hlen : bs.length = as.length) :
    List.zipWith f as bs = as.map g ↔ List.Forall₂ (fun a b => f a b = g a) as bs := by
  induction as generalizing bs with
  | nil =>
    obtain rfl := List.length_eq_zero_iff.1 hlen
    simp
  | cons a as ih =>
    cases bs with
    | nil => simp at hlen
    | cons b bs =>
      rw [List.zipWith_cons_cons, List.map_cons, List.cons.injEq, List.forall₂_cons, ih (Nat.succ.inj hlen)]

/-- Nothing changes under decisions, one for each line, exactly when every line stands where its decision puts it. -/
theorem linesUnder_eq_text_iff {ds : List IndentDecision} (hlen : ds.length = s.source.lineCount) :
    String.ofList (['\n'].intercalate (s.linesUnder ds)) = s.text ↔
      List.Forall₂ (fun l d => s.source.StandsAt l d.column) (List.range s.source.lineCount) ds := by
  have hold : ∀ line ∈ (List.range s.source.lineCount).map fun l => Utf8.decode (s.source.lineBytes l), '\n' ∉ line := by
    intro line hline
    obtain ⟨l, hl, rfl⟩ := List.mem_map.1 hline
    exact Source.newline_not_mem_decode_lineBytes (List.mem_range.1 hl)
  have hnew := newline_not_mem_linesUnder s ds
  rw [text, Source.text, Source.chars_lines]
  rw [linesUnder, region_all] at hnew ⊢
  have hjoined : String.ofList (['\n'].intercalate (List.zipWith s.newLine (List.range s.source.lineCount) ds)) =
        String.ofList (['\n'].intercalate ((List.range s.source.lineCount).map fun l => Utf8.decode (s.source.lineBytes l))) ↔
      List.zipWith s.newLine (List.range s.source.lineCount) ds =
        (List.range s.source.lineCount).map fun l => Utf8.decode (s.source.lineBytes l) := by
    refine ⟨fun h => ?_, fun h => by rw [h]⟩
    exact intercalate_inj hnew hold (by simp [hlen]) (String.ofList_injective h)
  rw [hjoined, zipWith_eq_map_iff _ _ (by simpa using hlen)]
  simp only [newLine_eq_iff]

/-! ## Room -/

/-- The new lines are those under the decisions. -/
theorem newLines_eq_ok {ds : List IndentDecision} {lines : List (List Char)} (h : s.newLines ds = .ok lines) :
    lines = s.linesUnder ds := by
  rw [newLines] at h
  split at h
  · cases h
  · exact (Except.ok.inj h).symm

/-- There is room for a line exactly when it is blank or its column is one that can be counted to. -/
theorem lineFault?_eq_none_iff {l : Nat} {d : IndentDecision} :
    s.lineFault? l d = none ↔ s.source.firstNonblank l = none ∨ d.column ≤ Extent.countable := by
  rw [lineFault?]
  split
  next hblank => exact iff_of_true rfl (.inl (Option.isNone_iff_eq_none.1 hblank))
  next hplain =>
    rw [Option.isNone_iff_eq_none] at hplain
    rw [Extent.fault?_eq_none_iff, or_iff_right hplain]

/-- There is room for lines that stand where they are put. -/
theorem newLines_of_standsAt {ds : List IndentDecision}
    (h : List.Forall₂ (fun l d => s.source.StandsAt l d.column) (List.range s.source.lineCount) ds) :
    s.newLines ds = .ok (s.linesUnder ds) := by
  have hroom : (List.zipWith s.lineFault? (s.region 0 none) ds).findSome? id = none := by
    rw [List.findSome?_eq_none_iff, region_all, ← List.map_uncurry_zip_eq_zipWith]
    intro fault hfault
    obtain ⟨⟨l, d⟩, hld, rfl⟩ := List.mem_map.1 hfault
    have hstands := List.forall₂_zip h hld
    refine lineFault?_eq_none_iff.2 (or_iff_not_imp_left.2 fun hplain => ?_)
    obtain ⟨b, hb⟩ := Option.ne_none_iff_exists'.1 hplain
    exact Int.le_trans (Source.le_size_of_standsAt hb hstands) (Int.ofNat_le.2 s.counted)
  rw [newLines, hroom]

/-- The text that results is that of the new lines. -/
theorem reindent_fst (s : Session) :
    s.reindent.1 = (s.newLines (s.indentLines 0 none).1).map fun lines => String.ofList (['\n'].intercalate lines) := by
  simp only [reindent]
  cases s.newLines (s.indentLines 0 none).1 <;> rfl

/-- What results, when a text can be indented anew, is the text of the lines under the decisions. -/
theorem eq_of_reindent {text : String} (h : s.reindent.1 = .ok text) :
    text = String.ofList (['\n'].intercalate (s.linesUnder (s.indentLines 0 none).1)) := by
  rw [reindent_fst] at h
  cases hlines : s.newLines (s.indentLines 0 none).1 with
  | error fault =>
    rw [hlines] at h
    cases h
  | ok lines =>
    rw [hlines] at h
    rw [← newLines_eq_ok hlines]
    exact (Except.ok.inj h).symm

end AwkEdit.Session
