import AwkEdit.Proofs.Session.Decisions

/-!
# The text that results, line by line

A text is indented anew line by line: what leads a line gives way to as many spaces as the column decided for it says, and of a
blank line nothing is left but a carriage return at its end. Lines are found among the bytes, and each is read for itself, broken
parts included; since a broken part is never read as a blank, the blanks that lead a line are the same among its bytes and among
its characters (`dropWhile_decode_lineBytes`). So the lines that the text is read as decide what results (`reindent_lines`). A
text that ends in blanks gains a final newline in that way, since its last line comes back empty.
-/

namespace AwkEdit

/-! ## Blanks -/

/-- Whether a character is one of the blanks that may lead a line. -/
def isBlankChar (c : Char) : Bool := c == ' ' || c == '\t' || c == '\r' || c == '\x0C' || c == '\x0B'

/-- A blank byte is read as a blank, and as a carriage return only if it is one. -/
theorem isBlankChar_ofNat {b : UInt8} (h : isBlankByte b = true) :
    isBlankChar (Char.ofNat b.toNat) = true ∧ (Char.ofNat b.toNat = '\r' ↔ b = 0x0D) := by
  simp only [isBlankByte, Bool.or_eq_true, beq_iff_eq] at h
  rcases h with (((rfl | rfl) | rfl) | rfl) | rfl <;> decide

/-- A blank is the character of a blank byte. -/
theorem byte_of_isBlankChar {c : Char} (h : isBlankChar c = true) :
    isBlankByte (UInt8.ofNat c.toNat) = true ∧ 0 < c.toNat ∧ c.toNat < 128 := by
  simp only [isBlankChar, Bool.or_eq_true, beq_iff_eq] at h
  rcases h with (((rfl | rfl) | rfl) | rfl) | rfl <;> decide

/-- Bytes that do not start with a blank are not read with a blank at the front. -/
theorem dropWhile_decode {bytes : List UInt8} (h : ∀ b ∈ bytes.head?, isBlankByte b = false) :
    (Utf8.decode bytes).dropWhile isBlankChar = Utf8.decode bytes := by
  cases bytes with
  | nil => rfl
  | cons b bytes =>
    obtain ⟨c, rest, hc, hvalue⟩ := Utf8.head_decode_cons b bytes
    have hplain : ¬isBlankChar c = true := by
      intro hblank
      obtain ⟨hbyte, hpos, hascii⟩ := byte_of_isBlankChar hblank
      rcases hvalue with hvalue | hvalue
      · rw [hvalue, UInt8.ofNat_toNat, h b rfl] at hbyte
        cases hbyte
      · omega
    rw [hc, List.dropWhile_cons_of_neg hplain]

namespace Source

/-- The blanks that lead a line among its bytes are those that lead it among its characters. -/
theorem dropWhile_decode_lineBytes (s : Source) (l : Nat) :
    (Utf8.decode (s.lineBytes l)).dropWhile isBlankChar = Utf8.decode (s.significant l) := by
  have hleading : ∀ c ∈ (s.leading l).map (Char.ofNat ·.toNat), isBlankChar c = true :=
    List.forall_mem_map.2 fun b hb => (isBlankChar_ofNat (isBlankByte_of_mem_leading hb)).1
  rw [decode_lineBytes, List.dropWhile_append_of_pos hleading, dropWhile_decode (s.head?_significant l)]

/-- A line is blank among its bytes exactly when it is among its characters. -/
theorem all_isBlankChar_iff (s : Source) (l : Nat) :
    (Utf8.decode (s.lineBytes l)).all isBlankChar = true ↔ s.firstNonblank l = none := by
  rw [List.all_eq_true, ← List.dropWhile_eq_nil_iff, dropWhile_decode_lineBytes, firstNonblank_eq_none_iff,
    Utf8.decode_eq_nil_iff]

/-- A blank line ends in a carriage return among its bytes exactly when it does among its characters. -/
theorem getLast?_decode_lineBytes {s : Source} {l : Nat} (h : s.firstNonblank l = none) :
    (Utf8.decode (s.lineBytes l)).getLast? = some '\r' ↔ (s.lineBytes l).getLast? = some 0x0D := by
  rw [decode_lineBytes_of_blank h, List.getLast?_map, Option.map_eq_some_iff]
  constructor
  · rintro ⟨b, hb, hreturn⟩
    have hmem : b ∈ s.leading l := by
      rw [leading_of_blank h]
      exact List.mem_of_getLast? hb
    rw [hb, (isBlankChar_ofNat (isBlankByte_of_mem_leading hmem)).2.1 hreturn]
  · intro hb
    exact ⟨0x0D, hb, by decide⟩

end Source

/-! ## One line -/

/-- The lines of a text. -/
def linesOf (text : String) : List (List Char) := text.toList.splitOn '\n'

/-- A line as it is put at a column: spaces take the place of the blanks that lead it, and of a blank line nothing is left but a
carriage return at its end. -/
def putAt (column : Int) (line : List Char) : List Char :=
  if line.all isBlankChar then if line.getLast? = some '\r' then ['\r'] else []
  else List.replicate column.toNat ' ' ++ line.dropWhile isBlankChar

/-- Nothing is left of the blank lines that do not end in a carriage return. -/
theorem putAt_eq_nil_iff {column : Int} {line : List Char} :
    putAt column line = [] ↔ line.all isBlankChar = true ∧ line.getLast? ≠ some '\r' := by
  rw [putAt]
  split
  next hblank =>
    split
    next hreturn => simp [hreturn]
    next hreturn => exact iff_of_true rfl ⟨hblank, hreturn⟩
  next hplain =>
    rw [List.append_eq_nil_iff, List.dropWhile_eq_nil_iff, ← List.all_eq_true]
    exact iff_of_false (fun h => hplain h.2) fun h => hplain h.1

namespace Session

variable {s : Session} {text : String}

/-- A line is put at its column as what it is read as. -/
theorem newLine_eq_putAt (s : Session) (l : Nat) (d : IndentDecision) :
    s.newLine l d = putAt d.column (Utf8.decode (s.source.lineBytes l)) := by
  cases hb : s.source.firstNonblank l with
  | some b =>
    have hplain : ¬(Utf8.decode (s.source.lineBytes l)).all isBlankChar = true := by
      rw [Source.all_isBlankChar_iff, hb]
      exact Option.some_ne_none b
    rw [putAt, if_neg hplain, Source.dropWhile_decode_lineBytes, newLine, hb]
    simp only
    rw [Source.chars_lineEnd hb]
  | none =>
    rw [putAt, if_pos ((Source.all_isBlankChar_iff _ _).2 hb), newLine, hb]
    simp only [Source.getLast?_decode_lineBytes hb]

/-! ## All lines -/

/-- The lines that the text is read as. -/
theorem linesOf_text (s : Session) :
    linesOf s.text = (List.range s.source.lineCount).map fun l => Utf8.decode (s.source.lineBytes l) := by
  rw [linesOf, text, Source.text, String.toList_ofList, Source.chars_lines, List.splitOn_intercalate]
  · exact List.forall_mem_map.2 fun l hl => Source.newline_not_mem_decode_lineBytes (List.mem_range.1 hl)
  · simpa using Nat.pos_iff_ne_zero.1 s.source.lineCount_pos

/-- The lines of the text that results. -/
theorem linesOf_of_reindent (h : s.reindent.1 = .ok text) :
    linesOf text =
      (List.range s.source.lineCount).map fun l => putAt (s.decisionAt l).column (Utf8.decode (s.source.lineBytes l)) := by
  have hlines : s.linesUnder (s.indentLines 0 none).1 =
      (List.range s.source.lineCount).map fun l => putAt (s.decisionAt l).column (Utf8.decode (s.source.lineBytes l)) := by
    rw [linesUnder, region_all, indentLines_eq_map, List.zipWith_map_right, List.zipWith_self]
    simp only [newLine_eq_putAt]
  rw [linesOf, eq_of_reindent h, String.toList_ofList,
    List.splitOn_intercalate '\n' (newline_not_mem_linesUnder s _) ?_, hlines]
  rw [hlines]
  simpa using Nat.pos_iff_ne_zero.1 s.source.lineCount_pos

/-- A line of the text is what is read from the bytes of the line. -/
theorem getElem?_linesOf_text {l : Nat} {line : List Char} :
    (linesOf s.text)[l]? = some line ↔ l < s.source.lineCount ∧ Utf8.decode (s.source.lineBytes l) = line := by
  rw [linesOf_text, List.getElem?_map]
  by_cases hl : l < s.source.lineCount
  · rw [List.getElem?_range hl, Option.map_some, Option.some.injEq, and_iff_right hl]
  · rw [List.getElem?_eq_none (by simpa using hl), Option.map_none]
    exact iff_of_false nofun fun h => hl h.1

/-- The last line of the text that results is the last line of the text, put somewhere. -/
theorem getLast?_linesOf (h : s.reindent.1 = .ok text) :
    ∃ line column, (linesOf s.text).getLast? = some line ∧ (linesOf text).getLast? = some (putAt column line) := by
  have hlast : (List.range s.source.lineCount).getLast? = some (s.source.lineCount - 1) := by
    rw [List.getLast?_range, if_neg (Nat.pos_iff_ne_zero.1 s.source.lineCount_pos)]
  rw [linesOf_text, linesOf_of_reindent h, List.getLast?_map, List.getLast?_map, hlast]
  exact ⟨_, _, rfl, rfl⟩

/-! ## Final newlines -/

/-- A newline and joined lines after it end in a newline exactly when the last line is empty. -/
theorem getLast?_newline_cons_iff {lines : List (List Char)} (hne : lines ≠ []) (h : ∀ line ∈ lines, '\n' ∉ line) :
    ('\n' :: ['\n'].intercalate lines).getLast? = some '\n' ↔ lines.getLast? = some [] := by
  induction lines with
  | nil => exact absurd rfl hne
  | cons line lines ih =>
    rw [List.forall_mem_cons] at h
    cases lines with
    | nil =>
      rw [List.intercalate_singleton, List.getLast?_singleton, Option.some.injEq]
      cases line with
      | nil => exact iff_of_true rfl rfl
      | cons c line =>
        rw [List.getLast?_cons_cons]
        exact iff_of_false (fun hlast => h.1 (List.mem_of_getLast? hlast)) (List.cons_ne_nil c line)
    | cons next lines =>
      rw [List.intercalate_cons_cons, List.append_assoc, List.singleton_append, ← List.cons_append, List.getLast?_append_cons,
        List.getLast?_cons_cons]
      exact ih (List.cons_ne_nil _ _) h.2

/-- Lines join to a text that ends in a newline exactly when there are several of them and the last one is empty. -/
theorem getLast?_intercalate_iff {lines : List (List Char)} (h : ∀ line ∈ lines, '\n' ∉ line) :
    (['\n'].intercalate lines).getLast? = some '\n' ↔ 2 ≤ lines.length ∧ lines.getLast? = some [] := by
  match lines, h with
  | [], _ => simp
  | [line], h =>
    rw [List.intercalate_singleton]
    exact iff_of_false (fun hlast => h line List.mem_cons_self (List.mem_of_getLast? hlast)) (by simp)
  | line :: next :: lines, h =>
    rw [List.intercalate_cons_cons, List.append_assoc, List.singleton_append, List.getLast?_append_cons,
      getLast?_newline_cons_iff (List.cons_ne_nil _ _) (List.forall_mem_cons.1 h).2, List.getLast?_cons_cons]
    exact (and_iff_right (Nat.le_add_left 2 _)).symm

/-- A text ends in a newline exactly when it has several lines and the last one is empty. -/
theorem getLast?_toList_iff (text : String) :
    text.toList.getLast? = some '\n' ↔ 2 ≤ (linesOf text).length ∧ (linesOf text).getLast? = some [] := by
  have hjoined : ['\n'].intercalate (linesOf text) = text.toList := List.intercalate_splitOn '\n'
  have hlast := getLast?_intercalate_iff fun line (hline : line ∈ linesOf text) => not_mem_of_mem_splitOn hline
  rwa [hjoined] at hlast

/-! ## Room -/

/-- A text can be indented anew exactly when there is room for all its lines. -/
theorem exists_reindent_iff (s : Session) :
    (∃ text, s.reindent.1 = .ok text) ↔
      ∀ l < s.source.lineCount, s.source.firstNonblank l = none ∨ (s.decisionAt l).column ≤ Extent.countable := by
  have hroom : (List.zipWith s.lineFault? (s.region 0 none) (s.indentLines 0 none).1).findSome? id = none ↔
      ∀ l < s.source.lineCount, s.source.firstNonblank l = none ∨ (s.decisionAt l).column ≤ Extent.countable := by
    rw [List.findSome?_eq_none_iff, region_all, indentLines_eq_map, List.zipWith_map_right, List.zipWith_self,
      List.forall_mem_map]
    simp only [List.mem_range, id, lineFault?_eq_none_iff]
  rw [← hroom, reindent_fst, newLines]
  split
  next fault hfault => simp [hfault, Except.map]
  next hnone => simp [hnone, Except.map]

/-! ## The whole text -/

/-- Indenting a text anew fails only for want of room for a line that is not blank. Otherwise the text that results has as many lines
as the text, one for each decision, and each is the line put at the column decided for it. It ends in a newline if the text does,
and besides exactly when the text has several lines and the last one, not empty, consists of blanks and does not end in a carriage
return. -/
theorem reindent_lines (s : Session) :
    ((∃ text, s.reindent.1 = .ok text) ↔
      ∀ (l : Nat) (line : List Char) (d : IndentDecision), (linesOf s.text)[l]? = some line →
        (s.indentLines 0 none).1[l]? = some d → line.all isBlankChar = true ∨ d.column ≤ Extent.countable) ∧
    ∀ text, s.reindent.1 = .ok text →
      (linesOf text).length = (linesOf s.text).length ∧
      (s.indentLines 0 none).1.length = (linesOf s.text).length ∧
      (∀ (l : Nat) (line : List Char) (d : IndentDecision), (linesOf s.text)[l]? = some line →
        (s.indentLines 0 none).1[l]? = some d → 0 ≤ d.column ∧ (linesOf text)[l]? = some (putAt d.column line)) ∧
      (s.text.toList.getLast? = some '\n' → text.toList.getLast? = some '\n') ∧
      (text.toList.getLast? = some '\n' ∧ s.text.toList.getLast? ≠ some '\n' ↔
        2 ≤ (linesOf s.text).length ∧ ∃ line, (linesOf s.text).getLast? = some line ∧
          line ≠ [] ∧ line.all isBlankChar = true ∧ line.getLast? ≠ some '\r') := by
  refine ⟨?_, fun text h => ?_⟩
  · rw [exists_reindent_iff]
    constructor
    · intro hroom l line d hline hd
      obtain ⟨hl, rfl⟩ := getElem?_linesOf_text.1 hline
      rw [getElem?_indentLines hl] at hd
      rw [Source.all_isBlankChar_iff, ← Option.some.inj hd]
      exact hroom l hl
    · intro hroom l hl
      rw [← Source.all_isBlankChar_iff]
      exact hroom l _ _ (getElem?_linesOf_text.2 ⟨hl, rfl⟩) (getElem?_indentLines hl)
  obtain ⟨last, column, hold, hnew⟩ := getLast?_linesOf h
  have hlength : (linesOf text).length = (linesOf s.text).length := by
    rw [linesOf_of_reindent h, linesOf_text, List.length_map, List.length_map]
  refine ⟨hlength, ?_, fun l line d hline hd => ?_, ?_, ?_⟩
  · rw [length_indentLines, linesOf_text, List.length_map, List.length_range]
  · obtain ⟨hl, rfl⟩ := getElem?_linesOf_text.1 hline
    rw [getElem?_indentLines hl] at hd
    rw [← Option.some.inj hd, linesOf_of_reindent h, List.getElem?_map, List.getElem?_range hl]
    exact ⟨s.decisionAt_column_nonneg l, rfl⟩
  -- Either text ends in a newline when its last line is empty, and both have as many lines.
  · rw [getLast?_toList_iff, getLast?_toList_iff, hlength, hold, hnew, Option.some.injEq, Option.some.injEq, putAt_eq_nil_iff]
    rintro ⟨hseveral, rfl⟩
    exact ⟨hseveral, rfl, nofun⟩
  · rw [Ne, getLast?_toList_iff, getLast?_toList_iff, hlength, hold, hnew, Option.some.injEq, Option.some.injEq,
      putAt_eq_nil_iff]
    constructor
    · rintro ⟨⟨hseveral, hblank⟩, hmissing⟩
      exact ⟨hseveral, last, rfl, fun hnil => hmissing ⟨hseveral, hnil⟩, hblank⟩
    · rintro ⟨hseveral, line, hline, hne, hblank⟩
      obtain rfl := Option.some.inj hline
      exact ⟨⟨hseveral, hblank⟩, fun hend => hne hend.2⟩

/-- The word of the ragged block is put where it belongs, and the final newline stays. -/
theorem reindent_lines_ragged :
    ragged.reindent.1 = .ok "\x7b\n    x\n\n\x7d\n" ∧ (linesOf ragged.text)[1]? = some ['\t', 'x'] ∧
      ragged.text.toList.getLast? = some '\n' ∧
      (∃ d, (ragged.indentLines 0 none).1[1]? = some d ∧
        (linesOf "\x7b\n    x\n\n\x7d\n")[1]? = some (putAt d.column ['\t', 'x'])) ∧
      "\x7b\n    x\n\n\x7d\n".toList.getLast? = some '\n' := by
  have htext : ragged.reindent.1 = .ok "\x7b\n    x\n\n\x7d\n" := by decide +kernel
  have hline : (linesOf ragged.text)[1]? = some ['\t', 'x'] := by decide +kernel
  have hold : ragged.text.toList.getLast? = some '\n' := by decide +kernel
  have hd := getElem?_indentLines (s := ragged) (l := 1) (by decide)
  obtain ⟨-, -, hlines, hends, -⟩ := (reindent_lines ragged).2 _ htext
  exact ⟨htext, hline, hold, ⟨_, hd, (hlines 1 _ _ hline hd).2⟩, hends hold⟩

/-! ### A text that ends in blanks -/

/-- A word, on a line of its own. -/
def wordTree : Node :=
  .mk { type := "program", start := 0, stop := 4 } [.mk { type := "identifier", start := 0, stop := 1 } []]

/-- After the word comes a line of two spaces, and no newline. -/
def blankEnd : Session :=
  ⟨⟨wordTree, .ofString "x\n  ", by simp only [wordTree, Node.Valid, Node.ValidAll, Node.Laid]; decide⟩, settings, Awk.language,
    by decide⟩

/-- The last line comes back empty, so what results ends in a newline, though the text does not. -/
theorem reindent_blankEnd :
    blankEnd.text = "x\n  " ∧ blankEnd.reindent.1 = .ok "x\n" ∧
      ¬∀ (s : Session) (text : String), s.reindent.1 = .ok text →
        (text.toList.getLast? = some '\n' ↔ s.text.toList.getLast? = some '\n') := by
  have hold : blankEnd.text = "x\n  " := by decide +kernel
  have hnew : blankEnd.reindent.1 = .ok "x\n" := by decide +kernel
  refine ⟨hold, hnew, fun hsame => ?_⟩
  have hends := (hsame blankEnd _ hnew).1 (by decide)
  rw [hold] at hends
  exact absurd hends (by decide)

end Session

end AwkEdit
