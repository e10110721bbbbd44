import AwkEdit.Proofs.Source.TabStops

/-!
# Columns along a line

From one byte of a line to the next the column goes on by what the byte adds: a tab reaches to the next stop, any other byte is
one more character or belongs to the one before it, in broken text as well. So columns never go back along a line
(`column_along_line`).
-/

namespace AwkEdit.Source

variable {s : Source} {l p q : Nat} {tabWidth : Int}

/-! ## One byte more -/

/-- With tabs that have a width every position has a column. -/
theorem column?_eq_some (h : 1 ≤ tabWidth) (pos : Int) : s.column? tabWidth pos = some (s.column tabWidth pos) :=
  if_neg fun hnone => by omega

/-- Past a tab the column is that of the tab. -/
theorem foldl_advance_tab (tabWidth : Int) (xs : List UInt8) :
    (Utf8.decode (xs ++ [0x09])).foldl (advance tabWidth) 0 =
      advance tabWidth ((Utf8.decode xs).foldl (advance tabWidth) 0) '\t' := by
  rw [Utf8.decode_append_ascii (by decide), Utf8.decode_nil, List.foldl_append]
  rfl

/-- Past any other byte the column is the one before it or the next: what was the broken part at the end takes up one column, and
so does what the byte makes of it. -/
theorem foldl_advance_concat (tabWidth : Int) (xs : List UInt8) {b : UInt8} (hb : b ≠ 0x09) :
    (Utf8.decode (xs ++ [b])).foldl (advance tabWidth) 0 = (Utf8.decode xs).foldl (advance tabWidth) 0 ∨
      (Utf8.decode (xs ++ [b])).foldl (advance tabWidth) 0 = (Utf8.decode xs).foldl (advance tabWidth) 0 + 1 := by
  have htab : ∀ c : Char, c.toNat = b.toNat ∨ c.toNat = 0 ∨ 128 ≤ c.toNat → c ≠ '\t' := by
    rintro c hvalue rfl
    rcases hvalue with hvalue | hvalue | hvalue
    · exact hb (UInt8.toNat_inj.1 hvalue.symm)
    · exact absurd hvalue (by decide)
    · exact absurd hvalue (by decide)
  rcases Utf8.decode_concat xs b with ⟨c, hvalue, hread⟩ | ⟨cs, c, hvalue, hxs, hread⟩
  · have hc := htab c (hvalue.imp_right .inr)
    right
    rw [hread, List.foldl_append, List.foldl_cons, List.foldl_nil, advance_of_ne hc]
  · have hc := htab c (.inr hvalue)
    left
    rw [hread, hxs, List.foldl_append, List.foldl_append, List.foldl_cons, List.foldl_cons, List.foldl_nil, List.foldl_nil,
      advance_of_ne hc, advance_of_ne (by decide)]

/-- What a byte of a line adds to the column. -/
theorem column_succ (tabWidth : Int) (h : l < s.lineCount) (hlow : s.lineStart l ≤ p) (hhigh : p < s.lineEnd l) :
    ∃ b, s.bytes[p]? = some b ∧
      (b = 0x09 → s.column tabWidth (p + 1 : Nat) = advance tabWidth (s.column tabWidth p) '\t') ∧
      (b ≠ 0x09 → s.column tabWidth (p + 1 : Nat) = s.column tabWidth p ∨
        s.column tabWidth (p + 1 : Nat) = s.column tabWidth p + 1) := by
  obtain ⟨k, rfl⟩ := Nat.exists_eq_add_of_le hlow
  have hend := length_lineBytes h
  have hk : k < (s.lineBytes l).length := by omega
  have hbyte := getElem?_lineBytes hhigh
  rw [List.getElem?_eq_getElem hk] at hbyte
  refine ⟨_, hbyte.symm, ?_⟩
  rw [Nat.add_assoc, column_lineStart_add tabWidth h hk, column_lineStart_add tabWidth h (Nat.le_of_lt hk),
    List.take_succ_eq_append_getElem hk]
  exact ⟨fun hb => hb ▸ foldl_advance_tab tabWidth _, foldl_advance_concat tabWidth _⟩

/-- A byte of a line never leads back to the left. -/
theorem column_le_succ (hwidth : 1 ≤ tabWidth) (h : l < s.lineCount) (hlow : s.lineStart l ≤ p) (hhigh : p < s.lineEnd l) :
    s.column tabWidth p ≤ s.column tabWidth (p + 1 : Nat) := by
  obtain ⟨b, -, htab, hother⟩ := column_succ tabWidth h hlow hhigh
  by_cases hb : b = 0x09
  · rw [htab hb]
    exact Int.le_of_lt (lt_advance (by omega) _ _)
  · have := hother hb
    omega

/-- Along a line columns go up. -/
theorem column_mono (hwidth : 1 ≤ tabWidth) (h : l < s.lineCount) (hlow : s.lineStart l ≤ p) (hle : p ≤ q)
    (hhigh : q ≤ s.lineEnd l) : s.column tabWidth p ≤ s.column tabWidth q := by
  induction q, hle using Nat.le_induction with
  | base => exact Int.le_refl _
  | succ q hle ih =>
    have hstep : s.column tabWidth q ≤ s.column tabWidth (q + 1 : Nat) := column_le_succ hwidth h (hlow.trans hle) hhigh
    exact Int.le_trans (ih (Nat.le_of_succ_le hhigh)) hstep

/-- On a line of ASCII bytes without tabs columns are offsets from the start of the line. -/
theorem column_of_ascii (tabWidth : Int) (h : l < s.lineCount) (hplain : ∀ b ∈ s.lineBytes l, b < 0x80 ∧ b ≠ 0x09)
    (hlow : s.lineStart l ≤ p) (hhigh : p ≤ s.lineEnd l) : s.column tabWidth p = p - s.lineStart l := by
  obtain ⟨k, rfl⟩ := Nat.exists_eq_add_of_le hlow
  have hend := length_lineBytes h
  have hk : k ≤ (s.lineBytes l).length := by omega
  have hplain : ∀ b ∈ (s.lineBytes l).take k, b < 0x80 ∧ b ≠ 0x09 := fun b hb => hplain b (List.mem_of_mem_take hb)
  have hread := Utf8.decode_ascii_append (fun b hb => (hplain b hb).1) []
  rw [Utf8.decode_nil, List.append_nil, List.append_nil] at hread
  have htab : '\t' ∉ Utf8.decode ((s.lineBytes l).take k) :=
    Utf8.not_mem_decode (by decide) (by decide) fun b hb heq => (hplain b hb).2 (UInt8.toNat_inj.1 heq)
  rw [column_lineStart_add tabWidth h hk, foldl_advance_of_not_mem htab, hread, List.length_map, List.length_take,
    Nat.min_eq_left hk]
  omega

/-! ## Along a line -/

/-- On every line of every byte string, broken or not, the columns start at zero and never go back: a tab leads to the next
multiple of the tab width, any other byte on by one or not at all, and on a line of ASCII bytes without tabs each by one. -/
theorem column_along_line (bytes : List UInt8) {l : Nat} {tabWidth : Int} (hwidth : 1 ≤ tabWidth)
    (hl : l < (ofBytes bytes).lineCount) :
    let s := ofBytes bytes
    (∀ pos : Int, s.column? tabWidth pos = some (s.column tabWidth pos)) ∧ s.column tabWidth (s.lineStart l) = 0 ∧
      (∀ p q : Nat, s.lineStart l ≤ p → p ≤ q → q ≤ s.lineEnd l → s.column tabWidth p ≤ s.column tabWidth q) ∧
      (∀ p : Nat, s.lineStart l ≤ p → p < s.lineEnd l → ∃ b, bytes[p]? = some b ∧
        (b = 0x09 → s.column tabWidth p + 1 ≤ s.column tabWidth (p + 1 : Nat) ∧
          s.column tabWidth (p + 1 : Nat) ≤ s.column tabWidth p + tabWidth ∧ tabWidth ∣ s.column tabWidth (p + 1 : Nat)) ∧
        (b ≠ 0x09 → s.column tabWidth (p + 1 : Nat) = s.column tabWidth p ∨
          s.column tabWidth (p + 1 : Nat) = s.column tabWidth p + 1)) ∧
      ((∀ b ∈ s.lineBytes l, b < 0x80 ∧ b ≠ 0x09) →
        ∀ p : Nat, s.lineStart l ≤ p → p ≤ s.lineEnd l → s.column tabWidth p = p - s.lineStart l) := by
  intro s
  refine ⟨column?_eq_some hwidth, column_lineStart tabWidth hl, fun p q => column_mono hwidth hl, fun p hlow hhigh => ?_,
    fun hplain p => column_of_ascii tabWidth hl hplain⟩
  obtain ⟨b, hbyte, htab, hother⟩ := column_succ tabWidth hl hlow hhigh
  refine ⟨b, hbyte, fun hb => ?_, hother⟩
  rw [htab hb]
  exact advance_tab_range (by omega) _

/-- A tab, a character that a bracket cuts short, and a line of two letters. -/
def cutShort : List UInt8 := [0x09, 0xE2, 0x82, 0x28, newline, 0x61, 0x62]

/-- The first byte of the character that is cut short takes up a column, the second none, and the bracket the next one. -/
theorem column_along_line_broken :
    let s := ofBytes cutShort
    (1 : Int) ≤ 8 ∧ 0 < s.lineCount ∧ 1 < s.lineCount ∧
      [0, 1, 2, 3, 4].map (fun p : Nat => s.column 8 p) = [0, 8, 9, 9, 10] ∧ s.column 8 (1 : Nat) ≤ s.column 8 (4 : Nat) ∧
      (∀ b ∈ s.lineBytes 1, b < 0x80 ∧ b ≠ 0x09) ∧ s.column 8 (7 : Nat) = (7 : Nat) - s.lineStart 1 := by
  have hmono := (column_along_line cutShort (l := 0) (show (1 : Int) ≤ 8 by decide) (by decide)).2.2.1
  have hplain := (column_along_line cutShort (l := 1) (show (1 : Int) ≤ 8 by decide) (by decide)).2.2.2.2
  have hletters : (ofBytes cutShort).lineBytes 1 = [0x61, 0x62] := by decide
  have hascii : ∀ b ∈ (ofBytes cutShort).lineBytes 1, b < 0x80 ∧ b ≠ 0x09 := by
    rw [hletters, List.forall_mem_cons, List.forall_mem_singleton]
    decide
  exact ⟨by decide, by decide, by decide, by decide, hmono 1 4 (by decide) (by decide) (by decide), hascii,
    hplain hascii 7 (by decide) (by decide)⟩

end AwkEdit.Source
