import AwkEdit.Proofs.Source.Variant

/-!
# Spans over lines

A span over several lines is what is left of its first line, and after a newline what the span has of the lines below. In a
variant of a text the same span has the same lines but for what leads the lines that begin in it, so it is the same span exactly
when those lines are led by the same blanks: `Variant.span_eq_iff`.
-/

namespace AwkEdit.Source

variable {s t : Source} {l m b c : Nat}

/-! ## Taking a span apart -/

/-- A span is what it has up to an offset in it and what it has from there. -/
theorem between_append {i j k : Nat} (hij : i ≤ j) (hjk : j ≤ k) (hk : k ≤ s.size) :
    s.between i k = s.between i j ++ s.between j k := by
  have hlen : (s.bytes.take j).length = j := by
    rw [List.length_take, length_bytes]
    omega
  have hsplit := List.take_append_drop j (s.bytes.take k)
  rw [List.take_take, Nat.min_eq_left hjk] at hsplit
  rw [between_eq, between_eq, between_eq, ← List.drop_append_of_le_length (by omega), hsplit]

/-- Between the end of a line and the start of the next is the newline. -/
theorem between_lineEnd_lineStart (h : l + 1 < s.lineCount) : s.between (s.lineEnd l) (s.lineStart (l + 1)) = [newline] := by
  have hcount : l + 1 < s.lines.length := s.lineCount_eq ▸ h
  have hrest : s.bytes.drop (offset s.lines l) = s.lines[l] ++ newline :: [newline].intercalate (s.lines.drop (l + 1)) := by
    rw [← intercalate_lines, drop_offset (by omega), List.drop_eq_getElem_cons (Nat.lt_of_succ_lt hcount),
      List.drop_eq_getElem_cons hcount, List.intercalate_cons_cons, List.append_assoc]
    rfl
  rw [lineStart_succ h, between_eq, List.drop_take, Nat.add_sub_cancel_left, lineEnd_eq (Nat.lt_of_succ_lt hcount),
    ← List.drop_drop, hrest, List.drop_left]
  rfl

/-- A span that goes on below a line is what is left of the line, the newline, and what the span has from the next line on. -/
theorem between_lines {p q : Nat} (hlm : l < m) (hm : m < s.lineCount) (hp : p ≤ s.lineEnd l) (hlow : s.lineStart m ≤ q)
    (hhigh : q ≤ s.lineEnd m) :
    s.between p q = s.between p (s.lineEnd l) ++ newline :: s.between (s.lineStart (l + 1)) q := by
  have hsucc := lineStart_succ (s := s) (l := l) (by omega)
  have hlt := lineEnd_lt_lineStart hlm hm
  have hend := lineEnd_le_size hm
  have hsize : q ≤ s.size := by omega
  rw [between_append hp (by omega) hsize, between_append (j := s.lineStart (l + 1)) (by omega) (by omega) hsize,
    between_lineEnd_lineStart (by omega)]
  rfl

/-- A span that starts with a line and goes on below it is the line, the newline, and the rest. -/
theorem between_lineStart_lines {q : Nat} (hlm : l < m) (hm : m < s.lineCount) (hlow : s.lineStart m ≤ q)
    (hhigh : q ≤ s.lineEnd m) :
    s.between (s.lineStart l) q = s.lineBytes l ++ newline :: s.between (s.lineStart (l + 1)) q := by
  have hlen := length_lineBytes (s := s) (l := l) (by omega)
  exact between_lines hlm hm (by omega) hlow hhigh

/-- A span that starts after the first significant byte of a line and goes on below it is what is left of the line, the newline,
and the rest. -/
theorem between_firstNonblank_lines {i q : Nat} (hb : s.firstNonblank l = some b) (hi : b + i ≤ s.lineEnd l) (hlm : l < m)
    (hm : m < s.lineCount) (hlow : s.lineStart m ≤ q) (hhigh : q ≤ s.lineEnd m) :
    s.between (b + i) q = (s.significant l).drop i ++ newline :: s.between (s.lineStart (l + 1)) q := by
  have hend := lineEnd_of_firstNonblank hb
  have hleft := between_firstNonblank_add hb (i := i) (Nat.le_of_eq hend.symm)
  rw [List.take_length, ← hend] at hleft
  rw [between_lines hlm hm hi hlow hhigh, hleft]

/-- Neither the leading blanks of a line nor what comes after them has a newline. -/
theorem newline_not_mem_parts (h : l < s.lineCount) : newline ∉ s.leading l ∧ newline ∉ s.significant l := by
  have hline := newline_not_mem_lineBytes h
  rwa [← leading_append_significant, List.mem_append, not_or] at hline

/-! ## Visible bytes -/

/-- At the position is a byte that is neither a blank nor a newline. -/
def VisibleAt (s : Source) (pos : Int) : Prop :=
  0 ≤ pos ∧ ∃ c, s.bytes[pos.toNat]? = some c ∧ isBlankByte c = false ∧ c ≠ newline

/-- At the end of a line is a newline or nothing. -/
theorem getElem?_lineEnd (h : l < s.lineCount) : ∀ c ∈ s.bytes[s.lineEnd l]?, c = newline := by
  intro c hc
  rcases Nat.lt_or_ge (l + 1) s.lineCount with hnext | hlast
  · have hspan := between_lineEnd_lineStart hnext
    rw [lineStart_succ hnext, between_eq, List.drop_take, Nat.add_sub_cancel_left, List.take_one, List.head?_drop,
      Option.mem_def.1 hc] at hspan
    exact (List.cons.inj hspan).1
  · rw [lineEnd_last (by omega), ← length_bytes, List.getElem?_eq_none (Nat.le_refl _)] at hc
    cases hc

/-- A visible byte lies on a line with a significant byte, at or after that, before the end of the line. -/
theorem VisibleAt.exists_line {pos : Int} (h : s.VisibleAt pos) :
    ∃ l b k : Nat, s.firstNonblank l = some b ∧ pos = (b + k : Nat) ∧ b + k < s.lineEnd l := by
  obtain ⟨hpos, c, hc, hblank, hnewline⟩ := h
  obtain ⟨i, rfl⟩ := Int.eq_ofNat_of_zero_le hpos
  rw [Int.toNat_natCast] at hc
  obtain ⟨hi, -⟩ := List.getElem?_eq_some_iff.1 hc
  obtain ⟨l, hl, hlow, hhigh⟩ := Source.exists_line (Nat.le_of_lt (s.length_bytes ▸ hi))
  have hend : i < s.lineEnd l := by
    refine Nat.lt_of_le_of_ne hhigh fun heq => hnewline ?_
    rw [heq] at hc
    exact getElem?_lineEnd hl c hc
  obtain ⟨j, rfl⟩ := Nat.exists_eq_add_of_le hlow
  have hlen := length_lineBytes hl
  rw [← getElem?_lineBytes hend, ← leading_append_significant] at hc
  rw [← leading_append_significant, List.length_append] at hlen
  -- The byte is no blank, so it comes after the leading blanks.
  have hlead : (s.leading l).length ≤ j := by
    refine Nat.le_of_not_lt fun hj => ?_
    rw [List.getElem?_append_left hj] at hc
    rw [isBlankByte_of_mem_leading (List.mem_of_getElem? hc)] at hblank
    cases hblank
  have hb : s.firstNonblank l = some (s.lineStart l + (s.leading l).length) := by
    rw [firstNonblank_eq, if_neg]
    rw [← List.length_eq_zero_iff]
    omega
  exact ⟨l, _, j - (s.leading l).length, hb, by omega, by omega⟩

/-! ## Spans of variants -/

/-- The spans have the same lines but for the blanks that lead them. -/
def SameButLeads (xs ys : List UInt8) : Prop :=
  (xs.splitOn newline).map (List.dropWhile isBlankByte) = (ys.splitOn newline).map (List.dropWhile isBlankByte)

/-- Lines that are put before spans keep them the same but for the blanks that lead lines. -/
theorem SameButLeads.line {xs ys us vs : List UInt8} (hu : newline ∉ us) (hv : newline ∉ vs)
    (hlead : us.dropWhile isBlankByte = vs.dropWhile isBlankByte) (h : SameButLeads xs ys) :
    SameButLeads (us ++ newline :: xs) (vs ++ newline :: ys) := by
  rw [SameButLeads, List.splitOn_append_cons_self_of_not_mem hu, List.splitOn_append_cons_self_of_not_mem hv, List.map_cons,
    List.map_cons, hlead, h]

/-- Lines differ only in what they are, and what follows them. -/
theorem line_append_inj {xs ys us vs : List UInt8} (hu : newline ∉ us) (hv : newline ∉ vs) :
    us ++ newline :: xs = vs ++ newline :: ys ↔ us = vs ∧ xs = ys := by
  refine ⟨fun h => ?_, fun h => by rw [h.1, h.2]⟩
  have hsplit := congrArg (List.splitOn newline) h
  rw [List.splitOn_append_cons_self_of_not_mem hu, List.splitOn_append_cons_self_of_not_mem hv] at hsplit
  obtain ⟨rfl, -⟩ := List.cons.inj hsplit
  exact ⟨rfl, (List.cons.inj (List.append_cancel_left h)).2⟩

/-- A line of a variant is the same exactly when it is led by the same blanks. -/
theorem Variant.lineBytes_eq_iff (h : Variant s t) (hl : l < s.lineCount) :
    s.lineBytes l = t.lineBytes l ↔ s.leading l = t.leading l := by
  constructor
  · intro hline
    rw [leading, hline, leading]
  · intro hlead
    rw [← leading_append_significant, hlead, (h.2 l hl).1, leading_append_significant]

/-- Up to the same place of a line, variants have the same but for the blanks that lead it, and the same exactly when those are
the same. -/
theorem Variant.start_eq_iff (h : Variant s t) (hb : s.firstNonblank l = some b) (hc : t.firstNonblank l = some c) {j : Nat}
    (hj : b + j ≤ s.lineEnd l) :
    SameButLeads (s.between (s.lineStart l) (b + j)) (t.between (t.lineStart l) (c + j)) ∧
      (s.between (s.lineStart l) (b + j) = t.between (t.lineStart l) (c + j) ↔ s.leading l = t.leading l) := by
  have hl := lt_lineCount_of_firstNonblank hb
  have hfree : ∀ u : Source, l < u.lineCount → newline ∉ u.leading l ++ (u.significant l).take j := by
    intro u hu
    obtain ⟨hlead, hsig⟩ := newline_not_mem_parts hu
    rw [List.mem_append, not_or]
    exact ⟨hlead, fun hmem => hsig (List.mem_of_mem_take hmem)⟩
  have hdrop : ∀ u : Source, (u.leading l ++ (u.significant l).take j).dropWhile isBlankByte =
      ((u.significant l).take j).dropWhile isBlankByte :=
    fun u => List.dropWhile_append_of_pos fun _ => isBlankByte_of_mem_leading
  rw [between_lineStart_add hb hj, between_lineStart_add hc (h.le_lineEnd hb hc hj)]
  constructor
  · rw [SameButLeads, List.splitOn_eq_singleton (hfree s hl), List.splitOn_eq_singleton (hfree t (h.1 ▸ hl)),
      List.map_singleton, List.map_singleton, hdrop, hdrop, (h.2 l hl).1]
  · rw [(h.2 l hl).1, List.append_left_inj]

/-- From the start of a line down to the same place of a line below, variants have the same but for the blanks that lead the
lines, and the same exactly when those are the same. -/
theorem Variant.tail_eq_iff (h : Variant s t) (hb : s.firstNonblank m = some b) (hc : t.firstNonblank m = some c) {j : Nat}
    (hj : b + j ≤ s.lineEnd m) {n : Nat} (hlm : l + n = m) :
    SameButLeads (s.between (s.lineStart l) (b + j)) (t.between (t.lineStart l) (c + j)) ∧
      (s.between (s.lineStart l) (b + j) = t.between (t.lineStart l) (c + j) ↔
        ∀ k, l ≤ k → k ≤ m → s.leading k = t.leading k) := by
  have hm := lt_lineCount_of_firstNonblank hb
  have hm' := lt_lineCount_of_firstNonblank hc
  have hrange := firstNonblank_range hb
  have hrange' := firstNonblank_range hc
  have hj' := h.le_lineEnd hb hc hj
  -- The induction is on the number of lines above the last one; each of them is put before the rest with its newline.
  induction n generalizing l with
  | zero =>
    obtain rfl : l = m := hlm
    obtain ⟨hsame, hstart⟩ := h.start_eq_iff hb hc hj
    refine ⟨hsame, hstart.trans ⟨fun hlead k hlow hhigh => ?_, fun hlead => hlead l (Nat.le_refl l) (Nat.le_refl l)⟩⟩
    rw [Nat.le_antisymm hhigh hlow]
    exact hlead
  | succ n ih =>
    obtain ⟨hsame, hrest⟩ := ih (l := l + 1) (by omega)
    have hl : l < s.lineCount := by omega
    rw [between_lineStart_lines (by omega) hm (by omega) hj, between_lineStart_lines (by omega) hm' (by omega) hj']
    have hfree := newline_not_mem_lineBytes hl
    have hfree' := newline_not_mem_lineBytes (h.1 ▸ hl)
    refine ⟨hsame.line hfree hfree' (h.2 l hl).1, ?_⟩
    rw [line_append_inj hfree hfree', h.lineBytes_eq_iff hl, hrest]
    constructor
    · rintro ⟨hlead, hleads⟩ k hlow hhigh
      rcases Nat.eq_or_lt_of_le hlow with rfl | hlow
      · exact hlead
      · exact hleads k hlow hhigh
    · exact fun hleads => ⟨hleads l (Nat.le_refl l) (by omega), fun k hlow hhigh => hleads k (by omega) hhigh⟩

/-- The same span of a variant has the same first line and the same others but for the blanks that lead them, and is the same
exactly when those are the same. -/
theorem Variant.span_eq_iff (h : Variant s t) {l m b c b' c' i j : Nat} (hb : s.firstNonblank l = some b)
    (hc : t.firstNonblank l = some c) (hb' : s.firstNonblank m = some b') (hc' : t.firstNonblank m = some c') (hlm : l ≤ m)
    (hi : b + i ≤ s.lineEnd l) (hj : b' + j ≤ s.lineEnd m) :
    ((s.between (b + i) (b' + j)).splitOn newline).head? = ((t.between (c + i) (c' + j)).splitOn newline).head? ∧
      SameButLeads (s.between (b + i) (b' + j)) (t.between (c + i) (c' + j)) ∧
      (s.between (b + i) (b' + j) = t.between (c + i) (c' + j) ↔ ∀ k, l < k → k ≤ m → s.leading k = t.leading k) := by
  rcases Nat.eq_or_lt_of_le hlm with rfl | hlm
  · obtain rfl := Option.some.inj (hb.symm.trans hb')
    obtain rfl := Option.some.inj (hc.symm.trans hc')
    have hsame : s.between (b + i) (b + j) = t.between (c + i) (c + j) := by
      rw [between_firstNonblank_add hb hj, between_firstNonblank_add hc (h.le_lineEnd hb hc hj),
        (h.2 l (lt_lineCount_of_firstNonblank hb)).1]
    rw [hsame]
    exact ⟨rfl, rfl, iff_of_true rfl fun k hlow hhigh => by omega⟩
  · have hm := lt_lineCount_of_firstNonblank hb'
    have hm' := lt_lineCount_of_firstNonblank hc'
    have hrange := firstNonblank_range hb'
    have hrange' := firstNonblank_range hc'
    have hi' := h.le_lineEnd hb hc hi
    have hj' := h.le_lineEnd hb' hc' hj
    obtain ⟨hsame, hiff⟩ := h.tail_eq_iff (l := l + 1) (n := m - (l + 1)) hb' hc' hj (by omega)
    have hsig := (h.2 l (lt_lineCount_of_firstNonblank hb)).1
    have hfree : newline ∉ (s.significant l).drop i := fun hmem =>
      (newline_not_mem_parts (lt_lineCount_of_firstNonblank hb)).2 (List.mem_of_mem_drop hmem)
    have hfree' : newline ∉ (t.significant l).drop i := hsig ▸ hfree
    rw [between_firstNonblank_lines hb hi hlm hm (by omega) hj, between_firstNonblank_lines hc hi' hlm hm' (by omega) hj']
    refine ⟨?_, hsame.line hfree hfree' (by rw [hsig]), ?_⟩
    · rw [List.splitOn_append_cons_self_of_not_mem hfree, List.splitOn_append_cons_self_of_not_mem hfree', List.head?_cons,
        List.head?_cons, hsig]
    · rw [line_append_inj hfree hfree', hiff]
      exact and_iff_right (by rw [hsig])

end AwkEdit.Source
