import AwkEdit.Proofs.Source.Columns

/-!
# Variants of a text

A text is a variant of another when the two differ only in what leads their lines. A place is the same in both when it is on
the same line and as far after its first significant byte; the same places are in the same order in both texts.
-/

namespace AwkEdit.Source

/-- The texts have as many lines, and each line differs only in its leading blanks; a blank line ends in a carriage return in
both or in neither. -/
def Variant (s t : Source) : Prop :=
  s.lineCount = t.lineCount ∧ ∀ l < s.lineCount, s.significant l = t.significant l ∧
    (s.significant l = [] → ((s.lineBytes l).getLast? = some 0x0D ↔ (t.lineBytes l).getLast? = some 0x0D))

/-- The positions are the same place of two texts: they lie on the same line, as far after its first significant byte. -/
def SamePlace (s t : Source) (p q : Int) : Prop :=
  ∃ l b c k : Nat, s.firstNonblank l = some b ∧ t.firstNonblank l = some c ∧ p = b + k ∧ q = c + k ∧
    p ≤ s.lineEnd l ∧ q ≤ t.lineEnd l

/-- The position of another text that lies on the same line, as far after its beginning. -/
def carry (s t : Source) (pos : Int) : Nat := (t.bol (t.lineStart (s.lineOf pos)) + (pos - s.bol pos)).toNat

variable {s t : Source} {l b c : Nat} {p q p' q' : Int}

/-- The same lines have a significant byte. -/
theorem Variant.isSome_firstNonblank (h : Variant s t) (l : Nat) : (s.firstNonblank l).isSome = (t.firstNonblank l).isSome := by
  rcases Nat.lt_or_ge l s.lineCount with hl | hl
  · rw [firstNonblank_eq, firstNonblank_eq, (h.2 l hl).1]
    split <;> rfl
  · have hnone : ∀ u : Source, u.lineCount ≤ l → u.firstNonblank l = none := by
      intro u hu
      refine Option.eq_none_iff_forall_ne_some.2 fun b hb => ?_
      have := lt_lineCount_of_firstNonblank hb
      omega
    rw [hnone s hl, hnone t (h.1 ▸ hl)]

theorem Variant.exists_firstNonblank (h : Variant s t) (hb : s.firstNonblank l = some b) : ∃ c, t.firstNonblank l = some c := by
  rw [← Option.isSome_iff_exists, ← h.isSome_firstNonblank, hb, Option.isSome_some]

theorem Variant.firstNonblank_eq_none (h : Variant s t) (hb : s.firstNonblank l = none) : t.firstNonblank l = none := by
  rw [← Option.isNone_iff_eq_none, ← Option.not_isSome, ← h.isSome_firstNonblank, hb]
  rfl

/-- What leads the lines does not break a text. -/
theorem Variant.valid (h : Variant s t) (hvalid : Utf8.Valid s.bytes) : Utf8.Valid t.bytes := by
  rw [← t.intercalate_lines, t.lines_eq_map]
  refine Utf8.Valid.intercalate (List.forall_mem_map.2 fun l hl => ?_)
  have hl : l < s.lineCount := h.1 ▸ List.mem_range.1 hl
  rw [← t.leading_append_significant, ← (h.2 l hl).1]
  refine (Utf8.valid_ascii_append_iff fun c hc => ?_).2 (valid_significant (valid_lineBytes hvalid hl))
  exact lt_of_isBlankByte (isBlankByte_of_mem_leading hc)

/-- The first significant bytes of a line are the same place. -/
theorem samePlace_of_firstNonblank (hb : s.firstNonblank l = some b) (hc : t.firstNonblank l = some c) : SamePlace s t b c := by
  have := firstNonblank_range hb
  have := firstNonblank_range hc
  exact ⟨l, b, c, 0, hb, hc, by simp, by simp, by omega, by omega⟩

/-- A line is as long after its first significant byte in both texts. -/
theorem Variant.le_lineEnd (h : Variant s t) (hb : s.firstNonblank l = some b) (hc : t.firstNonblank l = some c) {k : Nat}
    (hk : b + k ≤ s.lineEnd l) : c + k ≤ t.lineEnd l := by
  rw [lineEnd_of_firstNonblank hb, (h.2 l (lt_lineCount_of_firstNonblank hb)).1] at hk
  rw [lineEnd_of_firstNonblank hc]
  omega

/-- As far after the first significant byte of a line the two texts have the same place. -/
theorem Variant.samePlace (h : Variant s t) (hb : s.firstNonblank l = some b) (hc : t.firstNonblank l = some c) {k : Nat}
    (hk : b + k ≤ s.lineEnd l) : SamePlace s t (b + k : Nat) (c + k : Nat) :=
  ⟨l, b, c, k, hb, hc, Int.natCast_add b k, Int.natCast_add c k, Int.ofNat_le.2 hk, Int.ofNat_le.2 (h.le_lineEnd hb hc hk)⟩

/-- What lies after the first significant byte of its line is carried as far after that of the other text. -/
theorem carry_eq (hb : s.firstNonblank l = some b) (hc : t.firstNonblank l = some c) {k : Nat} (hk : b + k ≤ s.lineEnd l) :
    s.carry t (b + k : Nat) = c + k := by
  have hline : s.lineOf (b + k : Nat) = l := lineOf_of_firstNonblank hb (by omega) (by omega)
  have hbol : s.bol (b + k : Nat) = b := bol_eq (hline.symm ▸ hb)
  have hother : t.bol (t.lineStart l) = c := bol_eq (by rwa [lineOf_lineStart (lt_lineCount_of_firstNonblank hc)])
  rw [carry, hline, hbol, hother]
  omega

/-- The same places begin the same line, at or before them. -/
theorem SamePlace.bol (h : SamePlace s t p q) :
    ∃ l b c : Nat, s.firstNonblank l = some b ∧ t.firstNonblank l = some c ∧ s.bol p = b ∧ t.bol q = c ∧ b ≤ p := by
  obtain ⟨l, b, c, k, hb, hc, rfl, rfl, hp, hq⟩ := h
  refine ⟨l, b, c, hb, hc, bol_eq ?_, bol_eq ?_, by omega⟩
  · rwa [lineOf_of_firstNonblank hb (by omega) hp]
  · rwa [lineOf_of_firstNonblank hc (by omega) hq]

/-- What lies on an earlier line lies before. -/
theorem lt_of_line_lt {k : Nat} (hkl : k < l) (hp : p ≤ s.lineEnd k) (hb : s.firstNonblank l = some b) : p < b := by
  have := lineEnd_lt_lineStart hkl (lt_lineCount_of_firstNonblank hb)
  have := firstNonblank_range hb
  omega

/-- Of two lines the one whose first significant byte comes first comes first. -/
theorem line_lt_of_lt {k : Nat} (hb : s.firstNonblank l = some b) (hc : s.firstNonblank k = some c) (h : c < b) : k < l := by
  have hrange := firstNonblank_range hb
  rcases Nat.lt_trichotomy k l with hkl | rfl | hlk
  · exact hkl
  · obtain rfl := Option.some.inj (hb.symm.trans hc)
    omega
  · have := lt_of_line_lt hlk (show (b : Int) ≤ s.lineEnd l by omega) hc
    omega

/-- The same places are in the same order. -/
theorem SamePlace.le_iff (h : SamePlace s t p q) (h' : SamePlace s t p' q') : p ≤ p' ↔ q ≤ q' := by
  obtain ⟨l, b, c, k, hb, hc, rfl, rfl, hp, hq⟩ := h
  obtain ⟨l', b', c', k', hb', hc', rfl, rfl, hp', hq'⟩ := h'
  rcases Nat.lt_trichotomy l l' with hl | rfl | hl
  · have := lt_of_line_lt hl hp hb'
    have := lt_of_line_lt hl hq hc'
    omega
  · obtain rfl := Option.some.inj (hb.symm.trans hb')
    obtain rfl := Option.some.inj (hc.symm.trans hc')
    omega
  · have := lt_of_line_lt hl hp' hb
    have := lt_of_line_lt hl hq' hc
    omega

theorem SamePlace.lt_iff (h : SamePlace s t p q) (h' : SamePlace s t p' q') : p < p' ↔ q < q' := by
  rw [← Int.not_le, ← Int.not_le, h'.le_iff h]

theorem SamePlace.eq_iff (h : SamePlace s t p q) (h' : SamePlace s t p' q') : p = p' ↔ q = q' := by
  have := h.le_iff h'
  have := h'.le_iff h
  omega

end AwkEdit.Source
