import AwkEdit.Proofs.Session.Decisions
import AwkEdit.Proofs.Source.Spans
import AwkEdit.Proofs.Tree.Laminar

/-!
# What indenting does to tokens

A token starts and ends with a visible byte. Indenting a text anew carries its tokens along in order, each to the same places
of its lines. What leads a line is rewritten on every line, so also on a line that begins inside a token: a token keeps all its
bytes exactly when such lines stand where they are put. `tokens_of_reindent` says so for every set of rules.
-/

namespace AwkEdit

/-- The place is that of a token: its node has no children, and starts and ends with a visible byte. -/
def Snapshot.IsToken (t : Snapshot) (p : Place) : Prop :=
  p.node.children = [] ∧ t.source.VisibleAt p.node.start ∧ t.source.VisibleAt (p.node.stop - 1) ∧ p.node.start < p.node.stop

/-- Of two tokens in pre-order the later one starts where the earlier one stops or after that. -/
theorem Snapshot.pairwise_tokens (t : Snapshot) :
    t.places.Pairwise fun p q => t.IsToken p → p.node.stop ≤ q.node.start := by
  refine (Place.pairwise_subtree t.valid).imp fun {p q} h htoken => ?_
  rcases h with ⟨c, hc, -⟩ | hapart
  · have hmem := Place.node_mem_of_mem_children hc
    rw [htoken.1] at hmem
    cases hmem
  · exact hapart

/-- The bytes of a place. -/
def Snapshot.bytesAt (t : Snapshot) (p : Place) : List UInt8 := t.source.between p.node.start.toNat p.node.stop.toNat

/-- The bytes of another text at the places that a place is carried to. -/
def Snapshot.bytesIn (t : Snapshot) (u : Source) (p : Place) : List UInt8 :=
  u.between (t.source.carry u p.node.start) (t.source.carry u p.node.stop)

namespace Session

variable {s : Session} {text : String}

/-- A line is led by the same blanks after the text is indented anew exactly when it stands where it is put. -/
theorem leading_eq_iff (hvalid : Utf8.Valid s.source.bytes) (h : s.reindent.1 = .ok text) {l : Nat} (hl : l < s.source.lineCount) :
    s.source.leading l = (Source.ofString text).leading l ↔ s.source.StandsAt l (s.decisionAt l).column := by
  have hvariant := variant_of_reindent hvalid h
  cases hb : s.source.firstNonblank l with
  | some b => rw [Source.standsAt_iff_of_firstNonblank hb, leading_of_reindent h hb]
  | none =>
    rw [← hvariant.lineBytes_eq_iff hl, Source.standsAt_iff_of_blank hb]
    constructor
    · intro hline
      rw [hline, ← Source.standsAt_iff_of_blank (hvariant.firstNonblank_eq_none hb)]
      exact standsAt_of_reindent hvalid h hl
    · intro hline
      rw [lineBytes_eq_newLine h hl]
      simp only [newLine, hb]
      rcases hline with hline | hline <;> rw [hline] <;> decide

/-- A token runs from a line with a significant byte to one, from somewhere after that byte to somewhere after that byte. -/
theorem exists_lines_of_isToken {p : Place} (h : s.tree.IsToken p) :
    ∃ l m b b' i j : Nat, s.source.firstNonblank l = some b ∧ s.source.firstNonblank m = some b' ∧ l ≤ m ∧
      p.node.start = (b + i : Nat) ∧ b + i ≤ s.source.lineEnd l ∧ p.node.stop = (b' + j : Nat) ∧ b' + j ≤ s.source.lineEnd m := by
  have hfirst : s.source.VisibleAt p.node.start := h.2.1
  have hlast : s.source.VisibleAt (p.node.stop - 1) := h.2.2.1
  have hlt := h.2.2.2
  obtain ⟨l, b, i, hb, hstart, hi⟩ := hfirst.exists_line
  obtain ⟨m, b', j, hb', hstop, hj⟩ := hlast.exists_line
  refine ⟨l, m, b, b', i, j + 1, hb, hb', Nat.le_of_not_lt fun hml => ?_, hstart, by omega, by omega, by omega⟩
  have := Source.lt_of_line_lt hml (p := (b' + j : Nat)) (by omega) hb
  omega

/-- Of two tokens that come one after the other, the later one is carried to after the earlier one. -/
theorem carry_stop_le_carry_start {t : Source} (hvariant : s.source.Variant t) {p q : Place} (hp : s.tree.IsToken p)
    (hq : s.tree.IsToken q) (hpq : p.node.stop ≤ q.node.start) :
    s.source.carry t p.node.stop ≤ s.source.carry t q.node.start := by
  obtain ⟨-, m, -, b, -, j, -, hb, -, -, -, hstop, hj⟩ := exists_lines_of_isToken hp
  obtain ⟨l, -, b', -, i, -, hb', -, -, hstart, hi, -, -⟩ := exists_lines_of_isToken hq
  obtain ⟨c, hc⟩ := hvariant.exists_firstNonblank hb
  obtain ⟨c', hc'⟩ := hvariant.exists_firstNonblank hb'
  rw [hstop, hstart] at hpq
  have horder := ((hvariant.samePlace hb hc hj).le_iff (hvariant.samePlace hb' hc' hi)).1 hpq
  rw [hstop, hstart, Source.carry_eq hb hc hj, Source.carry_eq hb' hc' hi]
  omega

/-- Indenting a text without broken parts anew carries its tokens along in order. At the place of a token is a span with the same
first line, and the same other lines but for the blanks that lead them; it is the token exactly when every line that begins
inside the token stands where it is put. -/
theorem tokens_of_reindent (s : Session) {text : String} (hvalid : Utf8.Valid s.source.bytes) (h : s.reindent.1 = .ok text) :
    (∀ p, s.tree.IsToken p →
      ((s.tree.bytesAt p).splitOn newline).head? = ((s.tree.bytesIn (.ofString text) p).splitOn newline).head? ∧
        Source.SameButLeads (s.tree.bytesAt p) (s.tree.bytesIn (.ofString text) p) ∧
        (s.tree.bytesAt p = s.tree.bytesIn (.ofString text) p ↔
          ∀ l d, s.source.lineOf p.node.start < l → l ≤ s.source.lineOf p.node.stop →
            (s.indentLines 0 none).1[l]? = some d → s.source.StandsAt l d.column)) ∧
      s.tree.places.Pairwise fun p q => s.tree.IsToken p → s.tree.IsToken q →
        s.source.carry (.ofString text) p.node.stop ≤ s.source.carry (.ofString text) q.node.start := by
  have hvariant := variant_of_reindent hvalid h
  refine ⟨fun p hp => ?_, s.tree.pairwise_tokens.imp fun {p q} hpq hp hq => ?_⟩
  · obtain ⟨l, m, b, b', i, j, hb, hb', hlm, hstart, hi, hstop, hj⟩ := exists_lines_of_isToken hp
    obtain ⟨c, hc⟩ := hvariant.exists_firstNonblank hb
    obtain ⟨c', hc'⟩ := hvariant.exists_firstNonblank hb'
    have hm := Source.lt_lineCount_of_firstNonblank hb'
    have hfirst : s.source.lineOf p.node.start = l := by
      rw [hstart]
      exact Source.lineOf_of_firstNonblank hb (by omega) (by omega)
    have hlast : s.source.lineOf p.node.stop = m := by
      rw [hstop]
      exact Source.lineOf_of_firstNonblank hb' (by omega) (by omega)
    have hat : s.tree.bytesAt p = s.source.between (b + i) (b' + j) := by
      rw [Snapshot.bytesAt, hstart, hstop]
      rfl
    have hin : s.tree.bytesIn (.ofString text) p = (Source.ofString text).between (c + i) (c' + j) := by
      have hcarry := Source.carry_eq hb hc hi
      have hcarry' := Source.carry_eq hb' hc' hj
      rw [source, ← hstart] at hcarry
      rw [source, ← hstop] at hcarry'
      rw [Snapshot.bytesIn, hcarry, hcarry']
    obtain ⟨hhead, hsame, hiff⟩ := hvariant.span_eq_iff hb hc hb' hc' hlm hi hj
    rw [hat, hin, hfirst, hlast]
    refine ⟨hhead, hsame, hiff.trans ⟨fun hleads k d hlow hhigh hd => ?_, fun hstands k hlow hhigh => ?_⟩⟩
    · have hk : k < s.source.lineCount := by omega
      rw [getElem?_indentLines hk] at hd
      rw [← Option.some.inj hd]
      exact (leading_eq_iff hvalid h hk).1 (hleads k hlow hhigh)
    · have hk : k < s.source.lineCount := by omega
      exact (leading_eq_iff hvalid h hk).2 (hstands k _ hlow hhigh (getElem?_indentLines hk))
  · exact carry_stop_le_carry_start hvariant hp hq (hpq hp)

/-! ### A string over two lines -/

/-- An assignment of a string that goes on over the end of its first line. -/
def continuedTree : Node :=
  .mk { type := "program", start := 0, stop := 13 }
    [.mk { type := "assignment_exp", start := 0, stop := 12 }
      [.mk { type := "identifier", start := 0, stop := 1 } [],
        .mk { type := "=", start := 2, stop := 3, named := false } [],
        .mk { type := "string", start := 4, stop := 12 } []]]

/-- The second line of the string starts with two spaces. -/
def continued : Session :=
  ⟨⟨continuedTree, .ofString "x = \"a\\\n  b\"\n", by simp only [continuedTree, Node.Valid, Node.ValidAll, Node.Laid]; decide⟩,
    settings, Awk.language, by decide⟩

/-- The place of the string. -/
def continuedString : Place :=
  ⟨.mk { type := "string", start := 4, stop := 12 } [],
    [(2, continuedTree.children.head (by decide)), (0, continuedTree)]⟩

theorem isToken_continuedString : continued.tree.IsToken continuedString :=
  ⟨rfl, ⟨by decide, 0x22, by decide, by decide, by decide⟩, ⟨by decide, 0x22, by decide, by decide, by decide⟩, by decide⟩

theorem valid_continued : Utf8.Valid continued.source.bytes := by
  unfold Utf8.Valid
  decide

theorem reindent_continued : continued.reindent.1 = .ok "x = \"a\\\n    b\"\n" := by decide +kernel

/-- The second line of the string is put elsewhere, so the string is not the same, but for its leading blanks it is. -/
theorem tokens_of_reindent_continued :
    continued.tree.IsToken continuedString ∧ Utf8.Valid continued.source.bytes ∧
      continued.reindent.1 = .ok "x = \"a\\\n    b\"\n" ∧
      Source.SameButLeads (continued.tree.bytesAt continuedString)
        (continued.tree.bytesIn (.ofString "x = \"a\\\n    b\"\n") continuedString) := by
  have htokens := (tokens_of_reindent continued valid_continued reindent_continued).1 _ isToken_continuedString
  exact ⟨isToken_continuedString, valid_continued, reindent_continued, htokens.2.1⟩

/-- The bytes of the string are nowhere in the text that results. -/
theorem not_infix_continuedString :
    continued.tree.follow? [0, 2] = some continuedString ∧ continued.tree.IsToken continuedString ∧
      Utf8.Valid continued.source.bytes ∧ continued.reindent.1 = .ok "x = \"a\\\n    b\"\n" ∧
      ¬continued.tree.bytesAt continuedString <:+: (Source.ofString "x = \"a\\\n    b\"\n").bytes := by
  have hold : continued.tree.bytesAt continuedString = [0x22, 0x61, 0x5C, 0x0A, 0x20, 0x20, 0x62, 0x22] := by decide
  have hnew : (Source.ofString "x = \"a\\\n    b\"\n").bytes =
      [0x78, 0x20, 0x3D, 0x20, 0x22, 0x61, 0x5C, 0x0A, 0x20, 0x20, 0x20, 0x20, 0x62, 0x22, 0x0A] := by decide
  refine ⟨rfl, isToken_continuedString, valid_continued, reindent_continued, ?_⟩
  rw [hold, hnew]
  decide

end Session

end AwkEdit
