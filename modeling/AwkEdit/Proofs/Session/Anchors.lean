import AwkEdit.Proofs.Session.Decisions
import AwkEdit.Proofs.Source.TabStops

/-!
# Where anchors end up

A line that hangs from a byte of an earlier line is put relative to the column that the byte has moved to, and that column is
reckoned: the byte is taken to move as far as its line does. A tab between the beginning of the line and the byte reaches to a
tab stop wherever the line is, so the byte does not move as far, unless the line moves by whole tabs. `column_of_anchor` says
that the reckoned column is the one that the byte has in the text that results exactly when no tab is in the way.
-/

namespace AwkEdit.Session

variable {s : Session} {moved : List (Nat × Int)}

/-- A byte after the first significant byte of a line that has moved is taken to move as far as that. -/
theorem columnAfter_of_moved {l b : Nat} {column pos : Int} (hb : s.source.firstNonblank l = some b)
    (hmoved : moved.lookup l = some column) (hlow : b ≤ pos) (hhigh : pos ≤ s.source.lineEnd l) :
    s.columnAfter moved pos = column + s.columnOf pos - s.columnOf b := by
  have hline : s.source.lineOf pos = l := Source.lineOf_of_firstNonblank hb hlow hhigh
  simp only [columnAfter, hline, hmoved, hb]
  rw [if_neg (by omega)]

/-- A line that hangs from a byte of an earlier line, at or after the first significant byte there, is put relative to that byte
with its column reckoned: the new column of its line and as much more as it had before. In the text that results the byte has
that column exactly when there is no tab between the beginning of its line and the byte, or the line moves by whole tabs. -/
theorem column_of_anchor (s : Session) {text : String} (hvalid : Utf8.Valid s.source.bytes) (h : s.reindent.1 = .ok text)
    {k l b a : Nat} {d e : IndentDecision} (hd : (s.indentLines 0 none).1[l]? = some d)
    (he : (s.indentLines 0 none).1[k]? = some e) (hkl : k < l) (hb : s.source.firstNonblank k = some b) (ha : d.anchor = a)
    (hlow : b ≤ a) (hhigh : a ≤ s.source.lineEnd k) :
    d.column = max 0 (e.column + s.columnOf a - s.columnOf b + d.offset * s.config.indentUnit) ∧
      ∃ a' : Nat, s.source.SamePlace (.ofString text) a a' ∧
        (e.column + s.columnOf a - s.columnOf b = (Source.ofString text).column s.config.tabWidth a' ↔
          '\t' ∉ s.source.chars b a ∨ (s.config.tabWidth : Int) ∣ e.column - s.columnOf b) := by
  have hl : l < s.source.lineCount := by
    rw [← s.length_indentLines]
    exact (List.getElem?_eq_some_iff.1 hd).1
  have hk := Source.lt_lineCount_of_firstNonblank hb
  obtain rfl := Option.some.inj ((getElem?_indentLines hl).symm.trans hd)
  obtain rfl := Option.some.inj ((getElem?_indentLines hk).symm.trans he)
  have hmoved : (s.movedBefore l).lookup k = some (s.decisionAt k).column := by
    rw [lookup_movedBefore, if_pos ⟨hkl, by rw [hb, Option.isSome_some]⟩]
  have hreckoned : s.columnAfter (s.movedBefore l) a = (s.decisionAt k).column + s.columnOf a - s.columnOf b :=
    columnAfter_of_moved hb hmoved (by omega) (by omega)
  refine ⟨by rw [decisionAt_column, ha, hreckoned], ?_⟩
  have hvariant := variant_of_reindent hvalid h
  obtain ⟨c, hc⟩ := hvariant.exists_firstNonblank hb
  obtain ⟨j, rfl⟩ := Nat.exists_eq_add_of_le hlow
  have hplace := hvariant.samePlace hb hc hhigh
  refine ⟨c + j, hplace, ?_⟩
  -- What the line has between its beginning and the byte is the same in both texts, and begins at its old and its new column.
  have htab : (0 : Int) < s.config.tabWidth := Int.natCast_pos.2 s.config.tabWidth_pos
  have hold : s.columnOf (b + j : Nat) =
      (Utf8.decode ((s.source.significant k).take j)).foldl (Source.advance s.config.tabWidth) (s.columnOf b) :=
    Source.column_firstNonblank_add _ hb hhigh
  have hstands : (Source.ofString text).column s.config.tabWidth c = (s.decisionAt k).column :=
    Source.column_of_standsAt _ (s.decisionAt_column_nonneg k) hc (standsAt_of_reindent hvalid h hk)
  have hnew : (Source.ofString text).column s.config.tabWidth (c + j : Nat) = _ :=
    Source.column_firstNonblank_add _ hc (hvariant.le_lineEnd hb hc hhigh)
  rw [← (hvariant.2 k hk).1, hstands] at hnew
  rw [hnew, Source.chars_firstNonblank_add hb hhigh, ← Source.width_eq_iff htab, hold]
  omega

/-! ### A line that hangs from behind a tab -/

/-- Rules that put what is right below a program at the left, and everything else below the beginning of the node above. -/
def belowParent : List IndentSpec :=
  [.triple (.sound (.parentIs ["program"])) (.text "column-0") (.integer 0),
    .triple (.sound .catchAll) (.text "parent") (.integer 0)]

theorem isSome_belowParent : (IndentRules.build belowParent none).2.toOption.isSome = true := by decide +kernel

/-- The rules as they are built. -/
def belowParentRules : IndentRules := (IndentRules.build belowParent none).2.toOption.get isSome_belowParent

/-- A program of a word, and of a call with an argument on the next line, given where they start. -/
def callTree (word call argument stop : Int) : Node :=
  .mk { type := "program", start := 0, stop := stop }
    [.mk { type := "identifier", start := word, stop := word + 1 } [],
      .mk { type := "func_call", start := call, stop := argument + 1 }
        [.mk { type := "identifier", start := call, stop := call + 1 } [],
          .mk { type := "identifier", start := argument, stop := argument + 1 } []]]

/-- The call comes after a tab, on a line that is led by two spaces. -/
def shifted : Session :=
  ⟨⟨callTree 2 4 7 9, .ofString "  a\tbc\nd\n", by simp only [callTree, Node.Valid, Node.ValidAll, Node.Laid]; decide⟩,
    settings, { Awk.language with indent := belowParentRules }, by decide⟩

/-- The call comes after a tab, on a line that is led by a tab. -/
def shiftedByTab : Session :=
  ⟨⟨callTree 1 3 6 8, .ofString "\ta\tbc\nd\n", by simp only [callTree, Node.Valid, Node.ValidAll, Node.Laid]; decide⟩,
    settings, { Awk.language with indent := belowParentRules }, by decide⟩

/-- On a line that moves by a whole tab, the call has the column that was reckoned. -/
theorem column_of_anchor_whole_tab :
    ∃ d e, (shiftedByTab.indentLines 0 none).1[1]? = some d ∧ (shiftedByTab.indentLines 0 none).1[0]? = some e ∧
      shiftedByTab.source.firstNonblank 0 = some 1 ∧ d.anchor = 3 ∧
        d.column = max 0 (e.column + shiftedByTab.columnOf 3 - shiftedByTab.columnOf 1 + d.offset * 4) ∧
          ∃ a' : Nat, shiftedByTab.source.SamePlace (.ofString "a\tbc\n        d\n") 3 a' ∧
            e.column + shiftedByTab.columnOf 3 - shiftedByTab.columnOf 1 =
              (Source.ofString "a\tbc\n        d\n").column 8 a' := by
  have hvalid : Utf8.Valid shiftedByTab.source.bytes := by
    unfold Utf8.Valid
    decide
  have hreindent : shiftedByTab.reindent.1 = .ok "a\tbc\n        d\n" := by decide +kernel
  have hanchor : ((shiftedByTab.indentLines 0 none).1[1]?).map (·.anchor) = some 3 := by decide +kernel
  have hcolumn : ((shiftedByTab.indentLines 0 none).1[0]?).map (·.column) = some 0 := by decide +kernel
  obtain ⟨d, hd, hanchor⟩ := Option.map_eq_some_iff.1 hanchor
  obtain ⟨e, he, hcolumn⟩ := Option.map_eq_some_iff.1 hcolumn
  have hb : shiftedByTab.source.firstNonblank 0 = some 1 := by decide
  obtain ⟨hput, a', hplace, hmoved⟩ :=
    column_of_anchor shiftedByTab hvalid hreindent hd he Nat.one_pos hb (a := 3) hanchor (by decide) (by decide)
  refine ⟨d, e, hd, he, hb, hanchor, hput, a', hplace, hmoved.2 (.inr ?_)⟩
  rw [hcolumn]
  decide

/-- On a line that moves by less, it has not: the line that hangs from it is put at column 6, and it is at column 8. -/
theorem column_of_anchor_past_tab :
    (IndentRules.build belowParent none).2.toOption = some shifted.language.indent ∧ Utf8.Valid shifted.source.bytes ∧
      shifted.reindent.1 = .ok "a\tbc\n      d\n" ∧
      ∃ d, (shifted.indentLines 0 none).1[1]? = some d ∧ d.anchor = 4 ∧ d.offset = 0 ∧ d.column = 6 ∧
        shifted.source.firstNonblank 0 = some 2 ∧
        shifted.source.SamePlace (.ofString "a\tbc\n      d\n") 4 2 ∧
        (Source.ofString "a\tbc\n      d\n").column shifted.config.tabWidth 2 = 8 := by
  have hvalid : Utf8.Valid shifted.source.bytes := by
    unfold Utf8.Valid
    decide
  have hreindent : shifted.reindent.1 = .ok "a\tbc\n      d\n" := by decide +kernel
  have hdecision : ((shifted.indentLines 0 none).1[1]?).map (fun d => (d.anchor, d.offset, d.column)) = some (4, 0, 6) := by
    decide +kernel
  obtain ⟨d, hd, hfields⟩ := Option.map_eq_some_iff.1 hdecision
  simp only [Prod.mk.injEq] at hfields
  have hplace : shifted.source.SamePlace (.ofString "a\tbc\n      d\n") 4 2 :=
    ⟨0, 2, 0, 2, by decide, by decide, by decide, by decide, by decide, by decide⟩
  exact ⟨(Option.some_get isSome_belowParent).symm, hvalid, hreindent, d, hd, hfields.1, hfields.2.1, hfields.2.2, by decide,
    hplace, by decide⟩

end AwkEdit.Session
