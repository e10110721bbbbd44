import AwkEdit.Proofs.Indent.Hanging
import AwkEdit.Proofs.Indent.Lookback
import AwkEdit.Proofs.Session.Canonical

/-!
# Working downwards

A region is indented from the top, and the decision for a line is taken where the lines of the region above it have moved and no
other line has (`exists_indentLines`). An anchor on a line further down would be measured before that line is put where it
belongs; `indentLines_lookback` says that there is none where the root starts with the text, whatever the rules are, unless a line
without a node is measured from the first child of what is above it.
-/

namespace AwkEdit.Session

variable {s : Session} {moved : List (Nat × Int)}

/-- The new columns of lines after more lines were indented one after another. -/
def movedAfter (s : Session) (moved : List (Nat × Int)) : List Nat → List (Nat × Int)
  | [] => moved
  | line :: lines =>
    s.movedAfter (s.moveLine moved line (s.language.indent.resolveWith s.config (s.columnAfter moved) s.tree line).1) lines

/-- The decision for a line of several is taken where those before it have moved. -/
theorem getElem?_indentAfter (s : Session) (moved : List (Nat × Int)) (lines : List Nat) (i : Nat) :
    (s.indentAfter moved lines).1[i]? = lines[i]?.map fun line =>
      (s.language.indent.resolveWith s.config (s.columnAfter (s.movedAfter moved (lines.take i))) s.tree line).1 := by
  induction lines generalizing moved i with
  | nil => rfl
  | cons line lines ih =>
    cases i with
    | zero => rfl
    | succ i => exact ih _ i

/-- After several lines are indented, those with a significant byte have moved as well. -/
theorem isSome_lookup_movedAfter (s : Session) (moved : List (Nat × Int)) (lines : List Nat) (k : Nat) :
    ((s.movedAfter moved lines).lookup k).isSome = true ↔
      (moved.lookup k).isSome = true ∨ k ∈ lines ∧ (s.source.firstNonblank k).isSome = true := by
  induction lines generalizing moved with
  | nil => simp [movedAfter]
  | cons line lines ih =>
    rw [movedAfter, ih, lookup_moveLine, List.mem_cons]
    split
    next hk => exact iff_of_true (.inl rfl) (.inr ⟨.inl hk.1, hk.2⟩)
    next hk =>
      refine or_congr_right (and_congr_left fun hsome => ?_)
      rw [or_iff_right fun heq => hk ⟨heq, hsome⟩]

/-- The numbers from one number up to another. -/
theorem mem_drop_range {start n k : Nat} : k ∈ (List.range n).drop start ↔ start ≤ k ∧ k < n := by
  rw [List.range_eq_range', List.drop_range', List.mem_range'_1]
  omega

theorem lt_lineCount_of_mem_region {start : Int} {stop : Option Int} {l : Nat} (hl : l ∈ s.region start stop) :
    l < s.source.lineCount := by
  rw [region, mem_drop_range] at hl
  cases stop with
  | none =>
    simp only [Option.map_none, Option.getD_none] at hl
    omega
  | some stop =>
    simp only [Option.map_some, Option.getD_some] at hl
    omega

/-- The lines of a region before one of them are those with smaller numbers. -/
theorem mem_take_region {start : Int} {stop : Option Int} {i l k : Nat} (hl : (s.region start stop)[i]? = some l) :
    k ∈ (s.region start stop).take i ↔ k ∈ s.region start stop ∧ k < l := by
  rw [region, List.getElem?_drop] at hl
  obtain ⟨hbound, rfl⟩ := List.getElem?_eq_some_iff.1 hl
  rw [List.length_range] at hbound
  rw [region, List.take_drop, List.take_range, mem_drop_range, mem_drop_range, List.getElem_range]
  omega

/-- The decision for a line of a region is that of the rule selected for it, where the lines of the region above it that have a
significant byte have moved and no other line has. -/
theorem exists_indentLines {start : Int} {stop : Option Int} {i : Nat} {d : IndentDecision}
    (hd : (s.indentLines start stop).1[i]? = some d) :
    ∃ l r moved, (s.region start stop)[i]? = some l ∧
      (IndentRules.select (.ofLine s.tree l) s.language.indent.rules).1 = some r ∧
      d = IndentRules.decisionOf s.config (s.columnAfter moved) (.ofLine s.tree l) r ∧
      ∀ k, (moved.lookup k).isSome = true ↔
        (k ∈ s.region start stop ∧ k < l) ∧ (s.source.firstNonblank k).isSome = true := by
  rw [indentLines, getElem?_indentAfter, Option.map_eq_some_iff] at hd
  obtain ⟨l, hl, rfl⟩ := hd
  obtain ⟨r, hr, hdecision⟩ := s.language.indent.exists_resolve_eq s.config
    (s.columnAfter (s.movedAfter [] ((s.region start stop).take i))) (.ofLine s.tree l)
  refine ⟨l, r, _, hl, hr, hdecision, fun k => ?_⟩
  rw [isSome_lookup_movedAfter, mem_take_region hl]
  simp

/-- Where the root starts with the text, a line is measured from itself or from a line above it, but for the first child of what is
above a line without a node; what stands alone above a line is the first on the way up that starts its line, or the root. So when
lines are indented from the top, no line is measured from one further down, which has not moved yet. -/
theorem indentLines_lookback (t : Snapshot) (hroot : t.root.start = 0) :
    (∀ l < t.source.lineCount,
      (∀ a : Anchor, a ≠ .firstSibling ∨ (IndentContext.ofLine t l).node.isSome = true →
        t.source.lineOf (a.position (.ofLine t l)) ≤ l) ∧
      Anchor.standaloneParent.position (.ofLine t l) =
        ((((IndentContext.ofLine t l).parent :: (IndentContext.ofLine t l).parent.ancestors).find? fun q =>
          (t.source.bol q.node.start : Int) = q.node.start).getD t.rootPlace).node.start) ∧
      ∀ s : Session, s.tree = t → ∀ (start : Int) (stop : Option Int) (i : Nat) (d : IndentDecision),
        (s.indentLines start stop).1[i]? = some d →
        ∃ l r moved, (s.region start stop)[i]? = some l ∧
          (IndentRules.select (.ofLine t l) s.language.indent.rules).1 = some r ∧
          d = IndentRules.decisionOf s.config (s.columnAfter moved) (.ofLine t l) r ∧
          (∀ k, (moved.lookup k).isSome = true ↔
            (k ∈ s.region start stop ∧ k < l) ∧ (s.source.firstNonblank k).isSome = true) ∧
          (r.anchor ≠ .firstSibling ∨ (IndentContext.ofLine t l).node.isSome = true → t.source.lineOf d.anchor ≤ l) := by
  refine ⟨fun l hl => ⟨fun a ha => Anchor.lineOf_position_le hroot hl ha, Anchor.position_standaloneParent t l⟩, ?_⟩
  rintro s rfl start stop i d hd
  obtain ⟨l, r, moved, hl, hr, rfl, hmoved⟩ := exists_indentLines hd
  have hline : l < s.source.lineCount := lt_lineCount_of_mem_region (List.mem_of_getElem? hl)
  exact ⟨l, r, moved, hl, hr, rfl, hmoved, fun hanchor => Anchor.lineOf_position_le hroot hline hanchor⟩

/-- The last bracket of the ragged block is measured after the word above it has moved, from a line above it. -/
theorem indentLines_lookback_ragged :
    ragged.tree.root.start = 0 ∧ ragged.tree.source.lineOf (Anchor.standaloneParent.position (.ofLine ragged.tree 3)) ≤ 3 ∧
      ∀ d, (ragged.indentLines 1 none).1[2]? = some d → ∃ moved,
        d.column = max 0 (ragged.columnAfter moved d.anchor + d.offset * 4) ∧
          (moved.lookup 1).isSome = true ∧ moved.lookup 3 = none := by
  obtain ⟨habove, hregion⟩ := indentLines_lookback ragged.tree rfl
  refine ⟨rfl, (habove 3 (by decide)).1 _ (.inl (by decide)), fun d hd => ?_⟩
  obtain ⟨l, r, moved, hl, -, rfl, hmoved, -⟩ := hregion ragged rfl 1 none 2 d hd
  obtain rfl : 3 = l := Option.some.inj hl
  refine ⟨moved, rfl, (hmoved 1).2 (by decide), ?_⟩
  rw [← Option.not_isSome_iff_eq_none, hmoved 3]
  exact fun h => absurd h.1.2 (by decide)

end AwkEdit.Session
