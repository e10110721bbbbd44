import AwkEdit.Proofs.Bundled.Indentation
import AwkEdit.Proofs.Indent.Lookback
import AwkEdit.Proofs.Session.Decisions

/-!
# The grid of AWK programs

Where no node of a program starts in what leads a line, a line below anything but a program stands where a line above it was put,
moved by some units (`exists_column_eq`); a line right below a program stands at the left. So the lines are put on the grid of the
indentation unit, however they were indented before (`indentLines_grid`).
-/

namespace AwkEdit.Session

variable {s : Session} {l : Nat}

/-- Every node below the root starts on a line with a significant byte, at that byte or after it. -/
def StartsInView (t : Snapshot) : Prop :=
  ∀ p ∈ t.places, p.isRoot = false →
    ∃ b : Nat, t.source.firstNonblank (t.source.lineOf p.node.start) = some b ∧ b ≤ p.node.start

/-- What is above a line, other than the root, starts on a line further up, at its first significant byte or after it. -/
theorem StartsInView.exists_line (h : StartsInView s.tree) (hl : l < s.source.lineCount)
    (hparent : (IndentContext.ofLine s.tree l).parent ≠ s.tree.rootPlace) :
    ∃ k < l, ∃ b, s.source.firstNonblank k = some b ∧ s.source.bol (IndentContext.ofLine s.tree l).parent.node.start = b := by
  obtain ⟨hreached, habove⟩ := IndentContext.parent_spec s.tree l
  have hstart := habove.resolve_left hparent
  have hline := IndentContext.lineOf_bol_ofLine (t := s.tree) hl
  generalize hp : (IndentContext.ofLine s.tree l).parent = p at *
  have hbelow : p.isRoot = false := Bool.eq_false_iff.2 fun hroot => hparent (hreached.eq_of_isRoot hroot)
  obtain ⟨b, hb, hle⟩ := h p (Place.mem_subtree_iff.2 hreached) hbelow
  have hk := Source.lineOf_mono (s := s.source) (Int.le_of_lt hstart)
  refine ⟨s.source.lineOf p.node.start, Nat.lt_of_le_of_ne (hline ▸ hk) fun heq => ?_, b, hb, Source.bol_eq hb⟩
  -- On its own line the node would start before the first significant byte, from which the line is looked at.
  rw [show s.tree.source.lineOf p.node.start = l from heq] at hb
  rw [IndentContext.bol_ofLine hb] at hstart
  omega

theorem decisionAt_parentType (s : Session) (l : Nat) :
    (s.decisionAt l).parentType = (IndentContext.ofLine s.tree l).parent.node.type := rfl

/-- A line right below a program stands at the left. -/
theorem decisionAt_column_of_program (hs : Awk.Builds s.language) (hl : l < s.source.lineCount)
    (hprogram : (s.decisionAt l).parentType = "program") : (s.decisionAt l).column = 0 := by
  obtain ⟨r, hr, hanchor, hoffset⟩ := s.exists_decisionAt l
  have hleft := hs.hanging.anchor hr
  rw [← decisionAt_parentType, if_pos hprogram] at hleft
  have hstart : (s.decisionAt l).anchor = s.source.lineStart l := by
    rw [hanchor, hleft, Anchor.position, IndentContext.tree_ofLine, IndentContext.lineOf_bol_ofLine hl]
    rfl
  have hunmoved : (s.movedBefore l).lookup l = none := by
    rw [lookup_movedBefore, if_neg fun h => Nat.lt_irrefl l h.1]
  rw [decisionAt_column, hstart, columnAfter_lineStart hl hunmoved, hoffset, hs.offset_eq_zero hprogram hr, Int.zero_mul]
  rfl

/-- A line below anything but a program stands where a line above it was put, moved by some units. -/
theorem exists_column_eq (hs : Awk.Builds s.language) (hroot : s.tree.root.type = "program") (hview : StartsInView s.tree)
    (hl : l < s.source.lineCount) (hprogram : (s.decisionAt l).parentType ≠ "program") :
    ∃ k < l, (s.decisionAt l).column =
      max 0 ((s.decisionAt k).column + (s.decisionAt l).offset * s.config.indentUnit) := by
  obtain ⟨r, hr, hanchor, -⟩ := s.exists_decisionAt l
  have hbol := hs.hanging.anchor hr
  rw [← decisionAt_parentType, if_neg hprogram] at hbol
  have hparent : (IndentContext.ofLine s.tree l).parent ≠ s.tree.rootPlace := by
    intro heq
    rw [decisionAt_parentType, heq] at hprogram
    exact hprogram hroot
  obtain ⟨k, hk, b, hb, hstart⟩ := hview.exists_line hl hparent
  have hmoved : (s.movedBefore l).lookup k = some (s.decisionAt k).column := by
    rw [lookup_movedBefore, hb]
    exact if_pos ⟨hk, rfl⟩
  have hfirst : (s.decisionAt l).anchor = b := by
    rw [hanchor, hbol, Anchor.position, IndentContext.tree_ofLine]
    exact congrArg Nat.cast hstart
  refine ⟨k, hk, ?_⟩
  rw [decisionAt_column, hfirst, columnAfter_firstNonblank hb hmoved]

/-- Every line is put on the grid. -/
theorem indentUnit_dvd_decisionAt (hs : Awk.Builds s.language) (hroot : s.tree.root.type = "program")
    (hview : StartsInView s.tree) (hl : l < s.source.lineCount) : (s.config.indentUnit : Int) ∣ (s.decisionAt l).column := by
  induction l using Nat.strongRecOn with
  | ind l ih =>
    by_cases hprogram : (s.decisionAt l).parentType = "program"
    · rw [decisionAt_column_of_program hs hl hprogram]
      exact Int.dvd_zero _
    · obtain ⟨k, hk, hcolumn⟩ := exists_column_eq hs hroot hview hl hprogram
      have hsum : (s.config.indentUnit : Int) ∣ (s.decisionAt k).column + (s.decisionAt l).offset * s.config.indentUnit :=
        Int.dvd_add (ih k hk (hk.trans hl)) (Int.dvd_mul_left _ _)
      rw [hcolumn, Int.max_def]
      split
      · exact hsum
      · exact Int.dvd_zero _

/-- A program whose nodes start in no line's leading whitespace is indented by the rules of AWK to the grid of the indentation unit,
with blank lines and whatever leads its lines now, and what is right below the program stands at the left. -/
theorem indentLines_grid (hs : Awk.Builds s.language) (hroot : s.tree.root.type = "program") (hview : StartsInView s.tree) :
    (s.indentLines 0 none).1.length = s.source.lineCount ∧
      ∀ d ∈ (s.indentLines 0 none).1,
        0 ≤ d.column ∧ (s.config.indentUnit : Int) ∣ d.column ∧ (d.parentType = "program" → d.column = 0) := by
  refine ⟨s.length_indentLines, fun d hd => ?_⟩
  rw [indentLines_eq_map] at hd
  obtain ⟨l, hl, rfl⟩ := List.mem_map.1 hd
  have hl := List.mem_range.1 hl
  exact ⟨s.decisionAt_column_nonneg l, indentUnit_dvd_decisionAt hs hroot hview hl,
    decisionAt_column_of_program hs hl⟩

/-- The ragged block, with a tab, three spaces and a blank line, is put on the grid. -/
theorem indentLines_grid_ragged :
    StartsInView ragged.tree ∧ ∀ d ∈ (ragged.indentLines 0 none).1, (4 : Int) ∣ d.column := by
  have hview : StartsInView ragged.tree := by
    have hany : ∀ p ∈ ragged.tree.places, p.isRoot = false →
        (ragged.source.firstNonblank (ragged.source.lineOf p.node.start)).any (fun b : Nat => (b : Int) ≤ p.node.start) = true := by
      decide
    intro p hp hbelow
    obtain ⟨b, hb, hle⟩ := (Option.any_eq_true _ _).1 (hany p hp hbelow)
    exact ⟨b, hb, of_decide_eq_true hle⟩
  exact ⟨hview, fun d hd => ((indentLines_grid Awk.builds_language rfl hview).2 d hd).2.1⟩

end AwkEdit.Session
