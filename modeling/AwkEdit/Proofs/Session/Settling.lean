import AwkEdit.Proofs.Session.Decisions
import AwkEdit.Proofs.Source.TabStops
import Mathlib.Data.Nat.Find

/-!
# Indenting once more

What is right below a program is put at the left. Another root, that of a text which the parser could make nothing of, is a node
like any other: what is right below it hangs from the line that it starts on. That line is itself right below the root, so it
hangs from where it stands, and by the rules of AWK it is put there or further to the right, every time anew
(`Passes.columnOf_root`). `reindent_settles` says when indenting once more leaves the text as it is.
-/

namespace AwkEdit

/-- Of lines that are not all blank there is a first one that is not. -/
theorem Source.exists_first_line (s : Source) (h : ¬∀ l, s.firstNonblank l = none) :
    ∃ l b, s.firstNonblank l = some b ∧ ∀ k < l, s.firstNonblank k = none := by
  have hexists : ∃ l, s.firstNonblank l ≠ none := not_forall.1 h
  obtain ⟨b, hb⟩ := Option.ne_none_iff_exists'.1 (Nat.find_spec hexists)
  exact ⟨Nat.find hexists, b, hb, fun k hk => not_not.1 (Nat.find_min hexists hk)⟩

/-! ## What is right below the root -/

namespace IndentContext

variable {t u : Snapshot} {l b c : Nat}

/-- What is above a line with a significant byte starts where the root does or after that. -/
theorem root_start_le_parent (hb : t.source.firstNonblank l = some b) : t.root.start ≤ (ofLine t l).parent.node.start := by
  simp only [ofLine, hb]
  generalize hp : t.largestNodeAt b = p
  obtain ⟨n, trail⟩ := p
  cases trail with
  | nil => exact Int.le_refl _
  | cons step trail => exact Snapshot.root_start_le_of_largestNodeAt (congrArg Place.trail hp)

/-- When all that comes before a line ends before the root starts, the line is right below the root. -/
theorem parent_eq_root (htree : t.CarriedTo u) (hb : t.source.firstNonblank l = some b) (hc : u.source.firstNonblank l = some c)
    (hfirst : ∀ k < l, (t.source.firstNonblank k).isSome = true → (t.source.lineEnd k : Int) < t.root.start) :
    (ofLine t l).parent.node = t.root ∧ (ofLine u l).parent.node = u.root := by
  rcases (ofLine_carried htree hb hc).2 with hroot | ⟨habove, hstart⟩
  · exact hroot
  · -- Any other node above would start on an earlier line, and so before the root.
    obtain ⟨k, b', -, j, hb', -, hp, -, hj, -⟩ := habove.start
    have hk : k < l := Source.line_lt_of_lt hb hb' (by omega)
    have hend := hfirst k hk (by rw [hb', Option.isSome_some])
    have hlow := root_start_le_parent hb
    omega

end IndentContext

namespace Session

variable {s t : Session} {l : Nat} {text : String}

/-- The line opens the root: every line before it that is not blank ends before the root starts. -/
def OpensRoot (s : Session) (l : Nat) : Prop :=
  ∀ k < l, (s.source.firstNonblank k).isSome = true → (s.source.lineEnd k : Int) < s.tree.root.start

/-- The line that the root starts on opens it. -/
theorem opensRoot_lineOf (s : Session) : s.OpensRoot (s.source.lineOf s.tree.root.start) := by
  intro k hk _
  obtain ⟨hline, hstart, -⟩ := s.source.lineOf_spec s.tree.root.start
  have hend := Source.lineEnd_lt_lineStart hk hline
  rw [Source.clamp] at hstart
  omega

/-- The first line that is not blank opens the root. -/
theorem opensRoot_of_first (h : ∀ k < l, s.source.firstNonblank k = none) : s.OpensRoot l := by
  intro k hk hsome
  rw [h k hk] at hsome
  cases hsome

/-- The line that the root starts on has not moved when a line that opens the root is put somewhere. -/
theorem OpensRoot.lookup_eq_none (h : s.OpensRoot l) : (s.movedBefore l).lookup (s.source.lineOf s.tree.root.start) = none := by
  rw [lookup_movedBefore, if_neg]
  rintro ⟨hlt, hsome⟩
  have hend := h _ hlt hsome
  obtain ⟨hline, -, hclamp⟩ := s.source.lineOf_spec s.tree.root.start
  have hroot := s.tree.valid
  generalize s.tree.root = root at *
  obtain ⟨label, cs⟩ := root
  have hrange : label.start ≤ label.stop ∧ label.stop ≤ s.source.size := ⟨hroot.1, hroot.2.1⟩
  simp only [Source.clamp, Node.start, Node.label_mk] at hend hclamp
  omega

/-- A line that is right below a root other than a program, and opens it, hangs from where the line of the root stands. -/
theorem OpensRoot.column_eq (h : s.OpensRoot l) (hs : Awk.Builds s.language) (htype : s.tree.root.type ≠ "program")
    (hparent : (IndentContext.ofLine s.tree l).parent.node = s.tree.root) :
    (s.decisionAt l).column =
      s.columnOf (s.source.bol s.tree.root.start) + (s.decisionAt l).offset * s.config.indentUnit := by
  obtain ⟨r, hr, hanchor, hoffset⟩ := s.exists_decisionAt l
  rw [hs.hanging.anchor hr, hparent, if_neg htype, Anchor.position, IndentContext.tree_ofLine, hparent] at hanchor
  have hmeasure : s.columnAfter (s.movedBefore l) (s.decisionAt l).anchor = s.columnOf (s.source.bol s.tree.root.start) := by
    rw [hanchor]
    exact columnAfter_of_unmoved_line ((congrArg ((s.movedBefore l).lookup ·) (Source.lineOf_bol _)).trans h.lookup_eq_none)
  have hcolumn : 0 ≤ s.columnOf (s.source.bol s.tree.root.start) :=
    Source.column_nonneg (Int.natCast_pos.2 s.config.tabWidth_pos) _
  have hright : 0 ≤ (s.decisionAt l).offset * (s.config.indentUnit : Int) := by
    rw [hoffset]
    exact Int.mul_nonneg (hs.offset_nonneg r (IndentRules.mem_of_select hr)) (Int.natCast_nonneg _)
  rw [decisionAt_column, hmeasure]
  exact Int.max_eq_right (Int.add_nonneg hcolumn hright)

/-- The rule for a line is the same in a tree and in what it was carried over to. -/
theorem offset_eq_of_carriedTo (hs : Awk.Builds s.language) (ht : Awk.Builds t.language) (htree : s.tree.CarriedTo t.tree)
    {b c : Nat} (hb : s.source.firstNonblank l = some b) (hc : t.source.firstNonblank l = some c) :
    (s.decisionAt l).offset = (t.decisionAt l).offset := by
  obtain ⟨r, hr, -, hoffset⟩ := s.exists_decisionAt l
  obtain ⟨r', hr', -, hoffset'⟩ := t.exists_decisionAt l
  rw [← hs.indent_eq ht, ← IndentRules.select_alike (IndentContext.ofLine_carried htree hb hc).1 hs.hanging.types, hr] at hr'
  rw [hoffset, hoffset', Option.some.inj hr']

/-! ## Passes -/

/-- A pass leads from a session to one by the rules of AWK over the text that results, with the tree carried over to it. -/
structure Pass (s t : Session) : Prop where
  builds : Awk.Builds t.language
  config : s.config = t.config
  tree : s.tree.CarriedTo t.tree
  root : s.source.lineOf s.tree.root.start = t.source.lineOf t.tree.root.start
  text : ∃ text, s.reindent.1 = .ok text ∧ t.source = .ofString text

/-- In a pass the line of a root other than a program moves to the right by the offset of the rule for it. -/
theorem Pass.columnOf_root (h : s.Pass t) (hs : Awk.Builds s.language) (hvalid : Utf8.Valid s.source.bytes)
    (htype : s.tree.root.type ≠ "program") {b : Nat} (hb : s.source.firstNonblank (s.source.lineOf s.tree.root.start) = some b) :
    t.columnOf (t.source.bol t.tree.root.start) =
      s.columnOf b + (s.decisionAt (s.source.lineOf s.tree.root.start)).offset * s.config.indentUnit := by
  obtain ⟨text, htext, hsource⟩ := h.text
  have hvariant : s.source.Variant t.source := hsource ▸ variant_of_reindent hvalid htext
  obtain ⟨c, hc⟩ := hvariant.exists_firstNonblank hb
  have hstands := standsAt_of_reindent hvalid htext (Source.lt_lineCount_of_firstNonblank hb)
  rw [← hsource] at hstands
  have hput : t.columnOf c = (s.decisionAt (s.source.lineOf s.tree.root.start)).column := by
    rw [columnOf, ← h.config]
    exact Source.column_of_standsAt _ (s.decisionAt_column_nonneg _) hc hstands
  have hparent := (IndentContext.parent_eq_root h.tree hb hc s.opensRoot_lineOf).1
  rw [Source.bol_eq (h.root ▸ hc), hput, s.opensRoot_lineOf.column_eq hs htype hparent, Source.bol_eq hb]

/-- As many passes lead from one session to another. -/
inductive Passes : Nat → Session → Session → Prop where
  | refl (s : Session) : Passes 0 s s
  | step {s t u : Session} {n : Nat} : s.Pass t → Passes n t u → Passes (n + 1) s u

/-- With every pass the line of a root other than a program moves to the right by as much. -/
theorem Passes.columnOf_root {u : Session} {n : Nat} (h : Passes n s u) (hs : Awk.Builds s.language)
    (hvalid : Utf8.Valid s.source.bytes) (htype : s.tree.root.type ≠ "program") {b : Nat}
    (hb : s.source.firstNonblank (s.source.lineOf s.tree.root.start) = some b) :
    u.columnOf (u.source.bol u.tree.root.start) =
      s.columnOf b + n * ((s.decisionAt (s.source.lineOf s.tree.root.start)).offset * s.config.indentUnit) := by
  induction h generalizing b with
  | refl s => rw [Source.bol_eq hb, Int.natCast_zero, Int.zero_mul, Int.add_zero]
  | @step s t u n hpass hpasses ih =>
    obtain ⟨text, htext, hsource⟩ := hpass.text
    have hvariant : s.source.Variant t.source := hsource ▸ variant_of_reindent hvalid htext
    obtain ⟨c, hc⟩ := hvariant.exists_firstNonblank hb
    -- The rule for the line is the same in every pass.
    have hoffset := offset_eq_of_carriedTo hs hpass.builds hpass.tree hb hc
    rw [hpass.root] at hc hoffset
    have hmoved := hpass.columnOf_root hs hvalid htype hb
    have hrest := ih hpass.builds (hvariant.valid hvalid) (fun htop => htype (hpass.tree.type_eq.trans htop)) hc
    rw [Source.bol_eq hc] at hmoved
    rw [hrest, hmoved, hpass.root, hoffset, hpass.config, Int.natCast_succ, Int.add_mul, Int.one_mul, Int.add_assoc,
      Int.add_comm (_ * _)]

/-! ## Settled texts -/

/-- Where a text is put by indenting it and again by indenting what results, a line stands at the same column both times. -/
theorem column_eq_of_settled (h : s.reindent.1 = .ok text) (hsettled : t.reindent.1 = .ok text) {b c : Nat}
    (hb : s.source.firstNonblank l = some b) (hc : t.source.firstNonblank l = some c) :
    (s.decisionAt l).column = (t.decisionAt l).column := by
  have hlead := congrArg List.length ((leading_of_reindent h hb).symm.trans (leading_of_reindent hsettled hc))
  rw [List.length_replicate, List.length_replicate] at hlead
  have hs := s.decisionAt_column_nonneg l
  have ht := t.decisionAt_column_nonneg l
  omega

/-- Indenting once more by the rules of AWK, with the tree carried over, leaves a text as it is exactly when nothing is put
relative to the root, because it is a program or because all lines are blank, or the line that the root starts on has not moved.
The line of a root other than a program moves to the right by the offset of the rule for it, the first time and every time
after that. -/
theorem reindent_settles (hs : Awk.Builds s.language) (ht : Awk.Builds t.language) (hconfig : s.config = t.config)
    (htree : s.tree.CarriedTo t.tree) (hroot : s.source.lineOf s.tree.root.start = t.source.lineOf t.tree.root.start)
    (hvalid : Utf8.Valid s.source.bytes) (h : s.reindent.1 = .ok text) (htext : t.source = .ofString text) :
    (t.reindent.1 = .ok text ↔
      s.tree.root.type = "program" ∨ (∀ l, s.source.firstNonblank l = none) ∨
        s.columnOf (s.source.bol s.tree.root.start) = t.columnOf (t.source.bol t.tree.root.start)) ∧
      (s.tree.root.type ≠ "program" → ∀ b, s.source.firstNonblank (s.source.lineOf s.tree.root.start) = some b →
        ∀ n u, Passes n t u → u.columnOf (u.source.bol u.tree.root.start) =
          s.columnOf b + (n + 1) * ((s.indentLine (s.source.lineOf s.tree.root.start)).1.offset * s.config.indentUnit)) := by
  have hvariant : s.source.Variant t.source := htext ▸ variant_of_reindent hvalid h
  refine ⟨⟨fun hsettled => ?_, fun hlevel => ?_⟩, fun htype b hb n u hpasses => ?_⟩
  · -- The first line that is not blank hangs from the root in both texts, by the same rule and to the same column.
    refine or_iff_not_imp_left.2 fun htype => or_iff_not_imp_left.2 fun hblank => ?_
    obtain ⟨l, b, hb, hfirst⟩ := s.source.exists_first_line hblank
    obtain ⟨c, hc⟩ := hvariant.exists_firstNonblank hb
    have hopens := opensRoot_of_first hfirst
    have hopens' := opensRoot_of_first (s := t) fun k hk => hvariant.firstNonblank_eq_none (hfirst k hk)
    obtain ⟨hparent, hparent'⟩ := IndentContext.parent_eq_root htree hb hc hopens
    have hcolumn := hopens.column_eq hs htype hparent
    have hcolumn' := hopens'.column_eq ht (fun htop => htype (htree.type_eq.trans htop)) hparent'
    have hsame := column_eq_of_settled h hsettled hb hc
    rw [← hconfig, ← offset_eq_of_carriedTo hs ht htree hb hc] at hcolumn'
    omega
  · have halike : Alike "program" s t :=
      ⟨hs.indent_eq ht, hs.hanging, hconfig, hlevel.imp_right (.imp_right fun hcolumn => ⟨hroot, hcolumn⟩), htree, hvariant⟩
    exact halike.reindent_eq.symm.trans h
  · have hpass : s.Pass t := ⟨ht, hconfig, htree, hroot, text, h, htext⟩
    exact (Passes.step hpass hpasses).columnOf_root hs hvalid htype hb

/-! ### A word under an error -/

/-- An error that is nothing but a word, given where it starts. -/
def strayTree (word : Int) : Node :=
  .mk { type := errorType, start := word, stop := word + 1 } [.mk { type := "identifier", start := word, stop := word + 1 } []]

/-- The word at the left. -/
def stray : Session :=
  ⟨⟨strayTree 0, .ofString "x\n", by simp only [strayTree, Node.Valid, Node.ValidAll, Node.Laid]; decide⟩, settings,
    Awk.language, by decide⟩

/-- The word where it is put. -/
def strayOnce : Session :=
  ⟨⟨strayTree 4, .ofString "    x\n", by simp only [strayTree, Node.Valid, Node.ValidAll, Node.Laid]; decide⟩, settings,
    Awk.language, by decide⟩

/-- The error is carried over with its word. -/
theorem carriedTo_strayOnce : stray.tree.root.CarriedTo stray.source strayOnce.source strayOnce.tree.root := by
  have hstart : stray.source.SamePlace strayOnce.source 0 4 :=
    ⟨0, 0, 4, 0, by decide, by decide, by decide, by decide, by decide, by decide⟩
  have hstop : stray.source.SamePlace strayOnce.source 1 5 :=
    ⟨0, 0, 4, 1, by decide, by decide, by decide, by decide, by decide, by decide⟩
  exact ⟨rfl, hstart, hstop, ⟨rfl, hstart, hstop, trivial⟩, trivial⟩

theorem valid_stray : Utf8.Valid stray.source.bytes := by
  unfold Utf8.Valid
  decide

theorem reindent_stray : stray.reindent.1 = .ok "    x\n" := by decide +kernel

/-- Where it is put the word is further to the right by a unit, so it does not stay there. -/
theorem reindent_settles_stray :
    stray.tree.CarriedTo strayOnce.tree ∧ Utf8.Valid stray.source.bytes ∧ stray.reindent.1 = .ok "    x\n" ∧
      strayOnce.columnOf 4 = stray.columnOf 0 + (0 + 1) * (1 * 4) ∧ strayOnce.reindent.1 ≠ .ok "    x\n" := by
  have htree := carriedTo_strayOnce.carriedBelow
  have hsettles := reindent_settles Awk.builds_language Awk.builds_language (s := stray) (t := strayOnce) rfl htree (by decide)
    valid_stray reindent_stray rfl
  have hoffset : (stray.indentLine 0).1.offset = 1 := by decide +kernel
  have hmoves := hsettles.2 (by decide) 0 (by decide) 0 strayOnce (.refl _)
  rw [show stray.source.lineOf stray.tree.root.start = 0 by decide, hoffset] at hmoves
  refine ⟨htree, valid_stray, reindent_stray, hmoves, fun hsettled => ?_⟩
  rcases hsettles.1.1 hsettled with htype | hblank | hlevel
  · exact absurd htype (by decide)
  · exact absurd (hblank 0) (by decide)
  · exact absurd hlevel (by decide)

/-- Indenting the word again moves it again. -/
theorem not_settled_stray :
    stray.tree.root.type = errorType ∧ stray.tree.root.CarriedTo stray.source strayOnce.source strayOnce.tree.root ∧
      Utf8.Valid stray.source.bytes ∧ stray.reindent.1 = .ok "    x\n" ∧ strayOnce.source = .ofString "    x\n" ∧
      strayOnce.reindent.1 = .ok "        x\n" ∧ strayOnce.reindent.1 ≠ .ok "    x\n" := by
  have hagain : strayOnce.reindent.1 = .ok "        x\n" := by decide +kernel
  refine ⟨rfl, carriedTo_strayOnce, valid_stray, reindent_stray, rfl, hagain, ?_⟩
  rw [hagain]
  decide

end Session

end AwkEdit
