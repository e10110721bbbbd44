import AwkEdit.Indent.Rules
import AwkEdit.Proofs.Indent.Context
import AwkEdit.Proofs.Source.Columns

/-!
# What a line is measured from lies above

A line is looked at from a byte of its own, and what is above that byte, other than the root, starts before it. Further up nothing
starts later, and no sibling of the node that a line is looked at with starts after that node if it comes first. So where the root
starts with the text, every anchor of a line lies on that line or on an earlier one (`Anchor.lineOf_position_le`), but for the first
child of what is above a line without a node, which may be anywhere below.
-/

namespace AwkEdit

/-! ## What is above a line -/

namespace IndentContext

variable {t : Snapshot} {l : Nat} {p : Place}

/-- A blank line is looked at from its start, without a node, below what encloses the start. -/
theorem ofLine_of_blank (hblank : t.source.firstNonblank l = none) :
    ofLine t l = ⟨t, none, t.enclosingNode (t.source.lineStart l), t.source.lineStart l⟩ := by
  simp only [ofLine, hblank]

/-- A line is looked at from a byte of its own. -/
theorem lineOf_bol_ofLine (hl : l < t.source.lineCount) : t.source.lineOf (ofLine t l).bol = l := by
  cases hb : t.source.firstNonblank l with
  | none =>
    rw [ofLine_of_blank hb]
    exact Source.lineOf_lineStart hl
  | some b =>
    have hrange := Source.firstNonblank_range hb
    rw [bol_ofLine hb, Source.lineOf_of_firstNonblank hb (by omega) (by omega)]

/-- The node that a line is looked at with is a child of what is above it, and starts at the byte that the line is looked at from
or before it. -/
theorem node_mem_children (hp : (ofLine t l).node = some p) :
    p ∈ (ofLine t l).parent.children ∧ t.rootPlace.Reaches (ofLine t l).parent ∧ p.node.start ≤ (ofLine t l).bol := by
  cases hb : t.source.firstNonblank l with
  | none =>
    rw [ofLine_of_blank hb] at hp
    cases hp
  | some b =>
    obtain ⟨⟨hplace, hbelow, hcontains⟩, hparent, -⟩ := coversBelow_of_node_ofLine hb hp
    rw [bol_ofLine hb]
    rcases (Place.mem_subtree_iff.1 hplace).eq_or_parent with rfl | ⟨above, habove, hreach, hchild⟩
    · cases hbelow
    · obtain rfl := Option.some.inj (hparent.symm.trans habove)
      simp only [Node.contains, Bool.and_eq_true, decide_eq_true_eq] at hcontains
      exact ⟨hchild, hreach, hcontains.1⟩

/-- What is above a line is a place of the tree: the root, or one that starts before the byte that the line is looked at from. -/
theorem parent_spec (t : Snapshot) (l : Nat) :
    t.rootPlace.Reaches (ofLine t l).parent ∧
      ((ofLine t l).parent = t.rootPlace ∨ (ofLine t l).parent.node.start < (ofLine t l).bol) := by
  cases hb : t.source.firstNonblank l with
  | none =>
    rw [ofLine_of_blank hb]
    refine ⟨Place.reaches_deepest _ _, ?_⟩
    rcases Place.deepest_eq_or_accepted (Node.encloses (t.source.lineStart l)) t.rootPlace with hroot | hencloses
    · exact .inl hroot
    · simp only [Node.encloses, Bool.and_eq_true, decide_eq_true_eq] at hencloses
      exact .inr hencloses.1
  | some b =>
    have hreached : t.rootPlace.Reaches (t.largestNodeAt b) := (Place.climb_reaches t.valid (Place.reaches_deepest _ _)).1
    rw [bol_ofLine hb]
    simp only [ofLine, hb]
    generalize hp : t.largestNodeAt b = p at hreached ⊢
    obtain ⟨n, trail⟩ := p
    cases trail with
    | nil => exact ⟨.refl _, .inl rfl⟩
    | cons step trail =>
      have habove : t.rootPlace.Reaches ⟨step.2, trail⟩ := hreached.above.1
      refine ⟨habove, ?_⟩
      cases trail with
      | nil => exact .inl (habove.eq_of_isRoot rfl)
      | cons next rest => exact .inr (Snapshot.start_lt_of_largestNodeAt (congrArg Place.trail hp))

/-- Where the root starts with the text, nothing on the way up from what is above a line starts after the byte that the line is
looked at from. -/
theorem start_le_bol (hroot : t.root.start = 0) {q : Place} (hq : q ∈ (ofLine t l).parent :: (ofLine t l).parent.ancestors) :
    q.node.start ≤ (ofLine t l).bol := by
  obtain ⟨hreached, habove⟩ := parent_spec t l
  obtain ⟨hqroot, hqparent⟩ := (Place.mem_cons_ancestors_iff hreached).1 hq
  have hle := (hqparent.range (hqroot.range t.valid).1).2.1
  rcases habove with heq | hlt
  · have hstart : (ofLine t l).parent.node.start = 0 := by
      rw [heq]
      exact hroot
    omega
  · omega

end IndentContext

/-! ## Anchors -/

/-- The first child of a place starts no later than the others. -/
theorem Place.start_head_le {limit : Nat} {p c : Place} (hp : p.node.Valid limit) (hc : c ∈ p.children) :
    (p.node.children.head?.getD p.node).start ≤ c.node.start := by
  have hapart := pairwise_stop_le_start hp
  rw [← map_node_children]
  generalize hcs : p.children = cs at hc hapart ⊢
  cases cs with
  | nil => cases hc
  | cons d cs =>
    have hd : d.node.start ≤ d.node.stop :=
      (hp.child (node_mem_of_mem_children (hcs ▸ List.mem_cons_self))).1.start_le_stop
    rcases List.mem_cons.1 hc with rfl | hc
    · exact Int.le_refl _
    · exact Int.le_trans hd ((List.pairwise_cons.1 hapart).1 c hc)

namespace Anchor

/-- The place that stands alone, from one upwards, is the first on the way up that starts its line, or the root. -/
theorem standalone_eq (source : Source) {m n : Node} {trail : List (Nat × Node)} (h : (Place.root m).Reaches ⟨n, trail⟩) :
    standalone source n trail =
      (((⟨n, trail⟩ :: Place.along trail).find? fun q => (source.bol q.node.start : Int) = q.node.start).getD
        (.root m)).node := by
  induction trail generalizing n with
  | nil =>
    obtain rfl : n = m := congrArg Place.node (h.eq_of_isRoot rfl)
    rw [standalone, Place.along, List.find?_singleton]
    split <;> rfl
  | cons step trail ih =>
    rw [standalone, List.find?_cons]
    by_cases hbol : (source.bol n.start : Int) = n.start
    · simp [hbol]
    · simp only [hbol, if_false]
      exact ih h.above.1

variable {t : Snapshot} {l : Nat}

/-- What stands alone above a line is the first on the way up that starts its line, or the root. -/
theorem position_standaloneParent (t : Snapshot) (l : Nat) :
    standaloneParent.position (.ofLine t l) =
      ((((IndentContext.ofLine t l).parent :: (IndentContext.ofLine t l).parent.ancestors).find? fun q =>
        (t.source.bol q.node.start : Int) = q.node.start).getD t.rootPlace).node.start := by
  rw [position, IndentContext.tree_ofLine, standalone_eq _ (IndentContext.parent_spec t l).1]
  rfl

/-- Where the root starts with the text, the anchors of a line lie on the line or on an earlier one, the first sibling if the line
has a node. -/
theorem lineOf_position_le (hroot : t.root.start = 0) (hl : l < t.source.lineCount) {a : Anchor}
    (ha : a ≠ .firstSibling ∨ (IndentContext.ofLine t l).node.isSome = true) :
    t.source.lineOf (a.position (.ofLine t l)) ≤ l := by
  have hline := IndentContext.lineOf_bol_ofLine hl
  have hchain : ∀ q ∈ (IndentContext.ofLine t l).parent :: (IndentContext.ofLine t l).parent.ancestors,
      t.source.lineOf q.node.start ≤ l :=
    fun q hq => hline ▸ Source.lineOf_mono (IndentContext.start_le_bol hroot hq)
  cases a with
  | columnZero =>
    rw [position, IndentContext.tree_ofLine, hline, Source.lineOf_lineStart hl]
  | parentBol =>
    rw [position, IndentContext.tree_ofLine, Source.lineOf_bol]
    exact hchain _ List.mem_cons_self
  | parent => exact hchain _ List.mem_cons_self
  | grandParentBol =>
    rw [position, IndentContext.tree_ofLine, Source.lineOf_bol]
    refine hchain _ ?_
    rw [Place.parent]
    cases (IndentContext.ofLine t l).parent.ancestors with
    | nil => exact List.mem_cons_self
    | cons above rest => exact List.mem_cons_of_mem _ List.mem_cons_self
  | standaloneParent =>
    rw [position_standaloneParent]
    refine hchain _ ?_
    cases hfind : ((IndentContext.ofLine t l).parent :: (IndentContext.ofLine t l).parent.ancestors).find? fun q =>
        (t.source.bol q.node.start : Int) = q.node.start with
    | some q => exact List.mem_of_find?_eq_some hfind
    | none =>
      have hreached := (IndentContext.parent_spec t l).1
      exact (Place.mem_cons_ancestors_iff hreached).2 ⟨.refl _, hreached⟩
  | firstSibling =>
    obtain ⟨p, hp⟩ := Option.isSome_iff_exists.1 (ha.resolve_left (absurd rfl))
    obtain ⟨hchild, hreached, hstart⟩ := IndentContext.node_mem_children hp
    have hfirst := Place.start_head_le (hreached.range t.valid).1 hchild
    rw [position]
    exact Nat.le_trans (Source.lineOf_mono (Int.le_trans hfirst hstart)) (Nat.le_of_eq hline)

end Anchor

end AwkEdit
