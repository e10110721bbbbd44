import AwkEdit.Tree.Snapshot

/-!
# Descending to a position and climbing back

A descent steps from a node to one of its children as long as a test accepts one, so what every such step preserves holds of
the place it comes to. Along the way from a node of a snapshot up to the root no node starts after the one below it, and none
starts before the root. The node above the outermost place that starts at a position starts before it, unless that node is the
root.
-/

namespace AwkEdit

/-! ## Descents -/

section Induction

variable {accept : Node → Bool} {motive : Place → Prop}

mutual

/-- What every step to an accepted child preserves holds where a descent comes to. -/
theorem Node.deepest_induction
    (hstep : ∀ p i c, motive p → c ∈ p.node.children → accept c = true → motive ⟨c, (i, p.node) :: p.trail⟩) :
    (n : Node) → (trail : List (Nat × Node)) → motive ⟨n, trail⟩ → motive (n.deepest accept trail)
  | .mk l cs, trail, h => by
    rw [Node.deepest]
    exact deepestChild_induction hstep h cs (fun c hc => hc) 0

/-- The same for a descent through one of some children. -/
theorem deepestChild_induction
    (hstep : ∀ p i c, motive p → c ∈ p.node.children → accept c = true → motive ⟨c, (i, p.node) :: p.trail⟩)
    {parent : Node} {trail : List (Nat × Node)} (h : motive ⟨parent, trail⟩) :
    (cs : List Node) → (∀ c ∈ cs, c ∈ parent.children) → (i : Nat) →
      motive ((deepestChild accept parent trail i cs).getD ⟨parent, trail⟩)
  | [], _, _ => by
    rw [deepestChild, Option.getD_none]
    exact h
  | c :: cs, hcs, i => by
    rw [List.forall_mem_cons] at hcs
    rw [deepestChild]
    split
    next hc =>
      rw [Option.getD_some]
      exact c.deepest_induction hstep _ (hstep ⟨parent, trail⟩ i c h hcs.1 hc)
    next => exact deepestChild_induction hstep h cs hcs.2 (i + 1)

end

end Induction

/-! ## Climbs -/

namespace Place

/-- Along the trail of a place no node starts after the one below it. -/
def Nested (n : Node) : List (Nat × Node) → Prop
  | [] => True
  | (_, above) :: trail => above.start ≤ n.start ∧ Nested above trail

/-- The outermost place below the root that starts where a place does: it starts there, it is nested when the place is, it is
the root when the place is, and the node above it starts elsewhere or is the root. -/
theorem climb_spec (n : Node) (trail : List (Nat × Node)) :
    (climb n trail).node.start = n.start ∧ (Nested n trail → Nested (climb n trail).node (climb n trail).trail) ∧
      (trail = [] → (climb n trail).trail = []) ∧
      ∀ i above next rest, (climb n trail).trail = (i, above) :: next :: rest → above.start ≠ n.start := by
  induction trail generalizing n with
  | nil => simp [climb]
  | cons step trail ih =>
    obtain ⟨i, above⟩ := step
    cases trail with
    | nil => simp [climb]
    | cons next trail =>
      rw [climb]
      split
      next hstart =>
        obtain ⟨hclimb, hnested, -, habove⟩ := ih above
        -- The climb goes on from the node above, which starts where this one does.
        refine ⟨hclimb.trans hstart, fun h => hnested h.2, fun h => absurd h (List.cons_ne_nil _ _), ?_⟩
        rw [← hstart]
        exact habove
      next hstart =>
        refine ⟨rfl, id, id, fun j other next' rest heq => ?_⟩
        obtain ⟨⟨rfl, rfl⟩, -⟩ := List.cons.inj heq |>.imp Prod.mk.inj id
        exact hstart

/-- A climb goes along the trail: where it comes to and what lies above was there before. -/
theorem mem_of_mem_climb {n m : Node} {trail : List (Nat × Node)}
    (h : m ∈ (climb n trail).node :: (climb n trail).trail.map (·.2)) : m ∈ n :: trail.map (·.2) := by
  induction trail generalizing n with
  | nil => exact h
  | cons step trail ih =>
    obtain ⟨i, above⟩ := step
    cases trail with
    | nil => exact h
    | cons next trail =>
      rw [climb] at h
      split at h
      next => exact List.mem_cons_of_mem n (ih h)
      next => exact h

end Place

/-! ## Places of a snapshot -/

namespace Node

/-- No child starts before the node. -/
theorem Laid.start_le {parent : Label} {cs : List Node} {last : Int} (h : Laid parent last cs) :
    ∀ c ∈ cs, parent.start ≤ c.start := by
  induction cs generalizing last with
  | nil => simp
  | cons c cs ih => exact List.forall_mem_cons.2 ⟨h.1, ih h.2.2.2⟩

theorem ValidAll.of_mem {limit : Nat} {cs : List Node} (h : ValidAll limit cs) : ∀ c ∈ cs, c.Valid limit := by
  induction cs with
  | nil => simp
  | cons c cs ih => exact List.forall_mem_cons.2 ⟨h.1, ih h.2⟩

/-- The children of a node that makes sense make sense, and none starts before the node. -/
theorem Valid.child {limit : Nat} {n c : Node} (h : n.Valid limit) (hc : c ∈ n.children) :
    c.Valid limit ∧ n.start ≤ c.start := by
  obtain ⟨l, cs⟩ := n
  exact ⟨h.2.2.2.of_mem c hc, h.2.2.1.start_le c hc⟩

end Node

namespace Snapshot

/-- The deepest place that contains a position is nested, and starts at or before the position if it is not the root. -/
theorem nodeAt_spec (t : Snapshot) (pos : Int) :
    Place.Nested (t.nodeAt pos).node (t.nodeAt pos).trail ∧ ((t.nodeAt pos).trail ≠ [] → (t.nodeAt pos).node.start ≤ pos) := by
  have hreached : (t.nodeAt pos).node.Valid t.source.size ∧ Place.Nested (t.nodeAt pos).node (t.nodeAt pos).trail ∧
      ((t.nodeAt pos).trail ≠ [] → (t.nodeAt pos).node.start ≤ pos) := by
    refine Node.deepest_induction
      (motive := fun p => p.node.Valid t.source.size ∧ Place.Nested p.node p.trail ∧ (p.trail ≠ [] → p.node.start ≤ pos))
      (fun p i c hp hc haccept => ?_) t.root [] ⟨t.valid, trivial, fun h => absurd rfl h⟩
    obtain ⟨hvalid, hstart⟩ := hp.1.child hc
    simp only [Node.contains, Bool.and_eq_true, decide_eq_true_eq] at haccept
    exact ⟨hvalid, ⟨hstart, hp.2.1⟩, fun _ => haccept.1⟩
  exact hreached.2

/-- The node above the outermost place that starts where the deepest place at a position does starts before that position,
unless it is the root. -/
theorem start_lt_of_largestNodeAt {t : Snapshot} {pos : Int} {i : Nat} {above : Node} {next : Nat × Node}
    {rest : List (Nat × Node)} (h : (t.largestNodeAt pos).trail = (i, above) :: next :: rest) : above.start < pos := by
  obtain ⟨hnested, hpos⟩ := t.nodeAt_spec pos
  obtain ⟨hstart, hclimbed, hroot, habove⟩ := Place.climb_spec (t.nodeAt pos).node (t.nodeAt pos).trail
  have hne : (t.nodeAt pos).trail ≠ [] := by
    intro hnil
    rw [largestNodeAt, Place.outermost, hroot hnil] at h
    cases h
  have hle : above.start ≤ (t.largestNodeAt pos).node.start := by
    have := hclimbed hnested
    rw [largestNodeAt, Place.outermost] at h ⊢
    rw [h] at this
    exact this.1
  rw [largestNodeAt, Place.outermost, hstart] at hle
  have := habove i above next rest h
  have := hpos hne
  omega

/-- Nothing on the way to the deepest place at a position starts before the root. -/
theorem root_start_le_of_nodeAt (t : Snapshot) (pos : Int) :
    ∀ m ∈ (t.nodeAt pos).node :: (t.nodeAt pos).trail.map (·.2), t.root.start ≤ m.start := by
  have hreached : (t.nodeAt pos).node.Valid t.source.size ∧
      ∀ m ∈ (t.nodeAt pos).node :: (t.nodeAt pos).trail.map (·.2), t.root.start ≤ m.start := by
    refine Node.deepest_induction
      (motive := fun p => p.node.Valid t.source.size ∧ ∀ m ∈ p.node :: p.trail.map (·.2), t.root.start ≤ m.start)
      (fun p i c hp hc _ => ?_) t.root [] ⟨t.valid, by simp⟩
    obtain ⟨hvalid, hstart⟩ := hp.1.child hc
    exact ⟨hvalid, List.forall_mem_cons.2 ⟨Int.le_trans (hp.2 p.node List.mem_cons_self) hstart, hp.2⟩⟩
  exact hreached.2

/-- The node above the outermost place that starts where the deepest place at a position does starts at the root or after it. -/
theorem root_start_le_of_largestNodeAt {t : Snapshot} {pos : Int} {i : Nat} {above : Node} {rest : List (Nat × Node)}
    (h : (t.largestNodeAt pos).trail = (i, above) :: rest) : t.root.start ≤ above.start := by
  refine t.root_start_le_of_nodeAt pos above (Place.mem_of_mem_climb (List.mem_cons_of_mem _ ?_))
  rw [largestNodeAt, Place.outermost] at h
  rw [h]
  exact List.mem_cons_self

end Snapshot

end AwkEdit
