import AwkEdit.Proofs.Pattern.Dispatch
import AwkEdit.Proofs.Tree.Conversion

/-!
# Walks from a stack

A walk keeps a stack of places. It takes the one on top, leaves it out when it is not to be kept, and otherwise puts its children
on the stack. That leaves out a place with everything below it, so what the walk comes to is, of the places in pre-order, those
that are to be kept together with all places above them (`visitKept_eq_flatMap`, `walk_eq_filter`). When the walk is bounded by
two positions, a node that is not empty and meets the bytes between them is never left out for a node above it, since that one
meets them as well (`walk_bounded`). An empty node may be: it meets a bound that it only touches, which the node above it does not.
-/

namespace AwkEdit

namespace Place

variable {keep : Node → Bool} {p q : Place}

/-! ## The stack -/

/-- Whether a walk keeps a place: it keeps the root, and elsewhere the nodes that `keep` accepts. -/
def isKept (keep : Node → Bool) (p : Place) : Bool := p.isRoot || keep p.node

/-- The places that come of a stack when not every place is kept: the place on top is left out, or visited and its children are put
on the stack, from the last to the first. -/
def visitKept (keep : Node → Bool) : List Place → List Place
  | [] => []
  | p :: stack => if p.isKept keep then p :: visitKept keep (p.children ++ stack) else visitKept keep stack
termination_by stack => (stack.flatMap subtree).length
decreasing_by
  all_goals
    rw [List.flatMap_cons, subtree_eq p, List.cons_append, List.length_cons]
  · rw [List.flatMap_append]
    exact Nat.lt_succ_self _
  · rw [List.length_append]
    omega

/-- Children are kept for their nodes, since no child is the root. -/
theorem isKept_of_mem_children {c : Place} (h : c ∈ p.children) : c.isKept keep = keep c.node := by
  obtain ⟨⟨n, i⟩, -, rfl⟩ := List.mem_map.1 h
  rfl

/-- Each place on a stack that is kept is walked from before the rest of the stack. -/
theorem visitKept_eq_flatMap (keep : Node → Bool) (stack : List Place) :
    visitKept keep stack = stack.flatMap fun p => if p.isKept keep then p.walk keep else [] := by
  induction stack using visitKept.induct keep with
  | case1 => rw [visitKept, List.flatMap_nil]
  | case2 p stack hkept ih =>
    have hchildren : (p.children.flatMap fun c => if c.isKept keep then c.walk keep else []) =
        p.children.flatMap fun c => if keep c.node then c.walk keep else [] :=
      List.flatMap_congr fun c hc => by rw [isKept_of_mem_children hc]
    rw [visitKept, if_pos hkept, ih, List.flatMap_append, List.flatMap_cons, if_pos hkept, hchildren, walk_eq, List.cons_append]
  | case3 p stack hdropped ih => rw [visitKept, if_neg hdropped, ih, List.flatMap_cons, if_neg hdropped, List.nil_append]

/-! ## What is left out -/

/-- Whether a walk keeps a place and all places above it. -/
def isKeptThrough (keep : Node → Bool) (p : Place) : Bool := (p :: p.ancestors).all (·.isKept keep)

theorem isKeptThrough_of_mem_children {c : Place} (h : c ∈ p.children) :
    c.isKeptThrough keep = (keep c.node && p.isKeptThrough keep) := by
  rw [isKeptThrough, List.all_cons, isKept_of_mem_children h, ancestors_of_mem_children h]
  rfl

/-- A place is not kept through when one above it is not kept. -/
theorem isKeptThrough_of_reaches (h : p.Reaches q) (hq : q.isKeptThrough keep = true) : p.isKeptThrough keep = true := by
  induction h with
  | refl p => exact hq
  | step hc _ ih =>
    rw [isKeptThrough_of_mem_children hc, Bool.and_eq_true] at ih
    exact (ih hq).2

/-- From a place that is kept through, a walk comes in pre-order to what is kept through below it. -/
theorem walk_eq_filter (hp : p.isKeptThrough keep = true) : p.walk keep = p.subtree.filter (·.isKeptThrough keep) := by
  induction p using children_induction with
  | hstep p ih =>
    have hchild : ∀ c ∈ p.children, (if keep c.node then c.walk keep else []) = c.subtree.filter (·.isKeptThrough keep) := by
      intro c hc
      have hthrough : c.isKeptThrough keep = keep c.node := by
        rw [isKeptThrough_of_mem_children hc, hp, Bool.and_true]
      split
      next hkeep => exact ih c hc (hthrough.trans hkeep)
      next hdrop =>
        refine (List.filter_eq_nil_iff.2 fun q hq hkept => hdrop ?_).symm
        rw [← hthrough]
        exact isKeptThrough_of_reaches (mem_subtree_iff.1 hq) hkept
    rw [walk_eq, subtree_eq, List.filter_cons_of_pos hp, List.filter_flatMap, List.flatMap_congr hchild]

/-! ## Pre-order -/

/-- The path to a child goes on from the path to the place by the index of the child. -/
theorem path_mk (n : Node) (i : Nat) (above : Node) (trail : List (Nat × Node)) :
    (⟨n, (i, above) :: trail⟩ : Place).path = (⟨above, trail⟩ : Place).path ++ [i] := by
  rw [path, List.map_cons, List.reverse_cons]
  rfl

/-- The path to what lies below goes on from the path to the place. -/
theorem Reaches.path_extends (h : p.Reaches q) : p.path <+: q.path := by
  induction h with
  | refl p => exact List.prefix_refl _
  | step hc _ ih =>
    obtain ⟨⟨n, i⟩, -, rfl⟩ := List.mem_map.1 hc
    rw [path_mk] at ih
    exact (List.prefix_append _ _).trans ih

/-- In pre-order the paths are in lexicographic order, so that no place comes twice. -/
theorem pairwise_path_subtree (p : Place) : p.subtree.Pairwise fun q r => q.path < r.path := by
  induction p using children_induction with
  | hstep p ih =>
    rw [subtree_eq, List.pairwise_cons, List.pairwise_flatMap]
    refine ⟨fun q hq => ?_, ih, ?_⟩
    · obtain ⟨c, hc, hq⟩ := List.mem_flatMap.1 hq
      obtain ⟨⟨n, i⟩, -, rfl⟩ := List.mem_map.1 hc
      obtain ⟨rest, hrest⟩ := (mem_subtree_iff.1 hq).path_extends
      have hlonger : p.path ++ [] < p.path ++ i :: rest := List.append_left_lt (List.nil_lt_cons i rest)
      rw [List.append_nil] at hlonger
      rwa [← hrest, path_mk, List.append_assoc, List.singleton_append]
    · -- The paths to two children part at the indices of the children.
      rw [children, List.pairwise_map]
      refine (Dispatch.zipIdx_pairwise p.node.children 0).imp fun {c d} hcd q hq r hr => ?_
      obtain ⟨before, hbefore⟩ := (mem_subtree_iff.1 hq).path_extends
      obtain ⟨after, hafter⟩ := (mem_subtree_iff.1 hr).path_extends
      rw [← hbefore, ← hafter, path_mk, path_mk, List.append_assoc, List.append_assoc]
      exact List.append_left_lt (List.cons_lt_cons_iff.2 (.inl hcd))

end Place

/-! ## Bounds -/

/-- A node that is not empty meets the bytes between two positions when it starts before the one and stops after the other. -/
theorem Node.meets_iff {low high : Int} {n : Node} (hne : n.start ≠ n.stop) :
    n.meets low high = true ↔ n.start < high ∧ low < n.stop := by
  rw [meets, if_neg hne, Bool.and_eq_true, decide_eq_true_eq, decide_eq_true_eq]

namespace Snapshot

variable {t : Snapshot} {low high : Int} {p : Place}

/-- A node that is not empty is kept through exactly when it meets the bytes between the bounds, since all nodes above it do then. -/
theorem isKeptThrough_meets_iff (hp : p ∈ t.places) (hroot : p.isRoot = false) (hne : p.node.start ≠ p.node.stop) :
    p.isKeptThrough (Node.meets low high) = true ↔ p.node.start < high ∧ low < p.node.stop := by
  have hreach := Place.mem_subtree_iff.1 hp
  rw [← Node.meets_iff hne, Place.isKeptThrough, List.all_eq_true]
  constructor
  · intro hkept
    have hself := hkept p List.mem_cons_self
    rwa [Place.isKept, hroot, Bool.false_or] at hself
  · intro hmeets a ha
    obtain ⟨haroot, hap⟩ := (Place.mem_cons_ancestors_iff hreach).1 ha
    have hrange := (hap.range (haroot.range t.valid).1).2
    have hle := (valid_of_mem_places hp).start_le_stop
    rw [Node.meets_iff hne] at hmeets
    rw [Place.isKept, (Node.meets_iff (by omega)).2 (by omega), Bool.or_true]

/-- Given a bound, a walk from the stack comes to those places, in their order, that are the root or meet the bytes between the
bounds together with all places above them but the root. Of the nodes below the root that are not empty these are the ones that
start before the upper bound and stop after the lower one. With no bound it comes to every place, in the recursive pre-order of the
tree. No walk comes to a place twice. -/
theorem walk_bounded (t : Snapshot) (start stop : Option Int) :
    (start ≠ none ∨ stop ≠ none →
      t.walk start stop = Place.visitKept (Node.meets (start.getD 0) (stop.getD t.source.size)) [t.rootPlace] ∧
      t.walk start stop =
        t.places.filter (fun p => (p :: p.ancestors).all fun a =>
          a.isRoot || a.node.meets (start.getD 0) (stop.getD t.source.size)) ∧
      ∀ p ∈ t.places, p.isRoot = false → p.node.start ≠ p.node.stop →
        (p ∈ t.walk start stop ↔ p.node.start < stop.getD t.source.size ∧ start.getD 0 < p.node.stop)) ∧
    (t.walk none none = Place.visit [t.rootPlace] ∧ t.walk none none = t.places) ∧
    (t.places.map (·.node) = t.root.preorder ∧ ∀ p, p ∈ t.places ↔ t.rootPlace.Reaches p) ∧
    (t.walk start stop).Pairwise fun p q => p.path < q.path := by
  have hordered : t.places.Pairwise fun p q => p.path < q.path := Place.pairwise_path_subtree t.rootPlace
  -- The root is kept, and so is all that is above it.
  have hfilter : ∀ keep, t.rootPlace.walk keep = t.places.filter (·.isKeptThrough keep) := fun keep =>
    Place.walk_eq_filter rfl
  have hwalk : start ≠ none ∨ stop ≠ none →
      t.walk start stop = t.rootPlace.walk (Node.meets (start.getD 0) (stop.getD t.source.size)) := by
    intro hbound
    match start, stop with
    | some _, _ => rfl
    | none, some _ => rfl
    | none, none => simp at hbound
  refine ⟨fun hbound => ?_, ⟨?_, rfl⟩, ⟨Place.map_node_walk [] t.root, fun p => Place.mem_subtree_iff⟩, ?_⟩
  · rw [hwalk hbound]
    refine ⟨?_, hfilter _, fun p hp hroot hne => ?_⟩
    · rw [Place.visitKept_eq_flatMap, List.flatMap_singleton]
      rfl
    · rw [hfilter, List.mem_filter, ← isKeptThrough_meets_iff hp hroot hne]
      exact and_iff_right hp
  · rw [Place.visit_eq_flatMap, List.flatMap_singleton]
    rfl
  · by_cases hbound : start ≠ none ∨ stop ≠ none
    · rw [hwalk hbound, hfilter]
      exact hordered.filter _
    · obtain ⟨rfl, rfl⟩ : start = none ∧ stop = none := by simpa using hbound
      exact hordered

/-! ### An empty node at the end of another -/

/-- A phrase that ends in an empty node, and a word right after it. -/
def trailing : Node :=
  .mk { type := "program", start := 0, stop := 3 }
    [.mk { type := "phrase", start := 0, stop := 2 }
      [.mk { type := "word", start := 0, stop := 2 } [], .mk { type := "empty", start := 2, stop := 2 } []],
      .mk { type := "word", start := 2, stop := 3 } []]

theorem valid_trailing : trailing.Valid (Source.ofString "abc").size := by
  simp only [trailing, Node.Valid, Node.ValidAll, Node.Laid]
  decide

/-- From the end of the phrase on, a walk comes to the root and the word after the phrase. It leaves out the empty node with the
phrase, though the empty node lies at the bound. -/
theorem walk_bounded_trailing :
    let t : Snapshot := ⟨trailing, .ofString "abc", valid_trailing⟩
    (some 2 ≠ (none : Option Int) ∨ (none : Option Int) ≠ none) ∧ (t.walk (some 2) none).map (·.path) = [[], [1]] ∧
      ∃ p ∈ t.places, p.path = [0, 1] ∧ p.node.meets 2 t.source.size = true ∧ p ∉ t.walk (some 2) none := by
  intro t
  have hbound : some 2 ≠ (none : Option Int) ∨ (none : Option Int) ≠ none := .inl nofun
  have hpaths : (t.walk (some 2) none).map (·.path) = [[], [1]] := by
    rw [((walk_bounded t (some 2) none).1 hbound).2.1]
    decide +kernel
  have hempty : ∃ p ∈ t.places, p.path = [0, 1] ∧ p.node.meets 2 t.source.size = true := by decide +kernel
  obtain ⟨p, hp, hpath, hmeets⟩ := hempty
  refine ⟨hbound, hpaths, p, hp, hpath, hmeets, fun hwalked => ?_⟩
  have := List.mem_map_of_mem (f := (·.path)) hwalked
  rw [hpaths, hpath] at this
  exact absurd this (by decide)

end Snapshot

end AwkEdit
