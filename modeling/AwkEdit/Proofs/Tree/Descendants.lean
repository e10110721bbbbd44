import AwkEdit.Proofs.Tree.Descent
import Mathlib.Data.List.Basic
import Mathlib.Data.List.Pairwise

/-!
# What lies below a place

A walk comes to the place it starts from and then walks from the children that it keeps. What lies below a place is what steps to
children lead to, which is what the walk that keeps everything comes to. In a tree that makes sense the range of a node holds
the ranges of all nodes below it. So a walk that leaves out only subtrees in which nothing is of interest comes to everything
that is, in the same order (`filter_walk`).
-/

namespace AwkEdit

namespace Place

/-! ## Children -/

/-- The children of a place are the children of its node, in their order. -/
theorem map_node_children (p : Place) : p.children.map (·.node) = p.node.children := by
  rw [children, List.map_map]
  exact List.zipIdx_map_fst 0 p.node.children

theorem node_mem_of_mem_children {p c : Place} (h : c ∈ p.children) : c.node ∈ p.node.children := by
  rw [← map_node_children]
  exact List.mem_map_of_mem h

theorem sizeOf_lt_of_mem_children {p c : Place} (h : c ∈ p.children) : sizeOf c.node < sizeOf p.node := by
  have hmem := node_mem_of_mem_children h
  obtain ⟨⟨l, cs⟩, trail⟩ := p
  have := List.sizeOf_lt_of_mem hmem
  simp only [Node.children_mk, Node.mk.sizeOf_spec] at this ⊢
  omega

/-- What holds of a place whenever it holds of its children holds of every place. -/
theorem children_induction {motive : Place → Prop} (hstep : ∀ p, (∀ c ∈ p.children, motive c) → motive p) (p : Place) :
    motive p :=
  hstep p fun c hc =>
    have := sizeOf_lt_of_mem_children hc
    children_induction hstep c
termination_by sizeOf p.node

/-! ## Walks -/

theorem walkChildren_eq (keep : Node → Bool) (parent : Node) (trail : List (Nat × Node)) (i : Nat) (cs : List Node) :
    walkChildren keep parent trail i cs =
      (cs.zipIdx i).flatMap fun (c, j) => if keep c then c.walk keep ((j, parent) :: trail) else [] := by
  induction cs generalizing i with
  | nil => rfl
  | cons c cs ih => rw [walkChildren, ih, List.zipIdx_cons, List.flatMap_cons]

/-- A walk comes to the place itself and then walks from the children that it keeps. -/
theorem walk_eq (keep : Node → Bool) (p : Place) :
    p.walk keep = p :: p.children.flatMap fun c => if keep c.node then c.walk keep else [] := by
  obtain ⟨⟨l, cs⟩, trail⟩ := p
  rw [walk, Node.walk, walkChildren_eq, children, List.flatMap_map]
  rfl

theorem subtree_eq (p : Place) : p.subtree = p :: p.children.flatMap subtree := by
  rw [subtree, walk_eq]
  rfl

/-! ## What lies below -/

/-- Steps to children lead from one place to another. -/
inductive Reaches : Place → Place → Prop where
  | refl (p : Place) : Reaches p p
  | step {p c q : Place} : c ∈ p.children → Reaches c q → Reaches p q

theorem Reaches.trans {p q r : Place} (h : p.Reaches q) (h' : q.Reaches r) : p.Reaches r := by
  induction h with
  | refl => exact h'
  | step hc _ ih => exact .step hc (ih h')

theorem Reaches.child {p c : Place} (h : c ∈ p.children) : p.Reaches c := .step h (.refl c)

/-- A walk comes only to what lies below the place. -/
theorem reaches_of_mem_walk {keep : Node → Bool} {p q : Place} (h : q ∈ p.walk keep) : p.Reaches q := by
  induction p using children_induction with
  | hstep p ih =>
    rw [walk_eq, List.mem_cons, List.mem_flatMap] at h
    rcases h with rfl | ⟨c, hc, hq⟩
    · exact .refl q
    · split at hq
      · exact .step hc (ih c hc hq)
      · cases hq

/-- The subtree of a place consists of what lies below it. -/
theorem mem_subtree_iff {p q : Place} : q ∈ p.subtree ↔ p.Reaches q := by
  constructor
  · exact reaches_of_mem_walk
  · intro h
    induction h with
    | refl p =>
      rw [subtree_eq]
      exact List.mem_cons_self
    | step hc _ ih =>
      rw [subtree_eq]
      exact List.mem_cons_of_mem _ (List.mem_flatMap.2 ⟨_, hc, ih⟩)

end Place

/-! ## Ranges -/

namespace Node

theorem Valid.start_le_stop {limit : Nat} {n : Node} (h : n.Valid limit) : n.start ≤ n.stop := by
  obtain ⟨l, cs⟩ := n
  exact h.1

/-- No child stops after the node. -/
theorem Laid.stop_le {parent : Label} {cs : List Node} {last : Int} (h : Laid parent last cs) :
    ∀ c ∈ cs, c.stop ≤ parent.stop := by
  induction cs generalizing last with
  | nil => simp
  | cons c cs ih => exact List.forall_mem_cons.2 ⟨h.2.1, ih h.2.2.2⟩

/-- No child starts before an earlier one stops. -/
theorem Laid.pairwise {parent : Label} {cs : List Node} {last : Int} {limit : Nat} (h : Laid parent last cs)
    (hvalid : ValidAll limit cs) : (∀ c ∈ cs, last ≤ c.start) ∧ cs.Pairwise fun a b => a.stop ≤ b.start := by
  induction cs generalizing last with
  | nil => simp
  | cons c cs ih =>
    obtain ⟨hafter, hrest⟩ := ih h.2.2.2 hvalid.2
    have hc : c.start ≤ c.stop := hvalid.1.start_le_stop
    refine ⟨List.forall_mem_cons.2 ⟨h.2.2.1, fun b hb => ?_⟩, List.pairwise_cons.2 ⟨hafter, hrest⟩⟩
    exact Int.le_trans h.2.2.1 (Int.le_trans hc (hafter b hb))

/-- Children lie in a node when they lie in its range one after another. -/
theorem laid_of_pairwise {parent : Label} {last : Int} {cs : List Node}
    (hinside : ∀ c ∈ cs, parent.start ≤ c.start ∧ c.stop ≤ parent.stop) (hlast : ∀ c ∈ cs, last ≤ c.start)
    (hapart : cs.Pairwise fun a b => a.stop ≤ b.start) : Laid parent last cs := by
  induction cs generalizing last with
  | nil => trivial
  | cons c cs ih =>
    rw [List.forall_mem_cons] at hinside hlast
    rw [List.pairwise_cons] at hapart
    exact ⟨hinside.1.1, hinside.1.2, hlast.1, ih hinside.2 hapart.1 hapart.2⟩

theorem validAll_of_forall {limit : Nat} {cs : List Node} (h : ∀ c ∈ cs, c.Valid limit) : ValidAll limit cs := by
  induction cs with
  | nil => trivial
  | cons c cs ih =>
    rw [List.forall_mem_cons] at h
    exact ⟨h.1, ih h.2⟩

theorem Valid.child_stop_le {limit : Nat} {n c : Node} (h : n.Valid limit) (hc : c ∈ n.children) : c.stop ≤ n.stop := by
  obtain ⟨l, cs⟩ := n
  exact h.2.2.1.stop_le c hc

end Node

namespace Place

/-- Below a node that makes sense all nodes make sense, and their ranges lie in its range. -/
theorem Reaches.range {limit : Nat} {p q : Place} (h : p.Reaches q) (hp : p.node.Valid limit) :
    q.node.Valid limit ∧ p.node.start ≤ q.node.start ∧ q.node.stop ≤ p.node.stop := by
  induction h with
  | refl p => exact ⟨hp, Int.le_refl _, Int.le_refl _⟩
  | step hc _ ih =>
    have hmem := node_mem_of_mem_children hc
    obtain ⟨hvalid, hstart⟩ := hp.child hmem
    obtain ⟨hq, hlow, hhigh⟩ := ih hvalid
    exact ⟨hq, Int.le_trans hstart hlow, Int.le_trans hhigh (hp.child_stop_le hmem)⟩

/-- Whether one of two nodes stops before the other starts. -/
def Apart (p q : Place) : Prop := p.node.stop ≤ q.node.start ∨ q.node.stop ≤ p.node.start

instance : Std.Symm Apart := ⟨fun _ _ => Or.symm⟩

/-- No child of a node that makes sense starts before an earlier one stops. -/
theorem pairwise_stop_le_start {limit : Nat} {p : Place} (hp : p.node.Valid limit) :
    p.children.Pairwise fun a b => a.node.stop ≤ b.node.start := by
  have hlaid : p.node.children.Pairwise fun a b => a.stop ≤ b.start := by
    obtain ⟨⟨l, cs⟩, trail⟩ := p
    exact (hp.2.2.1.pairwise hp.2.2.2).2
  rw [← map_node_children] at hlaid
  exact List.pairwise_map.1 hlaid

/-- Different children of a node that makes sense are apart. -/
theorem pairwise_apart {limit : Nat} {p : Place} (hp : p.node.Valid limit) : p.children.Pairwise Apart :=
  (pairwise_stop_le_start hp).imp .inl

/-- Two nodes below one that makes sense are nested or apart. -/
theorem Reaches.nested {limit : Nat} {p q r : Place} (hq : p.Reaches q) (hr : p.Reaches r) (hp : p.node.Valid limit) :
    (q.node.start ≤ r.node.start ∧ r.node.stop ≤ q.node.stop) ∨ (r.node.start ≤ q.node.start ∧ q.node.stop ≤ r.node.stop) ∨
      q.Apart r := by
  induction hq with
  | refl p => exact .inl (hr.range hp).2
  | @step p c q hc hcq ih =>
    cases hr with
    | refl => exact .inr (.inl ((Reaches.step hc hcq).range hp).2)
    | @step _ d _ hd hdr =>
      have hvalid := (hp.child (node_mem_of_mem_children hc)).1
      by_cases hsame : c = d
      · subst hsame
        exact ih hdr hvalid
      · have hapart : c.Apart d := (pairwise_apart hp).forall hc hd hsame
        have := (hcq.range hvalid).2
        have := (hdr.range (hp.child (node_mem_of_mem_children hd)).1).2
        simp only [Apart] at hapart ⊢
        omega

/-! ## Pruned walks -/

/-- A walk that keeps every node with something of interest below it comes to all that is of interest, in order. -/
theorem filter_walk {keep : Node → Bool} {wanted : Place → Bool} {p : Place}
    (hkeep : ∀ c q, p.Reaches c → c.Reaches q → wanted q = true → keep c.node = true) :
    (p.walk keep).filter wanted = p.subtree.filter wanted := by
  induction p using children_induction with
  | hstep p ih =>
    have hchild : ∀ c ∈ p.children,
        (if keep c.node then c.walk keep else []).filter wanted = c.subtree.filter wanted := by
      intro c hc
      split
      next => exact ih c hc fun d q hd => hkeep d q (.step hc hd)
      next hpruned =>
        refine (List.filter_eq_nil_iff.2 fun q hq hwanted => hpruned ?_).symm
        exact hkeep c q (.child hc) (mem_subtree_iff.1 hq) hwanted
    rw [walk_eq, subtree_eq, List.filter_cons, List.filter_cons, List.filter_flatMap, List.filter_flatMap,
      List.flatMap_congr hchild]

end Place

end AwkEdit
