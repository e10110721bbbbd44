import AwkEdit.Proofs.Tree.Descendants
import Mathlib.Data.List.Chain

/-!
# Ranges that nest or come apart

What is wrong with a tree is looked for at one node and its children at a time, so a tree is accepted exactly when it is sound
at every node. What the nodes say of their neighbours holds across the tree: of two nodes the one that comes later in pre-order
lies below the earlier one and in its range, or starts where the earlier one stops or after that. `ofLinked_laminar` says both.
-/

namespace AwkEdit

/-! ## Soundness at a node -/

namespace LinkedNode

mutual

/-- The nodes of the tree in pre-order. -/
def preorder : LinkedNode → List LinkedNode
  | mk l k cs => mk l k cs :: preorderAll cs

/-- The nodes of several trees, one tree after another. -/
def preorderAll : List LinkedNode → List LinkedNode
  | [] => []
  | c :: cs => c.preorder ++ preorderAll cs

end

/-- The node makes sense over a text of `limit` bytes, as far as it and its children go: its range is in order and ends inside
the text, and its children are linked to it, lie in its range, and start where the one before stops or after that. -/
structure Sound (limit : Nat) (n : LinkedNode) : Prop where
  inOrder : n.label.start ≤ n.label.stop
  inText : n.label.stop ≤ limit
  linked : ∀ c ∈ n.children, c.link = .container
  within : ∀ c ∈ n.children, n.label.start ≤ c.label.start ∧ c.label.stop ≤ n.label.stop
  apart : n.children.IsChain fun c d => c.label.stop ≤ d.label.start

/-- Nothing is wrong with the children of a node when they are linked to it, lie in its range and come one after another, the
first of them after what comes before. -/
theorem childFaults_eq_nil_iff {parent : Label} {last : Int} {cs : List LinkedNode} :
    childFaults parent last cs = [] ↔
      (∀ c ∈ cs, c.link = .container) ∧ (∀ c ∈ cs, parent.start ≤ c.label.start ∧ c.label.stop ≤ parent.stop) ∧
        (∀ c ∈ cs.head?, last ≤ c.label.start) ∧ cs.IsChain fun c d => c.label.stop ≤ d.label.start := by
  have hempty : ∀ {p : Prop} [Decidable p] {e : TreeError}, (if p then [] else [e]) = [] ↔ p := by
    intro p _ e
    by_cases h : p <;> simp [h]
  induction cs generalizing last with
  | nil => simp [childFaults]
  | cons c cs ih =>
    simp only [childFaults, List.append_eq_nil_iff, fault_eq_nil, hempty, not_or, Int.not_lt, ih, List.forall_mem_cons,
      List.head?_cons, Option.mem_some_iff, forall_eq', List.isChain_cons]
    constructor
    · rintro ⟨⟨⟨hlink, hrange⟩, hlast⟩, hlinks, hranges, hnext, hchain⟩
      exact ⟨⟨hlink, hlinks⟩, ⟨hrange, hranges⟩, hlast, hnext, hchain⟩
    · rintro ⟨⟨hlink, hlinks⟩, ⟨hrange, hranges⟩, hlast, hnext, hchain⟩
      exact ⟨⟨⟨hlink, hrange⟩, hlast⟩, hlinks, hranges, hnext, hchain⟩

mutual

/-- Nothing is wrong with a tree exactly when it is sound at every node. -/
theorem faults_eq_nil_iff {limit : Nat} : (n : LinkedNode) → (n.faults limit = [] ↔ ∀ m ∈ n.preorder, m.Sound limit)
  | mk l k cs => by
    rw [faults, preorder, List.append_eq_nil_iff, List.append_eq_nil_iff, List.forall_mem_cons, faultsAll_eq_nil_iff cs]
    refine and_congr_left fun _ => ?_
    rw [rangeFaults, fault_eq_nil, childFaults_eq_nil_iff, not_or, Int.not_lt, Int.not_lt]
    constructor
    · rintro ⟨⟨hstart, hstop⟩, hlinked, hwithin, -, hapart⟩
      exact ⟨hstart, hstop, hlinked, hwithin, hapart⟩
    · rintro ⟨hstart, hstop, hlinked, hwithin, hapart⟩
      refine ⟨⟨hstart, hstop⟩, hlinked, hwithin, fun c hc => ?_, hapart⟩
      exact (hwithin c (List.mem_of_mem_head? hc)).1

/-- The same for several trees. -/
theorem faultsAll_eq_nil_iff {limit : Nat} :
    (cs : List LinkedNode) → (faultsAll limit cs = [] ↔ ∀ m ∈ preorderAll cs, m.Sound limit)
  | [] => by simp [faultsAll, preorderAll]
  | c :: cs => by
    rw [faultsAll, preorderAll, List.append_eq_nil_iff, List.forall_mem_append, faults_eq_nil_iff c, faultsAll_eq_nil_iff cs]

end

mutual

/-- Without its links the tree has the same nodes in the same order. -/
theorem preorder_node : (n : LinkedNode) → n.node.preorder = n.preorder.map node
  | mk l k cs => by
    rw [node, Node.preorder, preorderList_nodes cs, preorder, List.map_cons, node]

/-- The same for several trees. -/
theorem preorderList_nodes : (cs : List LinkedNode) → Node.preorder.preorderList (nodes cs) = (preorderAll cs).map node
  | [] => rfl
  | c :: cs => by
    rw [nodes, Node.preorder.preorderList, preorder_node c, preorderList_nodes cs, preorderAll, List.map_append]

end

end LinkedNode

/-! ## Linking a tree -/

namespace Node

mutual

/-- Without its links a linked tree is what it was. -/
theorem node_linked (link : Link) : (n : Node) → (n.linked link).node = n
  | mk l cs => by rw [linked, LinkedNode.node, nodes_linkedAll cs]

theorem nodes_linkedAll : (cs : List Node) → LinkedNode.nodes (linkedAll cs) = cs
  | [] => rfl
  | c :: cs => by rw [linkedAll, LinkedNode.nodes, node_linked .container c, nodes_linkedAll cs]

end

/-- Nothing is wrong with children that lie in their node. -/
theorem Laid.childFaults_eq_nil {parent : Label} {last : Int} {cs : List Node} (h : Laid parent last cs) :
    LinkedNode.childFaults parent last (linkedAll cs) = [] := by
  induction cs generalizing last with
  | nil => rfl
  | cons c cs ih =>
    obtain ⟨l, ds⟩ := c
    obtain ⟨hstart, hstop, hlast, hrest⟩ := h
    have hinside : ¬(l.start < parent.start ∨ parent.stop < l.stop) := not_or.2 ⟨Int.not_lt.2 hstart, Int.not_lt.2 hstop⟩
    have hafter : ¬l.start < last := Int.not_lt.2 hlast
    rw [linkedAll, linked, LinkedNode.childFaults]
    simp only [LinkedNode.link, LinkedNode.label, if_true, hinside, hafter, if_false, List.nil_append]
    exact ih hrest

mutual

/-- Nothing is wrong with a tree that makes sense. -/
theorem Valid.faults_eq_nil {limit : Nat} (k : Link) : (n : Node) → n.Valid limit → (n.linked k).faults limit = []
  | mk l cs, h => by
    obtain ⟨hstart, hstop, hlaid, hcs⟩ := h
    rw [linked, LinkedNode.faults, hlaid.childFaults_eq_nil, ValidAll.faultsAll_eq_nil cs hcs, List.append_nil, List.append_nil,
      LinkedNode.rangeFaults, if_neg (not_or.2 ⟨Int.not_lt.2 hstart, Int.not_lt.2 hstop⟩)]

/-- The same for several trees. -/
theorem ValidAll.faultsAll_eq_nil {limit : Nat} : (cs : List Node) → ValidAll limit cs →
    LinkedNode.faultsAll limit (linkedAll cs) = []
  | [], _ => rfl
  | c :: cs, h => by
    rw [linkedAll, LinkedNode.faultsAll, Valid.faults_eq_nil _ c h.1, ValidAll.faultsAll_eq_nil cs h.2, List.append_nil]

end

end Node

/-! ## Places in pre-order -/

namespace Place

mutual

/-- The places of a subtree are those of its nodes. -/
theorem map_node_walk (trail : List (Nat × Node)) : (n : Node) → (n.walk (fun _ => true) trail).map (·.node) = n.preorder
  | .mk l cs => by
    rw [Node.walk, List.map_cons, map_node_walkChildren _ trail 0 cs, Node.preorder]

/-- The same for the places below a node. -/
theorem map_node_walkChildren (parent : Node) (trail : List (Nat × Node)) (i : Nat) :
    (cs : List Node) →
      (walkChildren (fun _ => true) parent trail i cs).map (·.node) = Node.preorder.preorderList cs
  | [] => rfl
  | c :: cs => by
    rw [walkChildren, if_pos rfl, List.map_append, map_node_walk _ c, map_node_walkChildren parent trail (i + 1) cs,
      Node.preorder.preorderList]

end

/-- The place above a child is the place that the child is one of. -/
theorem ancestors_of_mem_children {p c : Place} (h : c ∈ p.children) : c.ancestors = p :: p.ancestors := by
  obtain ⟨⟨n, i⟩, -, rfl⟩ := List.mem_map.1 h
  rfl

/-- What is above a place is above everything below it. -/
theorem Reaches.mem_ancestors {p c q : Place} (h : c.Reaches q) (hp : p ∈ c.ancestors) : p ∈ q.ancestors := by
  induction h with
  | refl c => exact hp
  | step hd _ ih =>
    rw [ancestors_of_mem_children hd] at ih
    exact ih (List.mem_cons_of_mem _ hp)

/-- Of the places below one that makes sense, in pre-order, a later one lies below an earlier one or starts where that one
stops or after that. -/
theorem pairwise_subtree {limit : Nat} {p : Place} (hp : p.node.Valid limit) :
    p.subtree.Pairwise fun q r => (∃ c ∈ q.children, c.Reaches r) ∨ q.node.stop ≤ r.node.start := by
  induction p using children_induction with
  | hstep p ih =>
    have hchild : ∀ c ∈ p.children, c.node.Valid limit := fun c hc => (hp.child (node_mem_of_mem_children hc)).1
    rw [subtree_eq, List.pairwise_cons, List.pairwise_flatMap]
    refine ⟨fun q hq => .inl ?_, fun c hc => ih c hc (hchild c hc), ?_⟩
    · obtain ⟨c, hc, hq⟩ := List.mem_flatMap.1 hq
      exact ⟨c, hc, mem_subtree_iff.1 hq⟩
    -- Places below different children are apart because the children are.
    · refine (pairwise_stop_le_start hp).imp_of_mem fun {c d} hc hd hcd q hq r hr => .inr ?_
      have hqc := ((mem_subtree_iff.1 hq).range (hchild c hc)).2.2
      have hrd := ((mem_subtree_iff.1 hr).range (hchild d hd)).2.1
      omega

/-- Of the places below one that makes sense, in pre-order, none starts before an earlier one. -/
theorem pairwise_start_le {limit : Nat} {p : Place} (hp : p.node.Valid limit) :
    p.subtree.Pairwise fun q r => q.node.start ≤ r.node.start := by
  refine (pairwise_subtree hp).imp_of_mem fun {q r} hq _ h => ?_
  have hvalid := ((mem_subtree_iff.1 hq).range hp).1
  rcases h with ⟨c, hc, hr⟩ | hapart
  · exact ((Reaches.step hc hr).range hvalid).2.1
  · exact Int.le_trans hvalid.start_le_stop hapart

/-- The later place lies below the earlier one and in its range, or starts where the earlier one stops or after that. -/
def Laminar (p q : Place) : Prop :=
  (p ∈ q.ancestors ∧ p.node.start ≤ q.node.start ∧ q.node.stop ≤ p.node.stop) ∨ p.node.stop ≤ q.node.start

end Place

namespace Snapshot

/-- The places of a snapshot make sense. -/
theorem valid_of_mem_places {t : Snapshot} {p : Place} (h : p ∈ t.places) : p.node.Valid t.source.size :=
  ((Place.mem_subtree_iff.1 h).range t.valid).1

/-- In pre-order the ranges of a snapshot nest or come one after another. -/
theorem pairwise_laminar (t : Snapshot) : t.places.Pairwise Place.Laminar := by
  refine (Place.pairwise_subtree t.valid).imp_of_mem fun {p q} hp _ h => ?_
  rcases h with ⟨c, hc, hq⟩ | hapart
  · have hrange := ((Place.Reaches.step hc hq).range (valid_of_mem_places hp)).2
    refine .inl ⟨hq.mem_ancestors ?_, hrange⟩
    rw [Place.ancestors_of_mem_children hc]
    exact List.mem_cons_self
  · exact .inr hapart

/-- In pre-order no node starts before an earlier one. -/
theorem pairwise_start_le (t : Snapshot) : t.places.Pairwise fun p q => p.node.start ≤ q.node.start :=
  Place.pairwise_start_le t.valid

/-- A tree is accepted exactly when its root has no parent and nothing is wrong with it. -/
theorem ofLinked_eq_ok_iff {n : LinkedNode} {s : Source} {t : Snapshot} :
    ofLinked n s = .ok t ↔ n.link = .unset ∧ n.faults s.size = [] ∧ t.root = n.node ∧ t.source = s := by
  unfold ofLinked
  split
  next hlink =>
    split
    next hfaults =>
      rw [Except.ok.injEq]
      constructor
      · rintro rfl
        exact ⟨hlink, hfaults, rfl, rfl⟩
      · rintro ⟨-, -, hroot, hsource⟩
        cases t
        subst hroot hsource
        rfl
    next hfaults => simp [hfaults]
  next hlink => simp [hlink]

/-- The snapshot of a tree has that tree and that source. -/
theorem eq_of_ofNode {root : Node} {s : Source} {t : Snapshot} (h : ofNode root s = .ok t) :
    t.root = root ∧ t.source = s := by
  obtain ⟨-, -, hroot, hsource⟩ := ofLinked_eq_ok_iff.1 h
  exact ⟨hroot.trans (Node.node_linked .unset root), hsource⟩

/-- A tree that makes sense over a source is accepted as it is. -/
theorem ofNode_eq_ok {n : Node} {source : Source} (h : n.Valid source.size) :
    ofNode n source = .ok ⟨n, source, h⟩ := by
  refine ofLinked_eq_ok_iff.2 ⟨?_, h.faults_eq_nil _ n, (Node.node_linked _ n).symm, rfl⟩
  cases n
  rfl

/-- A tree over a text is accepted exactly when its root has no parent and it is sound at every node. Then the snapshot has the
nodes of the tree, in pre-order, and as many as it counts; their ranges nest or come one after another, and no node starts
before an earlier one. -/
theorem ofLinked_laminar (n : LinkedNode) (s : Source) :
    ((∃ t, ofLinked n s = .ok t) ↔ n.link = .unset ∧ ∀ m ∈ n.preorder, m.Sound s.size) ∧
      ∀ t, ofLinked n s = .ok t →
        t.places.map (·.node) = n.preorder.map LinkedNode.node ∧ t.nodeCount = n.preorder.length ∧
          t.places.Pairwise Place.Laminar ∧ t.places.Pairwise fun p q => p.node.start ≤ q.node.start := by
  refine ⟨?_, fun t ht => ?_⟩
  · rw [← LinkedNode.faults_eq_nil_iff]
    constructor
    · rintro ⟨t, ht⟩
      exact (ofLinked_eq_ok_iff.1 ht).imp id And.left
    · rintro ⟨hlink, hfaults⟩
      exact ⟨⟨n.node, s, LinkedNode.valid_of_faults n hfaults⟩, ofLinked_eq_ok_iff.2 ⟨hlink, hfaults, rfl, rfl⟩⟩
  · obtain ⟨-, -, hroot, -⟩ := ofLinked_eq_ok_iff.1 ht
    have hnodes : t.places.map (·.node) = n.preorder.map LinkedNode.node := by
      rw [← LinkedNode.preorder_node, ← hroot]
      exact Place.map_node_walk [] t.root
    refine ⟨hnodes, ?_, t.pairwise_laminar, t.pairwise_start_le⟩
    rw [nodeCount, ← List.length_map (·.node), hnodes, List.length_map]

/-- Two words with an empty node between them, where one stops and the other starts. -/
def touching : LinkedNode :=
  .mk { type := "program", start := 0, stop := 2 } .unset
    [.mk { type := "left", start := 0, stop := 1 } .container [],
      .mk { type := "empty", start := 1, stop := 1 } .container [],
      .mk { type := "right", start := 1, stop := 2 } .container
        [.mk { type := "word", start := 1, stop := 2 } .container []]]

/-- So the ranges of a tree with an empty node between two others come one after another. -/
theorem ofLinked_laminar_touching :
    ∃ t, ofLinked touching (.ofString "ab") = .ok t ∧ t.nodeCount = 5 ∧ t.places.Pairwise Place.Laminar := by
  have hfaults : touching.faults (Source.ofString "ab").size = [] := by decide
  have hok : ofLinked touching (.ofString "ab") =
      .ok ⟨touching.node, .ofString "ab", LinkedNode.valid_of_faults touching hfaults⟩ :=
    ofLinked_eq_ok_iff.2 ⟨rfl, hfaults, rfl, rfl⟩
  obtain ⟨-, hcount, hlaminar, -⟩ := (ofLinked_laminar touching (.ofString "ab")).2 _ hok
  exact ⟨_, hok, hcount, hlaminar⟩

end Snapshot

end AwkEdit
