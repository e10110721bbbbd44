import AwkEdit.Proofs.Tree.Lookup
import AwkEdit.Tree.Record

/-!
# From the parser's tree to a snapshot

A parser's tree is written down from a stack: the node on top is recorded, and its children take its place, each with the field
that the node has for it and the index of the record. `gather_cons` says that this writes the tree down in recursive pre-order.
The records are linked from the last one to the first, and the proof goes by which record a node waits for: what lies below the
root of a subtree waits for a record of the subtree, and what comes after the subtree for none of them (`link_records`). So the
records of a tree make that tree again.
-/

namespace AwkEdit

namespace ParsedNode

/-! ## Trees of a parser -/

/-- The children, each under the field that names it. -/
def children : ParsedNode → List (Option String × ParsedNode)
  | mk _ _ _ _ _ cs => cs

/-- What the node under a field says of itself. -/
def label (field : Option String) : ParsedNode → Label
  | mk type start stop named missing _ => ⟨type, start, stop, field, named, missing⟩

/-- The node that a path of child indices leads to, with the field that its parent has for it. -/
def follow? (field : Option String) (n : ParsedNode) : List Nat → Option (Option String × ParsedNode)
  | [] => some (field, n)
  | i :: path => n.children[i]?.bind fun c => c.2.follow? c.1 path

mutual

/-- The number of nodes. -/
def size : ParsedNode → Nat
  | mk _ _ _ _ _ cs => sizeBelow cs + 1

/-- The number of nodes of several trees. -/
def sizeBelow : List (Option String × ParsedNode) → Nat
  | [] => 0
  | (_, c) :: cs => c.size + sizeBelow cs

end

mutual

/-- What the nodes of the tree under a field say of themselves, in recursive pre-order. -/
def labels (field : Option String) : ParsedNode → List Label
  | mk type start stop named missing cs => ⟨type, start, stop, field, named, missing⟩ :: labelsBelow cs

/-- The same for several trees, each under its field. -/
def labelsBelow : List (Option String × ParsedNode) → List Label
  | [] => []
  | (field, c) :: cs => c.labels field ++ labelsBelow cs

end

mutual

/-- The tree under a field as the tree of a snapshot. -/
def node (field : Option String) : ParsedNode → Node
  | mk type start stop named missing cs => .mk ⟨type, start, stop, field, named, missing⟩ (nodesBelow cs)

/-- The same for several trees, each under its field. -/
def nodesBelow : List (Option String × ParsedNode) → List Node
  | [] => []
  | (field, c) :: cs => c.node field :: nodesBelow cs

end

theorem label_node (field : Option String) (n : ParsedNode) : (n.node field).label = n.label field := by
  cases n
  rfl

theorem nodesBelow_eq_map (cs : List (Option String × ParsedNode)) : nodesBelow cs = cs.map fun c => c.2.node c.1 := by
  induction cs with
  | nil => rfl
  | cons c cs ih => rw [nodesBelow, ih, List.map_cons]

theorem children_node (field : Option String) (n : ParsedNode) :
    (n.node field).children = n.children.map fun c => c.2.node c.1 := by
  cases n
  rw [node, Node.children_mk, nodesBelow_eq_map, children]

mutual

/-- The labels of the tree of a snapshot are those of the parser's tree, in the same order. -/
theorem map_label_preorder (field : Option String) : (n : ParsedNode) → (n.node field).preorder.map (·.label) = n.labels field
  | mk type start stop named missing cs => by
    rw [node, Node.preorder, List.map_cons, map_label_preorderList cs, labels, Node.label_mk]

theorem map_label_preorderList : (cs : List (Option String × ParsedNode)) →
    (Node.preorder.preorderList (nodesBelow cs)).map (·.label) = labelsBelow cs
  | [] => rfl
  | (field, c) :: cs => by
    rw [nodesBelow, Node.preorder.preorderList, List.map_append, map_label_preorder field c, map_label_preorderList cs, labelsBelow]

end

mutual

/-- Each node has one label. -/
theorem length_labels (field : Option String) : (n : ParsedNode) → (n.labels field).length = n.size
  | mk type start stop named missing cs => by rw [labels, List.length_cons, length_labelsBelow cs, size]

theorem length_labelsBelow : (cs : List (Option String × ParsedNode)) → (labelsBelow cs).length = sizeBelow cs
  | [] => rfl
  | (field, c) :: cs => by rw [labelsBelow, List.length_append, length_labels field c, length_labelsBelow cs, sizeBelow]

end

/-- A path leads to the same node in a place of the tree as in the parser's tree. -/
theorem map_node_follow? {field : Option String} {n : ParsedNode} {p : Place} (hp : p.node = n.node field) (path : List Nat) :
    (p.follow? path).map (·.node) = (n.follow? field path).map fun c => c.2.node c.1 := by
  induction path generalizing n p field with
  | nil => simp [Place.follow?, follow?, hp]
  | cons i path ih =>
    have hchildren : p.children[i]?.map (·.node) = n.children[i]?.map fun c => c.2.node c.1 := by
      rw [← List.getElem?_map, ← List.getElem?_map, Place.map_node_children, hp, children_node]
    rw [Place.follow?, follow?]
    cases hc : n.children[i]? with
    | none =>
      rw [hc, Option.map_none, Option.map_eq_none_iff] at hchildren
      rw [hchildren]
      rfl
    | some c =>
      rw [hc, Option.map_some, Option.map_eq_some_iff] at hchildren
      obtain ⟨q, hq, hnode⟩ := hchildren
      rw [hq]
      exact ih hnode

/-! ## Writing a tree down -/

mutual

/-- The records of a tree say what its nodes say, in recursive pre-order. -/
theorem map_label_records (field : Option String) (parent : Int) (index : Nat) :
    (n : ParsedNode) → (n.records field parent index).map (·.label) = n.labels field
  | mk type start stop named missing cs => by
    rw [records, List.map_cons, map_label_recordsBelow index (index + 1) cs, labels]

theorem map_label_recordsBelow (parent index : Nat) :
    (cs : List (Option String × ParsedNode)) → (recordsBelow parent index cs).map (·.label) = labelsBelow cs
  | [] => rfl
  | (field, c) :: cs => by
    rw [recordsBelow, List.map_append, map_label_records field parent index c, map_label_recordsBelow parent _ cs, labelsBelow]

end

/-- There is one record for each node. -/
theorem length_records (field : Option String) (parent : Int) (index : Nat) (n : ParsedNode) :
    (n.records field parent index).length = n.size := by
  rw [← length_labels field, ← map_label_records field parent index, List.length_map]

theorem recordsBelow_cons (parent index : Nat) (field : Option String) (c : ParsedNode)
    (cs : List (Option String × ParsedNode)) :
    recordsBelow parent index ((field, c) :: cs) =
      c.records field parent index ++ recordsBelow parent (index + c.size) cs := by
  rw [recordsBelow, length_records]

/-- A node that is still to be written down: under which field it is, and the index of the record above it. -/
structure Pending where
  node : ParsedNode
  field : Option String
  parent : Int

/-- The stack with the children of the node of a record put on it, from the last to the first. -/
def push (parent : Nat) (cs : List (Option String × ParsedNode)) (stack : List Pending) : List Pending :=
  cs.foldr (fun c stack => ⟨c.2, c.1, parent⟩ :: stack) stack

/-- The number of nodes that are on a stack or below. -/
def stackSize : List Pending → Nat
  | [] => 0
  | p :: stack => p.node.size + stackSize stack

theorem stackSize_push (parent : Nat) (cs : List (Option String × ParsedNode)) (stack : List Pending) :
    stackSize (push parent cs stack) = sizeBelow cs + stackSize stack := by
  induction cs with
  | nil => rw [push, List.foldr_nil, sizeBelow, Nat.zero_add]
  | cons c cs ih =>
    have hpush : push parent (c :: cs) stack = ⟨c.2, c.1, parent⟩ :: push parent cs stack := rfl
    rw [hpush, stackSize, ih, sizeBelow, Nat.add_assoc]

/-- The records that come of a stack, after those that are there: the node on top is written down, and its children take its
place. -/
def gather : List Pending → List Record → List Record
  | [], done => done
  | ⟨mk type start stop named missing cs, field, parent⟩ :: stack, done =>
    gather (push done.length cs stack) (done ++ [⟨⟨type, start, stop, field, named, missing⟩, parent⟩])
termination_by stack => stackSize stack
decreasing_by
  rw [stackSize_push, stackSize, size]
  omega

mutual

/-- The node on top of the stack is written down with all that is below it, in recursive pre-order, before the rest of the stack. -/
theorem gather_cons (field : Option String) (parent : Int) (stack : List Pending) (done : List Record) :
    (n : ParsedNode) → gather (⟨n, field, parent⟩ :: stack) done = gather stack (done ++ n.records field parent done.length)
  | mk type start stop named missing cs => by
    rw [gather, gather_push done.length stack _ cs, records, List.append_assoc, List.singleton_append, List.length_append,
      List.length_singleton]

/-- So are the children that are put on the stack, one after another. -/
theorem gather_push (parent : Nat) (stack : List Pending) (done : List Record) :
    (cs : List (Option String × ParsedNode)) →
      gather (push parent cs stack) done = gather stack (done ++ recordsBelow parent done.length cs)
  | [] => by rw [push, List.foldr_nil, recordsBelow, List.append_nil]
  | (field, c) :: cs => by
    have hpush : push parent ((field, c) :: cs) stack = ⟨c, field, parent⟩ :: push parent cs stack := rfl
    rw [hpush, gather_cons field parent _ done c, gather_push parent stack _ cs, recordsBelow_cons, List.append_assoc,
      List.length_append, length_records]

end

/-- From the root alone, the stack writes the tree down in recursive pre-order. -/
theorem gather_root (field : Option String) (parent : Int) (n : ParsedNode) :
    gather [⟨n, field, parent⟩] [] = n.records field parent 0 := by
  rw [gather_cons, gather, List.nil_append, List.length_nil]

end ParsedNode

/-! ## Linking what is written down -/

namespace Record

open ParsedNode

/-- No node waits for one of the records from `low` on and before `high`. -/
def Free (waiting : List (Int × Node)) (low high : Nat) : Prop := ∀ w ∈ waiting, w.1 < low ∨ (high : Int) ≤ w.1

/-- The nodes that wait for a record, in the order of their own records. -/
def waitingFor (i : Nat) (waiting : List (Int × Node)) : List Node := (waiting.filter (·.1 == Int.ofNat i)).map (·.2)

theorem waitingFor_append (i : Nat) (before after : List (Int × Node)) :
    waitingFor i (before ++ after) = waitingFor i before ++ waitingFor i after := by
  rw [waitingFor, List.filter_append, List.map_append]
  rfl

/-- No node waits for a record that is free. -/
theorem Free.waitingFor_eq_nil {waiting : List (Int × Node)} {low high i : Nat} (h : Free waiting low high) (hlow : low ≤ i)
    (hhigh : i < high) : waitingFor i waiting = [] := by
  have hnone : waiting.filter (·.1 == Int.ofNat i) = [] := by
    rw [List.filter_eq_nil_iff]
    intro w hw
    have hfree := h w hw
    simp only [beq_iff_eq, Int.ofNat_eq_natCast]
    omega
  rw [waitingFor, hnone, List.map_nil]

/-- A record takes for its children the nodes that wait for it, and waits for the record above it. -/
theorem link_cons {total index : Nat} {r : Record} {rs : List Record} {root : Option Node} {waiting : List (Int × Node)}
    (hrest : link total (index + 1) rs = .ok (root, waiting)) (hparent : 0 ≤ r.parent) (htotal : r.parent < total) :
    link total index (r :: rs) = .ok (root, (r.parent, .mk r.label (waitingFor index waiting)) :: waiting) := by
  rw [link, hrest]
  have hchild : ¬r.parent < 0 := by omega
  have hknown : ¬(total : Int) ≤ r.parent := by omega
  simp only [bind, Except.bind, if_neg hchild, if_neg hknown]
  rfl

variable {total : Nat} {root : Option Node}

mutual

/-- When the records of a tree are linked and no node waits for them, the tree comes to wait for the record above it, and the
nodes below wait for records of the tree. -/
theorem link_records (field : Option String) {parent : Int} (hparent : 0 ≤ parent) : (n : ParsedNode) → (index : Nat) →
    (rs : List Record) → (waiting : List (Int × Node)) → parent < index → index + n.size ≤ total →
    Free waiting index (index + n.size) → link total (index + n.size) rs = .ok (root, waiting) →
    ∃ inner, link total index (n.records field parent index ++ rs) = .ok (root, (parent, n.node field) :: (inner ++ waiting)) ∧
      ∀ w ∈ inner, index ≤ w.1 ∧ w.1 < index + n.size
  | .mk type start stop named missing cs, index, rs, waiting, habove, htotal, hfree, hrest => by
    rw [size] at *
    -- The children are linked before their node, and all that waits for its record then are they.
    have hnext : index + (sizeBelow cs + 1) = index + 1 + sizeBelow cs := by omega
    obtain ⟨below, hlink, hchildren, hbelow⟩ := link_recordsBelow index cs (index + 1) rs waiting (Nat.lt_succ_self index)
      (by omega) (fun w hw => by have := hfree w hw; omega) (hnext ▸ hrest)
    have hwaiting : waitingFor index (below ++ waiting) = nodesBelow cs := by
      rw [waitingFor_append, hchildren, hfree.waitingFor_eq_nil (Nat.le_refl _) (by omega), List.append_nil]
    refine ⟨below, ?_, fun w hw => ?_⟩
    · rw [records, List.cons_append, link_cons hlink hparent (show parent < total by omega), hwaiting, node]
    · have := hbelow w hw
      omega

/-- When the records of the children of a node are linked, the children come to wait for the record of the node, in their order. -/
theorem link_recordsBelow (parent : Nat) : (cs : List (Option String × ParsedNode)) → (index : Nat) →
    (rs : List Record) → (waiting : List (Int × Node)) → parent < index → index + sizeBelow cs ≤ total →
    Free waiting index (index + sizeBelow cs) → link total (index + sizeBelow cs) rs = .ok (root, waiting) →
    ∃ below, link total index (recordsBelow parent index cs ++ rs) = .ok (root, below ++ waiting) ∧
      waitingFor parent below = nodesBelow cs ∧ ∀ w ∈ below, w.1 = parent ∨ (index ≤ w.1 ∧ w.1 < index + sizeBelow cs)
  | [], index, rs, waiting, _, _, _, hrest => ⟨[], hrest, rfl, by simp⟩
  | (field, c) :: cs, index, rs, waiting, habove, htotal, hfree, hrest => by
    rw [sizeBelow] at *
    -- The later children are linked first; they wait for the record of the node, and what is below them for later records.
    obtain ⟨later, hlink, hlater, hbounds⟩ := link_recordsBelow parent cs (index + c.size) rs waiting (by omega) (by omega)
      (fun w hw => by have := hfree w hw; omega) (by rwa [Nat.add_assoc])
    have hclear : Free (later ++ waiting) index (index + c.size) := by
      intro w hw
      rcases List.mem_append.1 hw with hw | hw
      · have := hbounds w hw
        omega
      · have := hfree w hw
        omega
    obtain ⟨inner, hfirst, hinner⟩ := link_records field (Int.natCast_nonneg parent) c index _ (later ++ waiting) (by omega)
      (by omega) hclear hlink
    refine ⟨(parent, c.node field) :: (inner ++ later), ?_, ?_, fun w hw => ?_⟩
    · rw [recordsBelow_cons, List.append_assoc, hfirst]
      simp
    · have hfreeInner : Free inner 0 index := fun w hw => .inr (hinner w hw).1
      have hself : waitingFor parent [((parent : Int), c.node field)] = [c.node field] := by simp [waitingFor]
      rw [← List.singleton_append, waitingFor_append, waitingFor_append, hself,
        hfreeInner.waitingFor_eq_nil (Nat.zero_le _) habove, List.nil_append, hlater, nodesBelow, List.singleton_append]
    · rcases List.mem_cons.1 hw with rfl | hw
      · exact .inl rfl
      rcases List.mem_append.1 hw with hw | hw
      · have := hinner w hw
        omega
      · have := hbounds w hw
        omega

end

/-- The records of a tree make that tree again. -/
theorem assemble_records (field : Option String) {parent : Int} (hparent : parent < 0) (n : ParsedNode) :
    assemble (n.records field parent 0) = .ok (n.node field) := by
  obtain ⟨type, start, stop, named, missing, cs⟩ := n
  have hlength := length_records field parent 0 (.mk type start stop named missing cs)
  have hend : link (sizeBelow cs + 1) (1 + sizeBelow cs) [] = .ok (none, []) := rfl
  obtain ⟨below, hlink, hchildren, -⟩ := link_recordsBelow 0 cs 1 [] [] Nat.one_pos (by omega) (fun w hw => by simp at hw) hend
  rw [List.append_nil, List.append_nil] at hlink
  have hroot : link (sizeBelow cs + 1) 0 (records field parent 0 (.mk type start stop named missing cs)) =
      .ok (some (node field (.mk type start stop named missing cs)), below) := by
    rw [records, link, hlink]
    simp only [bind, Except.bind, if_pos hparent]
    rw [node, ← hchildren]
    rfl
  rw [assemble, hlength, size, hroot, records]
  rfl

end Record

/-! ## Walking a tree -/

namespace Place

/-- The places that come of a stack: the place on top is visited, and its children are put on the stack, from the last to the
first. -/
def visit : List Place → List Place
  | [] => []
  | p :: stack => p :: visit (p.children ++ stack)
termination_by stack => (stack.flatMap subtree).length
decreasing_by
  rw [List.flatMap_append, List.flatMap_cons, subtree_eq p, List.cons_append, List.length_cons]
  exact Nat.lt_succ_self _

/-- Each place on a stack is visited with all that is below it, in pre-order, before the rest of the stack. -/
theorem visit_eq_flatMap (stack : List Place) : visit stack = stack.flatMap subtree := by
  induction stack using visit.induct with
  | case1 => rw [visit, List.flatMap_nil]
  | case2 p stack ih => rw [visit, ih, List.flatMap_append, List.flatMap_cons, subtree_eq p, List.cons_append]

end Place

/-! ## Snapshots -/

namespace ParsedNode

/-- The snapshot of a parser's tree is the snapshot of the same tree with the labels that its nodes have. -/
theorem snapshot_eq (n : ParsedNode) (s : Source) : n.snapshot s = Snapshot.ofNode (n.node none) s := by
  rw [snapshot, Record.assemble_records none (by decide)]
  rfl

/-- Whatever tree the parser hands over, it is written down from the stack node by node in recursive pre-order, and linking what is
written down makes the same tree again. If that makes sense over the source, the snapshot has at every path the node that the
parser's tree has there, under the field that the parser's tree has for it, and no other nodes; what is below a node has the node
above it; a walk from the stack comes to the nodes in the recursive pre-order of the parser's tree; and there are as many. -/
theorem snapshot_faithful (n : ParsedNode) (s : Source) :
    ((gather [⟨n, none, -1⟩] []).map (·.label) = n.labels none ∧
      Record.assemble (gather [⟨n, none, -1⟩] []) = .ok (n.node none) ∧
      n.snapshot s = (Record.assemble (gather [⟨n, none, -1⟩] [])).bind (Snapshot.ofNode · s)) ∧
    ∀ t, n.snapshot s = .ok t →
      t.source = s ∧
      (∀ path, (t.follow? path).map (·.node.label) = (n.follow? none path).map fun c => c.2.label c.1) ∧
      (∀ p ∈ t.places, ∀ c ∈ p.children, c.parent = some p) ∧
      (t.walk none none = Place.visit [t.rootPlace] ∧ (t.walk none none).map (·.node.label) = n.labels none) ∧
      t.nodeCount = n.size := by
  rw [gather_root]
  refine ⟨⟨map_label_records none (-1) 0 n, Record.assemble_records none (by decide) n, rfl⟩, fun t ht => ?_⟩
  rw [snapshot_eq] at ht
  obtain ⟨hroot, hsource⟩ := Snapshot.eq_of_ofNode ht
  have hlabels : t.places.map (·.node.label) = n.labels none := by
    have hnodes : t.places.map (·.node) = (n.node none).preorder := by
      rw [← hroot]
      exact Place.map_node_walk [] t.root
    rw [← map_label_preorder, ← hnodes, List.map_map]
    rfl
  refine ⟨hsource, fun path => ?_, fun p _ c hc => Place.parent_of_mem_children hc, ⟨?_, hlabels⟩, ?_⟩
  · have hnode := map_node_follow? (show t.rootPlace.node = n.node none from hroot) path
    have hlabel := congrArg (Option.map (·.label)) hnode
    rw [Option.map_map, Option.map_map] at hlabel
    simp only [Function.comp_def, label_node] at hlabel
    exact hlabel
  · rw [Place.visit_eq_flatMap, List.flatMap_singleton]
    rfl
  · rw [Snapshot.nodeCount, ← List.length_map (·.node.label), hlabels, length_labels]

/-! ### An assignment whose end is missing -/

/-- An assignment under its program, with fields for its two sides, and a semicolon that was left out. -/
def unfinished : ParsedNode :=
  .mk "program" 0 3 true false
    [(none, .mk "assignment_exp" 0 3 true false
      [(some "left", .mk "identifier" 0 1 true false []), (none, .mk "=" 1 2 false false []),
        (some "right", .mk "number" 2 3 true false [])]),
      (none, .mk ";" 3 3 false true [])]

/-- Its snapshot has all six nodes, and the fields of the two sides. -/
theorem snapshot_faithful_unfinished :
    ∃ t, unfinished.snapshot (.ofString "x=1") = .ok t ∧ t.nodeCount = 6 ∧
      (t.follow? [0, 0]).map (·.node.label) = some ⟨"identifier", 0, 1, some "left", true, false⟩ ∧
      (t.follow? [0, 2]).map (·.node.label) = some ⟨"number", 2, 3, some "right", true, false⟩ ∧
      (t.follow? [1]).map (·.node.label) = some ⟨";", 3, 3, none, false, true⟩ := by
  have hfaults : ((unfinished.node none).linked .unset).faults (Source.ofString "x=1").size = [] := by decide
  have hok : unfinished.snapshot (.ofString "x=1") =
      .ok ⟨((unfinished.node none).linked .unset).node, .ofString "x=1", LinkedNode.valid_of_faults _ hfaults⟩ :=
    (snapshot_eq _ _).trans (Snapshot.ofLinked_eq_ok_iff.2 ⟨rfl, hfaults, rfl, rfl⟩)
  obtain ⟨-, hpath, -, -, hcount⟩ := (snapshot_faithful unfinished (.ofString "x=1")).2 _ hok
  exact ⟨_, hok, hcount, hpath [0, 0], hpath [0, 2], hpath [1]⟩

end ParsedNode

end AwkEdit
