import AwkEdit.IntegerText
import AwkEdit.Source
import AwkEdit.Text.Quoted
import AwkEdit.Tree.Basic

/-!
# Snapshots: a syntax tree over its source

A snapshot is a tree whose ranges make sense over a source: every range is in order and ends inside the text, and the children of
a node lie in its range one after another. Trees come in as linked nodes, each with a link to the node it takes for its parent,
which may be wrong; `LinkedNode.faults` lists what is wrong with one, in pre-order, and `Snapshot.ofLinked` refuses it with the
first fault. The queries of a snapshot are walks and lookups by position.
-/

namespace AwkEdit

/-- Why a syntax tree is refused. -/
inductive TreeError where
  | rootHasParent
  | badRange (label : Label) (limit : Nat)
  | unlinkedChild (child : Label)
  | escapes (child parent : Label)
  | overlaps (child : Label)
  | noRecords
  | manyRoots
  | noRoot
  | recordOutOfRange
  | tokenNotFound (text type : String) (cursor : Nat)
  | unsupportedElement (shown : String)
  | childlessNode (type : String)
  | differentText
  | oversizedInteger
  deriving DecidableEq, Repr

/-- The range of a label as messages show it. -/
def Label.range (l : Label) : String := Quoted.range l.start l.stop

/-- The wording of a refusal. -/
def TreeError.message : TreeError → String
  | rootHasParent => "The root node must not have a parent"
  | badRange l limit => s!"Invalid range {l.range} for {Quoted.quote l.type} (source length {limit})"
  | unlinkedChild c => s!"Child {Quoted.quote c.type} is not linked to its parent"
  | escapes c p => s!"Child {Quoted.quote c.type} {c.range} escapes parent {Quoted.quote p.type} {p.range}"
  | overlaps c => s!"Child {Quoted.quote c.type} {c.range} overlaps its preceding sibling"
  | noRecords => "Cannot build a tree without nodes"
  | manyRoots => "Tree records have more than one root"
  | noRoot => "Tree records have no root"
  | recordOutOfRange => "list index out of range"
  | tokenNotFound text type cursor => s!"Token {Quoted.quote text} ({type}) not found after offset {cursor}"
  | unsupportedElement shown => s!"Unsupported tree literal element: {shown}"
  | childlessNode type => s!"Node {Quoted.quote type} needs at least one child"
  | differentText => "The syntax tree was built from different text"
  | oversizedInteger => IntegerText.unwritableMessage

/-- The bounds of ranges that the wording of a refusal shows. -/
def TreeError.bounds : TreeError → List Int
  | badRange l _ | overlaps l => [l.start, l.stop]
  | escapes c p => [c.start, c.stop, p.start, p.stop]
  | _ => []

/-- A refusal as it is told: if a bound in its wording cannot be written, it is for that. -/
def TreeError.told (e : TreeError) : TreeError := if e.bounds.all IntegerText.isWritable then e else oversizedInteger

/-! ## Linked nodes -/

/-- What a node takes for its parent: no node, the node that lists it among its children, or another node. -/
inductive Link where
  | unset
  | container
  | elsewhere
  deriving DecidableEq, Repr

/-- A node with its parent link, as it comes in. -/
inductive LinkedNode where
  | mk (label : Label) (link : Link) (children : List LinkedNode)
  deriving Repr

namespace LinkedNode

/-- What the node says of itself. -/
def label : LinkedNode → Label
  | mk label _ _ => label

/-- The parent link. -/
def link : LinkedNode → Link
  | mk _ link _ => link

/-- The children, in document order. -/
def children : LinkedNode → List LinkedNode
  | mk _ _ children => children

mutual

/-- The tree without its links. -/
def node : LinkedNode → Node
  | mk l _ cs => .mk l (nodes cs)

/-- Several trees without their links. -/
def nodes : List LinkedNode → List Node
  | [] => []
  | c :: cs => c.node :: nodes cs

end

/-- What is wrong with the range of a node over a text of `limit` bytes. -/
def rangeFaults (limit : Nat) (l : Label) : List TreeError :=
  if l.stop < l.start ∨ limit < l.stop then [.badRange l limit] else []

/-- What is wrong with the children of a node, seen from the node: `last` is where the child before them stops. -/
def childFaults (parent : Label) (last : Int) : List LinkedNode → List TreeError
  | [] => []
  | c :: cs =>
    (if c.link = .container then [] else [.unlinkedChild c.label]) ++
    (if c.label.start < parent.start ∨ parent.stop < c.label.stop then [.escapes c.label parent] else []) ++
    (if c.label.start < last then [.overlaps c.label] else []) ++
    childFaults parent c.label.stop cs

mutual

/-- What is wrong with a tree over a text of `limit` bytes, node by node in pre-order. -/
def faults (limit : Nat) : LinkedNode → List TreeError
  | mk l _ cs => rangeFaults limit l ++ childFaults l l.start cs ++ faultsAll limit cs

/-- What is wrong with several trees. -/
def faultsAll (limit : Nat) : List LinkedNode → List TreeError
  | [] => []
  | c :: cs => c.faults limit ++ faultsAll limit cs

end

end LinkedNode

namespace Node

mutual

/-- The tree with every child linked to its parent, and the root as given. -/
def linked (link : Link) : Node → LinkedNode
  | mk l cs => .mk l link (linkedAll cs)

/-- The children of a node, linked to it. -/
def linkedAll : List Node → List LinkedNode
  | [] => []
  | c :: cs => c.linked .container :: linkedAll cs

end

/-- The children of a node lie in its range, each at or after the end of the one before. -/
def Laid (parent : Label) (last : Int) : List Node → Prop
  | [] => True
  | c :: cs => parent.start ≤ c.start ∧ c.stop ≤ parent.stop ∧ last ≤ c.start ∧ Laid parent c.stop cs

mutual

/-- A tree that makes sense over a text of `limit` bytes. -/
def Valid (limit : Nat) : Node → Prop
  | mk l cs => l.start ≤ l.stop ∧ l.stop ≤ limit ∧ Laid l l.start cs ∧ ValidAll limit cs

/-- Trees that make sense over a text of `limit` bytes. -/
def ValidAll (limit : Nat) : List Node → Prop
  | [] => True
  | c :: cs => c.Valid limit ∧ ValidAll limit cs

end

end Node

namespace LinkedNode

theorem fault_eq_nil {p : Prop} [Decidable p] {e : TreeError} : (if p then [e] else []) = [] ↔ ¬p := by
  by_cases h : p <;> simp [h]

theorem laid_of_childFaults {parent : Label} {cs : List LinkedNode} {last : Int} (h : childFaults parent last cs = []) :
    Node.Laid parent last (nodes cs) := by
  induction cs generalizing last with
  | nil => simp [nodes, Node.Laid]
  | cons c cs ih =>
    cases c
    simp only [childFaults, List.append_eq_nil_iff, fault_eq_nil, not_or, Int.not_lt] at h
    obtain ⟨⟨⟨-, h⟩, hl⟩, hr⟩ := h
    exact ⟨h.1, h.2, hl, ih hr⟩

mutual

/-- A tree without faults makes sense. -/
theorem valid_of_faults {limit : Nat} : (n : LinkedNode) → n.faults limit = [] → n.node.Valid limit
  | mk l k cs, h => by
    simp only [faults, rangeFaults, List.append_eq_nil_iff, fault_eq_nil, not_or, Int.not_lt] at h
    obtain ⟨⟨hr, hc⟩, hs⟩ := h
    exact ⟨hr.1, hr.2, laid_of_childFaults hc, valid_of_faultsAll cs hs⟩

theorem valid_of_faultsAll {limit : Nat} : (cs : List LinkedNode) → faultsAll limit cs = [] → Node.ValidAll limit (nodes cs)
  | [], _ => trivial
  | c :: cs, h => by
    simp only [faultsAll, List.append_eq_nil_iff] at h
    exact ⟨valid_of_faults c h.1, valid_of_faultsAll cs h.2⟩

end

end LinkedNode

/-! ## Snapshots -/

/-- A syntax tree that makes sense over its source. -/
structure Snapshot where
  root : Node
  source : Source
  valid : root.Valid source.size

namespace Snapshot

/-- The snapshot of a linked tree, or the first thing wrong with it. -/
def ofLinked (root : LinkedNode) (source : Source) : Except TreeError Snapshot :=
  if root.link = .unset then
    match h : root.faults source.size with
    | [] => .ok ⟨root.node, source, LinkedNode.valid_of_faults root h⟩
    | fault :: _ => .error fault.told
  else .error .rootHasParent

/-- The snapshot of a tree whose links are sound by construction, or the first thing wrong with its ranges. -/
def ofNode (root : Node) (source : Source) : Except TreeError Snapshot := ofLinked (root.linked .unset) source

/-- The root in its place. -/
def rootPlace (t : Snapshot) : Place := .root t.root

/-- The place that a path of child indices leads to. -/
def follow? (t : Snapshot) (path : List Nat) : Option Place := t.rootPlace.follow? path

/-- The text of a node. -/
def text (t : Snapshot) (n : Node) : String := t.source.text n.start n.stop

/-- The places in pre-order; given a bound, the root and what meets the bytes between the bounds, where an absent bound is
the end of the text on its side. -/
def walk (t : Snapshot) (start stop : Option Int) : List Place :=
  match start, stop with
  | none, none => t.rootPlace.subtree
  | _, _ => t.rootPlace.walk (Node.meets (start.getD 0) (stop.getD t.source.size))

/-- Every place, in pre-order. -/
def places (t : Snapshot) : List Place := t.rootPlace.subtree

/-- The number of nodes. -/
def nodeCount (t : Snapshot) : Nat := t.places.length

/-- The deepest place that contains a position. -/
def nodeAt (t : Snapshot) (pos : Int) : Place := t.rootPlace.deepest (Node.contains pos)

/-- The outermost place below the root that starts where the deepest place at a position does; the root only where no other
node is. -/
def largestNodeAt (t : Snapshot) (pos : Int) : Place := (t.nodeAt pos).outermost

/-- The smallest place that strictly encloses a position. -/
def enclosingNode (t : Snapshot) (pos : Int) : Place := t.rootPlace.deepest (Node.encloses pos)

end Snapshot

end AwkEdit
