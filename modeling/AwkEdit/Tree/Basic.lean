/-!
# Syntax trees and the places in them

A node carries a label (what it says of itself) and its children in document order. A node does not know its parent: a place is a
node together with the trail from it up to the root, so the parent, the ancestors and the path of a place are read off the trail.
`Place.walk` lists the places of a subtree in pre-order and can leave out subtrees; `Place.deepest` follows the first child
that a test accepts, down to a node with no such child.
-/

namespace AwkEdit

/-- What a node says of itself: its type, its byte range, the field of its parent that names it, whether it is a named node, and
whether recovery inserted it without text. -/
structure Label where
  type : String
  start : Int
  stop : Int
  field : Option String := none
  named : Bool := true
  missing : Bool := false
  deriving DecidableEq, Repr

/-- The type of the nodes that cover text no rule of the grammar explains. -/
def errorType : String := "ERROR"

/-- A node of a syntax tree. -/
inductive Node where
  | mk (label : Label) (children : List Node)
  deriving Repr

namespace Node

/-- What the node says of itself. -/
def label : Node → Label
  | mk label _ => label

/-- The children, in document order. -/
def children : Node → List Node
  | mk _ children => children

@[simp] theorem label_mk (l : Label) (cs : List Node) : (mk l cs).label = l := rfl

@[simp] theorem children_mk (l : Label) (cs : List Node) : (mk l cs).children = cs := rfl

/-- The type of the node. -/
abbrev type (n : Node) : String := n.label.type

/-- The first byte of the node. -/
abbrev start (n : Node) : Int := n.label.start

/-- The byte after the last one of the node. -/
abbrev stop (n : Node) : Int := n.label.stop

/-- The field of the parent that names the node. -/
abbrev field (n : Node) : Option String := n.label.field

/-- Whether the node covers unexplained text. -/
def isError (n : Node) : Bool := n.type == errorType

/-- Whether a position lies in the node's range. -/
def contains (pos : Int) (n : Node) : Bool := n.start ≤ pos && pos < n.stop

/-- Whether a position lies strictly inside the node's range. -/
def encloses (pos : Int) (n : Node) : Bool := n.start < pos && pos < n.stop

/-- Whether the node has to do with the bytes from `low` to `high`: its range meets them, or it is empty and lies at or between
the two ends. -/
def meets (low high : Int) (n : Node) : Bool :=
  if n.start = n.stop then low ≤ n.start && n.start ≤ high else n.start < high && low < n.stop

/-- The nodes of the subtree in pre-order. -/
def preorder : Node → List Node
  | mk l cs => mk l cs :: preorderList cs
where
  /-- The nodes of several subtrees, one after another. -/
  preorderList : List Node → List Node
    | [] => []
    | c :: cs => preorder c ++ preorderList cs

end Node

/-- A node in its place: the node, and the way from it up to the root as the index of each step among the children of the node
above. -/
structure Place where
  node : Node
  trail : List (Nat × Node)
  deriving Repr

mutual

/-- The places of a subtree in pre-order, without the subtrees (but the whole one) whose node `keep` rejects. -/
def Node.walk (keep : Node → Bool) (trail : List (Nat × Node)) : Node → List Place
  | .mk l cs => ⟨.mk l cs, trail⟩ :: walkChildren keep (.mk l cs) trail 0 cs

/-- The places below a node: `cs` are its children from index `i` on. -/
def walkChildren (keep : Node → Bool) (parent : Node) (trail : List (Nat × Node)) (i : Nat) : List Node → List Place
  | [] => []
  | c :: cs => (if keep c then c.walk keep ((i, parent) :: trail) else []) ++ walkChildren keep parent trail (i + 1) cs

end

mutual

/-- The place reached by stepping to the first child that `accept` accepts, as long as there is one. -/
def Node.deepest (accept : Node → Bool) (trail : List (Nat × Node)) : Node → Place
  | .mk l cs => (deepestChild accept (.mk l cs) trail 0 cs).getD ⟨.mk l cs, trail⟩

/-- The place reached through the first of the children, from index `i` on, that `accept` accepts. -/
def deepestChild (accept : Node → Bool) (parent : Node) (trail : List (Nat × Node)) (i : Nat) : List Node → Option Place
  | [] => none
  | c :: cs =>
    if accept c then some (c.deepest accept ((i, parent) :: trail)) else deepestChild accept parent trail (i + 1) cs

end

namespace Place

/-- The root of a tree in its place. -/
def root (n : Node) : Place := ⟨n, []⟩

/-- The child indices that lead from the root to the place. -/
def path (p : Place) : List Nat := (p.trail.map (·.1)).reverse

/-- Whether nothing lies above the place. -/
def isRoot (p : Place) : Bool := p.trail.isEmpty

/-- The places along a trail, nearest first. -/
def along : List (Nat × Node) → List Place
  | [] => []
  | (_, above) :: trail => ⟨above, trail⟩ :: along trail

/-- The places above, nearest first. -/
def ancestors (p : Place) : List Place := along p.trail

/-- The place just above. -/
def parent (p : Place) : Option Place := p.ancestors.head?

/-- The children in their places. -/
def children (p : Place) : List Place := p.node.children.zipIdx.map fun (c, i) => ⟨c, (i, p.node) :: p.trail⟩

/-- The place that a path of child indices leads to. -/
def follow? (p : Place) : List Nat → Option Place
  | [] => some p
  | i :: path => p.children[i]?.bind (·.follow? path)

/-- The children that a field of the node names. -/
def childrenByField (p : Place) (name : String) : List Place := p.children.filter (·.node.field == some name)

/-- The first child that a field of the node names. -/
def childByField (p : Place) (name : String) : Option Place := p.children.find? (·.node.field == some name)

/-- The named children. -/
def namedChildren (p : Place) : List Place := p.children.filter (·.node.label.named)

/-- The places of the subtree in pre-order, without the subtrees below the place that `keep` rejects. -/
def walk (keep : Node → Bool) (p : Place) : List Place := p.node.walk keep p.trail

/-- Every place of the subtree, in pre-order. -/
def subtree (p : Place) : List Place := p.walk fun _ => true

/-- The place reached by stepping to the first child that `accept` accepts, as long as there is one. -/
def deepest (accept : Node → Bool) (p : Place) : Place := p.node.deepest accept p.trail

/-- The place reached by climbing from a node while the node above starts at the same byte and is not the root. -/
def climb (n : Node) : List (Nat × Node) → Place
  | (i, above) :: next :: trail =>
    if above.start = n.start then climb above (next :: trail) else ⟨n, (i, above) :: next :: trail⟩
  | trail => ⟨n, trail⟩

/-- The outermost place below the root that starts where this one does. -/
def outermost (p : Place) : Place := climb p.node p.trail

end Place

end AwkEdit
