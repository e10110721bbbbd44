import AwkEdit.Tree.Snapshot

/-!
# Trees as flat records

A tree travels as a list of records in pre-order, each with the index of its parent's record. `ParsedNode` is a tree as a parser
hands it over, where the parent names the field of each child; `ParsedNode.records` writes it down and `assemble` links records
into a tree again. Records are linked from the last to the first, so a node takes the children recorded after it, and a record
whose parent comes later than itself is left out.
-/

namespace AwkEdit

/-- A node written down: its label and the index of its parent's record, negative for a root. -/
structure Record where
  label : Label
  parent : Int
  deriving DecidableEq, Repr

namespace Record

/-- The root and the nodes that wait for their parent, in the order of their records, once the records from index `i` on are
linked; `total` is the number of all records. -/
def link (total : Nat) : Nat → List Record → Except TreeError (Option Node × List (Int × Node))
  | _, [] => .ok (none, [])
  | i, r :: rs => do
    let (root, waiting) ← link total (i + 1) rs
    let node := Node.mk r.label ((waiting.filter (·.1 == Int.ofNat i)).map (·.2))
    if r.parent < 0 then
      if root.isSome then .error .manyRoots else .ok (some node, waiting)
    else if total ≤ r.parent then .error .recordOutOfRange
    else .ok (root, (r.parent, node) :: waiting)

/-- The tree that records describe. -/
def assemble (records : List Record) : Except TreeError Node := do
  if records.isEmpty then .error .noRecords
  else
    match ← link records.length 0 records with
    | (some root, _) => .ok root
    | (none, _) => .error .noRoot

end Record

/-- A node of a parser's tree: its type, range and flags, and its children, each under the field that names it. -/
inductive ParsedNode where
  | mk (type : String) (start stop : Int) (named missing : Bool) (children : List (Option String × ParsedNode))
  deriving Repr

namespace ParsedNode

mutual

/-- The records of a parser's tree whose root is under a field, has the record of index `parent` above it and is itself record
`index`. -/
def records (field : Option String) (parent : Int) (index : Nat) : ParsedNode → List Record
  | mk type start stop named missing cs =>
    ⟨⟨type, start, stop, field, named, missing⟩, parent⟩ :: recordsBelow index (index + 1) cs

/-- The records of the children of record `parent`, the first of them at `index`. -/
def recordsBelow (parent index : Nat) : List (Option String × ParsedNode) → List Record
  | [] => []
  | (field, c) :: cs =>
    c.records field parent index ++ recordsBelow parent (index + (c.records field parent index).length) cs

end

/-- The trees below records, of which the first has index `i`, each with the index of the record above it and the field that names
it. A record takes the later ones that name it as the one above. -/
def linked : Nat → List Record → List (Int × Option String × ParsedNode)
  | _, [] => []
  | i, r :: rs =>
    let later := linked (i + 1) rs
    let below := (later.filter (·.1 == Int.ofNat i)).map (·.2)
    (r.parent, r.label.field, mk r.label.type r.label.start r.label.stop r.label.named r.label.missing below) :: later

/-- A node of no type that covers nothing. -/
def empty : ParsedNode := mk "" 0 0 true false []

/-- The tree of a parser whose records begin with the root; an empty node without records. -/
def ofRecords (records : List Record) : ParsedNode := (linked 0 records).head?.elim empty (·.2.2)

/-- The snapshot of a parser's tree over the source it was parsed from. -/
def snapshot (root : ParsedNode) (source : Source) : Except TreeError Snapshot := do
  Snapshot.ofNode (← Record.assemble (root.records none (-1) 0)) source

end ParsedNode

end AwkEdit
