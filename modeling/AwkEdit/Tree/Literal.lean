import AwkEdit.Tree.Snapshot

/-!
# Trees written as literals

A tree literal gives the tokens of a tree and how they nest, but no ranges: each token is found in the source at the earliest
offset after the tokens before it, a missing token is empty where the one before it ended, and an interior node spans its
children.
-/

namespace AwkEdit

/-- A tree without ranges. What is no part of a tree comes as messages show it, if it can be shown. -/
inductive TreeLiteral where
  | leaf (type text : String) (field : Option String) (named : Bool)
  | missing (type : String) (field : Option String)
  | node (type : String) (field : Option String) (named : Bool) (children : List TreeLiteral)
  | unsupported (shown : Option String)
  deriving Repr

namespace TreeLiteral

/-- An anonymous token, whose type is its text. -/
def token (text : String) : TreeLiteral := leaf text text none false

/-- The first offset at which the bytes `needle` occur, in bytes of which the first is at offset `i`. -/
def find (needle : List UInt8) (i : Nat) : List UInt8 → Option Nat
  | [] => if needle.isEmpty then some i else none
  | b :: bs => if needle.isPrefixOf (b :: bs) then some i else find needle (i + 1) bs

/-- The range that several nodes span. -/
def span (first : Node) (rest : List Node) : Int × Int :=
  rest.foldl (fun (low, high) c => (min low c.start, max high c.stop)) (first.start, first.stop)

mutual

/-- The tree of a literal whose first token is looked for from `cursor` on, and where its last token ends. -/
def place (bytes : List UInt8) (cursor : Nat) : TreeLiteral → Except TreeError (Node × Nat)
  | leaf type text field named =>
    let needle := Utf8.encode text.toList
    match find needle cursor (bytes.drop cursor) with
    | some start =>
      if needle.isEmpty then .error (.tokenNotFound text type cursor)
      else .ok (.mk ⟨type, start, start + needle.length, field, named, false⟩ [], start + needle.length)
    | none => .error (.tokenNotFound text type cursor)
  | missing type field => .ok (.mk ⟨type, cursor, cursor, field, false, true⟩ [], cursor)
  | node type field named children => do
    match ← placeAll bytes cursor children with
    | ([], _) => .error (.childlessNode type)
    | (first :: rest, cursor) =>
      let (start, stop) := span first rest
      .ok (.mk ⟨type, start, stop, field, named, false⟩ (first :: rest), cursor)
  | unsupported shown => .error (shown.elim .oversizedInteger .unsupportedElement)

/-- The trees of several literals, one after another. -/
def placeAll (bytes : List UInt8) (cursor : Nat) : List TreeLiteral → Except TreeError (List Node × Nat)
  | [] => .ok ([], cursor)
  | c :: cs => do
    let (first, cursor) ← c.place bytes cursor
    let (rest, cursor) ← placeAll bytes cursor cs
    .ok (first :: rest, cursor)

end

/-- A node with another range. -/
def spanning (start stop : Int) : Node → Node
  | .mk l cs => .mk { l with start := start, stop := stop } cs

/-- The snapshot that a literal describes; `spanSource` lets the root span the whole source. -/
def build (source : Source) (spanSource : Bool) (literal : TreeLiteral) : Except TreeError Snapshot := do
  let (root, _) ← literal.place source.bytes 0
  Snapshot.ofNode (if spanSource then spanning 0 source.size root else root) source

end TreeLiteral

end AwkEdit
