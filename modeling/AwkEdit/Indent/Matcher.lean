import AwkEdit.Pattern.Compile
import AwkEdit.Pattern.Match
import AwkEdit.Pattern.Shown
import AwkEdit.Tree.Snapshot

/-!
# Indentation matchers

A line is indented by what starts it: the context of a line is the node that starts at its first significant byte, if there is one,
and the node above it. A matcher tests a context; one that tests a pattern fails when a predicate does, and one that is brought
along with the rules may fail by itself.
-/

namespace AwkEdit

/-- What an indentation rule gets to look at: the node that starts the line, the node above, and the first significant byte of the
line, or the start of a blank line. -/
structure IndentContext where
  tree : Snapshot
  node : Option Place
  parent : Place
  bol : Nat

namespace IndentContext

/-- The context of a line of a snapshot. A blank line has no node, and neither has a line that starts inside a token or outside
every node below the root. -/
def ofLine (tree : Snapshot) (line : Nat) : IndentContext :=
  match tree.source.firstNonblank line with
  | none =>
    let pos := tree.source.lineStart line
    ⟨tree, none, tree.enclosingNode pos, pos⟩
  | some bol =>
    let place := tree.largestNodeAt bol
    match place.parent with
    | some parent => ⟨tree, some place, parent, bol⟩
    | none => ⟨tree, none, tree.rootPlace, bol⟩

end IndentContext

/-- A matcher that is brought along with the rules: the name of its kind, the node types it mentions, its look in messages, and its
test of a context, which may fail. -/
structure CustomMatcher where
  kind : String
  mentioned : List String
  shown : String
  test : IndentContext → Except TestFailure Bool

/-- A test of a context. A field name that is no text names no node. -/
inductive Matcher where
  | nodeIs (types : List String)
  | parentIs (types : List String)
  | fieldIs (name : Literal)
  | noNode
  | catchAll
  | nodeMatches (pattern : CompiledPattern)
  | parentMatches (pattern : CompiledPattern)
  | allOf (matchers : List Matcher)
  | custom (matcher : CustomMatcher)

namespace Matcher

/-- The name of the kind of a matcher. -/
def kind : Matcher → String
  | nodeIs _ => "NodeIs"
  | parentIs _ => "ParentIs"
  | fieldIs _ => "FieldIs"
  | noNode => "NoNode"
  | catchAll => "CatchAll"
  | nodeMatches _ | parentMatches _ => "PatternMatch"
  | allOf _ => "AllOf"
  | custom m => m.kind

/-- Whether the matcher accepts every context as it stands. -/
def isCatchAll : Matcher → Bool
  | catchAll => true
  | _ => false

mutual

/-- Whether a context passes; of several tests the first that does not decides. -/
def holds (c : IndentContext) : Matcher → Except TestFailure Bool
  | nodeIs types => .ok (c.node.any (types.contains ·.node.type))
  | parentIs types => .ok (types.contains c.parent.node.type)
  | fieldIs name => .ok (c.node.any fun p => p.node.field.isSome && p.node.field == name.text?)
  | noNode => .ok c.node.isNone
  | catchAll => .ok true
  | nodeMatches pattern =>
    match c.node with
    | some place => pattern.hasMatchAt c.tree.source place
    | none => .ok false
  | parentMatches pattern => pattern.hasMatchAt c.tree.source c.parent
  | allOf matchers => allHold c matchers
  | custom m => m.test c

/-- Whether a context passes several tests, asked in order. -/
def allHold (c : IndentContext) : List Matcher → Except TestFailure Bool
  | [] => .ok true
  | m :: ms =>
    match m.holds c with
    | .ok true => allHold c ms
    | other => other

end

mutual

/-- The node types that the matcher mentions. -/
def mentioned : Matcher → List String
  | nodeIs types | parentIs types => types
  | nodeMatches pattern | parentMatches pattern => pattern.mentioned
  | allOf matchers => mentionedAll matchers
  | custom m => m.mentioned
  | _ => []

/-- The node types that several matchers mention. -/
def mentionedAll : List Matcher → List String
  | [] => []
  | m :: ms => m.mentioned ++ mentionedAll ms

end

mutual

/-- A matcher as messages show it, unless a field name in it cannot be shown. -/
def shown? : Matcher → Option String
  | nodeIs types => some ("_NodeIs(types=" ++ shownNames types ++ ")")
  | parentIs types => some ("_ParentIs(types=" ++ shownNames types ++ ")")
  | fieldIs name => name.shown?.map fun name => "_FieldIs(name=" ++ name ++ ")"
  | noNode => some "_NoNode()"
  | catchAll => some "_CatchAll()"
  | nodeMatches pattern => some ("_PatternMatch(pattern=" ++ pattern.shown ++ ", on_parent=" ++ Quoted.truth false ++ ")")
  | parentMatches pattern => some ("_PatternMatch(pattern=" ++ pattern.shown ++ ", on_parent=" ++ Quoted.truth true ++ ")")
  | allOf matchers => (shownAll? matchers).map fun matchers => "_AllOf(matchers=" ++ Quoted.round matchers ++ ")"
  | custom m => some m.shown

/-- Several matchers as messages show them. -/
def shownAll? : List Matcher → Option (List String)
  | [] => some []
  | m :: ms =>
    match m.shown?, shownAll? ms with
    | some shown, some more => some (shown :: more)
    | _, _ => none

end

end Matcher

end AwkEdit
