import AwkEdit.Regex.Match
import AwkEdit.Text.Names

/-!
# Tree patterns

A pattern describes a node by a test of its type and by patterns that some of its children, in order, have to match; a choice
offers whole patterns. Captures name the nodes that a match binds. A compiled pattern adds predicates over the text of captured
nodes, under the label that errors and logs give it.
-/

namespace AwkEdit

/-- The test of a node's type. -/
inductive Head where
  | type (name : String)
  | oneOf (names : List String)
  | any
  deriving DecidableEq, Repr

namespace Head

/-- Whether a node of a type passes. -/
def accepts (type : String) : Head → Bool
  | .type name => type == name
  | .oneOf names => names.contains type
  | .any => true

/-- The types that pass; every type does when there are none to list. -/
def types : Head → Option (List String)
  | .type name => some [name]
  | .oneOf names => some names
  | .any => none

end Head

/-- A pattern over nodes. The children of a node pattern are the patterns that children of the node have to match, each with the
field that has to name the child, if any. -/
inductive Pattern where
  | node (head : Head) (children : List (Option String × Pattern)) (captures : List String)
  | choice (alternatives : List Pattern) (captures : List String)
  deriving Repr

namespace Pattern

/-- The pattern with one more capture of the node it matches. -/
def capture (name : String) : Pattern → Pattern
  | node head children captures => node head children (captures ++ [name])
  | choice alternatives captures => choice alternatives (captures ++ [name])

mutual

/-- The types of the nodes that the pattern can match; none to list when it can match a node of any type. -/
def rootTypes : Pattern → Option (List String)
  | node head _ _ => head.types
  | choice alternatives _ => rootTypesOf alternatives

/-- The types of the nodes that one of the patterns can match. -/
def rootTypesOf : List Pattern → Option (List String)
  | [] => some []
  | p :: ps =>
    match p.rootTypes, rootTypesOf ps with
    | some types, some more => some (types ++ more)
    | _, _ => none

end

mutual

/-- The capture names of a pattern, in the order in which they are written. -/
def captureNames : Pattern → List String
  | node _ children captures => captures ++ captureNamesBelow children
  | choice alternatives captures => captureNamesOf alternatives ++ captures

/-- The capture names of the patterns for children. -/
def captureNamesBelow : List (Option String × Pattern) → List String
  | [] => []
  | (_, p) :: ps => p.captureNames ++ captureNamesBelow ps

/-- The capture names of alternatives. -/
def captureNamesOf : List Pattern → List String
  | [] => []
  | p :: ps => p.captureNames ++ captureNamesOf ps

end

mutual

/-- The node types that a pattern mentions. -/
def mentioned : Pattern → List String
  | node head children _ => head.types.getD [] ++ mentionedBelow children
  | choice alternatives _ => mentionedOf alternatives

/-- The node types that the patterns for children mention. -/
def mentionedBelow : List (Option String × Pattern) → List String
  | [] => []
  | (_, p) :: ps => p.mentioned ++ mentionedBelow ps

/-- The node types that alternatives mention. -/
def mentionedOf : List Pattern → List String
  | [] => []
  | p :: ps => p.mentioned ++ mentionedOf ps

end

end Pattern

/-- What keeps a test from deciding: the test itself says so, it was given a value of the wrong type to decide with, or a group of the
expression that it searches for stops before it starts. -/
inductive TestFailure where
  | raised (message : String)
  | mistyped (message : String)
  | torn
  deriving DecidableEq, Repr

/-- The wording of a failure. -/
def TestFailure.message : TestFailure → String
  | raised message | mistyped message => message
  | torn => "The span of capturing group is wrong, please report a bug for the re module."

/-- A test of a text. -/
inductive TextTest where
  | among (names : List String)
  | notAmong (names : List String)
  | search (regex : CompiledRegex)
  | equals (text : String)
  | passes (run : String → Except TestFailure Bool)

namespace TextTest

/-- The operator that writes the test. -/
def operator : TextTest → String
  | among _ => "#in"
  | notAmong _ => "#not-in"
  | search _ => "#match"
  | equals _ => "#eq"
  | passes _ => "#pred"

/-- Whether a text passes. -/
def holds (text : String) : TextTest → Except TestFailure Bool
  | among names => .ok (names.contains text)
  | notAmong names => .ok (!names.contains text)
  | search regex =>
    match regex.body.search text.toList with
    | some notes => if notes.isTorn then .error .torn else .ok true
    | none => .ok false
  | equals other => .ok (text == other)
  | passes run => run text

end TextTest

/-- A test of the text of every node that a capture binds. -/
structure Predicate where
  test : TextTest
  capture : String

/-- A pattern ready to be matched, with its predicates and the label of the rule it belongs to. -/
structure CompiledPattern where
  root : Pattern
  predicates : List Predicate
  label : Option String

namespace CompiledPattern

/-- The types of the nodes that the pattern can match; none to list when it can match a node of any type. -/
def rootTypes (p : CompiledPattern) : Option (List String) := p.root.rootTypes

/-- Whether the pattern can match a node of a type. -/
def acceptsType (p : CompiledPattern) (type : String) : Bool :=
  match p.rootTypes with
  | none => true
  | some types => types.contains type

/-- The names that a match can bind, each once, sorted. -/
def captureNames (p : CompiledPattern) : List String := sortedNames p.root.captureNames

/-- The node types that the pattern mentions, each once, sorted. -/
def mentioned (p : CompiledPattern) : List String := sortedNames p.root.mentioned

end CompiledPattern

end AwkEdit
