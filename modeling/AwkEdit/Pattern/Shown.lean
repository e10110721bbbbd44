import AwkEdit.Pattern.Basic
import AwkEdit.Text.Quoted

/-!
# Compiled patterns as messages show them

A compiled pattern is shown with everything that it consists of, field by field. Sets of names are shown sorted.
-/

namespace AwkEdit

/-- A set of names as messages show it. -/
def shownNames (names : List String) : String := Quoted.frozen ((sortedNames names).map Quoted.quote)

/-- Captures as messages show them. -/
def shownCaptures (captures : List String) : String := Quoted.round (captures.map Quoted.quote)

/-- The test of a type as messages show it. -/
def Head.shown : Head → String
  | .type name => "Literal(type=" ++ Quoted.quote name ++ ")"
  | .oneOf names => "TypeSet(members=" ++ shownNames names ++ ")"
  | .any => "Wildcard()"

namespace Pattern

mutual

/-- A pattern as messages show it. -/
def shown : Pattern → String
  | node head children captures =>
    "NodePattern(head=" ++ head.shown ++ ", children=" ++ Quoted.round (shownBelow children) ++ ", captures=" ++
      shownCaptures captures ++ ")"
  | choice alternatives captures =>
    "Choice(alternatives=" ++ Quoted.round (shownAll alternatives) ++ ", captures=" ++ shownCaptures captures ++ ")"

/-- The patterns for children as messages show them. -/
def shownBelow : List (Option String × Pattern) → List String
  | [] => []
  | (field, p) :: ps =>
    ("ChildConstraint(pattern=" ++ p.shown ++ ", field=" ++ (field.map Quoted.quote).getD Quoted.nothing ++ ")") :: shownBelow ps

/-- Alternatives as messages show them. -/
def shownAll : List Pattern → List String
  | [] => []
  | p :: ps => p.shown :: shownAll ps

end

end Pattern

/-- The argument of a test as messages show it. -/
def TextTest.shownArgument : TextTest → String
  | among names | notAmong names => shownNames names
  | search regex => regex.shown
  | equals text => Quoted.quote text
  | passes _ => "<function>"

/-- A predicate as messages show it. -/
def Predicate.shown (p : Predicate) : String :=
  "Predicate(operator=" ++ Quoted.quote p.test.operator ++ ", capture=" ++ Quoted.quote p.capture ++ ", argument=" ++
    p.test.shownArgument ++ ")"

/-- A compiled pattern as messages show it. -/
def CompiledPattern.shown (p : CompiledPattern) : String :=
  "CompiledPattern(root=" ++ p.root.shown ++ ", predicates=" ++ Quoted.round (p.predicates.map Predicate.shown) ++
    ", capture_names=" ++ shownNames p.captureNames ++ ", referenced_types=" ++ shownNames p.mentioned ++ ", name=" ++
    (p.label.map Quoted.quote).getD Quoted.nothing ++ ")"

end AwkEdit
