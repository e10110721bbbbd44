import AwkEdit.Decimal.Shortest
import AwkEdit.IntegerText
import AwkEdit.Pattern.Basic
import AwkEdit.Slots

/-!
# Pattern literals

A pattern is written as a nested literal: names, lists, tuples and sets, besides compiled expressions and tests, which only
arguments of predicates may be, and values that no pattern allows. Messages show literals, except those with an integer of too many
digits in them. A set holds each value once, and numbers are compared by value: one, `true` and 1.0 are one value, which is shown as
the one that came first. A set lists its members in the order of their slots if they have a digest, which numbers have, tuples and
sets of those, and the empty text; after those it lists the others as they came. A list or a dictionary cannot be in a set.
-/

namespace AwkEdit

/-- A value that a pattern may be written as. -/
inductive Literal where
  | text (value : String)
  | list (items : List Literal)
  | tuple (items : List Literal)
  | set (items : List Literal)
  | dictionary (entries : List (String × Literal))
  | regex (compiled : CompiledRegex)
  | test (run : String → Except TestFailure Bool)
  | nothing
  | truth (value : Bool)
  | integer (value : Int)
  | decimal (value : Decimal)
  deriving Inhabited

/-- What a literal is as a number: an integer, or a sign and the binary value of any other number. -/
inductive Quantity where
  | integer (value : Int)
  | other (negative : Bool) (value : Option Binary)
  deriving DecidableEq, Repr

namespace Literal

/-! ## Literals in messages -/

mutual

/-- A literal as messages show it, unless an integer in it cannot be written. -/
def shown? : Literal → Option String
  | text value => some (Quoted.quote value)
  | list items => (shownAll? items).map Quoted.square
  | tuple items => (shownAll? items).map Quoted.round
  | set items => (shownAll? items).map Quoted.frozen
  | dictionary entries => (shownEntries? entries).map fun shown => "\x7b" ++ Quoted.commas shown ++ "\x7d"
  | regex compiled => some compiled.shown
  | test _ => some "<function>"
  | nothing => some Quoted.nothing
  | truth value => some (Quoted.truth value)
  | integer value => IntegerText.written? value
  | decimal value => some value.shown

/-- Several literals as messages show them. -/
def shownAll? : List Literal → Option (List String)
  | [] => some []
  | l :: ls =>
    match l.shown?, shownAll? ls with
    | some shown, some more => some (shown :: more)
    | _, _ => none

/-- The entries of a dictionary as messages show them. -/
def shownEntries? : List (String × Literal) → Option (List String)
  | [] => some []
  | (name, l) :: entries =>
    match l.shown?, shownEntries? entries with
    | some shown, some more => some ((Quoted.quote name ++ ": " ++ shown) :: more)
    | _, _ => none

end

/-! ## Literals as values -/

/-- What a literal is as a number, if it is one. -/
def quantity? : Literal → Option Quantity
  | truth value => some (.integer (if value then 1 else 0))
  | integer value => some (.integer value)
  | decimal value =>
    match value.whole with
    | .integer i => some (.integer i)
    | _ => some (.other value.isNegative value.binary?)
  | _ => none

/-- Whether a literal counts as nothing: what is absent, false, zero or empty does. -/
def isVacant : Literal → Bool
  | text value => value.isEmpty
  | list items | tuple items | set items => items.isEmpty
  | dictionary entries => entries.isEmpty
  | nothing => true
  | other => other.quantity? == some (.integer 0)

/-- The text that a literal is, if it is one. -/
def text? : Literal → Option String
  | text value => some value
  | _ => none

mutual

/-- Whether two literals are one value. Tests are never the same. -/
def same : Literal → Literal → Bool
  | text a, text b => a == b
  | tuple as, tuple bs => sameAll as bs
  | set as, set bs => as.length == bs.length && allAmong as bs
  | regex a, regex b => a.pattern == b.pattern
  | nothing, nothing => true
  | a, b => a.quantity?.isSome && a.quantity? == b.quantity?

/-- Whether literals are one value each. -/
def sameAll : List Literal → List Literal → Bool
  | [], [] => true
  | a :: as, b :: bs => a.same b && sameAll as bs
  | _, _ => false

/-- Whether each of some literals is among others. -/
def allAmong : List Literal → List Literal → Bool
  | [], _ => true
  | a :: as, bs => bs.any (fun b => a.same b) && allAmong as bs

end

mutual

/-- Whether a literal can be in a set. -/
def isCollectable : Literal → Bool
  | list _ | dictionary _ => false
  | tuple items => allCollectable items
  | _ => true

/-- Whether literals can all be in a set. -/
def allCollectable : List Literal → Bool
  | [] => true
  | l :: ls => l.isCollectable && allCollectable ls

end

/-- Literals without those that are one value with an earlier one. -/
def distinct (items : List Literal) : List Literal :=
  items.foldl (fun kept l => if kept.any (·.same l) then kept else kept ++ [l]) []

mutual

/-- The digest of a literal, if it has one. -/
def digest? : Literal → Option Digest
  | text value => if value.isEmpty then some 0 else none
  | tuple items => (digests? items).map Digest.ofSequence
  | set items => (digests? items).map Digest.ofSet
  | truth value => some (Digest.ofInt (if value then 1 else 0))
  | integer value => some (Digest.ofInt value)
  | decimal value =>
    match value.binary? with
    | some b => some (Digest.ofBinary value.isNegative b.significand b.exponent)
    | none => some (Digest.ofInfinite value.isNegative)
  | _ => none

/-- The digests of literals, if each has one. -/
def digests? : List Literal → Option (List Digest)
  | [] => some []
  | l :: ls =>
    match l.digest?, digests? ls with
    | some d, some ds => some (d :: ds)
    | _, _ => none

end

/-- The members of a set in the order in which it lists them. -/
def listed (members : List Literal) : List Literal :=
  let (others, digested) := members.partition (·.digest?.isNone)
  Slots.listed others.length (digested.filterMap fun l => l.digest?.map (·, l)) ++ others

/-- The set of literals, if each of them can be in a set. -/
def setOf? (items : List Literal) : Option Literal :=
  if allCollectable items then some (set (listed (distinct items))) else none

/-! ## The parts of patterns -/

/-- A literal as a name among names: a text is itself, any other value is as messages show it, if it can be shown. -/
def asName? : Literal → Option String
  | text value => some value
  | other => other.shown?

/-- The name after the sign of a capture: a text that starts with an at sign. -/
def capture? : Literal → Option String
  | text value =>
    match value.toList with
    | '@' :: name => some (String.ofList name)
    | _ => none
  | _ => none

/-- The name before the sign of a field: a longer text that ends with a colon. -/
def field? : Literal → Option String
  | text value =>
    match value.toList.reverse with
    | ':' :: c :: name => some (String.ofList (c :: name).reverse)
    | _ => none
  | _ => none

/-- The operator and the operands of a predicate: a tuple that starts with a text of a number sign and more. -/
def predicate? : Literal → Option (String × List Literal)
  | tuple (text operator :: operands) =>
    match operator.toList with
    | '#' :: _ :: _ => some (operator, operands)
    | _ => none
  | _ => none

end Literal

end AwkEdit
