import AwkEdit.Pattern.Literal
import AwkEdit.Regex.Parser

/-!
# Compiling pattern literals

A name stands for a node of that type and the underscore for any node; a set of names stands for a node of one of them. A tuple
is a node pattern: its head, then in any order captures of what stands before them, patterns for children, each after a field
name if the field has to name the child, and predicates. A list offers alternatives. Compiling reads a literal from left to right
and stops at the first fault; that every predicate is about a capture of the pattern is asked last.
-/

namespace AwkEdit

/-- What is wrong with a pattern. -/
inductive PatternFault where
  | emptyType
  | notAType (name : String)
  | emptySet
  | badMember (shown : String)
  | badHead (shown : String)
  | badElement (shown : String)
  | strayPredicate
  | nothingToCapture (capture : String)
  | emptyChoice
  | emptyNode
  | fieldBeforeCapture (field : String)
  | fieldBeforePredicate (field : String)
  | fieldWithoutPattern (field : String)
  | namelessCapture
  | unknownOperator (operator : String)
  | badOperands (operator : String)
  | needsNames (operator : String)
  | badRegex (pattern : String)
  | regexLimit (fault : RegexFault)
  | needsRegex
  | needsText
  | needsTest
  | unknownCapture (operator capture : String)
  | unclassified (capture : String)
  | nestedComposite (capture : String)
  | nothingClassified
  | oversizedInteger

namespace PatternFault

/-- A field name as messages show it. -/
def shownField (field : String) : String := Quoted.quote (field ++ ":")

/-- The wording of a fault. -/
def message : PatternFault → String
  | emptyType => "Empty node type"
  | notAType name => s!"{Quoted.quote name} cannot be used as a node type"
  | emptySet => "Empty type set"
  | badMember shown => s!"Type set members must be names, got {shown}"
  | badHead shown => s!"Unsupported node head {shown}"
  | badElement shown => s!"Unsupported pattern element {shown}"
  | strayPredicate => "A predicate is not a pattern"
  | nothingToCapture capture => s!"Capture {Quoted.quote capture} has nothing to capture"
  | emptyChoice => "Alternation needs at least one pattern"
  | emptyNode => "Empty node pattern"
  | fieldBeforeCapture field => s!"Field {shownField field} is followed by a capture"
  | fieldBeforePredicate field => s!"Field {shownField field} is followed by a predicate"
  | fieldWithoutPattern field => s!"Field {shownField field} has no pattern"
  | namelessCapture => "Capture '@' needs a name"
  | unknownOperator operator => s!"Unknown predicate {Quoted.quote operator}"
  | badOperands operator => s!"Predicate {Quoted.quote operator} takes a capture and one argument"
  | needsNames operator => s!"{Quoted.quote operator} needs a collection of names"
  | badRegex pattern => s!"Invalid regex {Quoted.quote pattern}"
  | regexLimit fault => fault.message
  | needsRegex => "'#match' needs a regex"
  | needsText => "'#eq' needs a string"
  | needsTest => "'#pred' needs a callable"
  | unknownCapture operator capture => s!"Predicate {Quoted.quote operator} refers to unknown capture '@{capture}'"
  | unclassified capture => s!"Capture '@{capture}' is neither a classification nor a composite action"
  | nestedComposite capture => s!"Composite action '@{capture}' cannot be nested"
  | nothingClassified => "Pattern captures nothing to classify"
  | oversizedInteger => IntegerText.unwritableMessage

/-- The fault that a literal is, which its message shows; if it cannot be shown, that is the fault. -/
def ofShown (fault : String → PatternFault) (l : Literal) : PatternFault := l.shown?.elim oversizedInteger fault

end PatternFault

/-- A faulty pattern: the label of its rule, if it has one, and what is wrong. -/
structure PatternError where
  label : Option String
  fault : PatternFault

/-- Whether a fault is reported as it is, without the label of the rule: a regular expression is well formed but cannot be had, or an
integer has too many digits. -/
def PatternFault.isBare : PatternFault → Bool
  | regexLimit _ | oversizedInteger => true
  | _ => false

/-- The wording of a pattern error: a label that is not empty comes first. -/
def PatternError.message (e : PatternError) : String :=
  match e.label with
  | some label => if label.isEmpty || e.fault.isBare then e.fault.message else label ++ ": " ++ e.fault.message
  | none => e.fault.message

namespace Pattern

/-- The name that stands for a node of any type. -/
def wildcard : String := "_"

/-- A head written as a name. -/
def headOfText (name : String) : Except PatternFault Head :=
  if name.isEmpty then .error .emptyType
  else if (Literal.text name).capture?.isSome || (Literal.text name).field?.isSome then .error (.notAType name)
  else .ok (if name = wildcard then .any else .type name)

/-- The names of a set of node types. -/
def memberNames : List Literal → Except PatternFault (List String)
  | [] => .ok []
  | .text name :: rest =>
    if name.isEmpty then .error (.badMember (Quoted.quote name)) else return name :: (← memberNames rest)
  | member :: _ => .error (.ofShown .badMember member)

/-- The head of a pattern. -/
def head : Literal → Except PatternFault Head
  | .text name => headOfText name
  | .set [] => .error .emptySet
  | .set members => return .oneOf (← memberNames members)
  | item => .error (.ofShown .badHead item)

/-- The name of a capture, which must not be empty. -/
def captureName (name : String) : Except PatternFault String :=
  if name.isEmpty then .error .namelessCapture else .ok name

/-- Values as names, if each of them can be one. -/
def namesOf (values : List Literal) : Except PatternFault (List String) :=
  (values.mapM Literal.asName?).elim (.error .oversizedInteger) .ok

/-- The test that an operator and its argument write. -/
def textTest (operator : String) (argument : Literal) : Except PatternFault TextTest :=
  match operator, argument with
  | "#in", .list names | "#in", .tuple names | "#in", .set names => return .among (← namesOf names)
  | "#in", .dictionary entries => .ok (.among (entries.map (·.1)))
  | "#not-in", .list names | "#not-in", .tuple names | "#not-in", .set names => return .notAmong (← namesOf names)
  | "#not-in", .dictionary entries => .ok (.notAmong (entries.map (·.1)))
  | "#match", .text pattern =>
    match Regex.parse pattern with
    | .ok regex => .ok (.search regex)
    | .error .malformed => .error (.badRegex pattern)
    | .error fault => .error (.regexLimit fault)
  | "#match", .regex regex => .ok (.search regex)
  | "#eq", .text text => .ok (.equals text)
  | "#pred", .test run => .ok (.passes run)
  | "#match", _ => .error .needsRegex
  | "#eq", _ => .error .needsText
  | "#pred", _ => .error .needsTest
  | operator, _ => .error (.needsNames operator)

/-- The operators of predicates. -/
def operators : List String := ["#in", "#not-in", "#match", "#eq", "#pred"]

/-- The predicate that an operator and its operands write. -/
def predicate (operator : String) (operands : List Literal) : Except PatternFault Predicate :=
  if operators.contains operator then
    match operands with
    | [captured, argument] =>
      match captured.capture? with
      | some name => if name.isEmpty then .error (.badOperands operator) else return ⟨← textTest operator argument, name⟩
      | none => .error (.badOperands operator)
    | _ => .error (.badOperands operator)
  else .error (.unknownOperator operator)

/-- The patterns with one more capture of what the last one matches. -/
def captureLast (name : String) (patterns : List Pattern) : List Pattern :=
  match patterns.getLast? with
  | some last => patterns.dropLast ++ [last.capture name]
  | none => []

/-- The patterns for children with one more capture of what the last one matches. -/
def captureLastChild (name : String) (children : List (Option String × Pattern)) : List (Option String × Pattern) :=
  match children.getLast? with
  | some (field, last) => children.dropLast ++ [(field, last.capture name)]
  | none => []

mutual

/-- The pattern of a literal and the predicates written in it. -/
def ofLiteral : Literal → Except PatternFault (Pattern × List Predicate)
  | .text name => return (.node (← headOfText name) [] [], [])
  | .set members => return (.node (← head (.set members)) [] [], [])
  | .list items => choiceItems [] [] items
  | .tuple items => if (Literal.tuple items).predicate?.isSome then .error .strayPredicate else nodeOf items
  | item => .error (.ofShown .badElement item)

/-- A choice: the alternatives and predicates read so far, and the items left. -/
def choiceItems (found : List Pattern) (predicates : List Predicate) :
    List Literal → Except PatternFault (Pattern × List Predicate)
  | [] => if found.isEmpty then .error .emptyChoice else .ok (.choice found [], predicates)
  | item :: items =>
    match item.capture?, item.predicate? with
    | some name, _ =>
      if found.isEmpty then .error (.nothingToCapture ("@" ++ name))
      else do choiceItems (captureLast (← captureName name) found) predicates items
    | none, some (operator, operands) => do choiceItems found (predicates ++ [← predicate operator operands]) items
    | none, none => do
      let (pattern, more) ← ofLiteral item
      choiceItems (found ++ [pattern]) (predicates ++ more) items

/-- A node pattern. -/
def nodeOf : List Literal → Except PatternFault (Pattern × List Predicate)
  | [] => .error .emptyNode
  | first :: items => do nodeItems (← head first) [] [] [] none items

/-- A node pattern: its head, the captures of the node, the patterns for children and the predicates read so far, the field name
that waits for its pattern, and the items left. -/
def nodeItems (head : Head) (captures : List String) (children : List (Option String × Pattern)) (predicates : List Predicate)
    (field : Option String) : List Literal → Except PatternFault (Pattern × List Predicate)
  | [] =>
    match field with
    | some name => .error (.fieldWithoutPattern name)
    | none => .ok (.node head children captures, predicates)
  | item :: items =>
    match item.capture?, item.field?, item.predicate?, field with
    | some _, _, _, some name => .error (.fieldBeforeCapture name)
    | some capture, _, _, none => do
      let capture ← captureName capture
      if children.isEmpty then nodeItems head (captures ++ [capture]) children predicates none items
      else nodeItems head captures (captureLastChild capture children) predicates none items
    | none, some _, _, some name => .error (.fieldWithoutPattern name)
    | none, some next, _, none => nodeItems head captures children predicates (some next) items
    | none, none, some _, some name => .error (.fieldBeforePredicate name)
    | none, none, some (operator, operands), none => do
      nodeItems head captures children (predicates ++ [← predicate operator operands]) none items
    | none, none, none, _ => do
      let (pattern, more) ← ofLiteral item
      nodeItems head captures (children ++ [(field, pattern)]) (predicates ++ more) none items

end

/-- The first predicate about a capture that the pattern does not have. -/
def strayPredicate? (names : List String) (predicates : List Predicate) : Option Predicate :=
  predicates.find? (!names.contains ·.capture)

/-- The compiled pattern of a literal, under a label. -/
def compile (label : Option String) (literal : Literal) : Except PatternError CompiledPattern :=
  match ofLiteral literal with
  | .error fault => .error ⟨label, fault⟩
  | .ok (root, predicates) =>
    match strayPredicate? root.captureNames predicates with
    | some p => .error ⟨label, .unknownCapture p.test.operator p.capture⟩
    | none => .ok ⟨root, predicates, label⟩

end Pattern

end AwkEdit
