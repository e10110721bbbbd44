import AwkEdit.Event
import AwkEdit.Indent.Matcher

/-!
# Indentation rules

A rule has a matcher, an anchor, which is a byte to measure the column of, and an offset in units of indentation. Rules are written
as triples; they are checked one by one in order, and the last one has to match every line.
-/

namespace AwkEdit

/-! ## Anchors -/

/-- Where the column of a line is measured from. -/
inductive Anchor where
  | columnZero
  | parentBol
  | parent
  | grandParentBol
  | standaloneParent
  | firstSibling
  deriving DecidableEq, Repr

namespace Anchor

/-- The name of an anchor. -/
def name : Anchor → String
  | columnZero => "column-0"
  | parentBol => "parent-bol"
  | parent => "parent"
  | grandParentBol => "grand-parent-bol"
  | standaloneParent => "standalone-parent"
  | firstSibling => "first-sibling"

/-- Every anchor. -/
def every : List Anchor := [columnZero, parentBol, parent, grandParentBol, standaloneParent, firstSibling]

/-- The anchor of a name. -/
def ofName? (name : String) : Option Anchor := every.find? (·.name == name)

/-- The nearest node, from one upwards along its trail, that starts its line; the root if none does. -/
def standalone (source : Source) (n : Node) : List (Nat × Node) → Node
  | [] => n
  | (_, above) :: trail => if (source.bol n.start : Int) = n.start then n else standalone source above trail

/-- The byte that an anchor stands for in a context. -/
def position (c : IndentContext) : Anchor → Int
  | columnZero => c.tree.source.lineStart (c.tree.source.lineOf c.bol)
  | parentBol => c.tree.source.bol c.parent.node.start
  | parent => c.parent.node.start
  | grandParentBol => c.tree.source.bol (c.parent.parent.getD c.parent).node.start
  | standaloneParent => (standalone c.tree.source c.parent.node c.parent.trail).start
  | firstSibling => (c.parent.node.children.head?.getD c.parent.node).start

end Anchor

/-! ## Rules -/

/-- An indentation rule. -/
structure IndentRule where
  name : String
  matcher : Matcher
  anchor : Anchor
  offset : Int

/-- Indentation rules, of which the last matches every line. -/
structure IndentRules where
  rules : List IndentRule
  catchAll_last : rules.getLast?.any (·.matcher.isCatchAll) = true

/-! ## Specifications -/

/-- A matcher as it is written: a matcher, a value that is none, or several of which all have to hold. -/
inductive MatcherSpec where
  | sound (matcher : Matcher)
  | foreign (value : Literal)
  | allOf (matchers : List MatcherSpec)

namespace MatcherSpec

mutual

/-- The matcher that is written, if every part of it is one. -/
def matcher? : MatcherSpec → Option Matcher
  | sound m => some m
  | foreign _ => none
  | allOf ms => (matchers? ms).map .allOf

/-- The matchers that are written, if every one is. -/
def matchers? : List MatcherSpec → Option (List Matcher)
  | [] => some []
  | m :: ms =>
    match m.matcher?, matchers? ms with
    | some m, some ms => some (m :: ms)
    | _, _ => none

end

mutual

/-- What is written, as messages show it, if it can be shown. -/
def shown? : MatcherSpec → Option String
  | sound m => m.shown?
  | foreign value => value.shown?
  | allOf ms => (shownAll? ms).map fun shown => "_AllOf(matchers=" ++ Quoted.round shown ++ ")"

/-- Several written matchers as messages show them. -/
def shownAll? : List MatcherSpec → Option (List String)
  | [] => some []
  | m :: ms =>
    match m.shown?, shownAll? ms with
    | some shown, some more => some (shown :: more)
    | _, _ => none

end

end MatcherSpec

/-- A rule as it is written: a triple, or something else. -/
inductive IndentSpec where
  | triple (matcher : MatcherSpec) (anchor offset : Literal)
  | malformed

/-- Why indentation rules are refused. -/
inductive IndentError where
  | pattern (error : PatternError)
  | uncollectable
  | badTypes (shown : List String)
  | noField
  | noMatchers
  | noRules
  | notATriple (index : Nat)
  | badMatcher (index : Nat) (shown : String)
  | unknownAnchor (index : Nat) (shown : String)
  | anchorNotAName (index : Nat)
  | badOffset (index : Nat)
  | noCatchAll
  | oversizedInteger

/-- The wording of a refusal. -/
def IndentError.message : IndentError → String
  | pattern e => e.message
  | uncollectable => "Indent matchers need values that a set can hold"
  | badTypes shown => s!"Indent matchers need node type names, got {Quoted.square (shown.map Quoted.quote)}"
  | noField => "field_is needs a field name"
  | noMatchers => "all_of needs at least one matcher"
  | noRules => "Indentation needs at least one rule"
  | notATriple i => s!"Indent rule {i} must be (matcher, anchor, offset)"
  | badMatcher i shown => s!"Indent rule {i} has an invalid matcher {shown}"
  | unknownAnchor i shown => s!"Indent rule {i} uses unknown anchor {shown}"
  | anchorNotAName i => s!"Indent rule {i} has an anchor that is no name"
  | badOffset i => s!"Indent rule {i} offset must be an integer"
  | noCatchAll => "The last indentation rule must be catch_all()"
  | oversizedInteger => IntegerText.unwritableMessage

/-- The refusal of a value that its message shows; if it cannot be shown, that is the refusal. -/
def IndentError.ofShown {α : Type} (refusal : α → IndentError) (shown : Option α) : IndentError := shown.elim oversizedInteger refusal

namespace Matcher

/-- The names of node types in a set of values, of which every one has to be one. -/
def typeNames (types : List Literal) : Except IndentError (List String) :=
  match Literal.setOf? types with
  | some (.set members) =>
    let names := (members.filterMap Literal.text?).filter (· ≠ "")
    if members.isEmpty || names.length < members.length then
      .error (.ofShown (fun shown => .badTypes (sortedNames shown)) (Literal.shownAll? members))
    else .ok (sortedNames names)
  | _ => .error .uncollectable

/-- The matcher of the types of the node that starts the line. -/
def node (types : List Literal) : Except IndentError Matcher := return .nodeIs (← typeNames types)

/-- The matcher of the types of the node above. -/
def parent (types : List Literal) : Except IndentError Matcher := return .parentIs (← typeNames types)

/-- The matcher of the field that names the node. -/
def field (name : Literal) : Except IndentError Matcher := if name.isVacant then .error .noField else .ok (.fieldIs name)

/-- The matcher of a pattern at the node. -/
def nodePattern (literal : Literal) : Except IndentError Matcher :=
  ((Pattern.compile (some "indent:node") literal).mapError .pattern).map .nodeMatches

/-- The matcher of a pattern at the node above. -/
def parentPattern (literal : Literal) : Except IndentError Matcher :=
  ((Pattern.compile (some "indent:parent") literal).mapError .pattern).map .parentMatches

end Matcher

/-- The written matchers of which all have to hold: there has to be one. -/
def MatcherSpec.all (matchers : List MatcherSpec) : Except IndentError MatcherSpec :=
  if matchers.isEmpty then .error .noMatchers else .ok (.allOf matchers)

namespace IndentRules

/-- One rule, the one of number `index`. -/
def ruleOf (index : Nat) : IndentSpec → Except IndentError IndentRule
  | .malformed => .error (.notATriple index)
  | .triple spec anchor offset =>
    match spec.matcher?, anchor, offset with
    | none, _, _ => .error (.ofShown (.badMatcher index) spec.shown?)
    | some matcher, .text name, offset =>
      match Anchor.ofName? name, offset with
      | none, _ => .error (.unknownAnchor index (Quoted.quote name))
      | some anchor, .integer offset => .ok ⟨s!"indent#{index}:{matcher.kind}", matcher, anchor, offset⟩
      | some _, _ => .error (.badOffset index)
    | some _, other, _ =>
      if other.isCollectable then .error (.ofShown (.unknownAnchor index) other.shown?) else .error (.anchorNotAName index)

/-- The warning about the types that a rule mentions and the grammar does not know. -/
def doubts (known : Option (List String)) (rule : IndentRule) : List Event :=
  match known with
  | none => []
  | some known =>
    let unknown := unknownNames rule.matcher.mentioned known
    if unknown.isEmpty then [] else [.unknownNodeType rule.name unknown]

/-- The rules of specifications numbered from `index` on, and the warnings about them. -/
def rulesOf (known : Option (List String)) (index : Nat) : List IndentSpec → List Event × Except IndentError (List IndentRule)
  | [] => ([], .ok [])
  | spec :: specs =>
    match ruleOf index spec with
    | .error e => ([], .error e)
    | .ok rule =>
      let (events, rules) := rulesOf known (index + 1) specs
      (doubts known rule ++ events, rules.map (rule :: ·))

/-- The indentation rules of specifications, and the warnings about them. -/
def build (specs : List IndentSpec) (known : Option (List String)) : List Event × Except IndentError IndentRules :=
  if specs.isEmpty then ([], .error .noRules)
  else
    match rulesOf known 0 specs with
    | (events, .error e) => (events, .error e)
    | (events, .ok rules) =>
      if h : rules.getLast?.any (·.matcher.isCatchAll) = true then (events, .ok ⟨rules, h⟩) else (events, .error .noCatchAll)

end IndentRules

end AwkEdit
