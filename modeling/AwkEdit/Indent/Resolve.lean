import AwkEdit.Indent.Rules
import AwkEdit.Settings.Basic

/-!
# Resolving the indentation of a line

The first rule whose matcher accepts the context of a line decides; a matcher that fails accepts nothing and is reported. The
column is that of the rule's anchor, as the caller measures it, moved by the rule's offset, and never negative.
-/

namespace AwkEdit

/-- The answer for one line. -/
structure IndentDecision where
  rule : String
  anchor : Int
  offset : Int
  column : Int
  nodeType : Option String
  parentType : String
  deriving DecidableEq, Repr

namespace IndentRules

/-- The first rule that accepts a context, and a report of each matcher that fails before it. -/
def select (c : IndentContext) : List IndentRule → Option IndentRule × List Event
  | [] => (none, [])
  | r :: rs =>
    match r.matcher.holds c with
    | .ok true => (some r, [])
    | .ok false => select c rs
    | .error e => ((select c rs).1, .indentRuleSkipped r.name (c.node.map (·.node.type)) e.message :: (select c rs).2)

/-- Rules of which the last matches every line have one that accepts a context. -/
theorem select_isSome (c : IndentContext) {rules : List IndentRule}
    (h : rules.getLast?.any (·.matcher.isCatchAll) = true) : (select c rules).1.isSome = true := by
  induction rules with
  | nil => simp at h
  | cons r rs ih =>
    unfold select
    split
    · rfl
    all_goals
      cases rs with
      | nil =>
        have : r.matcher = .catchAll := by
          cases hm : r.matcher <;> simp [hm, Matcher.isCatchAll] at h
          rfl
        simp_all [Matcher.holds]
      | cons s rs => exact ih (by simpa [List.getLast?_cons_cons] using h)

/-- The column of a rule's anchor moved by the rule's offset, but never to the left of the first column. -/
def columnFor (config : EngineConfig) (measure : Int → Int) (c : IndentContext) (r : IndentRule) : Int :=
  max 0 (measure (r.anchor.position c) + r.offset * config.indentUnit)

/-- The decision of a rule in a context, with columns measured by `measure`. -/
def decisionOf (config : EngineConfig) (measure : Int → Int) (c : IndentContext) (r : IndentRule) : IndentDecision :=
  ⟨r.name, r.anchor.position c, r.offset, columnFor config measure c r, c.node.map (·.node.type), c.parent.node.type⟩

/-- The decision in a context, and what is reported on the way to it. -/
def resolve (rules : IndentRules) (config : EngineConfig) (measure : Int → Int) (c : IndentContext) :
    IndentDecision × List Event :=
  (decisionOf config measure c ((select c rules.rules).1.get (select_isSome c rules.catchAll_last)), (select c rules.rules).2)

/-- The decision for a line of a snapshot, with columns measured by `measure`. -/
def resolveWith (rules : IndentRules) (config : EngineConfig) (measure : Int → Int) (tree : Snapshot) (line : Nat) :
    IndentDecision × List Event :=
  rules.resolve config measure (.ofLine tree line)

/-- The decision for a line of a snapshot as its text stands. -/
def resolveLine (rules : IndentRules) (config : EngineConfig) (tree : Snapshot) (line : Nat) : IndentDecision × List Event :=
  rules.resolveWith config (tree.source.column config.tabWidth) tree line

end IndentRules

end AwkEdit
