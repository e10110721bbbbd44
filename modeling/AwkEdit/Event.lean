/-!
# Events

What the library reports besides its answers: each event has a severity, a name and details. Functions that report return the list
of their events, in order, next to their answer.
-/

namespace AwkEdit

/-- How much an event matters. -/
inductive Severity where
  | debug
  | info
  | warning
  deriving DecidableEq, Repr

namespace Severity

/-- The name of a severity. -/
def name : Severity → String
  | debug => "debug"
  | info => "info"
  | warning => "warning"

/-- The number that thresholds are compared with. -/
def number : Severity → Nat
  | debug => 10
  | info => 20
  | warning => 30

end Severity

/-- The value of a detail. -/
inductive Detail where
  | absent
  | text (value : String)
  | texts (values : List String)
  | number (value : Int)
  | flag (value : Bool)
  deriving DecidableEq, Repr

/-- Something that happened. -/
inductive Event where
  | unknownNodeType (rule : String) (types : List String)
  | featureCompiled (feature : String) (level : Int) (rules : Nat)
  | rulesBuilt (features indentRules : Nat)
  | ruleSkipped (rule node : String) (start : Int) (error : String)
  | compositeSkipped (rule node : String) (start : Int) (error : String)
  | indentRuleSkipped (rule : String) (node : Option String) (error : String)
  | unnamedDefinition (node : String) (start : Int)
  | reindented (lines : Nat)
  | grammarLoaded (name : String)
  | sourceParsed (size : Nat) (hasError : Bool)
  | fileParsed (path : String) (nodes : Nat)
  | highlightComplete (path : String) (assignments : Nat)
  | indentComplete (path : String) (changed : Bool)
  deriving DecidableEq, Repr

namespace Event

/-- How much the event matters: doubts about the rules are warnings, the end of a command is information. -/
def severity : Event → Severity
  | unknownNodeType .. => .warning
  | highlightComplete .. | indentComplete .. => .info
  | _ => .debug

/-- The name of the event. -/
def name : Event → String
  | unknownNodeType .. => "unknown-node-type"
  | featureCompiled .. => "feature-compiled"
  | rulesBuilt .. => "rules-built"
  | ruleSkipped .. => "rule-skipped"
  | compositeSkipped .. => "composite-skipped"
  | indentRuleSkipped .. => "indent-rule-skipped"
  | unnamedDefinition .. => "unnamed-definition"
  | reindented .. => "reindented"
  | grammarLoaded .. => "grammar-loaded"
  | sourceParsed .. => "source-parsed"
  | fileParsed .. => "file-parsed"
  | highlightComplete .. => "highlight-complete"
  | indentComplete .. => "indent-complete"

/-- The details of the event, each under its name. -/
def details : Event → List (String × Detail)
  | unknownNodeType rule types => [("rule", .text rule), ("types", .texts types)]
  | featureCompiled feature level rules => [("feature", .text feature), ("level", .number level), ("rules", .number rules)]
  | rulesBuilt features indentRules => [("features", .number features), ("indent_rules", .number indentRules)]
  | ruleSkipped rule node start error | compositeSkipped rule node start error =>
    [("rule", .text rule), ("node", .text node), ("start", .number start), ("error", .text error)]
  | indentRuleSkipped rule node error =>
    [("rule", .text rule), ("node", (node.map Detail.text).getD .absent), ("error", .text error)]
  | unnamedDefinition node start => [("node", .text node), ("start", .number start)]
  | reindented lines => [("lines", .number lines)]
  | grammarLoaded name => [("module", .text name)]
  | sourceParsed size hasError => [("size", .number size), ("has_error", .flag hasError)]
  | fileParsed path nodes => [("path", .text path), ("nodes", .number nodes)]
  | highlightComplete path assignments => [("path", .text path), ("assignments", .number assignments)]
  | indentComplete path changed => [("path", .text path), ("changed", .flag changed)]

end Event

end AwkEdit
