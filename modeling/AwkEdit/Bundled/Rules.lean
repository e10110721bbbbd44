import AwkEdit.Bundled.Vocabulary
import AwkEdit.Highlight.Rules
import AwkEdit.Indent.Rules
import AwkEdit.Outline

/-!
# The rules of AWK

How AWK is highlighted, indented and outlined, as specifications, and the language that is built from them.
-/

namespace AwkEdit

/-- The rules of a language, built together, and the node types of its grammar. -/
structure Language where
  name : String
  highlight : HighlightRules
  indent : IndentRules
  outline : OutlineRules
  nodeTypes : List String

/-- Why the rules of a language are refused. -/
inductive LanguageError where
  | highlight (error : HighlightError)
  | indent (error : IndentError)
  | outline (error : OutlineError)

/-- The wording of a refusal. -/
def LanguageError.message : LanguageError → String
  | highlight e => e.message
  | indent e => e.message
  | outline e => e.message

namespace Awk

open Vocabulary

/-! ## Highlighting -/

/-- A set of names as a literal. -/
def nameSet (names : List String) : Literal := .set (names.map .text)

/-- A tuple of texts. -/
def tupleOf (items : List String) : Literal := .tuple (items.map .text)

/-- The pattern that captures a node of one of several types. -/
def tokenPattern (names : List String) (capture : String) : Literal := .tuple [nameSet names, .text capture]

/-- The pattern that captures an identifier which stands or does not stand in a list of names. -/
def identifierPattern (capture operator : String) (argument : Literal) : Literal :=
  .tuple [.text "identifier", .text capture, .tuple [.text operator, .text capture, argument]]

/-- The names of constants: capital letters, digits and underscores, of which the first is no digit. -/
def constantPattern : String := "\\A[A-Z_][A-Z0-9_]*\\Z"

/-- The name of the composite action for the left side of an assignment. -/
def assignmentTarget : String := "assignment-lhs"

/-- The composite actions: of the left side of an assignment every identifier is defined, but for the builtin variables. -/
def composites : List CompositeSpec :=
  [⟨assignmentTarget, identifierPattern "@variable-definition" "#not-in" (nameSet builtinVariables), none⟩]

/-- A feature whose rules override or do not. -/
def feature (name : String) (level : Int) (patterns : List Literal) (override : Bool) : FeatureSpec :=
  ⟨name, level, patterns.map (⟨·, none⟩), override⟩

/-- The features, in the order in which they claim. -/
def features : List FeatureSpec :=
  [feature "comment" 1 [tupleOf ["comment", "@comment"]] false,
   feature "definition" 1
    [.tuple [.text "func_def", .text "name:", tupleOf ["identifier", "@function-definition"]],
     .tuple [.text "func_def", .tuple [.text "param_list", tupleOf ["identifier", "@variable-definition"]]]] false,
   feature "keyword" 2 [tokenPattern keywords "@keyword"] false,
   feature "string" 2 [tupleOf ["string", "@string"]] false,
   feature "builtin" 2
    [.tuple [.text "func_call", .text "name:", tupleOf ["identifier", "@builtin-function"],
       .tuple [.text "#in", .text "@builtin-function", nameSet builtinFunctions]],
     identifierPattern "@builtin-variable" "#in" (nameSet builtinVariables)] false,
   feature "namespace" 3 [.tuple [.text "ns_qualified_name", tupleOf ["namespace", "@namespace"]]] false,
   feature "constant" 3 [identifierPattern "@constant" "#match" (.text constantPattern)] false,
   feature "escape-sequence" 3 [.tuple [.text "string", tupleOf ["escape_sequence", "@escape"]]] true,
   feature "regex" 3 [tupleOf ["regex", "@regex"]] false,
   feature "function" 3 [.tuple [.text "func_call", .text "name:", tupleOf ["identifier", "@function-call"]]] false,
   feature "number" 3 [tupleOf ["number", "@number"]] false,
   feature "assignment" 3
    [.tuple [.text "assignment_exp", .text "left:", tupleOf [Pattern.wildcard, "@" ++ assignmentTarget]]] true,
   feature "bracket" 4 [tokenPattern brackets "@bracket"] false,
   feature "delimiter" 4 [tokenPattern delimiters "@delimiter"] false,
   feature "operator" 4 [tokenPattern operators "@operator"] false,
   feature "variable" 4 [tupleOf ["identifier", "@variable-use"]] false,
   feature "error" 4 [tupleOf ["ERROR", "@error"]] true]

/-! ## Indentation -/

/-- The indentation rule of a matcher, an anchor and an offset. -/
def indentRule (matcher : Matcher) (anchor : Anchor) (offset : Int) : IndentSpec :=
  .triple (.sound matcher) (.text anchor.name) (.integer offset)

/-- The indentation rules: the top level stands at the left, brackets and what follows them align with the line that opens
them, and everything else is one unit deeper than the line of the node above it. -/
def indentation : List IndentSpec :=
  [indentRule (.parentIs ["program"]) .columnZero 0,
   indentRule (.nodeIs (sortedNames [")", "\x7d", "]"])) .parentBol 0,
   indentRule (.nodeIs ["else", "else_clause"]) .parentBol 0,
   indentRule (.parentIs ["block"]) .parentBol 1,
   indentRule (.nodeIs ["block"]) .parentBol 0,
   indentRule (.parentIs (sortedNames controlStatements)) .parentBol 1,
   indentRule .noNode .parentBol 1,
   indentRule .catchAll .parentBol 1]

/-! ## The outline -/

/-- The outline rules: functions are listed under their names. -/
def outlineRules : List OutlineRule := [⟨"Function", ["func_def"], "name"⟩]

/-! ## The language -/

/-- The language of AWK over the node types of a grammar, and what is reported while it is built. -/
def buildOver (nodeTypes : List String) : List Event × Except LanguageError Language :=
  match HighlightRules.build features composites (some nodeTypes) with
  | (highlightEvents, .error e) => (highlightEvents, .error (.highlight e))
  | (highlightEvents, .ok highlight) =>
    match IndentRules.build indentation (some nodeTypes) with
    | (indentEvents, .error e) => (highlightEvents ++ indentEvents, .error (.indent e))
    | (indentEvents, .ok indent) =>
      match OutlineRules.build outlineRules (some nodeTypes) with
      | (outlineEvents, .error e) => (highlightEvents ++ indentEvents ++ outlineEvents, .error (.outline e))
      | (outlineEvents, .ok outline) =>
        (highlightEvents ++ indentEvents ++ outlineEvents ++ [.rulesBuilt highlight.groups.length indent.rules.length],
          .ok ⟨"awk", highlight, indent, outline, nodeTypes⟩)

/-- The language of AWK, and what is reported while it is built. -/
def build : List Event × Except LanguageError Language := buildOver nodeTypes

end Awk

end AwkEdit
