import AwkEdit.Text.Quoted

/-!
# Classifications

What highlighting says of a range of bytes; how each is shown is the editor's business. Captures of highlight patterns use the
names verbatim.
-/

namespace AwkEdit

/-- A classification of bytes. -/
inductive Classification where
  | keyword
  | string
  | comment
  | builtinFunction
  | builtinVariable
  | operator
  | bracket
  | delimiter
  | escape
  | error
  | functionDefinition
  | functionCall
  | variableDefinition
  | variableUse
  | namespaceName
  | number
  | constant
  | regex
  deriving DecidableEq, Repr

namespace Classification

/-- The name of a classification. -/
def name : Classification → String
  | keyword => "keyword"
  | string => "string"
  | comment => "comment"
  | builtinFunction => "builtin-function"
  | builtinVariable => "builtin-variable"
  | operator => "operator"
  | bracket => "bracket"
  | delimiter => "delimiter"
  | escape => "escape"
  | error => "error"
  | functionDefinition => "function-definition"
  | functionCall => "function-call"
  | variableDefinition => "variable-definition"
  | variableUse => "variable-use"
  | namespaceName => "namespace"
  | number => "number"
  | constant => "constant"
  | regex => "regex"

/-- Every classification. -/
def every : List Classification :=
  [keyword, string, comment, builtinFunction, builtinVariable, operator, bracket, delimiter, escape, error,
    functionDefinition, functionCall, variableDefinition, variableUse, namespaceName, number, constant, regex]

/-- The classification of a name. -/
def ofName? (name : String) : Option Classification := every.find? (·.name == name)

/-- What is said of a name that is no classification. -/
def unknownName (name : String) : String := s!"{Quoted.quote name} is not a valid Classification"

/-- Every classification is found under its name. -/
theorem ofName?_name (c : Classification) : ofName? c.name = some c := by cases c <;> decide

end Classification

end AwkEdit
