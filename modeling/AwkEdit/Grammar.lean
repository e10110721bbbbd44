import AwkEdit.Event
import AwkEdit.Settings.Basic
import AwkEdit.Text.Names
import AwkEdit.Tree.Record

/-!
# Grammars and parsing

The parser is not part of the library. What is installed of it is described by an `Installation`; the grammar that the settings name
is loaded from there once and then remembered, while a failure is not. A parser's output becomes a snapshot of the parsed source.
-/

namespace AwkEdit

/-- What is installed: the runtime of the parser, and a module with one entry point, which may be a function that gives a grammar that
the runtime takes, and the kinds of nodes of that grammar. -/
structure Installation where
  runtime : Bool := true
  module : Option String := some "tree_sitter_awk"
  entryPoint : String := "language"
  callable : Bool := true
  sound : Bool := true
  kinds : List String := []
  deriving DecidableEq, Repr

/-- Why nothing can be parsed. -/
inductive ParserError where
  | noRuntime
  | relativeModule (name : String)
  | noModule (name : String)
  | noFunction (module function : String)
  | incompatible (module reason : String)
  deriving DecidableEq, Repr

/-- The wording of a refusal. -/
def ParserError.message : ParserError → String
  | noRuntime => "The tree-sitter runtime is not installed; install awkts[parser]"
  | relativeModule name => s!"the 'package' argument is required to perform a relative import for {Quoted.quote name}"
  | noModule name => s!"Grammar binding {Quoted.quote name} is not installed"
  | noFunction module function => s!"{module}.{function} is not a language function"
  | incompatible module reason => s!"Grammar {Quoted.quote module} is incompatible with this tree-sitter: {reason}"

/-- The grammars that have been loaded, by the settings that name them, the latest first. -/
abbrev LoadedGrammars := List ParserSettings

/-- The output of the parser for a text: the tree, and whether the text has errors. -/
structure ParserOutput where
  root : ParsedNode
  hasError : Bool

/-- Why there is no snapshot of a text. -/
inductive ParseFailure where
  | parser (error : ParserError)
  | tree (error : TreeError)
  deriving DecidableEq, Repr

/-- The wording of a failure. -/
def ParseFailure.message : ParseFailure → String
  | parser e => e.message
  | tree e => e.message

namespace Installation

/-- Why the grammar that settings name cannot be loaded, if it cannot. A name that starts with a dot is relative to nothing. -/
def fault? (i : Installation) (s : ParserSettings) : Option ParserError :=
  if !i.runtime then some .noRuntime
  else if s.grammarModule.toList.head? = some '.' then some (.relativeModule s.grammarModule)
  else if i.module ≠ some s.grammarModule then some (.noModule s.grammarModule)
  else if i.entryPoint ≠ s.languageFunction ∨ !i.callable then some (.noFunction s.grammarModule s.languageFunction)
  else if !i.sound then some (.incompatible s.grammarModule "null language pointer")
  else none

/-- Loads the grammar that settings name, unless it is loaded already. -/
def load (i : Installation) (loaded : LoadedGrammars) (s : ParserSettings) :
    Except ParserError (LoadedGrammars × List Event) :=
  if loaded.contains s then .ok (loaded, [])
  else
    match i.fault? s with
    | some e => .error e
    | none => .ok (s :: loaded, [.grammarLoaded s.grammarModule])

/-- The node types that the loaded grammar knows. -/
def nodeTypes (i : Installation) : List String := sortedNames (i.kinds.filter (· ≠ ""))

/-- The snapshot of a source from the parser's output for it, with the grammars that are loaded afterwards and what is reported. -/
def parse (i : Installation) (loaded : LoadedGrammars) (s : ParserSettings) (source : Source) (output : ParserOutput) :
    LoadedGrammars × List Event × Except ParseFailure Snapshot :=
  if !i.runtime then (loaded, [], .error (.parser .noRuntime))
  else
    match i.load loaded s with
    | .error e => (loaded, [], .error (.parser e))
    | .ok (loaded, events) =>
      (loaded, events ++ [.sourceParsed source.size output.hasError], (output.root.snapshot source).mapError .tree)

end Installation

end AwkEdit
