import AwkEdit.Event
import AwkEdit.Settings.Basic
import AwkEdit.Text.Names
import AwkEdit.Tree.Snapshot

/-!
# Outlines

The outline of a snapshot lists its definitions in document order under the names that a field of each gives. Which nodes are
definitions is told by rules, one for each category; a node type belongs to one category at most. A position leads to the innermost
definition around it, or to the outermost one.
-/

namespace AwkEdit

/-- The node types of a category of definitions, and the field that names them. -/
structure OutlineRule where
  category : String
  types : List String
  nameField : String
  deriving DecidableEq, Repr

/-- A line of an outline. -/
structure OutlineEntry where
  name : String
  start : Int
  stop : Int
  category : String
  deriving DecidableEq, Repr

/-- Why outline rules are refused. -/
inductive OutlineError where
  | incomplete (rule : OutlineRule)
  | twoCategories (type : String)
  deriving DecidableEq, Repr

/-- A rule as messages show it. -/
def OutlineRule.shown (r : OutlineRule) : String :=
  let types := Quoted.frozen ((sortedNames r.types).map Quoted.quote)
  s!"NavigationRule(category={Quoted.quote r.category}, types={types}, name_field={Quoted.quote r.nameField})"

/-- The wording of a refusal. -/
def OutlineError.message : OutlineError → String
  | incomplete rule => s!"Incomplete navigation rule {rule.shown}"
  | twoCategories type => s!"Node type {Quoted.quote type} belongs to two outline categories"

/-- Outline rules that have been checked. -/
structure OutlineRules where
  rules : List OutlineRule
  deriving DecidableEq, Repr

namespace OutlineRules

/-- Whether a rule lacks a category, types or a field. -/
def isIncomplete (r : OutlineRule) : Bool := r.category.isEmpty || r.types.isEmpty || r.nameField.isEmpty

/-- What is wrong with a rule, when the types in `taken` belong to rules before it. -/
def fault? (taken : List String) (r : OutlineRule) : Option OutlineError :=
  if isIncomplete r then some (.incomplete r) else (r.types.find? taken.contains).map .twoCategories

/-- The warning about the types that a rule lists and the grammar does not know. -/
def doubts (known : Option (List String)) (r : OutlineRule) : List Event :=
  match known with
  | none => []
  | some known =>
    let unknown := unknownNames r.types known
    if unknown.isEmpty then [] else [.unknownNodeType ("outline:" ++ r.category) unknown]

/-- Checks rules in order, when the types in `taken` belong to rules before them. -/
def check (known : Option (List String)) (taken : List String) : List OutlineRule → List Event × Option OutlineError
  | [] => ([], none)
  | r :: rs =>
    match fault? taken r with
    | some e => ([], some e)
    | none =>
      let (events, fault) := check known (taken ++ r.types) rs
      (doubts known r ++ events, fault)

/-- The outline rules of a list, and the warnings about them. -/
def build (rules : List OutlineRule) (known : Option (List String)) : List Event × Except OutlineError OutlineRules :=
  match check known [] rules with
  | (events, some e) => (events, .error e)
  | (events, none) => (events, .ok ⟨rules⟩)

/-- The rule of the definitions of a type. -/
def ruleFor? (o : OutlineRules) (type : String) : Option OutlineRule := o.rules.find? (·.types.contains type)

/-- Whether a node is a definition. -/
def isDefinition (o : OutlineRules) (n : Node) : Bool := (o.ruleFor? n.type).isSome

/-- The place that names a definition. -/
def namePlace? (o : OutlineRules) (p : Place) : Option Place := do p.childByField (← o.ruleFor? p.node.type).nameField

/-- The definitions around a position, innermost first. -/
def definitionsAround (o : OutlineRules) (tree : Snapshot) (pos : Int) : List Place :=
  let place := tree.nodeAt pos
  (place :: place.ancestors).filter (o.isDefinition ·.node)

/-- The innermost definition around a position, or the outermost one. -/
def definitionAt? (o : OutlineRules) (tree : Snapshot) (pos : Int) (topLevel : Bool) : Option Place :=
  if topLevel then (o.definitionsAround tree pos).getLast? else (o.definitionsAround tree pos).head?

/-- Whether a definition is listed: those inside a definition are not when the top level is preferred. -/
def isListed (o : OutlineRules) (config : EngineConfig) (p : Place) : Bool :=
  !(config.preferTopLevel && p.ancestors.any (o.isDefinition ·.node))

/-- The line of a place in an outline, or the report of a definition without a name. -/
def entryOf (o : OutlineRules) (tree : Snapshot) (config : EngineConfig) (p : Place) : List OutlineEntry × List Event :=
  match o.ruleFor? p.node.type with
  | none => ([], [])
  | some rule =>
    if o.isListed config p then
      match p.childByField rule.nameField with
      | some name => ([⟨tree.text name.node, p.node.start, p.node.stop, rule.category⟩], [])
      | none => ([], [.unnamedDefinition p.node.type p.node.start])
    else ([], [])

/-- The named definitions of a snapshot in document order, and a report of those without a name. -/
def outline (o : OutlineRules) (tree : Snapshot) (config : EngineConfig) : List OutlineEntry × List Event :=
  let each := tree.places.map (o.entryOf tree config)
  (each.flatMap (·.1), each.flatMap (·.2))

end OutlineRules

end AwkEdit
