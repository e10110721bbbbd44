import AwkEdit.Event
import AwkEdit.Highlight.Classification
import AwkEdit.Pattern.Compile
import AwkEdit.Pattern.Dispatch
import AwkEdit.Pattern.Match
import AwkEdit.Text.Blank

/-!
# Highlight rules

Features are groups of rules that are switched on and off together. The captures of a rule's pattern say what to do with the nodes
they bind: a capture is named after a classification, after a composite action, or starts with an underscore and is for matching
only. A composite action may classify the node and then sweeps its subtree with a secondary pattern, whose captures are
classifications; a composite does not start another one. Rules are numbered through all features.
-/

namespace AwkEdit

/-! ## Specifications -/

/-- A rule as it is written: its pattern, and whether it overrides, if it does not do as its feature does. -/
structure RuleSpec where
  pattern : Literal
  override : Option Bool

/-- A feature as it is written: its name, the level from which it is on, its rules, and whether they override. -/
structure FeatureSpec where
  name : String
  level : Int
  rules : List RuleSpec
  override : Bool

/-- A composite action as it is written. -/
structure CompositeSpec where
  name : String
  secondary : Literal
  classification : Option Classification

/-! ## Rules -/

/-- A composite action: the classification of the node itself, if it has one, and those of what the secondary pattern binds below
it. -/
structure Composite where
  name : String
  secondary : CompiledPattern
  emits : List (String × Classification)
  classification : Option Classification

/-- What is done with a captured node. -/
inductive Action where
  | emit (classification : Classification)
  | composite (composite : Composite)

/-- A rule: what is done with each of its captures, its number among all rules, its feature, and whether it overrides. -/
structure HighlightRule where
  pattern : CompiledPattern
  actions : List (String × Action)
  order : Nat
  feature : String
  override : Bool

/-- The label of a rule: its feature and its number. -/
def ruleLabel (feature : String) (order : Nat) : String := feature ++ "#" ++ toString order

/-- The label of the rule. -/
def HighlightRule.label (r : HighlightRule) : String := ruleLabel r.feature r.order

/-- A feature: its rules, in order, and their dispatch by node type. -/
structure FeatureGroup where
  name : String
  level : Int
  rules : List HighlightRule
  dispatch : Dispatch HighlightRule
  dispatch_eq : dispatch = .ofItems (·.pattern.rootTypes) rules

/-- The features in the order in which they are applied. -/
structure HighlightRules where
  groups : List FeatureGroup

namespace HighlightRules

/-- The names of the features. -/
def names (r : HighlightRules) : List String := r.groups.map (·.name)

/-- The feature of a name. -/
def group? (r : HighlightRules) (name : String) : Option FeatureGroup := r.groups.find? (·.name == name)

end HighlightRules

/-! ## Compiling -/

/-- Why highlight rules are refused. -/
inductive HighlightError where
  | pattern (error : PatternError)
  | duplicateComposite (name : String)
  | shadowingComposite (name : String)
  | blankFeature
  | duplicateFeature (name : String)
  | badLevel (name : String)
  | emptyFeature (name : String)

/-- The wording of a refusal. -/
def HighlightError.message : HighlightError → String
  | pattern e => e.message
  | duplicateComposite name => s!"Duplicate composite action {Quoted.quote name}"
  | shadowingComposite name => s!"Composite action {Quoted.quote name} shadows a classification"
  | blankFeature => "Feature names cannot be blank"
  | duplicateFeature name => s!"Duplicate feature {Quoted.quote name}"
  | badLevel name => s!"Feature {Quoted.quote name} level must be >= 1"
  | emptyFeature name => s!"Feature {Quoted.quote name} has no rules"

namespace HighlightRules

/-- Whether a capture is for matching only. -/
def isPrivate (capture : String) : Bool := capture.toList.head? == some '_'

/-- What captures stand for, in order, where `resolve` knows all names but those of classifications. -/
def resolveAll {α : Type} (emit : Classification → α) (resolve : String → Except PatternFault α) :
    List String → Except PatternFault (List (String × α))
  | [] => .ok []
  | capture :: captures =>
    if isPrivate capture then resolveAll emit resolve captures
    else do
      let action ← match Classification.ofName? capture with
        | some c => .ok (emit c)
        | none => resolve capture
      return (capture, action) :: (← resolveAll emit resolve captures)

/-- What the captures of a pattern stand for; there has to be one that stands for something. -/
def resolveActions {α : Type} (emit : Classification → α) (resolve : String → Except PatternFault α)
    (pattern : CompiledPattern) : Except PatternError (List (String × α)) :=
  match resolveAll emit resolve pattern.captureNames with
  | .error fault => .error ⟨pattern.label, fault⟩
  | .ok [] => .error ⟨pattern.label, .nothingClassified⟩
  | .ok actions => .ok actions

/-- The label of a composite action's pattern. -/
def compositeLabel (name : String) : String := "composite:" ++ name

/-- Composite actions, each compiled after those before it; `declared` are the names of all of them. -/
def compileComposites (declared : List String) (done : List Composite) :
    List CompositeSpec → Except HighlightError (List Composite)
  | [] => .ok done
  | spec :: specs => do
    if done.any (·.name == spec.name) then throw (.duplicateComposite spec.name)
    if (Classification.ofName? spec.name).isSome then throw (.shadowingComposite spec.name)
    let secondary ← (Pattern.compile (some (compositeLabel spec.name)) spec.secondary).mapError .pattern
    let nested (capture : String) : Except PatternFault Classification :=
      .error (if declared.contains capture then .nestedComposite capture else .unclassified capture)
    let emits ← (resolveActions id nested secondary).mapError .pattern
    compileComposites declared (done ++ [⟨spec.name, secondary, emits, spec.classification⟩]) specs

/-- The warning about the types that a pattern mentions and the grammar does not know. -/
def doubts (known : Option (List String)) (label : String) (types : List String) : List Event :=
  match known with
  | none => []
  | some known =>
    let unknown := unknownNames types known
    if unknown.isEmpty then [] else [.unknownNodeType label unknown]

/-- One rule of a feature, numbered. -/
def compileRule (composites : List Composite) (feature : FeatureSpec) (name : String) (order : Nat) (spec : RuleSpec) :
    Except HighlightError HighlightRule := do
  let pattern ← (Pattern.compile (some (ruleLabel name order)) spec.pattern).mapError .pattern
  let resolve (capture : String) : Except PatternFault Action :=
    match composites.find? (·.name == capture) with
    | some c => .ok (.composite c)
    | none => .error (.unclassified capture)
  let actions ← (resolveActions .emit resolve pattern).mapError .pattern
  return ⟨pattern, actions, order, name, spec.override.getD feature.override⟩

/-- The rules of a feature, numbered from `order` on, and the warnings about them. -/
def compileRules (composites : List Composite) (known : Option (List String)) (feature : FeatureSpec) (name : String)
    (order : Nat) : List RuleSpec → List Event × Except HighlightError (List HighlightRule)
  | [] => ([], .ok [])
  | spec :: specs =>
    match compileRule composites feature name order spec with
    | .error e => ([], .error e)
    | .ok rule =>
      let (events, rules) := compileRules composites known feature name (order + 1) specs
      (doubts known rule.label rule.pattern.mentioned ++ events, rules.map (rule :: ·))

/-- The group of rules. -/
def groupOf (name : String) (level : Int) (rules : List HighlightRule) : FeatureGroup :=
  ⟨name, level, rules, .ofItems (·.pattern.rootTypes) rules, rfl⟩

/-- What is wrong with a feature as a whole, when the features named in `seen` come before it. -/
def featureFault? (seen : List String) (spec : FeatureSpec) : Option HighlightError :=
  let name := Text.trimBlank spec.name
  if name.isEmpty then some .blankFeature
  else if seen.contains name then some (.duplicateFeature name)
  else if spec.level < 1 then some (.badLevel name)
  else if spec.rules.isEmpty then some (.emptyFeature name)
  else none

/-- Features in order, after those named in `seen`, with rules numbered from `order` on, and what is reported meanwhile. -/
def compileFeatures (composites : List Composite) (known : Option (List String)) (seen : List String) (order : Nat) :
    List FeatureSpec → List Event × Except HighlightError (List FeatureGroup)
  | [] => ([], .ok [])
  | spec :: specs =>
    match featureFault? seen spec with
    | some e => ([], .error e)
    | none =>
      let name := Text.trimBlank spec.name
      match compileRules composites known spec name order spec.rules with
      | (events, .error e) => (events, .error e)
      | (events, .ok rules) =>
        let (more, groups) := compileFeatures composites known (seen ++ [name]) (order + rules.length) specs
        (events ++ [.featureCompiled name spec.level rules.length] ++ more, groups.map (groupOf name spec.level rules :: ·))

/-- The highlight rules of features and composite actions, and what is reported while they are built; `known` are the node types of
the grammar, when the types that patterns mention are to be checked. -/
def build (features : List FeatureSpec) (composites : List CompositeSpec) (known : Option (List String)) :
    List Event × Except HighlightError HighlightRules :=
  match compileComposites (composites.map (·.name)) [] composites with
  | .error e => ([], .error e)
  | .ok compiled =>
    let warnings := compiled.flatMap fun c => doubts known (compositeLabel c.name) c.secondary.mentioned
    let (events, groups) := compileFeatures compiled known [] 0 features
    (warnings ++ events, groups.map (⟨·⟩))

end HighlightRules

end AwkEdit
