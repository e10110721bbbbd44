/-!
# Settings

The settings of the engine, of the parser and of the application as a whole, with their defaults. Their bounds are part of the
types: a unit of indentation and a tab are at least one column wide, and levels run from 1 to 4.
-/

namespace AwkEdit

/-- What every query of the engine is told: how many columns a unit of indentation has and a tab advances to, which features are
on (those up to a level, unless they are named), and whether nested definitions are left out. -/
structure EngineConfig where
  indentUnit : Nat := 4
  tabWidth : Nat := 8
  enabledFeatures : Option (List String) := none
  level : Nat := 3
  preferTopLevel : Bool := false
  indentUnit_pos : 0 < indentUnit := by decide
  tabWidth_pos : 0 < tabWidth := by decide
  level_pos : 0 < level := by decide
  level_le : level ≤ 4 := by decide
  deriving DecidableEq, Repr

/-- Whether a feature that comes with a level is on. -/
def EngineConfig.featureEnabled (c : EngineConfig) (name : String) (level : Int) : Bool :=
  match c.enabledFeatures with
  | some names => names.contains name
  | none => level ≤ c.level

/-- Where the grammar is found: the module that holds it, and the function of that module that gives it. Neither is blank. -/
structure ParserSettings where
  grammarModule : String := "tree_sitter_awk"
  languageFunction : String := "language"
  grammarModule_ne : grammarModule ≠ "" := by decide
  languageFunction_ne : languageFunction ≠ "" := by decide
  deriving DecidableEq, Repr

/-- The settings of the application. -/
structure AppConfig where
  logLevel : String := "WARNING"
  logDir : Option String := none
  engine : EngineConfig := {}
  parser : ParserSettings := {}
  deriving DecidableEq, Repr

end AwkEdit
