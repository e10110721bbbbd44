import AwkEdit.Settings.Layers
import AwkEdit.Toml.Printer

/-!
# Settings as a file

The file that a user starts from: every setting of the application under its name, and with commentary also how settings are found
and the settings that are not set.
-/

namespace AwkEdit

open Toml

namespace AppConfig

/-- What is said at the top of a file with commentary. -/
def heading : List Line :=
  [.comment "Generated by awkts init-config", .comment "Precedence: CLI flags > env vars > awkts.toml > defaults",
   .comment "Environment overrides:", .comment ("  " ++ Layers.logLevelVariable ++ "=info"),
   .comment ("  " ++ Layers.indentUnitVariable ++ "=2"), .comment ("  " ++ Layers.logDirVariable ++ "=~/.cache/awkts"), .blank]

/-- A setting that may be unset; when it is, commentary shows an example. -/
def optionalLine (name : String) (value : Option Plain) (commented : Bool) (example_ : String) : List Line :=
  match value with
  | some value => [.entry name value]
  | none => if commented then [.comment (name ++ " = " ++ example_)] else []

/-- The lines of the engine's settings. -/
def engineLines (engine : EngineConfig) (commented : Bool) : List Line :=
  [.header "engine", .entry "indent_unit" (.number engine.indentUnit), .entry "tab_width" (.number engine.tabWidth),
   .entry "font_lock_level" (.number engine.level), .entry "prefer_top_level" (.truth engine.preferTopLevel)] ++
    optionalLine "enabled_features" (engine.enabledFeatures.map fun names => .texts (sortedNames names)) commented
      "[\"comment\", \"keyword\"]  # overrides the level"

/-- The lines of the parser's settings. -/
def parserLines (parser : ParserSettings) : List Line :=
  [.header "parser", .entry "grammar_module" (.text parser.grammarModule),
   .entry "language_function" (.text parser.languageFunction)]

/-- The lines of a file of settings, with or without commentary. -/
def lines (c : AppConfig) (commented : Bool) : List Line :=
  (if commented then heading else []) ++ [.entry "log_level" (.text c.logLevel)] ++
    optionalLine "log_dir" (c.logDir.map .text) commented "\"~/.cache/awkts\"  # also write a rotating awkts.log" ++
    [.blank] ++ engineLines c.engine commented ++ [.blank] ++ parserLines c.parser

/-- The text of a file of settings, with or without commentary, if its numbers can be written. -/
def render? (c : AppConfig) (commented : Bool) : Option String := Toml.print? (c.lines commented)

end AppConfig

end AwkEdit
