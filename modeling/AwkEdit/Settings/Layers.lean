import AwkEdit.Settings.Validation
import AwkEdit.Text.Utf8
import AwkEdit.Toml.Document

/-!
# Layers of settings

Settings come from the defaults that the application brings along, a file of the user, the environment, and the command line, each
laid over the one before it, and are checked as a whole.
-/

namespace AwkEdit

/-- Why there are no settings. -/
inductive ConfigError where
  | fileNotFound (path : String)
  | unreadableFile (path : String)
  | malformedFile (path : String)
  | oversizedInteger (digits : Nat)
  | invalid (findings : List Finding)
  deriving DecidableEq, Repr

/-- The wording of a refusal, or its first line. -/
def ConfigError.message : ConfigError → String
  | fileNotFound path => "Config file not found: " ++ path
  | unreadableFile path => "Cannot read config file " ++ path
  | malformedFile path => "Invalid TOML in " ++ path
  | oversizedInteger digits => IntegerText.oversizedMessage digits
  | invalid [_] => "1 validation error for AppConfig"
  | invalid findings => toString findings.length ++ " validation errors for AppConfig"

namespace Layers

/-- The defaults that the application brings along. -/
def packaged : SettingTable :=
  [("log_level", .text "WARNING"),
   ("engine", .table
     [("indent_unit", .integer 4), ("tab_width", .integer 8), ("font_lock_level", .integer 3), ("prefer_top_level", .truth false)]),
   ("parser", .table [("grammar_module", .text "tree_sitter_awk"), ("language_function", .text "language")])]

/-- The variable of the environment that sets the log level. -/
def logLevelVariable : String := "AWKTS_LOG_LEVEL"

/-- The variable of the environment that sets the unit of indentation. -/
def indentUnitVariable : String := "AWKTS_INDENT_UNIT"

/-- The variable of the environment that sets the directory of the log. -/
def logDirVariable : String := "AWKTS_LOG_DIR"

/-- The value of a variable that is set and not empty. -/
def valueOf? (environment : List (String × String)) (name : String) : Option String :=
  (environment.lookup name).filter (· ≠ "")

/-- The layer of the environment. -/
def ofEnvironment (environment : List (String × String)) : SettingTable :=
  let entry (key name : String) : SettingTable :=
    ((valueOf? environment key).map fun value => (name, Setting.text value)).toList
  let engine := entry indentUnitVariable "indent_unit"
  entry logLevelVariable "log_level" ++ entry logDirVariable "log_dir" ++
    (if engine.isEmpty then [] else [("engine", .table engine)])

/-- A text in which every line ends with a newline, also those that ended with a carriage return. -/
def plainLines : List Char → List Char
  | '\r' :: '\n' :: rest => '\n' :: plainLines rest
  | '\r' :: rest => '\n' :: plainLines rest
  | c :: rest => c :: plainLines rest
  | [] => []

/-- The layer of a user's file, under the name that errors give it. -/
def ofDocument (path : String) (text : List Char) : Except ConfigError SettingTable :=
  match Toml.parse (String.ofList (plainLines text)) with
  | .ok table => .ok table
  | .error .malformed => .error (.malformedFile path)
  | .error (.oversized digits) => .error (.oversizedInteger digits)

/-- All layers in one table. -/
def stacked (defaults : SettingTable) (layers : List SettingTable) : SettingTable := layers.foldl Setting.merge defaults

/-- The settings of layers. -/
def load (defaults : SettingTable) (layers : List SettingTable) : Except ConfigError AppConfig :=
  (AppConfig.ofTable (stacked defaults layers)).mapError .invalid

end Layers

end AwkEdit
