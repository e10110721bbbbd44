import AwkEdit.IntegerText
import AwkEdit.PathName
import AwkEdit.Settings.Basic
import AwkEdit.Settings.Value
import AwkEdit.Text.Names
import AwkEdit.Text.Upper

/-!
# Checking settings

Setting values are turned into settings field by field, in the order of their declaration, and every fault is reported with the
place where it was found. A field that is missing has its default, and a name that is no field is ignored. Numbers and truth values
may be written as texts or as each other.
-/

namespace AwkEdit

/-! ## Faults -/

/-- A step on the way to a value. -/
inductive Step where
  | name (name : String)
  | index (index : Nat)
  deriving DecidableEq, Repr

/-- Why a value is refused. -/
inductive SettingFault where
  | notInteger
  | unreadableInteger
  | oversizedInteger
  | fractional
  | boundless
  | belowOne
  | aboveFour
  | notTruth
  | unreadableTruth
  | notText
  | notNames
  | notPath
  | notTable (settings : String)
  | blank
  deriving DecidableEq, Repr

namespace SettingFault

/-- The word for the kind of a fault. -/
def kind : SettingFault → String
  | notInteger => "int_type"
  | unreadableInteger => "int_parsing"
  | oversizedInteger => "int_parsing_size"
  | fractional => "int_from_float"
  | boundless => "finite_number"
  | belowOne => "greater_than_equal"
  | aboveFour => "less_than_equal"
  | notTruth => "bool_type"
  | unreadableTruth => "bool_parsing"
  | notText => "string_type"
  | notNames => "frozen_set_type"
  | notPath => "path_type"
  | notTable _ => "model_type"
  | blank => "value_error"

/-- The wording of a fault. -/
def message : SettingFault → String
  | notInteger => "Input should be a valid integer"
  | unreadableInteger => "Input should be a valid integer, unable to parse string as an integer"
  | oversizedInteger => "Unable to parse input string as an integer, exceeded maximum size"
  | fractional => "Input should be a valid integer, got a number with a fractional part"
  | boundless => "Input should be a finite number"
  | belowOne => "Input should be greater than or equal to 1"
  | aboveFour => "Input should be less than or equal to 4"
  | notTruth => "Input should be a valid boolean"
  | unreadableTruth => "Input should be a valid boolean, unable to interpret input"
  | notText => "Input should be a valid string"
  | notNames => "Input should be a valid frozenset"
  | notPath => "Input is not a valid path for <class 'pathlib.Path'>"
  | notTable settings => "Input should be a valid dictionary or instance of " ++ settings
  | blank => "Value error, Parser settings cannot be blank."

end SettingFault

/-- A fault and where it is. -/
structure Finding where
  location : List Step
  fault : SettingFault
  deriving DecidableEq, Repr

/-- What a value is checked to be, or every fault of it. -/
abbrev Checked (α : Type) := Except (List Finding) α

namespace Checked

/-- The findings of a check; none if it succeeds. -/
def findings {α : Type} : Checked α → List Finding
  | .ok _ => []
  | .error fs => fs

/-- A check with the step that leads to its value. -/
def under {α : Type} (step : Step) (c : Checked α) : Checked α :=
  c.mapError (·.map fun f => ⟨step :: f.location, f.fault⟩)

end Checked

namespace Setting

/-! ## Integers -/

/-- The first number that is too large for the usual integers. -/
def integerLimit : Nat := Decimal.twoTo 63

/-- A value as an integer. A number with a fraction or an exponent has to be a usual integer. -/
def toInteger : Setting → Except SettingFault Int
  | integer i => .ok i
  | truth b => .ok (if b then 1 else 0)
  | decimal d =>
    match d.whole with
    | .boundless => .error .boundless
    | .fraction => .error .fractional
    | .integer i => if i.natAbs < integerLimit then .ok i else .error .oversizedInteger
  | text s =>
    match IntegerText.read s with
    | .integer i => .ok i
    | .oversized => .error .oversizedInteger
    | .unreadable => .error .unreadableInteger
  | _ => .error .notInteger

/-- A value as an integer that is at least one. -/
def toPositive (s : Setting) : Except SettingFault { n : Nat // 0 < n } :=
  match s.toInteger with
  | .error f => .error f
  | .ok i => if h : 0 < i.toNat then .ok ⟨i.toNat, h⟩ else .error .belowOne

/-- A value as a level. -/
def toLevel (s : Setting) : Except SettingFault { n : Nat // 0 < n ∧ n ≤ 4 } :=
  match s.toPositive with
  | .error f => .error f
  | .ok ⟨n, hn⟩ => if h : n ≤ 4 then .ok ⟨n, hn, h⟩ else .error .aboveFour

/-! ## Truth values, texts and paths -/

/-- The texts for true. -/
def yes : List String := ["TRUE", "T", "YES", "Y", "ON", "1"]

/-- The texts for false. -/
def no : List String := ["FALSE", "F", "NO", "N", "OFF", "0"]

/-- A number as a truth value. -/
def truthOf (i : Int) : Except SettingFault Bool :=
  if i = 1 then .ok true else if i = 0 then .ok false else .error .unreadableTruth

/-- A value as a truth value. A number that is no usual integer has the wrong type. -/
def toTruth : Setting → Except SettingFault Bool
  | truth b => .ok b
  | integer i => if -(integerLimit : Int) ≤ i ∧ i < integerLimit then truthOf i else .error .notTruth
  | decimal d =>
    match d.whole with
    | .integer i => if i.natAbs < integerLimit then truthOf i else .error .notTruth
    | _ => .error .notTruth
  | text s =>
    let shouted := String.ofList (s.toList.map Char.toUpper)
    if yes.contains shouted then .ok true else if no.contains shouted then .ok false else .error .unreadableTruth
  | _ => .error .notTruth

/-- A value as a text. -/
def toText : Setting → Except SettingFault String
  | text s => .ok (Text.trimWhite s)
  | _ => .error .notText

/-- A value as a text that is not blank. -/
def toNonblank (s : Setting) : Except SettingFault { t : String // t ≠ "" } :=
  match s.toText with
  | .error f => .error f
  | .ok t => if h : t ≠ "" then .ok ⟨t, h⟩ else .error .blank

/-- A value as a path name, if there is one. -/
def toPath? : Setting → Except SettingFault (Option String)
  | nothing => .ok none
  | path name => .ok (some name)
  | text s => .ok (some (PathName.normal (Text.trimWhite s)))
  | _ => .error .notPath

/-! ## Sets of names -/

/-- The values of a list as texts, numbered from `index` on. -/
def textsFrom (index : Nat) : List Setting → Checked (List String)
  | [] => .ok []
  | item :: items =>
    match item.toText, textsFrom (index + 1) items with
    | .ok t, .ok ts => .ok (t :: ts)
    | .ok _, .error fs => .error fs
    | .error f, rest => .error (⟨[.index index], f⟩ :: rest.findings)

/-- Names trimmed and sorted, without the blank ones. -/
def tidyNames (names : List String) : List String := sortedNames ((names.map Text.trimBlank).filter (· ≠ ""))

/-- A value as a set of names, if there is one. -/
def toNames? : Setting → Checked (Option (List String))
  | nothing => .ok none
  | list items => (textsFrom 0 items).map fun names => some (tidyNames names)
  | _ => .error [⟨[], .notNames⟩]

/-- The check of a field of a table: its default if the table does not have it. -/
def field {α : Type} (entries : SettingTable) (name : String) (default : α) (read : Setting → Checked α) : Checked α :=
  match entries.lookup name with
  | none => .ok default
  | some value => (read value).under (.name name)

/-- A check of a single value. -/
def single {α : Type} (read : Setting → Except SettingFault α) (s : Setting) : Checked α :=
  (read s).mapError fun f => [⟨[], f⟩]

end Setting

open Setting

/-! ## Settings -/

namespace EngineConfig

/-- The engine's settings in a table. -/
def ofTable (entries : SettingTable) : Checked EngineConfig :=
  let default : EngineConfig := {}
  let unit := field entries "indent_unit" ⟨default.indentUnit, default.indentUnit_pos⟩ (single toPositive)
  let tab := field entries "tab_width" ⟨default.tabWidth, default.tabWidth_pos⟩ (single toPositive)
  let features := field entries "enabled_features" default.enabledFeatures toNames?
  let level := field entries "font_lock_level" ⟨default.level, default.level_pos, default.level_le⟩ (single toLevel)
  let top := field entries "prefer_top_level" default.preferTopLevel (single toTruth)
  match unit, tab, features, level, top with
  | .ok ⟨unit, hu⟩, .ok ⟨tab, ht⟩, .ok features, .ok ⟨level, hl⟩, .ok top =>
    .ok ⟨unit, tab, features, level, top, hu, ht, hl.1, hl.2⟩
  | unit, tab, features, level, top =>
    .error (unit.findings ++ tab.findings ++ features.findings ++ level.findings ++ top.findings)

/-- The engine's settings in a value. -/
def ofSetting : Setting → Checked EngineConfig
  | .table entries => ofTable entries
  | _ => .error [⟨[], .notTable "EngineConfig"⟩]

end EngineConfig

namespace ParserSettings

/-- The parser's settings in a table. -/
def ofTable (entries : SettingTable) : Checked ParserSettings :=
  let default : ParserSettings := {}
  let module := field entries "grammar_module" ⟨default.grammarModule, default.grammarModule_ne⟩ (single toNonblank)
  let function := field entries "language_function" ⟨default.languageFunction, default.languageFunction_ne⟩ (single toNonblank)
  match module, function with
  | .ok ⟨module, hm⟩, .ok ⟨function, hf⟩ => .ok ⟨module, function, hm, hf⟩
  | module, function => .error (module.findings ++ function.findings)

/-- The parser's settings in a value. -/
def ofSetting : Setting → Checked ParserSettings
  | .table entries => ofTable entries
  | _ => .error [⟨[], .notTable "ParserSettings"⟩]

end ParserSettings

namespace AppConfig

/-- The settings of the application in a table. -/
def ofTable (entries : SettingTable) : Checked AppConfig :=
  let default : AppConfig := {}
  let logLevel := field entries "log_level" default.logLevel (single toText)
  let logDir := field entries "log_dir" default.logDir (single toPath?)
  let engine := field entries "engine" default.engine EngineConfig.ofSetting
  let parser := field entries "parser" default.parser ParserSettings.ofSetting
  match logLevel, logDir, engine, parser with
  | .ok logLevel, .ok logDir, .ok engine, .ok parser => .ok ⟨Text.upper logLevel, logDir, engine, parser⟩
  | logLevel, logDir, engine, parser =>
    .error (logLevel.findings ++ logDir.findings ++ engine.findings ++ parser.findings)

end AppConfig

end AwkEdit
