import AwkEdit.CommandLine.Command
import AwkEdit.CommandLine.Log
import AwkEdit.Files
import AwkEdit.LogLevel
import AwkEdit.Session
import AwkEdit.Settings.Rendered

/-!
# Running a command line

`run` turns arguments into what is printed, the status at the end and the files afterwards. Settings are resolved and the log is
prepared before the arguments of the command are looked at. Status 2 says that the arguments, the settings, the parser or the tree
it returned are at fault, status 1 that a file is not as a check wants it or cannot be written.
-/

namespace AwkEdit.CommandLine

/-- What a command line runs in: the variables of the environment, what is installed of the parser, and what the parser returns. -/
structure Surroundings where
  environment : List (String × String)
  installation : Installation
  parser : Source → ParserOutput

/-- What stays from one command line to the next: the files, and the grammars that are loaded. The log file is none of these files:
the records that a command line adds to it are part of its outcome. -/
structure Workspace where
  files : Files
  loaded : LoadedGrammars

/-- What a command line is not prepared for: a file of settings that is not text, an integer of too many digits to be read or written,
a module that cannot be looked for, a line that would have to extend too far, no home directory, and names that nothing can be looked
for or written under. -/
inductive Breakdown where
  | undecodable
  | oversizedInteger (digits : Nat)
  | unwritableInteger
  | relativeModule (name : String)
  | extent (fault : Extent.Fault)
  | homeless
  | isDirectory (name : String)
  | notDirectory (name : String)
  | nameTooLong (name : String)
  deriving DecidableEq, Repr

/-- The wording of a breakdown. -/
def Breakdown.message : Breakdown → String
  | undecodable => "The file of settings is not encoded as text"
  | oversizedInteger digits => IntegerText.oversizedMessage digits
  | unwritableInteger => IntegerText.unwritableMessage
  | relativeModule name => (ParserError.relativeModule name).message
  | extent fault => fault.message
  | homeless => "Could not determine home directory."
  | isDirectory name => "[Errno 21] Is a directory: " ++ Quoted.quote name
  | notDirectory name => "[Errno 20] Not a directory: " ++ Quoted.quote name
  | nameTooLong name => "[Errno 36] File name too long: " ++ Quoted.quote name

/-- What a command line leads to. -/
structure Outcome where
  status : Nat := 0
  output : String := ""
  complaint : Option String := none
  parserEvents : List Event := []
  records : List LogRecord := []
  breakdown : Option Breakdown := none

/-- The outcome of a command line that is wrong. -/
def Outcome.misuse : Outcome := { status := 2 }

/-- The outcome of a command line that breaks down. -/
def Outcome.broken (b : Breakdown) : Outcome := { status := 1, breakdown := some b }

/-- The outcome of a command line that complains. -/
def Outcome.complaining (status : Nat) (complaint : String) : Outcome :=
  { status := status, complaint := some (Text.uncoloured complaint) }

/-- A line of output. -/
def printed (line : String) : String := Text.uncoloured line ++ "\n"

/-! ## Settings -/

/-- Why settings cannot be resolved: they are refused, or the file of settings is not encoded as text or cannot be looked for. -/
inductive ResolutionError where
  | refused (error : ConfigError)
  | undecodable
  | nameTooLong (name : String)

/-- The layer of a file of settings, where the file is shown by a name of its own. -/
def layerOf (shown : String) (bytes : List UInt8) : Except ResolutionError SettingTable :=
  match Utf8.read? bytes with
  | none => .error .undecodable
  | some text => (Layers.ofDocument shown text).mapError .refused

/-- The name of the file of settings that is read when no other is given. -/
def settingsName : String := "awkts.toml"

/-- The name of the default file of settings as it is shown. -/
def shownSettingsName (fs : Files) : String := fs.hereName ++ "/" ++ settingsName

/-- The layer of the user: the file that is given, or else the default one if it is there. -/
def userLayer (fs : Files) : Option String → Except ResolutionError SettingTable
  | some given =>
    let name := PathName.normal given
    match fs.read? name with
    | some bytes => layerOf name bytes
    | none => .error (if fs.isTooLong name then .nameTooLong name else .refused (.fileNotFound name))
  | none =>
    match fs.read? settingsName with
    | some bytes => layerOf (shownSettingsName fs) bytes
    | none => .ok []

/-- The layer of the options before the command. -/
def optionLayer (logLevel logDir : Option String) : SettingTable :=
  ((logLevel.filter (· ≠ "")).map fun level => ("log_level", Setting.text level)).toList ++
    (logDir.map fun dir => ("log_dir", Setting.path (PathName.normal dir))).toList

/-- The settings of a command line. -/
def resolve (environment : List (String × String)) (fs : Files) (r : Request) : Except ResolutionError AppConfig :=
  match userLayer fs r.configPath with
  | .error e => .error e
  | .ok user =>
    (Layers.load Layers.packaged [user, Layers.ofEnvironment environment, optionLayer r.logLevel r.logDir]).mapError .refused

/-- The outcome of settings that cannot be resolved. -/
def ResolutionError.outcome : ResolutionError → Outcome
  | refused (.oversizedInteger digits) => .broken (.oversizedInteger digits)
  | refused e => .complaining 2 ("Configuration error: " ++ e.message)
  | undecodable => .broken .undecodable
  | nameTooLong name => .broken (.nameTooLong name)

/-! ## The log -/

/-- Whether a name starts with a tilde. -/
def startsWithTilde (name : String) : Bool := name.toList.head? = some '~'

/-- The location of the home directory, which is the root if its name is empty; a name that starts with a tilde itself is none. -/
def homeLocation? (environment : List (String × String)) (fs : Files) : Option Location :=
  let home := (environment.lookup "HOME").getD fs.hereName
  if home = fs.hereName then some fs.here
  else if startsWithTilde home then none
  else some ((PathName.names home).foldl Files.step (if home.isEmpty then [] else fs.base home))

/-- The location of a directory for the log, where a tilde stands for the home directory. -/
def logLocation? (environment : List (String × String)) (fs : Files) (dir : String) : Option Location :=
  match PathName.names dir with
  | first :: rest =>
    if PathName.isAbsolute dir then some ((first :: rest).foldl Files.step [])
    else if first = "~" then (homeLocation? environment fs).map (rest.foldl Files.step ·)
    else if startsWithTilde first then none
    else some ((first :: rest).foldl Files.step fs.here)
  | [] => some (fs.base dir)

/-- The files with the directory for the log in them, or the outcome if there can be none. -/
def prepareLog (environment : List (String × String)) (fs : Files) : Option String → Except Outcome Files
  | none => .ok fs
  | some dir =>
    match logLocation? environment fs dir with
    | none => .error (.broken .homeless)
    | some l => if canName dir then (fs.makeLocation l).mapError fun _ => .misuse else .error .misuse

/-- The directory for the log of a request, if its settings ask for a log. -/
def logDirectory? (environment : List (String × String)) (fs : Files) (r : Request) : Option Location :=
  match resolve environment fs r with
  | .ok config => config.logDir.bind (logLocation? environment fs)
  | .error _ => none

/-- Whether a log is kept: there is a directory for it, in which no directory has its name. -/
def keepsLog (environment : List (String × String)) (fs : Files) (config : AppConfig) : Bool :=
  (config.logDir.bind (logLocation? environment fs)).any fun l => !fs.isDirectory (Files.step l logFileName)

/-- A command ready to be run. -/
structure Prepared where
  config : AppConfig
  level : Nat
  logged : Bool
  command : String

/-- The records of events, if a log is kept. -/
def Prepared.records (p : Prepared) (events : List Event) : List LogRecord :=
  if p.logged then recordsOf p.command p.level events else []

/-! ## The commands -/

/-- The engine's settings with the features, the level and the preference that a command gives. A level without features goes by
the level. -/
def withOverrides (engine : EngineConfig) (features : List String) (level : Option Nat) (topLevel : Option Bool) : EngineConfig :=
  let named :=
    if !features.isEmpty then some (Setting.tidyNames features)
    else if level.isSome then none else engine.enabledFeatures
  let engine := { engine with enabledFeatures := named, preferTopLevel := topLevel.getD engine.preferTopLevel }
  match level with
  | none => engine
  | some n =>
    if pos : 0 < n then if le : n ≤ 4 then { engine with level := n, level_pos := pos, level_le := le } else engine else engine

/-- What a command does with a session, or why it has none. -/
def withSession (p : Prepared) (s : Surroundings) (w : Workspace) (path : String) (bytes : List UInt8) (engine : EngineConfig)
    (act : Session → List Event × Outcome × Files) : Outcome × Workspace :=
  let source := Source.ofBytes bytes
  let (loaded, parserEvents, parsed) := s.installation.parse w.loaded p.config.parser source (s.parser source)
  let w := { w with loaded := loaded }
  match parsed with
  | .error (.parser (.relativeModule name)) => (.broken (.relativeModule name), w)
  | .error (.parser e) => ({ Outcome.complaining 2 ("Parser unavailable: " ++ e.message) with parserEvents }, w)
  | .error (.tree e) => ({ Outcome.complaining 2 ("Error: " ++ e.message) with parserEvents }, w)
  | .ok tree =>
    let opening := Event.fileParsed path tree.nodeCount :: Awk.build.1
    match Awk.build.2 with
    | .error e => ({ Outcome.complaining 2 ("Error: " ++ e.message) with parserEvents, records := p.records opening }, w)
    | .ok language =>
      if counted : tree.source.size ≤ Extent.countable then
        let (events, outcome, files) := act ⟨tree, engine, language, counted⟩
        ({ outcome with parserEvents, records := p.records (opening ++ events) }, { w with files := files })
      else ({ Outcome.broken (.extent .uncountable) with parserEvents }, w)

/-- The output of a highlighted range, a line for each assignment. -/
def assignmentLine (s : Session) (a : Assignment) : String :=
  let text := Text.asciiQuoted (s.source.text a.start a.stop)
  printed (s!"{a.start} {a.stop} " ++ a.tag.classification.name ++ " " ++ text)

/-- Highlights a range of a file. -/
def highlightFile (path : String) (start stop : Option Int) (fs : Files) (s : Session) : List Event × Outcome × Files :=
  let (table, events) := s.sweep start stop
  let lines := table.assignments.map (assignmentLine s)
  (events ++ [.highlightComplete path lines.length], { output := String.join lines }, fs)

/-- What is done with a text that was indented anew: it is printed, or compared with what the file holds, or written into the file. -/
def indentedOutcome (path : String) (write check : Bool) (fs : Files) (text : String) (changed : Bool) : Outcome × Files :=
  if check then
    (if changed then { status := 1, output := printed (path ++ ": not indented") } else { output := printed (path ++ ": ok") }, fs)
  else if !write then ({ output := Text.uncoloured text }, fs)
  else if !changed then ({ output := printed (path ++ ": already indented") }, fs)
  else
    match fs.write? path (Utf8.encode text.toList) with
    | some fs => ({ output := printed ("Reindented " ++ path) }, fs)
    | none => (.broken (.isDirectory path), fs)

/-- Indents a file anew. -/
def indentFile (path : String) (write check : Bool) (fs : Files) (s : Session) : List Event × Outcome × Files :=
  match s.reindent with
  | (.error fault, events) => (events, .broken (.extent fault), fs)
  | (.ok text, events) =>
    let changed := text != s.text
    (events ++ [.indentComplete path changed], indentedOutcome path write check fs text changed)

/-- Lists the definitions of a file with their lines, which are counted from one. -/
def outlineFile (path : String) (fs : Files) (s : Session) : List Event × Outcome × Files :=
  let (entries, events) := s.outline
  let line (e : OutlineEntry) : String :=
    printed (e.category ++ "\t" ++ e.name ++ "\t" ++ path ++ ":" ++ toString (s.source.lineOf e.start + 1))
  (events, { output := String.join (entries.map line) }, fs)

/-- Lists the features and whether they are on. -/
def listFeatures (p : Prepared) (engine : EngineConfig) : Outcome :=
  match Awk.build with
  | (events, .error e) => { Outcome.complaining 2 ("Error: " ++ e.message) with records := p.records events }
  | (events, .ok language) =>
    let line (g : FeatureGroup) : String :=
      let state := if engine.featureEnabled g.name g.level then "enabled" else "disabled"
      printed (s!"  - {g.name} (level {g.level}): {state}")
    { output := printed "Features:" ++ String.join (language.highlight.groups.map line), records := p.records events }

/-- Writes the settings into a file that is not there yet, unless it is to be replaced. -/
def initConfig (p : Prepared) (fs : Files) (path : Option String) (force : Bool) : Outcome × Files :=
  let name := (path.map PathName.normal).getD settingsName
  let shown := (path.map PathName.normal).getD (shownSettingsName fs)
  let present := Outcome.complaining 1 (shown ++ " already exists; pass --force to overwrite.")
  if fs.isTooLong name then (.broken (.nameTooLong shown), fs)
  else if (fs.find? name).isSome && !force then (present, fs)
  else
    match fs.makeParent name with
    | .error .taken => (present, fs)
    | .error .tooLong => (.broken (.nameTooLong (PathName.parent shown)), fs)
    | .error _ => (.broken (.notDirectory (PathName.parent shown)), fs)
    | .ok fs =>
      match p.config.render? true with
      | none => (.broken .unwritableInteger, fs)
      | some text =>
        match fs.write? name (Utf8.encode text.toList) with
        | some fs => ({ output := printed ("Wrote " ++ shown) }, fs)
        | none => (.broken (if fs.isTooLong name then .nameTooLong shown else .isDirectory shown), fs)

/-- Runs a command whose arguments are understood. -/
def execute (p : Prepared) (s : Surroundings) (w : Workspace) (c : Command) : Outcome × Workspace :=
  let engine := p.config.engine
  let onFile (path : String) (engine : EngineConfig) (act : String → Files → Session → List Event × Outcome × Files) :=
    let name := PathName.normal path
    match w.files.read? name with
    | none => (Outcome.misuse, w)
    | some bytes => withSession p s w name bytes engine (act name w.files)
  match c with
  | .highlight path features level start stop =>
    onFile path (withOverrides engine features level none) (highlightFile · start stop)
  | .indent path write check => if write && check then (.misuse, w) else onFile path engine (indentFile · write check)
  | .outline path topLevel => onFile path (withOverrides engine [] none topLevel) outlineFile
  | .features level => (listFeatures p (withOverrides engine [] level none), w)
  | .initConfig path force =>
    let (outcome, files) := initConfig p w.files path force
    (outcome, { w with files := files })

/-- Prepares the settings and the log of a request, and runs its command. -/
def serve (s : Surroundings) (w : Workspace) (r : Request) : Outcome × Workspace :=
  match resolve s.environment w.files r with
  | .error e => (e.outcome, w)
  | .ok config =>
    match LogLevel.ofName? config.logLevel with
    | none => (.misuse, w)
    | some level =>
      match prepareLog s.environment w.files config.logDir with
      | .error outcome => (outcome, w)
      | .ok files =>
        let w := { w with files := files }
        match Command.ofArguments r.command r.arguments with
        | .wrong => (.misuse, w)
        | .help => ({}, w)
        | .asked command => execute ⟨config, level, keepsLog s.environment files config, r.command⟩ s w command

/-- Runs a command line. -/
def run (s : Surroundings) (w : Workspace) (arguments : List String) : Outcome × Workspace :=
  match Request.ofArguments arguments with
  | .wrong => (.misuse, w)
  | .help => ({}, w)
  | .asked request => serve s w request

end AwkEdit.CommandLine
