import AwkEdit.Proofs.PathName
import AwkEdit.Proofs.Settings.Validated
import AwkEdit.Proofs.Toml.Printed
import AwkEdit.Settings.Rendered
import Mathlib.Algebra.Group.Nat.Defs

/-!
# Settings that are written to a file and read again

A file of settings holds every setting under its name, and a setting that is unset is left out. Laid over the packaged defaults the
file gives back each setting: none of the settings that can be unset is among the defaults, and what checking left in normal form is
not changed by checking it again. Commentary says nothing.
-/

namespace AwkEdit

open Toml

/-! ## Checking what was checked -/

namespace Setting

theorem toPositive_integer {n : Nat} (h : 0 < n) : toPositive (.integer n) = .ok ⟨n, h⟩ := by
  simp [toPositive, toInteger, h]

theorem toLevel_integer {n : Nat} (h : 0 < n) (hle : n ≤ 4) : toLevel (.integer n) = .ok ⟨n, h, hle⟩ := by
  simp [toLevel, toPositive_integer h, hle]

theorem toTruth_truth (b : Bool) : toTruth (.truth b) = .ok b := rfl

theorem toText_text {t : String} (h : Text.trimWhite t = t) : toText (.text t) = .ok t := by rw [toText, h]

theorem toNonblank_text {t : String} (h : Text.trimWhite t = t) (hne : t ≠ "") : toNonblank (.text t) = .ok ⟨t, hne⟩ := by
  simp [toNonblank, toText_text h, hne]

theorem toPath?_text {name : String} (h : PathName.normal name = name ∧ Text.trimWhite name = name) :
    toPath? (.text name) = .ok (some name) := by rw [toPath?, h.2, h.1]

theorem textsFrom_map_text {names : List String} (h : ∀ name ∈ names, Text.trimWhite name = name) (index : Nat) :
    textsFrom index (names.map .text) = .ok names := by
  induction names generalizing index with
  | nil => rfl
  | cons name names ih =>
    obtain ⟨hname, hnames⟩ := List.forall_mem_cons.1 h
    rw [List.map_cons, textsFrom, toText_text hname, ih hnames]

/-- A set of names that is listed in order is read as it was. -/
theorem toNames?_list {names : List String} (h : TidyNames names) :
    toNames? (.list ((sortedNames names).map .text)) = .ok (some names) := by
  have htexts : textsFrom 0 (names.map .text) = .ok names :=
    textsFrom_map_text (fun name hname => Text.trimWhite_of_trimBlank (h.trimmed name hname)) 0
  rw [sortedNames_eq_self h.ascending, toNames?, htexts]
  exact congrArg (fun names => Except.ok (some names)) (tidyNames_eq_self h)

variable {α : Type} {entries : SettingTable} {name : String} {default : α} {read : Setting → Checked α}

theorem field_of_lookup {v : Setting} {a : α} (hv : entries.lookup name = some v) (ha : read v = .ok a) :
    field entries name default read = .ok a := by
  rw [field, hv]
  simp only [ha]
  rfl

theorem field_of_none (h : entries.lookup name = none) : field entries name default read = .ok default := by rw [field, h]

theorem single_of_ok {read : Setting → Except SettingFault α} {s : Setting} {a : α} (h : read s = .ok a) : single read s = .ok a := by
  rw [single, h]
  rfl

end Setting

open Setting

/-! ## Settings as tables -/

/-- The engine's settings as a table, without the features if they are unset. -/
def EngineConfig.toTable (c : EngineConfig) : SettingTable :=
  [("indent_unit", .integer c.indentUnit), ("tab_width", .integer c.tabWidth), ("font_lock_level", .integer c.level),
    ("prefer_top_level", .truth c.preferTopLevel)] ++
    (c.enabledFeatures.map fun names => ("enabled_features", Setting.list ((sortedNames names).map .text))).toList

/-- The parser's settings as a table. -/
def ParserSettings.toTable (c : ParserSettings) : SettingTable :=
  [("grammar_module", .text c.grammarModule), ("language_function", .text c.languageFunction)]

/-- The settings of the application as a table, without the directory of the log if it is unset. -/
def AppConfig.toTable (c : AppConfig) : SettingTable :=
  ("log_level", .text c.logLevel) :: ((c.logDir.map fun dir => ("log_dir", Setting.text dir)).toList ++
    [("engine", .table c.engine.toTable), ("parser", .table c.parser.toTable)])

/-- The lines of a file of settings describe the table of the settings, with and without commentary. -/
theorem AppConfig.documentOf_lines (c : AppConfig) (commented : Bool) : documentOf (c.lines commented) = c.toTable := by
  obtain ⟨level, dir, ⟨unit, tab, features, font, top, _, _, _, _⟩, parser⟩ := c
  cases commented <;> cases dir <;> cases features <;> rfl

/-! ## Tables that are laid over others and checked -/

theorem EngineConfig.distinct_toTable (c : EngineConfig) : (Setting.table c.toTable).Distinct := by
  rw [toTable]
  generalize c.enabledFeatures = features
  refine distinct_of_forall_mem ?_ ?_ <;> cases features <;> simp

theorem ParserSettings.distinct_toTable (c : ParserSettings) : (Setting.table c.toTable).Distinct :=
  distinct_of_forall_mem (by simp [toTable]) (by simp [toTable])

theorem AppConfig.distinct_toTable (c : AppConfig) : (Setting.table c.toTable).Distinct := by
  rw [toTable]
  generalize c.logDir = dir
  refine distinct_of_forall_mem ?_ ?_ <;> cases dir <;>
    simp [EngineConfig.distinct_toTable, ParserSettings.distinct_toTable]

/-- The engine's settings are given back by their table laid over another that sets no features. -/
theorem EngineConfig.ofTable_merge {c : EngineConfig} (hfeatures : ∀ names, c.enabledFeatures = some names → TidyNames names)
    {base : SettingTable} (hbase : base.lookup "enabled_features" = none) : ofTable (merge base c.toTable) = .ok c := by
  have hnodup := c.distinct_toTable.nodup
  have hlookup : ∀ name v, c.toTable.lookup name = some v → v.isTable = false → (merge base c.toTable).lookup name = some v :=
    fun _ _ hv hplain => lookup_merge_of_not_isTable hnodup base hv hplain
  have hnames : field (merge base c.toTable) "enabled_features" none toNames? = .ok c.enabledFeatures := by
    cases hset : c.enabledFeatures with
    | none =>
      have hnone : c.toTable.lookup "enabled_features" = none := by
        rw [toTable, hset]
        rfl
      exact field_of_none ((lookup_merge_of_none hnodup base hnone).trans hbase)
    | some names =>
      have hsome : c.toTable.lookup "enabled_features" = some (.list ((sortedNames names).map .text)) := by
        rw [toTable, hset]
        rfl
      exact field_of_lookup (hlookup _ _ hsome rfl) (toNames?_list (hfeatures names hset))
  have hunit := hlookup "indent_unit" _ rfl rfl
  have htab := hlookup "tab_width" _ rfl rfl
  have hlevel := hlookup "font_lock_level" _ rfl rfl
  have htop := hlookup "prefer_top_level" _ rfl rfl
  simp only [ofTable, hnames, field_of_lookup hunit (single_of_ok (toPositive_integer c.indentUnit_pos)),
    field_of_lookup htab (single_of_ok (toPositive_integer c.tabWidth_pos)),
    field_of_lookup hlevel (single_of_ok (toLevel_integer c.level_pos c.level_le)),
    field_of_lookup htop (single_of_ok (toTruth_truth c.preferTopLevel))]

/-- The parser's settings are given back by their table laid over another. -/
theorem ParserSettings.ofTable_merge {c : ParserSettings} (hmodule : Text.trimWhite c.grammarModule = c.grammarModule)
    (hfunction : Text.trimWhite c.languageFunction = c.languageFunction) (base : SettingTable) :
    ofTable (merge base c.toTable) = .ok c := by
  have hnodup := c.distinct_toTable.nodup
  have hgrammar : (merge base c.toTable).lookup "grammar_module" = some (.text c.grammarModule) :=
    lookup_merge_of_not_isTable hnodup base rfl rfl
  have hlanguage : (merge base c.toTable).lookup "language_function" = some (.text c.languageFunction) :=
    lookup_merge_of_not_isTable hnodup base rfl rfl
  simp only [ofTable, field_of_lookup hgrammar (single_of_ok (toNonblank_text hmodule c.grammarModule_ne)),
    field_of_lookup hlanguage (single_of_ok (toNonblank_text hfunction c.languageFunction_ne))]

/-- Settings in normal form are given back by their table laid over the packaged defaults. -/
theorem AppConfig.ofTable_merge_packaged {c : AppConfig} (hc : c.Validated)
    (hdir : ∀ dir, c.logDir = some dir → PathName.normal dir = dir ∧ Text.trimWhite dir = dir) :
    ofTable (merge Layers.packaged c.toTable) = .ok c := by
  have hnodup := c.distinct_toTable.nodup
  have hlog : field (merge Layers.packaged c.toTable) "log_dir" none (single toPath?) = .ok c.logDir := by
    cases hset : c.logDir with
    | none =>
      have hnone : c.toTable.lookup "log_dir" = none := by
        rw [toTable, hset]
        rfl
      exact field_of_none (lookup_merge_of_none hnodup _ hnone)
    | some dir =>
      have hsome : c.toTable.lookup "log_dir" = some (.text dir) := by
        rw [toTable, hset]
        rfl
      exact field_of_lookup (lookup_merge_of_not_isTable hnodup _ hsome rfl) (single_of_ok (toPath?_text (hdir dir hset)))
  have hlevel : (merge Layers.packaged c.toTable).lookup "log_level" = some (.text c.logLevel) :=
    lookup_merge_of_not_isTable hnodup _ rfl rfl
  have hbelow : c.toTable.lookup "engine" = some (.table c.engine.toTable) ∧
      c.toTable.lookup "parser" = some (.table c.parser.toTable) := by
    rw [toTable]
    cases c.logDir <;> exact ⟨rfl, rfl⟩
  obtain ⟨engine, hengine, hnofeatures⟩ : ∃ engine, Layers.packaged.lookup "engine" = some (.table engine) ∧
      engine.lookup "enabled_features" = none := ⟨_, rfl, rfl⟩
  obtain ⟨parser, hparser⟩ : ∃ parser, Layers.packaged.lookup "parser" = some (.table parser) := ⟨_, rfl⟩
  have hoverlaid : (merge Layers.packaged c.toTable).lookup "engine" = some (.table (merge engine c.engine.toTable)) ∧
      (merge Layers.packaged c.toTable).lookup "parser" = some (.table (merge parser c.parser.toTable)) := by
    rw [lookup_merge hnodup, lookup_merge hnodup, hbelow.1, hbelow.2, hengine, hparser]
    exact ⟨congrArg some overlay_table_table, congrArg some overlay_table_table⟩
  have hread : EngineConfig.ofSetting (.table (merge engine c.engine.toTable)) = .ok c.engine :=
    EngineConfig.ofTable_merge hc.features_tidy hnofeatures
  have hread' : ParserSettings.ofSetting (.table (merge parser c.parser.toTable)) = .ok c.parser :=
    ParserSettings.ofTable_merge hc.grammarModule_trimmed hc.languageFunction_trimmed parser
  simp only [ofTable, hlog, field_of_lookup hlevel (single_of_ok (toText_text hc.logLevel_trimmed)),
    field_of_lookup hoverlaid.1 hread, field_of_lookup hoverlaid.2 hread', hc.logLevel_upper]

/-! ## The text of a file of settings -/

theorem isWritable_number_iff {n : Nat} : (Plain.number n).isWritable = true ↔ n < 10 ^ IntegerText.longest := by
  rw [Plain.isWritable, IntegerText.isWritable_iff, Int.natAbs_natCast, Nat.pow_eq]

theorem ten_le_pow_longest : 10 ≤ 10 ^ IntegerText.longest :=
  Nat.pow_le_pow_right (by decide : 0 < 10) (by decide : 1 ≤ IntegerText.longest)

theorem readable_heading : ∀ l ∈ AppConfig.heading, l.Readable := by decide +kernel

theorem forall_mem_optionalLine {motive : Line → Prop} {name : String} {value : Option Plain} {example_ : String} {commented : Bool}
    (hvalue : ∀ v ∈ value, motive (.entry name v)) (hexample : motive (.comment (name ++ " = " ++ example_))) :
    ∀ l ∈ AppConfig.optionalLine name value commented example_, motive l := by
  cases value with
  | some v => exact List.forall_mem_singleton.2 (hvalue v rfl)
  | none =>
    rw [AppConfig.optionalLine]
    split
    · exact List.forall_mem_singleton.2 hexample
    · exact nofun

/-- Every line of a file of settings is read as it was written, if it can be written. -/
theorem AppConfig.readable_lines (c : AppConfig) (commented : Bool) :
    ∀ l ∈ c.lines commented, l.isWritable = true → l.Readable := by
  have hheading : ∀ l ∈ (if commented then heading else []), l.isWritable = true → l.Readable := by
    split
    · exact fun l hl _ => readable_heading l hl
    · exact nofun
  have hdir : ∀ l ∈ optionalLine "log_dir" (c.logDir.map .text) commented "\"~/.cache/awkts\"  # also write a rotating awkts.log",
      l.isWritable = true → l.Readable :=
    forall_mem_optionalLine (fun v _ hv => ⟨by decide, hv⟩) fun _ => by decide +kernel
  have hfeatures : ∀ l ∈ optionalLine "enabled_features" (c.engine.enabledFeatures.map fun names => .texts (sortedNames names)) commented
      "[\"comment\", \"keyword\"]  # overrides the level", l.isWritable = true → l.Readable :=
    forall_mem_optionalLine (fun v _ hv => ⟨by decide, hv⟩) fun _ => by decide +kernel
  have hengine : ∀ l ∈ engineLines c.engine commented, l.isWritable = true → l.Readable := by
    rw [engineLines, List.forall_mem_append]
    refine ⟨?_, hfeatures⟩
    simp only [List.forall_mem_cons, Line.Readable, Line.isWritable]
    exact ⟨by decide, fun h => ⟨by decide, h⟩, fun h => ⟨by decide, h⟩, fun h => ⟨by decide, h⟩, fun h => ⟨by decide, h⟩, nofun⟩
  have hparser : ∀ l ∈ parserLines c.parser, l.isWritable = true → l.Readable := by
    simp only [parserLines, List.forall_mem_cons, Line.Readable, Line.isWritable]
    exact ⟨fun _ => by decide, fun h => ⟨by decide, h⟩, fun h => ⟨by decide, h⟩, nofun⟩
  simp only [lines, List.forall_mem_append, List.forall_mem_singleton, Line.Readable, Line.isWritable]
  exact ⟨⟨⟨⟨⟨⟨hheading, fun h => ⟨by decide, h⟩⟩, hdir⟩, fun _ => trivial⟩, hengine⟩, fun _ => trivial⟩, hparser⟩

/-- The lines of a file of settings can be written exactly when the numbers in it have no more digits than are written. -/
theorem AppConfig.isWritable_lines_iff (c : AppConfig) (commented : Bool) :
    (∀ l ∈ c.lines commented, l.isWritable = true) ↔
      c.engine.indentUnit < 10 ^ IntegerText.longest ∧ c.engine.tabWidth < 10 ^ IntegerText.longest := by
  have hheading : ∀ l ∈ (if commented then heading else []), l.isWritable = true := by cases commented <;> decide
  have hdir : ∀ l ∈ optionalLine "log_dir" (c.logDir.map .text) commented "\"~/.cache/awkts\"  # also write a rotating awkts.log",
      l.isWritable = true := by
    refine forall_mem_optionalLine (fun v hv => ?_) rfl
    obtain ⟨dir, -, rfl⟩ := Option.map_eq_some_iff.1 hv
    rfl
  have hfeatures : ∀ l ∈ optionalLine "enabled_features" (c.engine.enabledFeatures.map fun names => .texts (sortedNames names)) commented
      "[\"comment\", \"keyword\"]  # overrides the level", l.isWritable = true := by
    refine forall_mem_optionalLine (fun v hv => ?_) rfl
    obtain ⟨names, -, rfl⟩ := Option.map_eq_some_iff.1 hv
    rfl
  have hlevel : (Plain.number c.engine.level).isWritable = true :=
    isWritable_number_iff.2 (Nat.lt_of_le_of_lt c.engine.level_le (Nat.lt_of_lt_of_le (by decide) ten_le_pow_longest))
  rw [← isWritable_number_iff, ← isWritable_number_iff]
  simp only [lines, engineLines, parserLines, List.forall_mem_append, List.forall_mem_cons]
  constructor
  · rintro ⟨⟨⟨-, ⟨-, hunit, htab, -⟩, -⟩, -⟩, -⟩
    exact ⟨hunit, htab⟩
  · rintro ⟨hunit, htab⟩
    exact ⟨⟨⟨⟨⟨⟨hheading, rfl, nofun⟩, hdir⟩, rfl, nofun⟩, ⟨rfl, hunit, htab, hlevel, rfl, nofun⟩, hfeatures⟩, rfl, nofun⟩,
      rfl, rfl, rfl, nofun⟩

theorem plainLines_of_notMem {cs : List Char} (h : '\r' ∉ cs) : Layers.plainLines cs = cs := by
  induction cs with
  | nil => rfl
  | cons c cs ih =>
    rw [List.mem_cons, not_or] at h
    unfold Layers.plainLines
    split
    next heq => exact absurd (List.cons.inj heq).1.symm h.1
    next heq => exact absurd (List.cons.inj heq).1.symm h.1
    next heq =>
      obtain ⟨rfl, rfl⟩ := List.cons.inj heq
      rw [ih h.2]
    next heq => cases heq

/-- Settings that were checked, whatever they were checked from, are given back by what is in the file that is written for them, with
or without commentary, laid over the packaged defaults. The directory of the log is unset or the normal form of a path name, with no
white space around it. The text of the file is written exactly when the numbers have no more digits than are written, and then that is
what reading it finds in it. -/
theorem AppConfig.load_rendered {entries : SettingTable} {c : AppConfig} (h : ofTable entries = .ok c)
    (hdir : ∀ dir, c.logDir = some dir → (∃ name, PathName.normal name = dir) ∧ Text.trimWhite dir = dir) (commented : Bool) :
    Layers.load Layers.packaged [documentOf (c.lines commented)] = .ok c ∧
      ((∃ text, c.render? commented = some text) ↔
        c.engine.indentUnit < 10 ^ IntegerText.longest ∧ c.engine.tabWidth < 10 ^ IntegerText.longest) ∧
      ∀ text, c.render? commented = some text → ∀ path,
        Layers.ofDocument path text.toList = .ok (documentOf (c.lines commented)) := by
  refine ⟨?_, ?_, fun text htext path => ?_⟩
  · have hnormal : ∀ dir, c.logDir = some dir → PathName.normal dir = dir ∧ Text.trimWhite dir = dir := by
      intro dir hset
      obtain ⟨⟨name, rfl⟩, htrim⟩ := hdir dir hset
      exact ⟨PathName.normal_normal name, htrim⟩
    have hstacked : Layers.stacked Layers.packaged [documentOf (c.lines commented)] = merge Layers.packaged c.toTable := by
      rw [documentOf_lines]
      rfl
    rw [Layers.load, hstacked, ofTable_merge_packaged (validated_of_ofTable h) hnormal]
    rfl
  · simp only [render?, print?_eq_some_iff, isWritable_lines_iff, exists_and_left, exists_eq', and_true]
  · obtain ⟨hwritable, rfl⟩ := print?_eq_some_iff.1 htext
    have hlines : ∀ l ∈ c.lines commented, l.Readable := fun l hl => c.readable_lines commented l hl (hwritable l hl)
    have hdistinct : (Setting.table (documentOf (c.lines commented))).Distinct := by
      rw [documentOf_lines]
      exact c.distinct_toTable
    rw [Layers.ofDocument, plainLines_of_notMem (return_notMem_print hlines), String.ofList_toList, parse_print hlines hdistinct]

/-- Settings that were given untidily: a level in lower case, a directory with needless slashes, and no feature at all. -/
def AppConfig.untidyTable : SettingTable :=
  [("log_level", .text " info"), ("log_dir", .text "logs//awk/"),
    ("engine", .table [("indent_unit", .text "2"), ("enabled_features", .list [.text " "])])]

/-- Checking tidies them, and the file that is written then gives back what checking has made of them. -/
theorem AppConfig.load_rendered_untidy :
    ∃ c : AppConfig, ofTable untidyTable = .ok c ∧ c.logLevel = "INFO" ∧ c.logDir = some "logs/awk" ∧
      c.engine.indentUnit = 2 ∧ c.engine.enabledFeatures = some [] ∧
      ((∃ name, PathName.normal name = "logs/awk") ∧ Text.trimWhite "logs/awk" = "logs/awk") ∧
      Layers.load Layers.packaged [documentOf (c.lines false)] = .ok c ∧
      ∃ text, c.render? false = some text ∧ ∀ path, Layers.ofDocument path text.toList = .ok (documentOf (c.lines false)) := by
  obtain ⟨c, hchecked, hlevel, hlog, hunit, htab, hfeatures⟩ : ∃ c : AppConfig, ofTable untidyTable = .ok c ∧ c.logLevel = "INFO" ∧
      c.logDir = some "logs/awk" ∧ c.engine.indentUnit = 2 ∧ c.engine.tabWidth = 8 ∧ c.engine.enabledFeatures = some [] :=
    ⟨_, rfl, rfl, rfl, rfl, rfl, rfl⟩
  have hpath : (∃ name, PathName.normal name = "logs/awk") ∧ Text.trimWhite "logs/awk" = "logs/awk" := ⟨⟨"logs//awk/", rfl⟩, rfl⟩
  have hdir : ∀ dir, c.logDir = some dir → (∃ name, PathName.normal name = dir) ∧ Text.trimWhite dir = dir := by
    intro dir hset
    obtain rfl := Option.some.inj (hlog.symm.trans hset)
    exact hpath
  have hdigits : c.engine.indentUnit < 10 ^ IntegerText.longest ∧ c.engine.tabWidth < 10 ^ IntegerText.longest := by
    rw [hunit, htab]
    exact ⟨Nat.lt_of_lt_of_le (by decide) ten_le_pow_longest, Nat.lt_of_lt_of_le (by decide) ten_le_pow_longest⟩
  obtain ⟨hload, hwritten, hread⟩ := load_rendered hchecked hdir false
  obtain ⟨text, htext⟩ := hwritten.2 hdigits
  exact ⟨c, hchecked, hlevel, hlog, hunit, hfeatures, hpath, hload, text, htext, hread text htext⟩

end AwkEdit
