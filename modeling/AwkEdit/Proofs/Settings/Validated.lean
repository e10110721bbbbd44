import AwkEdit.Proofs.Results
import AwkEdit.Proofs.Text.Names
import AwkEdit.Proofs.Text.Normal
import AwkEdit.Settings.Validation

/-!
# What checked settings are like

The bounds of settings are part of their types. Beyond them checking leaves texts in a normal form: the level of the log is trimmed
and in upper case, the settings of the parser are trimmed, and a set of features is listed in order, without repetitions, and every
name of it is trimmed and not empty (`AppConfig.Validated`). Checking such a text or set again changes nothing.
-/

namespace AwkEdit

/-- Names in order, each once, trimmed and not empty. -/
structure TidyNames (names : List String) : Prop where
  ascending : names.Pairwise (· < ·)
  trimmed : ∀ name ∈ names, Text.trimBlank name = name
  nonempty : ∀ name ∈ names, name ≠ ""

namespace Setting

theorem tidy_tidyNames (names : List String) : TidyNames (tidyNames names) := by
  have hmem : ∀ name ∈ tidyNames names, (∃ given ∈ names, Text.trimBlank given = name) ∧ name ≠ "" := by
    intro name hname
    rw [tidyNames, mem_sortedNames, List.mem_filter, List.mem_map, decide_eq_true_eq] at hname
    exact hname
  refine ⟨sortedNames_pairwise _, fun name hname => ?_, fun name hname => (hmem name hname).2⟩
  obtain ⟨⟨given, -, rfl⟩, -⟩ := hmem name hname
  exact Text.trimBlank_trimBlank given

/-- Tidy names are left as they are. -/
theorem tidyNames_eq_self {names : List String} (h : TidyNames names) : tidyNames names = names := by
  rw [tidyNames, List.map_congr_left h.trimmed, List.map_id', List.filter_eq_self.2 fun name hname => ?_]
  · exact sortedNames_eq_self h.ascending
  · exact decide_eq_true (h.nonempty name hname)

/-! ## Fields -/

variable {α : Type} {entries : SettingTable} {name : String}

/-- A checked field has its default or what its value was checked to be. -/
theorem field_eq_ok {default a : α} {read : Setting → Checked α} (h : field entries name default read = .ok a) :
    a = default ∨ ∃ v, entries.lookup name = some v ∧ read v = .ok a := by
  rw [field] at h
  split at h
  next => exact .inl (Except.ok.inj h).symm
  next v hv => exact .inr ⟨v, hv, eq_ok_of_mapError h⟩

theorem single_eq_ok {read : Setting → Except SettingFault α} {s : Setting} {a : α} (h : single read s = .ok a) :
    read s = .ok a := eq_ok_of_mapError h

theorem trimWhite_of_toText {s : Setting} {t : String} (h : s.toText = .ok t) : Text.trimWhite t = t := by
  cases s with
  | text written =>
    rw [← Except.ok.inj h]
    exact Text.trimWhite_trimWhite written
  | _ => cases h

theorem trimWhite_of_toNonblank {s : Setting} {t : { t : String // t ≠ "" }} (h : s.toNonblank = .ok t) :
    Text.trimWhite t = t := by
  rw [toNonblank] at h
  split at h
  next => cases h
  next written hwritten =>
    split at h
    next =>
      rw [← Except.ok.inj h]
      exact trimWhite_of_toText hwritten
    next => cases h

theorem tidy_of_toNames? {s : Setting} {names : List String} (h : s.toNames? = .ok (some names)) : TidyNames names := by
  cases s with
  | list items =>
    rw [toNames?] at h
    cases hitems : textsFrom 0 items with
    | error fs =>
      rw [hitems] at h
      cases h
    | ok given =>
      rw [hitems] at h
      rw [← Option.some.inj (Except.ok.inj h)]
      exact tidy_tidyNames given
  | _ => cases h

end Setting

open Setting

/-! ## Settings -/

theorem EngineConfig.tidy_of_ofTable {entries : SettingTable} {c : EngineConfig} (h : ofTable entries = .ok c) {names : List String}
    (hnames : c.enabledFeatures = some names) : TidyNames names := by
  rw [ofTable] at h
  simp only at h
  split at h
  next hfeatures _ _ =>
    rw [← Except.ok.inj h] at hnames
    obtain rfl := hnames
    obtain hdefault | ⟨v, -, hread⟩ := field_eq_ok hfeatures
    · cases hdefault
    · exact tidy_of_toNames? hread
  next => cases h

/-- The defaults of the parser's settings are trimmed. -/
theorem ParserSettings.trimmed_default :
    Text.trimWhite ({} : ParserSettings).grammarModule = ({} : ParserSettings).grammarModule ∧
      Text.trimWhite ({} : ParserSettings).languageFunction = ({} : ParserSettings).languageFunction := by
  decide +kernel

theorem ParserSettings.trimmed_of_ofTable {entries : SettingTable} {c : ParserSettings} (h : ofTable entries = .ok c) :
    Text.trimWhite c.grammarModule = c.grammarModule ∧ Text.trimWhite c.languageFunction = c.languageFunction := by
  rw [ofTable] at h
  simp only at h
  split at h
  next module hm function hf hmodule hfunction =>
    rw [← Except.ok.inj h]
    change Text.trimWhite module = module ∧ Text.trimWhite function = function
    constructor
    · obtain hdefault | ⟨v, -, hread⟩ := field_eq_ok hmodule
      · rw [Subtype.mk.inj hdefault]
        exact trimmed_default.1
      · have htrimmed := trimWhite_of_toNonblank (single_eq_ok hread)
        exact htrimmed
    · obtain hdefault | ⟨v, -, hread⟩ := field_eq_ok hfunction
      · rw [Subtype.mk.inj hdefault]
        exact trimmed_default.2
      · have htrimmed := trimWhite_of_toNonblank (single_eq_ok hread)
        exact htrimmed
  next => cases h

/-- Settings whose texts and names are in normal form. -/
structure AppConfig.Validated (c : AppConfig) : Prop where
  logLevel_trimmed : Text.trimWhite c.logLevel = c.logLevel
  logLevel_upper : Text.upper c.logLevel = c.logLevel
  features_tidy : ∀ names, c.engine.enabledFeatures = some names → TidyNames names
  grammarModule_trimmed : Text.trimWhite c.parser.grammarModule = c.parser.grammarModule
  languageFunction_trimmed : Text.trimWhite c.parser.languageFunction = c.parser.languageFunction

/-- Checked settings are in normal form. -/
theorem AppConfig.validated_of_ofTable {entries : SettingTable} {c : AppConfig} (h : ofTable entries = .ok c) : c.Validated := by
  rw [ofTable] at h
  simp only at h
  split at h
  next level dir engine parser hlevel hdir hengine hparser =>
    rw [← Except.ok.inj h]
    have htrimmed : Text.trimWhite level = level := by
      obtain rfl | ⟨v, -, hread⟩ := field_eq_ok hlevel
      · rfl
      · exact trimWhite_of_toText (single_eq_ok hread)
    have hfeatures : ∀ names, engine.enabledFeatures = some names → TidyNames names := by
      intro names hnames
      obtain rfl | ⟨v, -, hread⟩ := field_eq_ok hengine
      · cases hnames
      · cases v with
        | table below => exact EngineConfig.tidy_of_ofTable hread hnames
        | _ => cases hread
    have hstrings : Text.trimWhite parser.grammarModule = parser.grammarModule ∧
        Text.trimWhite parser.languageFunction = parser.languageFunction := by
      obtain rfl | ⟨v, -, hread⟩ := field_eq_ok hparser
      · exact ParserSettings.trimmed_default
      · cases v with
        | table below => exact ParserSettings.trimmed_of_ofTable hread
        | _ => cases hread
    exact ⟨Text.trimWhite_upper htrimmed, Text.upper_upper level, hfeatures, hstrings.1, hstrings.2⟩
  next => cases h

end AwkEdit
