import AwkEdit.CommandLine.Run
import AwkEdit.Proofs.Settings.Validated
import AwkEdit.Proofs.Text.Encoding
import AwkEdit.Proofs.Toml.Refusals

/-!
# How the settings of a command line are resolved

A command line has checked settings, or it says what is wrong with them and ends with status 2, whatever the file of settings holds
and whatever the environment and the options say. Three things are not turned into such a refusal: bytes that are not the encoding
of a text, an integer of too many digits, and a name of a file that is too long to be looked for. They break the command line down
(`CommandLine.serve_resolved`).
-/

namespace AwkEdit.CommandLine

variable {fs : Files} {given : Option String} {shown : String} {bytes : List UInt8}

/-! ## The file of settings -/

/-- The file of settings that is read, by the name that it is shown by, with its bytes. -/
def consulted? (fs : Files) : Option String → Option (String × List UInt8)
  | some given => (fs.read? (PathName.normal given)).map fun bytes => (PathName.normal given, bytes)
  | none => (fs.read? settingsName).map fun bytes => (shownSettingsName fs, bytes)

/-- What of a file of settings, or of the name that is given for one, is not turned into a refusal of the settings. -/
inductive Escapes (fs : Files) (given : Option String) : Breakdown → Prop where
  | undecodable {shown : String} {bytes : List UInt8} (hread : consulted? fs given = some (shown, bytes))
      (hbytes : ∀ text, Utf8.encode text ≠ bytes) : Escapes fs given .undecodable
  | oversizedInteger {shown : String} {text : List Char} {digits : Nat}
      (hread : consulted? fs given = some (shown, Utf8.encode text))
      (hparse : Toml.parse (String.ofList (Layers.plainLines text)) = .error (.oversized digits))
      (hdigits : IntegerText.longest < digits) : Escapes fs given (.oversizedInteger digits)
  | nameTooLong {name : String} (hgiven : given = some name) (hlong : fs.isTooLong (PathName.normal name) = true) :
      Escapes fs given (.nameTooLong (PathName.normal name))

theorem read?_of_isTooLong {name : String} (h : fs.isTooLong name = true) : fs.read? name = none := by
  rw [Files.isTooLong] at h
  split at h
  next htrace =>
    rw [Files.read?, Files.locate?, htrace]
    rfl
  next => cases h

/-- A file that is there is the layer. -/
theorem userLayer_of_consulted (h : consulted? fs given = some (shown, bytes)) : userLayer fs given = layerOf shown bytes := by
  cases given with
  | some name =>
    obtain ⟨found, hread, heq⟩ := Option.map_eq_some_iff.1 h
    obtain ⟨rfl, rfl⟩ := Prod.mk.inj heq
    rw [userLayer, hread]
  | none =>
    obtain ⟨found, hread, heq⟩ := Option.map_eq_some_iff.1 h
    obtain ⟨rfl, rfl⟩ := Prod.mk.inj heq
    rw [userLayer, hread]

/-- The layer of a file is its table, or it is refused as malformed, or it escapes. -/
theorem layerOf_cases (h : consulted? fs given = some (shown, bytes)) :
    (∃ user, layerOf shown bytes = .ok user) ∨ layerOf shown bytes = .error (.refused (.malformedFile shown)) ∨
      ∃ e b, layerOf shown bytes = .error e ∧ Escapes fs given b ∧ e.outcome = .broken b := by
  rw [layerOf]
  cases hbytes : Utf8.read? bytes with
  | none => exact .inr (.inr ⟨_, _, rfl, .undecodable h (Utf8.read?_eq_none_iff.1 hbytes), rfl⟩)
  | some text =>
    rw [← Utf8.read?_eq_some_iff.1 hbytes] at h
    simp only [Layers.ofDocument]
    split
    next user _ => exact .inl ⟨user, rfl⟩
    next => exact .inr (.inl rfl)
    next digits hparse =>
      exact .inr (.inr ⟨_, _, rfl, .oversizedInteger h hparse (Toml.longest_lt_of_parse hparse), rfl⟩)

/-- What escapes has no layer. -/
theorem userLayer_of_escapes {b : Breakdown} (h : Escapes fs given b) : ∃ e, userLayer fs given = .error e ∧ e.outcome = .broken b := by
  cases h with
  | undecodable hread hbytes =>
    rw [userLayer_of_consulted hread, layerOf, Utf8.read?_eq_none_iff.2 hbytes]
    exact ⟨_, rfl, rfl⟩
  | oversizedInteger hread hparse hdigits =>
    rw [userLayer_of_consulted hread, layerOf, Utf8.read?_eq_some_iff.2 rfl]
    simp only [Layers.ofDocument, hparse]
    exact ⟨_, rfl, rfl⟩
  | @nameTooLong name hgiven hlong =>
    rw [hgiven, userLayer, read?_of_isTooLong hlong]
    simp only [if_pos hlong]
    exact ⟨_, rfl, rfl⟩

/-- The layer of the user is there, or it is refused, or it escapes. -/
theorem userLayer_cases (fs : Files) (given : Option String) :
    (∃ user, userLayer fs given = .ok user) ∨
      (∃ refusal, userLayer fs given = .error (.refused refusal) ∧ ∀ digits, refusal ≠ .oversizedInteger digits) ∨
      ∃ e b, userLayer fs given = .error e ∧ Escapes fs given b ∧ e.outcome = .broken b := by
  cases hconsulted : consulted? fs given with
  | some found =>
    obtain ⟨shown, bytes⟩ := found
    rw [userLayer_of_consulted hconsulted]
    obtain hok | hmalformed | hescapes := layerOf_cases hconsulted
    · exact .inl hok
    · exact .inr (.inl ⟨_, hmalformed, nofun⟩)
    · exact .inr (.inr hescapes)
  | none =>
    cases given with
    | some name =>
      have hread : fs.read? (PathName.normal name) = none := Option.map_eq_none_iff.1 hconsulted
      rw [userLayer, hread]
      cases hlong : fs.isTooLong (PathName.normal name) with
      | true => exact .inr (.inr ⟨_, _, rfl, .nameTooLong rfl hlong, rfl⟩)
      | false => exact .inr (.inl ⟨_, rfl, nofun⟩)
    | none =>
      have hread : fs.read? settingsName = none := Option.map_eq_none_iff.1 hconsulted
      rw [userLayer, hread]
      exact .inl ⟨[], rfl⟩

/-! ## The settings -/

theorem not_escapes_of_ok {user : SettingTable} (h : userLayer fs given = .ok user) (b : Breakdown) : ¬Escapes fs given b := by
  intro hescapes
  obtain ⟨e, he, -⟩ := userLayer_of_escapes hescapes
  rw [h] at he
  cases he

theorem outcome_refused {refusal : ConfigError} (h : ∀ digits, refusal ≠ .oversizedInteger digits) :
    (ResolutionError.refused refusal).outcome = .complaining 2 ("Configuration error: " ++ refusal.message) := by
  cases refusal with
  | oversizedInteger digits => exact absurd rfl (h digits)
  | _ => rfl

/-- Whatever the files hold and whatever the environment and the options say: a request has settings, which are within their bounds
and in normal form; or it complains of the settings and ends with status 2, and nothing is changed; or it breaks down with status 1,
and nothing is changed, and this happens exactly if the bytes of the file of settings are those of no text, if the file has an
integer of too many digits, or if the name that is given for it is too long. -/
theorem serve_resolved (s : Surroundings) (w : Workspace) (r : Request) :
    (∃ c, resolve s.environment w.files r = .ok c ∧ c.Validated ∧ ∀ b, ¬Escapes w.files r.configPath b) ∨
      (∃ refusal, resolve s.environment w.files r = .error (.refused refusal) ∧
        serve s w r = (.complaining 2 ("Configuration error: " ++ refusal.message), w) ∧ ∀ b, ¬Escapes w.files r.configPath b) ∨
      ∃ b, Escapes w.files r.configPath b ∧ (∀ c, resolve s.environment w.files r ≠ .ok c) ∧ serve s w r = (.broken b, w) := by
  have hserve : ∀ {e}, resolve s.environment w.files r = .error e → serve s w r = (e.outcome, w) := fun h => by rw [serve, h]
  obtain ⟨user, huser⟩ | ⟨refusal, huser, hrefusal⟩ | ⟨e, b, huser, hescapes, houtcome⟩ := userLayer_cases w.files r.configPath
  · have hresolve : resolve s.environment w.files r =
        (Layers.load Layers.packaged [user, Layers.ofEnvironment s.environment, optionLayer r.logLevel r.logDir]).mapError
          .refused := by rw [resolve, huser]
    cases hchecked : AppConfig.ofTable (Layers.stacked Layers.packaged
      [user, Layers.ofEnvironment s.environment, optionLayer r.logLevel r.logDir]) with
    | ok c =>
      refine .inl ⟨c, ?_, AppConfig.validated_of_ofTable hchecked, not_escapes_of_ok huser⟩
      rw [hresolve, Layers.load, hchecked]
      rfl
    | error findings =>
      rw [Layers.load, hchecked] at hresolve
      have hinvalid : ∀ digits, ConfigError.invalid findings ≠ .oversizedInteger digits := nofun
      refine .inr (.inl ⟨.invalid findings, hresolve, ?_, not_escapes_of_ok huser⟩)
      rw [hserve hresolve, outcome_refused hinvalid]
  · have hresolve : resolve s.environment w.files r = .error (.refused refusal) := by rw [resolve, huser]
    refine .inr (.inl ⟨refusal, hresolve, ?_, fun b hescapes => ?_⟩)
    · rw [hserve hresolve, outcome_refused hrefusal]
    · obtain ⟨e, he, houtcome⟩ := userLayer_of_escapes hescapes
      obtain rfl := Except.error.inj (huser.symm.trans he)
      rw [outcome_refused hrefusal] at houtcome
      cases houtcome
  · have hresolve : resolve s.environment w.files r = .error e := by rw [resolve, huser]
    refine .inr (.inr ⟨b, hescapes, fun c hc => ?_, ?_⟩)
    · rw [hresolve] at hc
      cases hc
    · rw [hserve hresolve, houtcome]

/-- A file of settings of which one byte belongs to no text is neither read nor refused: the command line breaks down, with another
status than that of wrong settings. -/
theorem run_undecodable :
    let surroundings : Surroundings := ⟨[], {}, fun _ => ⟨.mk "program" 0 0 true false [], false⟩⟩
    -- The file is one line, `log_level = "?"`, with the byte FF between the quotes.
    let settings : List UInt8 := [0x6C, 0x6F, 0x67, 0x5F, 0x6C, 0x65, 0x76, 0x65, 0x6C, 0x20, 0x3D, 0x20, 0x22, 0xFF, 0x22, 0x0A]
    let files : Files := ⟨["work"], "/work", [(["work"], .directory), (["work", "awkts.toml"], .file settings)]⟩
    (∀ c, resolve [] files ⟨none, none, none, "features", []⟩ ≠ .ok c) ∧
      (∀ refusal, resolve [] files ⟨none, none, none, "features", []⟩ ≠ .error (.refused refusal)) ∧
      (run surroundings ⟨files, []⟩ ["features"]).1.status = 1 ∧
      (run surroundings ⟨files, []⟩ ["features"]).1.breakdown = some .undecodable := by
  intro surroundings settings files
  have hresolve : resolve [] files ⟨none, none, none, "features", []⟩ = .error .undecodable := by rfl
  have hrequest : Request.ofArguments ["features"] = .asked ⟨none, none, none, "features", []⟩ := by decide +kernel
  have hrun : run surroundings ⟨files, []⟩ ["features"] = (.broken .undecodable, ⟨files, []⟩) := by
    rw [run, hrequest]
    simp only [serve, surroundings, hresolve]
    rfl
  rw [hresolve, hrun]
  exact ⟨nofun, nofun, rfl, rfl⟩

end AwkEdit.CommandLine
