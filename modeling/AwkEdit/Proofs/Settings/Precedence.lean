import AwkEdit.CommandLine.Run
import AwkEdit.Proofs.Settings.Paths
import AwkEdit.Proofs.Toml.Tables

/-!
# Which layer a setting comes from

A stack of layers in which no two disagree about what is a table holds under every path what the highest of the layers holds that
has something there (`Layers.HoldsHighest`): if that is no table it is the value, and if it is one there is a table, of which the
longer paths tell. Under a path the stack holds what the layers hold there, laid one over another (`Layers.at?_stacked`), by
induction on the layers; `Layers.load_precedence` puts this together with what laying one table over another does. That the layers
of a command line name nothing twice is no assumption: a document that does is refused (`Toml.distinct_of_parse`).
-/

namespace AwkEdit

/-! ## Stacks of layers -/

namespace Layers

open Setting

variable {layers : List SettingTable} {layer : SettingTable} {p : List String} {v : Setting}

/-- What layers hold under a path, those that hold nothing there left out. -/
def valuesAt (layers : List SettingTable) (p : List String) : List Setting := layers.filterMap fun l => (table l).at? p

/-- What the highest of the layers that hold something under a path holds there. -/
def highest? (layers : List SettingTable) (p : List String) : Option Setting := (valuesAt layers p).getLast?

/-- No layer has a table under a path where another has something else. -/
def Compatible (layers : List SettingTable) : Prop :=
  ∀ p, ∀ v ∈ valuesAt layers p, ∀ w ∈ valuesAt layers p, v.isTable = w.isTable

/-- Under every path a table holds what the highest of the layers holds that has something there: that value if it is no table, and a
table if it is one. -/
def HoldsHighest (stack : SettingTable) (layers : List SettingTable) : Prop :=
  ∀ p, (highest? layers p = none → (table stack).at? p = none) ∧
    ∀ v, highest? layers p = some v →
      if v.isTable then ∃ entries, (table stack).at? p = some (table entries) else (table stack).at? p = some v

/-- Values laid one over another, the first lowest. -/
def piled (values : List Setting) : Option Setting := values.foldl (fun below v => some (v.overlay below)) none

theorem valuesAt_concat (layers : List SettingTable) (l : SettingTable) (p : List String) :
    valuesAt (layers ++ [l]) p = valuesAt layers p ++ ((table l).at? p).toList := by
  rw [valuesAt, List.filterMap_append, valuesAt]
  cases h : (table l).at? p <;> simp [h]

theorem piled_concat (values : List Setting) (v : Setting) : piled (values ++ [v]) = some (v.overlay (piled values)) := by
  rw [piled, List.foldl_append]
  rfl

theorem stacked_concat (defaults : SettingTable) (layers : List SettingTable) (l : SettingTable) :
    stacked defaults (layers ++ [l]) = merge (stacked defaults layers) l := by
  rw [stacked, List.foldl_append]
  rfl

theorem Compatible.of_concat {l : SettingTable} (h : Compatible (layers ++ [l])) : Compatible layers := by
  intro p v hv w hw
  have hsub : ∀ u ∈ valuesAt layers p, u ∈ valuesAt (layers ++ [l]) p := fun u hu => by
    rw [valuesAt_concat]
    exact List.mem_append_left _ hu
  exact h p v (hsub v hv) w (hsub w hw)

/-- Where a layer has a value that is no table, the other layers have nothing further down. -/
theorem Compatible.valuesAt_eq_nil {l : SettingTable} (h : Compatible (layers ++ [l])) (hblocks : (table l).Blocks p) :
    valuesAt layers p = [] := by
  obtain ⟨q, w, hq, hne, hw, hplain⟩ := hblocks
  rw [List.eq_nil_iff_forall_not_mem]
  intro v hv
  obtain ⟨other, hother, hv⟩ := List.mem_filterMap.1 hv
  obtain ⟨entries, hentries⟩ := exists_table_of_prefix hq hne hv
  have hlow : table entries ∈ valuesAt (layers ++ [l]) q :=
    List.mem_filterMap.2 ⟨other, List.mem_append_left _ hother, hentries⟩
  have hhigh : w ∈ valuesAt (layers ++ [l]) q := List.mem_filterMap.2 ⟨l, List.mem_concat_self, hw⟩
  have htrue : true = false := (h q _ hlow w hhigh).trans hplain
  cases htrue

/-- A stack of compatible layers holds under a path what the layers hold there, laid one over another. -/
theorem at?_stacked {defaults : SettingTable} (hdistinct : ∀ l ∈ layers, (table l).Distinct)
    (hcompatible : Compatible (defaults :: layers)) (p : List String) :
    (table (stacked defaults layers)).at? p = piled (valuesAt (defaults :: layers) p) := by
  induction layers using List.reverseRecOn with
  | nil =>
    rw [show stacked defaults [] = defaults from rfl, valuesAt, List.filterMap_cons, List.filterMap_nil]
    cases (table defaults).at? p with
    | none => rfl
    | some v => exact congrArg some (overlay_none v).symm
  | append_singleton layers l ih =>
    rw [← List.cons_append] at hcompatible ⊢
    have ih := ih (fun l hl => hdistinct l (List.mem_append_left _ hl)) hcompatible.of_concat
    obtain ⟨hfound, hfree, hblocked⟩ := at?_overlay (hdistinct l List.mem_concat_self) (some (table (stacked defaults layers))) p
    rw [overlay_table_table, ← stacked_concat, Option.bind_some, ih] at hfound hfree
    rw [overlay_table_table, ← stacked_concat] at hblocked
    rw [valuesAt_concat]
    cases hl : (table l).at? p with
    | some v =>
      rw [Option.toList_some, piled_concat]
      exact hfound v hl
    | none =>
      rw [Option.toList_none, List.append_nil]
      by_cases hblocks : (table l).Blocks p
      · rw [hblocked hblocks, hcompatible.valuesAt_eq_nil hblocks]
        rfl
      · exact hfree hl hblocks

/-- Values laid one over another result in a value of the kind of the last one, and in that one itself if it is no table. -/
theorem piled_spec (values : List Setting) :
    (values.getLast? = none → piled values = none) ∧
      ∀ v, values.getLast? = some v → ∃ w, piled values = some w ∧ w.isTable = v.isTable ∧ (v.isTable = false → w = v) := by
  refine ⟨fun h => ?_, fun v h => ?_⟩
  · rw [List.getLast?_eq_none_iff.1 h]
    rfl
  · obtain ⟨lower, rfl⟩ := List.getLast?_eq_some_iff.1 h
    rw [piled_concat]
    exact ⟨_, rfl, isTable_overlay, overlay_of_not_isTable⟩

theorem holdsHighest_stacked {defaults : SettingTable} (hdistinct : ∀ l ∈ layers, (table l).Distinct)
    (hcompatible : Compatible (defaults :: layers)) : HoldsHighest (stacked defaults layers) (defaults :: layers) := by
  intro p
  rw [at?_stacked hdistinct hcompatible]
  obtain ⟨hnone, hsome⟩ := piled_spec (valuesAt (defaults :: layers) p)
  refine ⟨hnone, fun v hv => ?_⟩
  obtain ⟨w, hw, htable, hplain⟩ := hsome v hv
  split
  next hv =>
    obtain ⟨entries, rfl⟩ := eq_table_of_isTable (htable.trans hv)
    exact ⟨entries, hw⟩
  next hv => rw [hw, hplain (Bool.eq_false_iff.2 hv)]

/-! ## The layers of a command line -/

/-- Whether settings are grouped under a path. -/
def isGroup (p : List String) : Bool := p = [] || p = ["engine"] || p = ["parser"]

/-- Whether a layer has tables where settings are grouped, and nowhere else. -/
def isGrouped (l : SettingTable) : Bool :=
  l.all fun e => e.2.isTable = isGroup [e.1] &&
    match e.2 with
    | .table entries => entries.all fun f => !f.2.isTable
    | _ => true

theorem isTable_of_isGrouped (h : isGrouped layer = true) : ∀ p v, (table layer).at? p = some v → v.isTable = isGroup p := by
  refine forall_at?_table (P := fun p v => v.isTable = isGroup p) rfl fun e he => ?_
  obtain ⟨hkind, hbelow⟩ := Bool.and_eq_true_iff.1 (List.all_eq_true.1 h e he)
  have hkind := of_decide_eq_true hkind
  cases htable : e.2.isTable with
  | false => exact forall_at?_of_not_isTable (P := fun p v => v.isTable = isGroup (e.1 :: p)) htable hkind
  | true =>
    obtain ⟨entries, hentries⟩ := eq_table_of_isTable htable
    rw [hentries] at hkind hbelow ⊢
    refine forall_at?_table (P := fun p v => v.isTable = isGroup (e.1 :: p)) hkind fun f hf => ?_
    have hplain : f.2.isTable = false := by simpa using List.all_eq_true.1 hbelow f hf
    refine forall_at?_of_not_isTable (P := fun p v => v.isTable = isGroup (e.1 :: f.1 :: p)) hplain ?_
    rw [hplain, isGroup]
    simp

/-- Layers that are grouped in the same way are compatible. -/
theorem compatible_of_isGrouped (h : ∀ l ∈ layers, isGrouped l = true) : Compatible layers := by
  have hkind : ∀ p, ∀ v ∈ valuesAt layers p, v.isTable = isGroup p := by
    intro p v hv
    obtain ⟨l, hl, hv⟩ := List.mem_filterMap.1 hv
    exact isTable_of_isGrouped (h l hl) p v hv
  intro p v hv w hw
  rw [hkind p v hv, hkind p w hw]

theorem distinct_ofEnvironment (environment : List (String × String)) : (table (ofEnvironment environment)).Distinct := by
  have hengine : ∀ value, (table [("indent_unit", text value)]).Distinct := fun value =>
    distinct_of_forall_mem (List.nodup_singleton _) (by simp)
  simp only [ofEnvironment]
  generalize valueOf? environment logLevelVariable = level
  generalize valueOf? environment logDirVariable = dir
  generalize valueOf? environment indentUnitVariable = unit
  refine distinct_of_forall_mem ?_ ?_ <;> cases level <;> cases dir <;> cases unit <;> simp [hengine]

theorem distinct_optionLayer (logLevel logDir : Option String) : (table (CommandLine.optionLayer logLevel logDir)).Distinct := by
  rw [CommandLine.optionLayer]
  generalize logLevel.filter (· ≠ "") = level
  refine distinct_of_forall_mem ?_ ?_ <;> cases level <;> cases logDir <;> simp

theorem distinct_of_ofDocument {path : String} {text : List Char} {user : SettingTable} (h : ofDocument path text = .ok user) :
    (table user).Distinct := by
  rw [ofDocument] at h
  split at h
  next hread => exact Except.ok.inj h ▸ Toml.distinct_of_parse hread
  next => cases h
  next => cases h

theorem distinct_of_userLayer {fs : Files} {given : Option String} {user : SettingTable}
    (h : CommandLine.userLayer fs given = .ok user) : (table user).Distinct := by
  have hlayer : ∀ shown bytes, CommandLine.layerOf shown bytes = .ok user → (table user).Distinct := by
    intro shown bytes hread
    rw [CommandLine.layerOf] at hread
    split at hread
    next => cases hread
    next => exact distinct_of_ofDocument (eq_ok_of_mapError hread)
  cases given with
  | some name =>
    rw [CommandLine.userLayer] at h
    split at h
    next => exact hlayer _ _ h
    next => cases h
  | none =>
    rw [CommandLine.userLayer] at h
    split at h
    next => exact hlayer _ _ h
    next =>
      rw [← Except.ok.inj h]
      exact distinct_table_nil

/-- For all tables, the upper one of which names nothing twice: under every path the merged table holds what the upper one holds
there if that is no table; if it is a table, the merge of it with the table that the lower one has there, or it alone if there is
none; and what the lower one holds if the upper one holds nothing there and has no value but tables on the way. For every stack of
layers that agree on what is a table, what is checked is a table that holds something under a path exactly when some layer does: the
value of the highest such layer if that is no table, and else a table, of which the same is said by the longer paths; so what a
lower layer holds beside an overridden value stays. In particular this holds of the layers that a command line is resolved from,
whatever its environment and files. -/
theorem load_precedence :
    (∀ base upper : SettingTable, (table upper).Distinct → ∀ p,
      (∀ v, (table upper).at? p = some v → v.isTable = false → (table (merge base upper)).at? p = some v) ∧
      (∀ above, (table upper).at? p = some (table above) →
        (∀ below, (table base).at? p = some (table below) → (table (merge base upper)).at? p = some (table (merge below above))) ∧
        ((∀ below, (table base).at? p ≠ some (table below)) → (table (merge base upper)).at? p = some (table above))) ∧
      ((table upper).at? p = none → (∀ q w, q <+: p → q ≠ p → (table upper).at? q = some w → w.isTable = true) →
        (table (merge base upper)).at? p = (table base).at? p)) ∧
    (∀ (defaults : SettingTable) (layers : List SettingTable), (∀ l ∈ layers, (table l).Distinct) →
      Compatible (defaults :: layers) →
      load defaults layers = (AppConfig.ofTable (stacked defaults layers)).mapError .invalid ∧
        HoldsHighest (stacked defaults layers) (defaults :: layers)) ∧
    ∀ (environment : List (String × String)) (fs : Files) (r : CommandLine.Request) (user : SettingTable),
      CommandLine.userLayer fs r.configPath = .ok user →
      ∀ layers, layers = [user, ofEnvironment environment, CommandLine.optionLayer r.logLevel r.logDir] →
      Compatible (packaged :: layers) →
      CommandLine.resolve environment fs r = (load packaged layers).mapError .refused ∧
        HoldsHighest (stacked packaged layers) (packaged :: layers) := by
  refine ⟨fun base upper hdistinct p => ?_, fun defaults layers hdistinct hcompatible => ?_,
    fun environment fs r user huser layers hlayers hcompatible => ?_⟩
  · obtain ⟨hfound, hfree, -⟩ := at?_overlay hdistinct (some (table base)) p
    rw [overlay_table_table, Option.bind_some] at hfound hfree
    refine ⟨fun v hv hplain => ?_, fun above habove => ⟨fun below hbelow => ?_, fun hnone => ?_⟩, fun hnone hway => ?_⟩
    · rw [hfound v hv, overlay_of_not_isTable hplain]
    · rw [hfound _ habove, hbelow, overlay_table_table]
    · rw [hfound _ habove, overlay_table_of_forall_ne hnone]
    · refine hfree hnone ?_
      rintro ⟨q, w, hq, hne, hw, hplain⟩
      rw [hway q w hq hne hw] at hplain
      cases hplain
  · exact ⟨rfl, holdsHighest_stacked hdistinct hcompatible⟩
  · refine ⟨?_, holdsHighest_stacked (fun l hl => ?_) hcompatible⟩
    · rw [CommandLine.resolve, huser, hlayers]
    · rw [hlayers, List.mem_cons, List.mem_cons, List.mem_singleton] at hl
      obtain rfl | rfl | rfl := hl
      · exact distinct_of_userLayer huser
      · exact distinct_ofEnvironment environment
      · exact distinct_optionLayer r.logLevel r.logDir

/-- A user's file overrides the unit of indentation and the width of a tab, the environment the unit again, and an option the level
of the log: each comes from the highest layer that has it, and the level of highlighting is still the packaged one. -/
theorem load_precedence_three_layers :
    let layers := [[("engine", table [("indent_unit", .integer 2), ("tab_width", .integer 4)])],
      ofEnvironment [(indentUnitVariable, "3")], CommandLine.optionLayer (some "debug") none]
    let stack := table (stacked packaged layers)
    load packaged layers = (AppConfig.ofTable (stacked packaged layers)).mapError .invalid ∧
      stack.at? ["engine", "indent_unit"] = some (.text "3") ∧ stack.at? ["engine", "tab_width"] = some (.integer 4) ∧
      stack.at? ["engine", "font_lock_level"] = some (.integer 3) ∧ stack.at? ["log_level"] = some (.text "debug") := by
  intro layers stack
  have hengine : (table [("indent_unit", .integer 2), ("tab_width", .integer 4)]).Distinct :=
    distinct_of_forall_mem (by decide) (by simp)
  have huser : (table [("engine", table [("indent_unit", .integer 2), ("tab_width", .integer 4)])]).Distinct :=
    distinct_of_forall_mem (List.nodup_singleton _) (List.forall_mem_singleton.2 hengine)
  have hdistinct : ∀ l ∈ layers, (table l).Distinct := by
    simp [layers, huser, distinct_ofEnvironment, distinct_optionLayer]
  have hgrouped : ∀ l ∈ packaged :: layers, isGrouped l = true := List.all_eq_true.1 rfl
  obtain ⟨hload, hholds⟩ := load_precedence.2.1 packaged layers hdistinct (compatible_of_isGrouped hgrouped)
  refine ⟨hload, (hholds ["engine", "indent_unit"]).2 _ rfl, (hholds ["engine", "tab_width"]).2 _ rfl,
    (hholds ["engine", "font_lock_level"]).2 _ rfl, (hholds ["log_level"]).2 _ rfl⟩

end Layers

end AwkEdit
