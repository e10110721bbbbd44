import AwkEdit.Proofs.Bundled.Indentation
import AwkEdit.Proofs.Highlight.Admissible
import AwkEdit.Proofs.Highlight.Extension
import Mathlib.Data.List.Nodup

/-!
# The highlight rules of AWK

Whatever node types the grammar has, the features of AWK are built from the same specifications. `Awk.glance` lists them with their
levels and with what their rules can say. The last one marks errors: its only rule overrides, and it says `error` of the nodes that
cover unexplained text, which no other rule does. So the feature can be switched on and off without touching any byte outside such
nodes (`Awk.sweep_errors_isolated`).
-/

namespace AwkEdit

namespace HighlightRules

/-! ## The node types of the grammar -/

/-- The rules of a feature do not depend on the node types that the grammar knows. -/
theorem compileRules_known (composites : List Composite) (known other : Option (List String)) (feature : FeatureSpec)
    (name : String) (order : Nat) (specs : List RuleSpec) :
    (compileRules composites known feature name order specs).2 = (compileRules composites other feature name order specs).2 := by
  induction specs generalizing order with
  | nil => rfl
  | cons spec specs ih => simp only [compileRules_cons, ih]

/-- Neither do the features. -/
theorem compileFeatures_known (composites : List Composite) (known other : Option (List String)) (seen : List String) (order : Nat)
    (specs : List FeatureSpec) :
    (compileFeatures composites known seen order specs).2 = (compileFeatures composites other seen order specs).2 := by
  induction specs generalizing seen order with
  | nil => rfl
  | cons spec specs ih => simp only [compileFeatures_cons, compileRules_known composites known other, ih]

/-- The highlight rules that are built do not depend on the node types that the grammar knows. -/
theorem build_known (known other : Option (List String)) (features : List FeatureSpec) (composites : List CompositeSpec) :
    (build features composites known).2 = (build features composites other).2 := by
  unfold build
  split
  · rfl
  · simp only [compileFeatures_known _ known other]

end HighlightRules

/-! ## Features at a glance -/

/-- A feature at a glance: its name and its level, and for each of its rules whether it overrides and what it can say. -/
structure Glance where
  name : String
  level : Int
  rules : List (Bool × List Classification)
  deriving DecidableEq

/-- The feature at a glance. -/
def FeatureGroup.glance (g : FeatureGroup) : Glance := ⟨g.name, g.level, g.rules.map fun r => (r.override, r.sayable)⟩

namespace Awk

/-- The features of AWK at a glance, in the order in which they claim. -/
def glance : List Glance :=
  [⟨"comment", 1, [(false, [.comment])]⟩,
   ⟨"definition", 1, [(false, [.functionDefinition]), (false, [.variableDefinition])]⟩,
   ⟨"keyword", 2, [(false, [.keyword])]⟩,
   ⟨"string", 2, [(false, [.string])]⟩,
   ⟨"builtin", 2, [(false, [.builtinFunction]), (false, [.builtinVariable])]⟩,
   ⟨"namespace", 3, [(false, [.namespaceName])]⟩,
   ⟨"constant", 3, [(false, [.constant])]⟩,
   ⟨"escape-sequence", 3, [(true, [.escape])]⟩,
   ⟨"regex", 3, [(false, [.regex])]⟩,
   ⟨"function", 3, [(false, [.functionCall])]⟩,
   ⟨"number", 3, [(false, [.number])]⟩,
   ⟨"assignment", 3, [(true, [.variableDefinition])]⟩,
   ⟨"bracket", 4, [(false, [.bracket])]⟩,
   ⟨"delimiter", 4, [(false, [.delimiter])]⟩,
   ⟨"operator", 4, [(false, [.operator])]⟩,
   ⟨"variable", 4, [(false, [.variableUse])]⟩,
   ⟨"error", 4, [(true, [.error])]⟩]

/-- The features of AWK are these, and the rule of the last one says `error` of the nodes that cover unexplained text. -/
theorem glance_build :
    (HighlightRules.build features composites none).2.toOption.map
        (fun r => (r.groups.map FeatureGroup.glance, r.groups.getLast?.map (·.rules.map HighlightRule.mark?))) =
      some (glance, some [some (errorType, .error)]) := by
  decide +kernel

/-- The highlight rules of the language are those of AWK. -/
theorem Builds.highlight {language : Language} (h : Builds language) :
    (HighlightRules.build features composites none).2 = .ok language.highlight := by
  obtain ⟨nodeTypes, h⟩ := h
  unfold buildOver at h
  split at h
  next => cases h
  next hhighlight =>
    split at h
    next => cases h
    next =>
      split at h
      next => cases h
      next =>
        obtain rfl := Except.ok.inj h
        rw [HighlightRules.build_known none (some nodeTypes), hhighlight]

theorem Builds.glance_eq {language : Language} (h : Builds language) :
    language.highlight.groups.map FeatureGroup.glance = glance ∧
      language.highlight.groups.getLast?.map (·.rules.map HighlightRule.mark?) = some [some (errorType, .error)] := by
  have hglance := glance_build
  rw [h.highlight] at hglance
  exact Prod.mk.inj (Option.some.inj hglance)

/-- What holds of every rule of the glance holds of every rule of the language. -/
theorem Builds.forall_rules {language : Language} (h : Builds language) {motive : Glance → Bool × List Classification → Prop}
    (hall : ∀ line ∈ glance, ∀ entry ∈ line.rules, motive line entry) {g : FeatureGroup} (hg : g ∈ language.highlight.groups)
    {rule : HighlightRule} (hrule : rule ∈ g.rules) : motive g.glance (rule.override, rule.sayable) := by
  refine hall _ ?_ _ (List.mem_map_of_mem (f := fun r => (r.override, r.sayable)) hrule)
  rw [← h.glance_eq.1]
  exact List.mem_map_of_mem hg

/-! ## Errors -/

/-- The name of the feature that marks errors. -/
def errorFeature : String := "error"

/-- Whether the last of some features is the one that marks errors: its only rule overrides and says `error` of the nodes that cover
unexplained text, and the others have other names and say other things. -/
structure ErrorsLast (groups others : List FeatureGroup) (marking : FeatureGroup) (rule : HighlightRule) : Prop where
  groups_eq : groups = others ++ [marking]
  name_eq : marking.name = errorFeature
  level_eq : marking.level = 4
  rules_eq : marking.rules = [rule]
  override : rule.override = true
  mark : rule.mark? = some (errorType, .error)
  others_name : ∀ g ∈ others, g.name ≠ errorFeature
  others_silent : ∀ g ∈ others, ∀ r ∈ g.rules, .error ∉ r.sayable

/-- The last feature of AWK marks errors. -/
theorem Builds.errorsLast {language : Language} (h : Builds language) :
    ∃ others marking rule, ErrorsLast language.highlight.groups others marking rule := by
  obtain ⟨hglance, hlast⟩ := h.glance_eq
  have hsplit : glance = glance.dropLast ++ [⟨errorFeature, 4, [(true, [.error])]⟩] := rfl
  rw [hsplit, List.map_eq_append_iff] at hglance
  obtain ⟨others, last, hgroups, hothers, hlastline⟩ := hglance
  obtain ⟨marking, rfl, hmarking⟩ := List.map_eq_singleton_iff.1 hlastline
  obtain ⟨hname, hlevel, hrules⟩ := Glance.mk.inj hmarking
  obtain ⟨rule, hrule, hsays⟩ := List.map_eq_singleton_iff.1 hrules
  rw [hgroups, List.getLast?_concat, Option.map_some, hrule, List.map_singleton] at hlast
  -- What the other features are called and can say is read off the glance.
  have hsilent : ∀ line ∈ glance.dropLast, line.name ≠ errorFeature ∧ ∀ entry ∈ line.rules, .error ∉ entry.2 := by
    decide
  have hline : ∀ g ∈ others, g.glance ∈ glance.dropLast := by
    intro g hg
    rw [← hothers]
    exact List.mem_map_of_mem hg
  refine ⟨others, marking, rule, hgroups, hname, hlevel, hrule, (Prod.mk.inj hsays).1, ?_, ?_, ?_⟩
  · exact (List.cons.inj (Option.some.inj hlast)).1
  · exact fun g hg => (hsilent _ (hline g hg)).1
  · intro g hg r hr
    exact (hsilent _ (hline g hg)).2 _ (List.mem_map_of_mem (f := fun r => (r.override, r.sayable)) hr)

namespace ErrorsLast

open HighlightRules Exhaustive

variable {r : HighlightRules} {others : List FeatureGroup} {marking : FeatureGroup} {rule : HighlightRule} {config : EngineConfig}
  {tree : Snapshot}

/-- The feature that marks errors is on when it is named, or at level 4 when no feature is. -/
theorem active_iff (h : ErrorsLast r.groups others marking rule) :
    (∃ g ∈ r.active config, g.name = errorFeature) ↔
      match config.enabledFeatures with
      | some names => errorFeature ∈ names
      | none => config.level = 4 := by
  have hon : (∃ g ∈ r.active config, g.name = errorFeature) ↔ config.featureEnabled errorFeature 4 = true := by
    simp only [HighlightRules.active, List.mem_filter, h.groups_eq, List.mem_append, List.mem_singleton]
    constructor
    · rintro ⟨g, ⟨hg | rfl, henabled⟩, hname⟩
      · exact absurd hname (h.others_name g hg)
      · rwa [h.name_eq, h.level_eq] at henabled
    · intro henabled
      exact ⟨marking, ⟨.inr rfl, by rwa [h.name_eq, h.level_eq]⟩, h.name_eq⟩
  rw [hon, EngineConfig.featureEnabled]
  cases config.enabledFeatures with
  | some names => exact List.contains_iff_mem
  | none =>
    have := config.level_le
    rw [decide_eq_true_iff]
    omega

/-- When it is on, it comes after all other active features. -/
theorem active_eq (h : ErrorsLast r.groups others marking rule) (hon : ∃ g ∈ r.active config, g.name = errorFeature) :
    r.active config = (r.active config).filter (·.name != errorFeature) ++ [marking] := by
  obtain ⟨g, hg, hname⟩ := hon
  have hmarking : config.featureEnabled marking.name marking.level = true := by
    obtain ⟨hg, henabled⟩ := List.mem_filter.1 hg
    rw [h.groups_eq, List.mem_append, List.mem_singleton] at hg
    rcases hg with hg | rfl
    · exact absurd hname (h.others_name g hg)
    · exact henabled
  generalize hothers : others.filter (fun g => config.featureEnabled g.name g.level) = rest
  have hactive : r.active config = rest ++ [marking] := by
    rw [HighlightRules.active, h.groups_eq, List.filter_append, hothers, List.filter_singleton, hmarking]
    rfl
  have hrest : rest.filter (·.name != errorFeature) = rest := by
    rw [List.filter_eq_self, ← hothers]
    intro g hg
    simpa using h.others_name g (List.mem_of_mem_filter hg)
  rw [hactive, List.filter_append, hrest, List.filter_singleton, h.name_eq]
  simp

/-- The other features do not say `error`. -/
theorem ne_error_of_mem_claims (h : ErrorsLast r.groups others marking rule) {groups : List FeatureGroup}
    (hgroups : ∀ g ∈ groups, g ∈ r.groups ∧ g.name ≠ errorFeature) {c : Claim}
    (hc : c ∈ claims tree.source groups tree.places) :
    c.tag.classification ≠ .error := by
  obtain ⟨g, hg, p, -, r', hr', q, tag, hsays, rfl⟩ := mem_claims_iff.1 hc
  obtain ⟨hmem, hname⟩ := hgroups g hg
  rw [h.groups_eq, List.mem_append, List.mem_singleton] at hmem
  rcases hmem with hmem | rfl
  · intro herror
    exact h.others_silent g hmem r' hr' (herror ▸ hsays.mem_sayable)
  · exact absurd h.name_eq hname

/-- Whether a byte lies in a node that covers unexplained text. -/
def Unexplained (tree : Snapshot) (pos : Int) : Prop :=
  ∃ q ∈ tree.places, q.node.type = errorType ∧ q.node.start ≤ pos ∧ pos < q.node.stop

variable {other : EngineConfig} {start stop : Option Int} {pos : Int}

/-- The feature that marks errors says something of these bytes and of no others. -/
theorem overridden_iff (h : ErrorsLast r.groups others marking rule) : Overridden tree [marking] pos ↔ Unexplained tree pos := by
  simp only [Overridden, List.mem_singleton, exists_eq_left, h.rules_eq, h.override, true_and,
    HighlightRule.says_iff_of_mark? h.mark]
  constructor
  · rintro ⟨p, hp, q, tag, ⟨rfl, htype, rfl⟩, hcovers⟩
    exact ⟨q, hp, htype, hcovers⟩
  · rintro ⟨q, hq, htype, hcovers⟩
    exact ⟨q, hq, q, _, ⟨rfl, htype, rfl⟩, hcovers⟩

/-- A byte of the table that lies in such a node is marked. -/
theorem classificationAt_of_unexplained (h : ErrorsLast r.groups others marking rule)
    (hon : ∃ g ∈ r.active config, g.name = errorFeature)
    (hother : r.active other = (r.active config).filter (·.name != errorFeature))
    (hpos : lowOf start ≤ pos ∧ pos < max (lowOf start) (highOf tree.source stop)) (herror : Unexplained tree pos) :
    (r.sweep tree config start stop).1.classificationAt pos = some .error := by
  have hactive : r.active config = r.active other ++ [marking] := hother ▸ h.active_eq hon
  refine classificationAt_of_overridden hactive hpos (h.overridden_iff.2 herror) ?_
  simp only [List.mem_singleton, forall_eq, h.rules_eq, HighlightRule.says_iff_of_mark? h.mark]
  rintro p q tag ⟨-, -, rfl⟩
  rfl

/-- Nothing else changes. -/
theorem tag_eq_of_not_unexplained (h : ErrorsLast r.groups others marking rule)
    (hon : ∃ g ∈ r.active config, g.name = errorFeature)
    (hother : r.active other = (r.active config).filter (·.name != errorFeature))
    (herror : ¬Unexplained tree pos) :
    (r.sweep tree config start stop).1.tag pos = (r.sweep tree other start stop).1.tag pos := by
  have hactive : r.active config = r.active other ++ [marking] := hother ▸ h.active_eq hon
  refine tag_eq_of_overriding hactive ?_ fun hoverridden => herror (h.overridden_iff.1 hoverridden)
  simp only [List.mem_singleton, forall_eq, h.rules_eq, h.override]

/-- A pass without the feature marks nothing. -/
theorem classificationAt_ne_error (h : ErrorsLast r.groups others marking rule)
    (hother : r.active other = (r.active config).filter (·.name != errorFeature)) :
    (r.sweep tree other start stop).1.classificationAt pos ≠ some .error := by
  intro herror
  rw [Table.classificationAt, tag_sweep, Option.map_map] at herror
  obtain ⟨w, hw, hcls⟩ := Option.map_eq_some_iff.1 herror
  refine h.ne_error_of_mem_claims (fun g hg => ?_) (Claim.mem_of_mem_successes (Claim.mem_of_winner hw).1) hcls
  rw [hother] at hg
  obtain ⟨hg, hname⟩ := List.mem_filter.1 hg
  exact ⟨List.mem_of_mem_filter hg, by simpa using hname⟩

end ErrorsLast

open ErrorsLast

/-- Features with different names can be switched on one by one: whichever are chosen are the active ones of some settings. -/
theorem exists_active_eq_filter {r : HighlightRules} (hnames : (r.groups.map (·.name)).Nodup) (chosen : FeatureGroup → Bool) :
    ∃ config : EngineConfig, r.active config = r.groups.filter chosen := by
  refine ⟨{ enabledFeatures := some ((r.groups.filter chosen).map (·.name)) }, List.filter_congr fun g hg => ?_⟩
  rw [EngineConfig.featureEnabled, Bool.eq_iff_iff, List.contains_iff_mem, List.mem_map]
  constructor
  · rintro ⟨g', hg', hname⟩
    obtain ⟨hmem, hchosen⟩ := List.mem_filter.1 hg'
    rwa [List.inj_on_of_nodup_map hnames hmem hg hname] at hchosen
  · intro hchosen
    exact ⟨g, List.mem_filter.2 ⟨hg, hchosen⟩, rfl⟩

/-- The features of AWK have different names. -/
theorem Builds.nodup_names {language : Language} (h : Builds language) : (language.highlight.groups.map (·.name)).Nodup := by
  have hnames : language.highlight.groups.map (·.name) = glance.map (·.name) := by
    rw [← h.glance_eq.1, List.map_map]
    rfl
  rw [hnames]
  decide

/-- When the feature that marks errors is on, by its name or at level 4, exactly the bytes of the table in nodes that cover
unexplained text are classified as errors, and of every other byte the pass says what a pass with the same features but this one
says. -/
theorem sweep_errors_isolated {language : Language} (h : Builds language) (tree : Snapshot) (config : EngineConfig)
    (start stop : Option Int) :
    ((∃ g ∈ language.highlight.active config, g.name = errorFeature) ↔
      match config.enabledFeatures with
      | some names => errorFeature ∈ names
      | none => config.level = 4) ∧
    ((∃ g ∈ language.highlight.active config, g.name = errorFeature) →
      let table := (language.highlight.sweep tree config start stop).1
      let others := (language.highlight.active config).filter (·.name != errorFeature)
      (∀ pos, table.base ≤ pos → pos < table.limit →
        (table.classificationAt pos = some .error ↔ Unexplained tree pos)) ∧
      (∃ other, language.highlight.active other = others) ∧
      ∀ other, language.highlight.active other = others → ∀ pos, table.base ≤ pos → pos < table.limit →
        ¬Unexplained tree pos → table.tag pos = (language.highlight.sweep tree other start stop).1.tag pos) := by
  obtain ⟨groups, marking, rule, hlast⟩ := h.errorsLast
  refine ⟨hlast.active_iff, fun hon => ?_⟩
  intro table others
  have hrange := HighlightRules.range_sweep language.highlight tree config start stop
  have hexists : ∃ other, language.highlight.active other = others := by
    obtain ⟨other, hother⟩ := exists_active_eq_filter h.nodup_names
      fun g => g.name != errorFeature && config.featureEnabled g.name g.level
    exact ⟨other, hother.trans List.filter_filter.symm⟩
  refine ⟨fun pos hlow hhigh => ⟨fun herror => ?_, fun herror => ?_⟩, hexists, fun other hother pos _ _ herror => ?_⟩
  · obtain ⟨other, hother⟩ := hexists
    by_contra hnone
    have hnever : (language.highlight.sweep tree other start stop).1.classificationAt pos ≠ some .error :=
      hlast.classificationAt_ne_error hother
    rw [Table.classificationAt, ← hlast.tag_eq_of_not_unexplained hon hother hnone] at hnever
    exact hnever herror
  · obtain ⟨other, hother⟩ := hexists
    rw [hrange.1] at hlow
    rw [hrange.2] at hhigh
    exact hlast.classificationAt_of_unexplained hon hother ⟨hlow, hhigh⟩ herror
  · exact hlast.tag_eq_of_not_unexplained hon hother herror

/-! ### An assignment with an open bracket -/

/-- The unexplained end of an assignment: a bracket and, unexplained in turn, a number. -/
def openEnd : Node :=
  .mk { type := errorType, start := 4, stop := 6 }
    [.mk { type := "(", start := 4, stop := 5, named := false } [],
      .mk { type := errorType, start := 5, stop := 6 } [.mk { type := "number", start := 5, stop := 6 } []]]

/-- The tree of the assignment. -/
def openTree : Node :=
  .mk { type := "program", start := 0, stop := 6 }
    [.mk { type := "assignment_exp", start := 0, stop := 6 }
      [.mk { type := "identifier", start := 0, stop := 1, field := some "left" } [],
        .mk { type := "=", start := 2, stop := 3, named := false } [], openEnd]]

theorem valid_openTree : openTree.Valid (Source.ofString "x = (1").size := by
  simp only [openTree, openEnd, Node.Valid, Node.ValidAll, Node.Laid]
  decide

/-- The assignment with its tree. -/
def openSnapshot : Snapshot := ⟨openTree, .ofString "x = (1", valid_openTree⟩

/-- What a pass at level 4 says of the assignment. -/
theorem classifications_open :
    [0, 1, 2, 4, 5].map (language.highlight.sweep openSnapshot { level := 4 } none none).1.classificationAt =
      [some .variableDefinition, none, some .operator, some .error, some .error] := by
  decide +kernel

/-- At level 4 the number in the open bracket is an error, and a pass without the feature that marks errors knows the variable as
well. -/
theorem sweep_errors_isolated_open :
    (∃ g ∈ language.highlight.active { level := 4 }, g.name = errorFeature) ∧ Unexplained openSnapshot 5 ∧
      ∃ other, (language.highlight.sweep openSnapshot other none none).1.classificationAt 0 = some .variableDefinition := by
  obtain ⟨hon, hpass⟩ := sweep_errors_isolated builds_language openSnapshot { level := 4 } none none
  obtain ⟨herror, ⟨other, hother⟩, hrest⟩ := hpass (hon.2 rfl)
  have hrange := HighlightRules.range_sweep language.highlight openSnapshot { level := 4 } none none
  have hlow : (language.highlight.sweep openSnapshot { level := 4 } none none).1.base = 0 := hrange.1
  have hhigh : (language.highlight.sweep openSnapshot { level := 4 } none none).1.limit = 6 := hrange.2
  have hsaid := classifications_open
  simp only [List.map_cons, List.map_nil, List.cons.injEq] at hsaid
  have hnone : ¬Unexplained openSnapshot 0 := by
    intro hunexplained
    have := (herror 0 (by omega) (by omega)).2 hunexplained
    rw [hsaid.1] at this
    cases this
  refine ⟨hon.2 rfl, (herror 5 (by omega) (by omega)).1 hsaid.2.2.2.2.1, other, ?_⟩
  rw [Table.classificationAt, ← hrest other hother 0 (by omega) (by omega) hnone]
  exact hsaid.1

end Awk

end AwkEdit
