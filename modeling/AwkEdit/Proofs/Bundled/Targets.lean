import AwkEdit.Proofs.Bundled.Highlighting
import AwkEdit.Proofs.Highlight.Recoloring

/-!
# The targets of assignments

The feature of AWK for assignments overrides: on the left side of an assignment, however deep, it says `variable-definition` of every
identifier that is no builtin variable, and it says nothing else. So where it is the last active feature those identifiers are
variable definitions, whatever earlier features said of them, and of every other byte the pass says what it says without the feature
(`Awk.sweep_targets`).
-/

namespace AwkEdit

namespace Awk

open HighlightRules

/-- The name of the feature for assignments. -/
def assignmentFeature : String := "assignment"

/-- What the feature recolors on the left side of an assignment: the identifiers, but for the builtin variables. -/
def targetRecoloring : Recoloring := ⟨assignmentTarget, "identifier", Vocabulary.builtinVariables, .variableDefinition⟩

/-- The names of the features that come after it. -/
def laterFeatures : List String := ["bracket", "delimiter", "operator", "variable", "error"]

/-- The only rule of the feature recolors the left sides of assignments. -/
theorem assignment_build :
    ((HighlightRules.build features composites none).2.toOption.bind (·.group? assignmentFeature)).map
        (·.rules.map HighlightRule.recolors?) =
      some [some ("assignment_exp", "left", targetRecoloring)] := by
  decide +kernel

/-- The rules of the feature override and recolor the left sides of assignments, and there is one. -/
theorem Builds.assignment {language : Language} (h : Builds language) {g : FeatureGroup} (hg : g ∈ language.highlight.groups)
    (hname : g.name = assignmentFeature) :
    ∃ rule, g.rules = [rule] ∧ rule.override = true ∧ rule.recolors? = some ("assignment_exp", "left", targetRecoloring) := by
  have hfound : language.highlight.group? assignmentFeature = some g := (group?_eq_some_iff h.nodup_names).2 ⟨hg, hname⟩
  have hbuilt := assignment_build
  rw [h.highlight] at hbuilt
  change (language.highlight.group? assignmentFeature).map _ = _ at hbuilt
  rw [hfound, Option.map_some, Option.some_inj] at hbuilt
  obtain ⟨rule, hrule, hrecolors⟩ := List.map_eq_singleton_iff.1 hbuilt
  have hoverride : ∀ line ∈ glance, ∀ entry ∈ line.rules, line.name = assignmentFeature → entry.1 = true := by decide
  exact ⟨rule, hrule, h.forall_rules hoverride hg (by simp [hrule]) hname, hrecolors⟩

/-- The feature is the last active one when it is named and none of the later ones is, or at level 3 when no feature is named. -/
theorem Builds.assignment_last_iff {language : Language} (h : Builds language) (config : EngineConfig) :
    (language.highlight.active config).getLast?.map (·.name) = some assignmentFeature ↔
      match config.enabledFeatures with
      | some names => assignmentFeature ∈ names ∧ ∀ name ∈ laterFeatures, name ∉ names
      | none => config.level = 3 := by
  have hsplit : glance = glance.take 11 ++ ⟨assignmentFeature, 3, [(true, [.variableDefinition])]⟩ :: glance.drop 12 := rfl
  have hglance := h.glance_eq.1
  rw [hsplit, List.map_eq_append_iff] at hglance
  obtain ⟨earlier, rest, hgroups, -, hrest⟩ := hglance
  obtain ⟨g, later, rfl, hg, hlater⟩ := List.map_eq_cons_iff.1 hrest
  obtain ⟨hname, hlevel, -⟩ := Glance.mk.inj hg
  have hoff : (∀ g' ∈ later, config.featureEnabled g'.name g'.level = false) ↔
      ∀ line ∈ glance.drop 12, config.featureEnabled line.name line.level = false := by
    rw [← hlater, List.forall_mem_map]
    rfl
  rw [← hname, getLast?_active_iff hgroups h.nodup_names, hoff, hname, hlevel]
  simp only [EngineConfig.featureEnabled, glance, List.drop_succ_cons, List.drop_zero, laterFeatures]
  cases config.enabledFeatures with
  | some names => simp
  | none =>
    simp only [decide_eq_true_eq, decide_eq_false_iff_not, List.forall_mem_cons, List.not_mem_nil, false_imp_iff, implies_true,
      and_true]
    omega

/-- Any active feature of AWK can be switched off alone. -/
theorem Builds.exists_active_without {language : Language} (h : Builds language) (config : EngineConfig) (name : String) :
    ∃ other, language.highlight.active other = (language.highlight.active config).filter (·.name != name) := by
  obtain ⟨other, hother⟩ := exists_active_eq_filter h.nodup_names fun g => g.name != name && config.featureEnabled g.name g.level
  exact ⟨other, hother.trans List.filter_filter.symm⟩

/-- Whether a byte lies in an identifier, no builtin variable, at or below the left side of an assignment. -/
def Targeted (tree : Snapshot) (pos : Int) : Prop :=
  ∃ p ∈ tree.places, p.node.type = "assignment_exp" ∧ ∃ left ∈ p.children, left.node.field = some "left" ∧
    ∃ q ∈ left.subtree, q.node.type = "identifier" ∧
      tree.source.text q.node.start q.node.stop ∉ Vocabulary.builtinVariables ∧ q.node.start ≤ pos ∧ pos < q.node.stop

instance (tree : Snapshot) (pos : Int) : Decidable (Targeted tree pos) :=
  inferInstanceAs (Decidable (∃ p ∈ tree.places, _ ∧ ∃ left ∈ p.children, _ ∧ ∃ q ∈ left.subtree, _))

section

variable {language : Language} {tree : Snapshot} {config other : EngineConfig} {start stop : Option Int} {pos : Int}
  {g : FeatureGroup}

/-- A byte in the target of an assignment lies in an identifier that is no builtin variable. -/
theorem Targeted.exists_identifier (h : Targeted tree pos) :
    ∃ q ∈ tree.places, q.node.type = "identifier" ∧ q.node.start ≤ pos ∧ pos < q.node.stop ∧
      tree.source.text q.node.start q.node.stop ∉ Vocabulary.builtinVariables := by
  obtain ⟨p, hp, -, left, hleft, -, q, hq, hidentifier, htext, hlow, hhigh⟩ := h
  refine ⟨q, ?_, hidentifier, hlow, hhigh, htext⟩
  rw [Snapshot.mem_places_iff] at hp ⊢
  rw [Place.mem_subtree_iff] at hq
  exact (hp.trans (.child hleft)).trans hq

/-- The feature says something of the bytes in the targets of assignments, and of no others. -/
theorem Builds.overridden_iff_targeted (h : Builds language) (hg : g ∈ language.highlight.groups)
    (hname : g.name = assignmentFeature) : Overridden tree [g] pos ↔ Targeted tree pos := by
  obtain ⟨rule, hrules, hoverride, hrecolors⟩ := h.assignment hg hname
  simp only [Overridden, List.mem_singleton, exists_eq_left, hrules, hoverride, true_and,
    HighlightRule.says_iff_of_recolors? hrecolors, Targeted, Place.mem_subtree_iff]
  constructor
  · rintro ⟨p, hp, q, tag, ⟨htype, ⟨left, hleft, hfield, hreaches⟩, ⟨hidentifier, htext⟩, -⟩, hcovers⟩
    exact ⟨p, hp, htype, left, hleft, hfield, q, hreaches, hidentifier, htext, hcovers⟩
  · rintro ⟨p, hp, htype, left, hleft, hfield, q, hreaches, hidentifier, htext, hcovers⟩
    exact ⟨p, hp, q, _, ⟨htype, ⟨left, hleft, hfield, hreaches⟩, ⟨hidentifier, htext⟩, rfl⟩, hcovers⟩

/-- At the end of other features it makes the targets variable definitions. -/
theorem Builds.classificationAt_of_targeted (h : Builds language) (hg : g ∈ language.highlight.groups)
    (hname : g.name = assignmentFeature) (hactive : language.highlight.active config = language.highlight.active other ++ [g])
    (hpos : lowOf start ≤ pos ∧ pos < max (lowOf start) (highOf tree.source stop)) (htarget : Targeted tree pos) :
    (language.highlight.sweep tree config start stop).1.classificationAt pos = some .variableDefinition := by
  obtain ⟨rule, hrules, -, hrecolors⟩ := h.assignment hg hname
  refine classificationAt_of_overridden hactive hpos ((h.overridden_iff_targeted hg hname).2 htarget) ?_
  simp only [List.mem_singleton, forall_eq, hrules, HighlightRule.says_iff_of_recolors? hrecolors]
  rintro p q tag ⟨-, -, -, rfl⟩
  rfl

/-- At the end of other features it changes nothing else. -/
theorem Builds.tag_eq_of_not_targeted (h : Builds language) (hg : g ∈ language.highlight.groups)
    (hname : g.name = assignmentFeature) (hactive : language.highlight.active config = language.highlight.active other ++ [g])
    (htarget : ¬Targeted tree pos) :
    (language.highlight.sweep tree config start stop).1.tag pos = (language.highlight.sweep tree other start stop).1.tag pos := by
  obtain ⟨rule, hrules, hoverride, -⟩ := h.assignment hg hname
  rw [← h.overridden_iff_targeted hg hname] at htarget
  refine tag_eq_of_overriding hactive ?_ htarget
  simp only [List.mem_singleton, forall_eq, hrules, hoverride]

end

/-- Where the feature for assignments is the last active one, the bytes of the table in the targets of assignments are classified as
variable definitions, and of every other byte the pass says what a pass with the same features but this one says, so of builtin
variables too. The feature is the last one at level 3, and when it is named and none of the later ones is. -/
theorem sweep_targets {language : Language} (h : Builds language) (tree : Snapshot) (config : EngineConfig)
    (start stop : Option Int) :
    ((language.highlight.active config).getLast?.map (·.name) = some assignmentFeature ↔
      match config.enabledFeatures with
      | some names => assignmentFeature ∈ names ∧ ∀ name ∈ laterFeatures, name ∉ names
      | none => config.level = 3) ∧
    ((language.highlight.active config).getLast?.map (·.name) = some assignmentFeature →
      let table := (language.highlight.sweep tree config start stop).1
      let others := (language.highlight.active config).filter (·.name != assignmentFeature)
      (∀ pos, table.base ≤ pos → pos < table.limit → Targeted tree pos →
        table.classificationAt pos = some .variableDefinition) ∧
      (∃ other, language.highlight.active other = others) ∧
      ∀ other, language.highlight.active other = others →
        (∀ pos, ¬Targeted tree pos → table.tag pos = (language.highlight.sweep tree other start stop).1.tag pos) ∧
        ∀ pos, (∀ q ∈ tree.places, q.node.type = "identifier" → q.node.start ≤ pos → pos < q.node.stop →
            tree.source.text q.node.start q.node.stop ∈ Vocabulary.builtinVariables) →
          table.tag pos = (language.highlight.sweep tree other start stop).1.tag pos) := by
  refine ⟨h.assignment_last_iff config, ?_⟩
  intro hnamed table others
  obtain ⟨g, hlast, hname⟩ := Option.map_eq_some_iff.1 hnamed
  have hg : g ∈ language.highlight.groups := List.mem_of_mem_filter (List.mem_of_getLast? hlast)
  have hextends : ∀ other, language.highlight.active other = others →
      language.highlight.active config = language.highlight.active other ++ [g] := by
    intro other hother
    have hactive := active_eq_of_getLast? h.nodup_names hlast
    rw [hname] at hactive
    rw [hother]
    exact hactive
  have hexists : ∃ other, language.highlight.active other = others := h.exists_active_without config assignmentFeature
  refine ⟨?_, hexists, ?_⟩
  · intro pos hlow hhigh htarget
    obtain ⟨other, hother⟩ := hexists
    have hrange := range_sweep language.highlight tree config start stop
    rw [hrange.1] at hlow
    rw [hrange.2] at hhigh
    exact h.classificationAt_of_targeted hg hname (hextends other hother) ⟨hlow, hhigh⟩ htarget
  · intro other hother
    have hkept : ∀ pos, ¬Targeted tree pos → table.tag pos = (language.highlight.sweep tree other start stop).1.tag pos := by
      intro pos htarget
      exact h.tag_eq_of_not_targeted hg hname (hextends other hother) htarget
    refine ⟨hkept, ?_⟩
    intro pos hbuiltin
    apply hkept
    intro htarget
    obtain ⟨q, hq, hidentifier, hlow, hhigh, htext⟩ := htarget.exists_identifier
    exact htext (hbuiltin q hq hidentifier hlow hhigh)

/-! ### An assignment to an element -/

/-- The tree of an assignment to the element of an array that a builtin variable counts. -/
def elementTree : Node :=
  .mk { type := "program", start := 0, stop := 9 }
    [.mk { type := "assignment_exp", start := 0, stop := 9 }
      [.mk { type := "array_ref", start := 0, stop := 5, field := some "left" }
          [.mk { type := "identifier", start := 0, stop := 1 } [], .mk { type := "[", start := 1, stop := 2, named := false } [],
            .mk { type := "identifier", start := 2, stop := 4 } [], .mk { type := "]", start := 4, stop := 5, named := false } []],
        .mk { type := "=", start := 6, stop := 7, named := false } [],
        .mk { type := "number", start := 8, stop := 9, field := some "right" } []]]

/-- The assignment with its tree. -/
def elementSnapshot : Snapshot :=
  ⟨elementTree, .ofString "a[NR] = 1", by
    simp only [elementTree, Node.Valid, Node.ValidAll, Node.Laid]
    decide⟩

/-- What a pass at level 3 says of the assignment. -/
theorem classifications_element :
    [0, 1, 2, 3, 6, 8].map (language.highlight.sweep elementSnapshot { level := 3 } none none).1.classificationAt =
      [some .variableDefinition, none, some .builtinVariable, some .builtinVariable, none, some .number] := by
  decide +kernel

/-- At level 3 the array is defined, and the builtin variable that counts its elements is what it is without the feature. -/
theorem sweep_targets_element :
    (language.highlight.active { level := 3 }).getLast?.map (·.name) = some assignmentFeature ∧
      Targeted elementSnapshot 0 ∧ ¬Targeted elementSnapshot 2 ∧
      (language.highlight.sweep elementSnapshot { level := 3 } none none).1.classificationAt 0 = some .variableDefinition ∧
      ∃ other, (∀ g ∈ language.highlight.active other, g.name ≠ assignmentFeature) ∧
        (language.highlight.sweep elementSnapshot other none none).1.classificationAt 2 = some .builtinVariable := by
  have htarget : Targeted elementSnapshot 0 ∧ ¬Targeted elementSnapshot 2 := by decide +kernel
  obtain ⟨hlast, hpass⟩ := sweep_targets builds_language elementSnapshot { level := 3 } none none
  obtain ⟨htargets, ⟨other, hother⟩, hkept⟩ := hpass (hlast.2 rfl)
  have hrange := range_sweep language.highlight elementSnapshot { level := 3 } none none
  refine ⟨hlast.2 rfl, htarget.1, htarget.2, htargets 0 ?_ ?_ htarget.1, other, fun g hg => ?_, ?_⟩
  · rw [hrange.1]
    decide
  · rw [hrange.2]
    decide
  · rw [hother] at hg
    simpa using (List.mem_filter.1 hg).2
  · have hsaid := classifications_element
    simp only [List.map_cons, List.map_nil, List.cons.injEq] at hsaid
    rw [Table.classificationAt, ← (hkept other hother).1 2 htarget.2]
    exact hsaid.2.2.1

end Awk

end AwkEdit
