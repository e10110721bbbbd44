import AwkEdit.Proofs.Bundled.Highlighting

/-!
# Raising the level

The features of AWK stand in the order of their levels, so the features of a level begin those of a higher one, and a pass at a
higher level extends the pass at a lower one: no byte that was assigned becomes unassigned. What is said of it can change only where
the higher level brings an override. Level 2 brings none, and level 4 brings only the one that marks errors (`Awk.sweep_extended`).
-/

namespace AwkEdit

namespace Awk

open HighlightRules ErrorsLast

/-- Of features in the order of their levels, those up to a level are followed by those up to a higher one. -/
theorem filter_level_append {groups : List FeatureGroup} (hsorted : groups.Pairwise fun a b => a.level ≤ b.level) {low high : Int}
    (hle : low ≤ high) :
    groups.filter (·.level ≤ high) =
      groups.filter (·.level ≤ low) ++ groups.filter (fun g => low < g.level ∧ g.level ≤ high) := by
  induction groups with
  | nil => rfl
  | cons g groups ih =>
    rw [List.pairwise_cons] at hsorted
    by_cases hg : g.level ≤ low
    · have hhigh : g.level ≤ high := Int.le_trans hg hle
      have hlow : ¬low < g.level := Int.not_lt.2 hg
      simp [hg, hhigh, hlow, ih hsorted.2]
    · -- The features after this one are above the lower level too.
      have habove : ∀ g' ∈ g :: groups, low < g'.level := by
        intro g' hg'
        rcases List.mem_cons.1 hg' with rfl | hg'
        · omega
        · have := hsorted.1 g' hg'
          omega
      have hnone : (g :: groups).filter (·.level ≤ low) = [] := by
        rw [List.filter_eq_nil_iff]
        intro g' hg'
        simpa using habove g' hg'
      rw [hnone, List.nil_append]
      refine List.filter_congr fun g' hg' => ?_
      simp [habove g' hg']

/-- The features that a higher level brings. -/
def broughtBy (language : Language) (before after : EngineConfig) : List FeatureGroup :=
  language.highlight.groups.filter fun g => before.level < g.level ∧ g.level ≤ after.level

/-- The features of AWK stand in the order of their levels. -/
theorem Builds.pairwise_level {language : Language} (h : Builds language) :
    language.highlight.groups.Pairwise fun a b => a.level ≤ b.level := by
  have hlevels : (language.highlight.groups.map FeatureGroup.glance).Pairwise fun a b => a.level ≤ b.level := by
    rw [h.glance_eq.1]
    decide
  rwa [List.pairwise_map] at hlevels

/-- The features of a level are those of a lower one and the ones it brings. -/
theorem Builds.active_eq {language : Language} (h : Builds language) {before after : EngineConfig}
    (hbefore : before.enabledFeatures = none) (hafter : after.enabledFeatures = none) (hle : before.level ≤ after.level) :
    language.highlight.active after = language.highlight.active before ++ broughtBy language before after := by
  have hlevel : ∀ config : EngineConfig, config.enabledFeatures = none →
      language.highlight.active config = language.highlight.groups.filter fun g => g.level ≤ (config.level : Int) := by
    intro config hconfig
    refine List.filter_congr fun g _ => ?_
    rw [EngineConfig.featureEnabled, hconfig]
  rw [hlevel after hafter, hlevel before hbefore]
  exact filter_level_append h.pairwise_level (by omega)

/-- Level 2 brings no override. -/
theorem Builds.not_overridden {language : Language} (h : Builds language) {before after : EngineConfig} (hbefore : before.level = 1)
    (hafter : after.level = 2) (tree : Snapshot) (pos : Int) : ¬Overridden tree (broughtBy language before after) pos := by
  rintro ⟨g, hg, rule, hrule, hoverride, -⟩
  obtain ⟨hmem, hbrought⟩ := List.mem_filter.1 hg
  have hlevel : g.level = 2 := by
    rw [decide_eq_true_iff] at hbrought
    omega
  have hplain : ∀ line ∈ glance, ∀ entry ∈ line.rules, line.level = 2 → entry.1 = false := by decide
  have hrule := h.forall_rules hplain hmem hrule hlevel
  rw [hoverride] at hrule
  cases hrule

/-- Level 4 brings overrides of nodes that cover unexplained text only. -/
theorem Builds.unexplained_of_overridden {language : Language} (h : Builds language) {before after : EngineConfig}
    (hbefore : before.level = 3) (hafter : after.level = 4) {tree : Snapshot} {pos : Int}
    (hoverridden : Overridden tree (broughtBy language before after) pos) : Unexplained tree pos := by
  obtain ⟨g, hg, rule, hrule, hoverride, p, hp, q, tag, hsays, hcovers⟩ := hoverridden
  obtain ⟨hmem, hbrought⟩ := List.mem_filter.1 hg
  have hlevel : g.level = 4 := by
    rw [decide_eq_true_iff] at hbrought
    omega
  have hmarks : ∀ line ∈ glance, ∀ entry ∈ line.rules, line.level = 4 → entry.1 = true → line.name = errorFeature := by
    decide
  have hname : g.name = errorFeature := h.forall_rules hmarks hmem hrule hlevel hoverride
  obtain ⟨others, marking, marks, hlast⟩ := h.errorsLast
  rw [hlast.groups_eq, List.mem_append, List.mem_singleton] at hmem
  rcases hmem with hmem | rfl
  · exact absurd hname (hlast.others_name g hmem)
  · rw [hlast.rules_eq, List.mem_singleton] at hrule
    subst hrule
    obtain ⟨rfl, htype, -⟩ := (HighlightRule.says_iff_of_mark? hlast.mark).1 hsays
    exact ⟨q, hp, htype, hcovers⟩

/-- Features added at the end leave no assigned byte unassigned, and what is said of it can change only where one of their override
rules says something. The features of AWK at a higher level extend those at a lower one, so raising the level keeps what is
assigned; from level 1 to 2 nothing that was said changes, and from level 3 to 4 only what was said of unexplained text. -/
theorem sweep_extended :
    (∀ (r : HighlightRules) (before after : EngineConfig) (added : List FeatureGroup),
      r.active after = r.active before ++ added →
      ∀ (tree : Snapshot) (start stop : Option Int) (pos : Int), (r.sweep tree before start stop).1.tag pos ≠ none →
        (r.sweep tree after start stop).1.tag pos ≠ none ∧
        (¬Overridden tree added pos →
          (r.sweep tree after start stop).1.tag pos = (r.sweep tree before start stop).1.tag pos)) ∧
    ∀ language, Builds language → ∀ before after : EngineConfig, before.enabledFeatures = none → after.enabledFeatures = none →
      before.level ≤ after.level →
        language.highlight.active before <+: language.highlight.active after ∧
        ∀ (tree : Snapshot) (start stop : Option Int) (pos : Int),
          (language.highlight.sweep tree before start stop).1.tag pos ≠ none →
            let earlier := (language.highlight.sweep tree before start stop).1.tag pos
            let later := (language.highlight.sweep tree after start stop).1.tag pos
            later ≠ none ∧ (before.level = 1 → after.level = 2 → later = earlier) ∧
              (before.level = 3 → after.level = 4 → later ≠ earlier → Unexplained tree pos) := by
  refine ⟨fun r before after added hadded tree start stop pos hassigned => ?_, ?_⟩
  · exact ⟨tag_ne_none_of_extended hadded hassigned, tag_eq_of_not_overridden hadded hassigned⟩
  · intro language h before after hbefore hafter hle
    have hactive := h.active_eq hbefore hafter hle
    refine ⟨⟨_, hactive.symm⟩, fun tree start stop pos hassigned => ?_⟩
    refine ⟨?_, fun hone htwo => ?_, fun hthree hfour hdiffer => ?_⟩
    · exact tag_ne_none_of_extended hactive hassigned
    · exact tag_eq_of_not_overridden hactive hassigned (h.not_overridden hone htwo tree pos)
    · refine h.unexplained_of_overridden hthree hfour ?_
      by_contra hkept
      exact hdiffer (tag_eq_of_not_overridden hactive hassigned hkept)

/-! ### A note, and the assignment with an open bracket -/

/-- A comment and its tree. -/
def noteSnapshot : Snapshot :=
  ⟨.mk { type := "program", start := 0, stop := 2 } [.mk { type := "comment", start := 0, stop := 2 } []], .ofString "#n", by
    simp only [Node.Valid, Node.ValidAll, Node.Laid]
    decide⟩

/-- What passes at levels 1 and 3 say of the note and of the assignment. -/
theorem tags_note :
    (language.highlight.sweep noteSnapshot { level := 1 } none none).1.classificationAt 0 = some .comment ∧
      (language.highlight.sweep openSnapshot { level := 3 } none none).1.classificationAt 5 = some .number := by
  decide +kernel

/-- At level 2 the note is still a comment. At level 4 the number in the open bracket is still assigned, and that something else is
said of it shows that it is unexplained. -/
theorem sweep_extended_note :
    (language.highlight.sweep noteSnapshot { level := 2 } none none).1.classificationAt 0 = some .comment ∧
      (language.highlight.sweep openSnapshot { level := 4 } none none).1.tag 5 ≠ none ∧ Unexplained openSnapshot 5 := by
  obtain ⟨hextended, hraised⟩ := sweep_extended
  obtain ⟨hnote, hnumber⟩ := tags_note
  have hassigned : ∀ {table : Table} {pos : Int} {said : Classification}, table.classificationAt pos = some said →
      table.tag pos ≠ none := by
    intro table pos said hsaid hnone
    rw [Table.classificationAt, hnone] at hsaid
    cases hsaid
  refine ⟨?_, ?_, ?_⟩
  · have hkept := (hraised language builds_language { level := 1 } { level := 2 } rfl rfl (by decide)).2 noteSnapshot none none 0
      (hassigned hnote)
    rw [Table.classificationAt, hkept.2.1 rfl rfl]
    exact hnote
  · obtain ⟨added, hadded⟩ := (hraised language builds_language { level := 3 } { level := 4 } rfl rfl (by decide)).1
    exact (hextended language.highlight _ _ added hadded.symm openSnapshot none none 5 (hassigned hnumber)).1
  · have hchanged := (hraised language builds_language { level := 3 } { level := 4 } rfl rfl (by decide)).2 openSnapshot none
      none 5 (hassigned hnumber)
    refine hchanged.2.2 rfl rfl fun hsame => ?_
    have hsaid := classifications_open
    simp only [List.map_cons, List.map_nil, List.cons.injEq] at hsaid
    have herror := hsaid.2.2.2.2.1
    rw [Table.classificationAt] at hnumber herror
    rw [hsame, hnumber] at herror
    cases herror

end Awk

end AwkEdit
