import AwkEdit.Proofs.Highlight.Leaves
import Mathlib.Data.List.Nodup

/-!
# Passes with more features

Features that come after others make their claims after all of theirs. Later claims leave no byte unassigned that was assigned, and
they take a byte only by an override that covers it (`Claim.winner_append`). So a pass with more features at the end extends the pass
without them: what it says anew of an assigned byte is said by an override rule of the features that were added. If all their rules
override, they decide alone: a byte that they say something of has what they say (`HighlightRules.classificationAt_of_overridden`), and
every other byte keeps what was said of it (`HighlightRules.tag_eq_of_overriding`).
-/

namespace AwkEdit

namespace Claim

variable {base limit pos : Int} {cs ds : List Claim} {d : Claim}

/-- Later claims leave a byte to whom it belongs, as long as none covers it but plain claims of an assigned byte. -/
theorem winner_append
    (hds : ∀ d ∈ ds, d.Covers base limit pos → d.override = false ∧ winner base limit pos (successes base limit cs) ≠ none) :
    winner base limit pos (successes base limit (cs ++ ds)) = winner base limit pos (successes base limit cs) := by
  induction ds using List.reverseRecOn with
  | nil => rw [List.append_nil]
  | append_singleton ds d ih =>
    have ih := ih fun e he => hds e (List.mem_append_left _ he)
    rw [← List.append_assoc, successes_concat, successStep]
    split
    next hd =>
      have hmissed : ¬d.Covers base limit pos := by
        intro hcovers
        obtain ⟨hplain, hassigned⟩ := hds d (by simp) hcovers
        obtain ⟨w, hw⟩ := Option.ne_none_iff_exists'.1 hassigned
        have howned := mem_of_winner (ih.trans hw)
        have hoverride := override_of_succeeds hd hcovers howned.1 howned.2
        rw [hplain] at hoverride
        cases hoverride
      rw [winner_concat, if_neg hmissed, ih]
    next => exact ih

/-- A byte that a later override covers belongs to one of the later overrides. -/
theorem winner_append_override (cs : List Claim) (hd : d ∈ ds) (ho : d.override = true) (hcovers : d.Covers base limit pos) :
    ∃ e ∈ ds, e.override = true ∧ winner base limit pos (successes base limit (cs ++ ds)) = some e := by
  obtain ⟨before, e, after, rfl, heo, hecovers, hafter⟩ := exists_last_override hd ho hcovers
  refine ⟨e, by simp, heo, ?_⟩
  rw [← List.append_assoc]
  exact winner_of_succeeds (cs ++ before) after (succeeds_of_override heo hecovers _) hecovers hafter

end Claim

namespace HighlightRules

open Exhaustive

variable {r : HighlightRules} {tree : Snapshot} {before after : EngineConfig} {added : List FeatureGroup} {start stop : Option Int}
  {pos : Int}

/-- What is said of a byte after a pass. -/
theorem tag_sweep (r : HighlightRules) (tree : Snapshot) (config : EngineConfig) (start stop : Option Int) (pos : Int) :
    (r.sweep tree config start stop).1.tag pos =
      (Claim.winner (lowOf start) (max (lowOf start) (highOf tree.source stop)) pos
        (Claim.successes (lowOf start) (max (lowOf start) (highOf tree.source stop))
          (claims tree.source (r.active config) tree.places))).map (·.tag) := by
  rw [(records_sweep r tree config start stop).tag_eq, (range_sweep r tree config start stop).1,
    (range_sweep r tree config start stop).2]

/-- The claims of features that come after others are made after theirs. -/
theorem claims_active_append (h : r.active after = r.active before ++ added) :
    claims tree.source (r.active after) tree.places =
      claims tree.source (r.active before) tree.places ++ claims tree.source added tree.places := by
  rw [h, claims_eq, claims_eq, claims_eq, List.flatMap_append]

/-- Whether an override rule of some features says something of a node that the byte lies in. -/
def Overridden (tree : Snapshot) (groups : List FeatureGroup) (pos : Int) : Prop :=
  ∃ g ∈ groups, ∃ rule ∈ g.rules, rule.override = true ∧ ∃ p ∈ tree.places, ∃ q tag, rule.Says tree.source p q tag ∧
    q.node.start ≤ pos ∧ pos < q.node.stop

/-- With more features at the end no byte is left unassigned that was assigned. -/
theorem tag_ne_none_of_extended (h : r.active after = r.active before ++ added)
    (hassigned : (r.sweep tree before start stop).1.tag pos ≠ none) : (r.sweep tree after start stop).1.tag pos ≠ none := by
  rw [tag_sweep, ne_eq, Option.map_eq_none_iff] at hassigned ⊢
  rw [claims_active_append h]
  exact Claim.winner_ne_none_append _ hassigned

/-- With more features at the end a byte keeps what was said of it, when they say something of it by plain rules only and it was
assigned. -/
theorem tag_eq_of_plain (h : r.active after = r.active before ++ added)
    (hplain : ∀ g ∈ added, ∀ rule ∈ g.rules, ∀ p ∈ tree.places, ∀ q tag, rule.Says tree.source p q tag →
      q.node.start ≤ pos → pos < q.node.stop → rule.override = false ∧ (r.sweep tree before start stop).1.tag pos ≠ none) :
    (r.sweep tree after start stop).1.tag pos = (r.sweep tree before start stop).1.tag pos := by
  simp only [tag_sweep, ne_eq, Option.map_eq_none_iff] at hplain
  rw [tag_sweep, tag_sweep, claims_active_append h, Claim.winner_append]
  intro d hd hcovers
  obtain ⟨g, hg, p, hp, rule, hrule, q, tag, hsays, rfl⟩ := mem_claims_iff.1 hd
  exact hplain g hg rule hrule p hp q tag hsays hcovers.1.1 hcovers.1.2

/-- With more features at the end a byte keeps what was said of it, unless one of their override rules says something of it. -/
theorem tag_eq_of_not_overridden (h : r.active after = r.active before ++ added)
    (hassigned : (r.sweep tree before start stop).1.tag pos ≠ none) (hkept : ¬Overridden tree added pos) :
    (r.sweep tree after start stop).1.tag pos = (r.sweep tree before start stop).1.tag pos := by
  refine tag_eq_of_plain h fun g hg rule hrule p hp q tag hsays hlow hhigh => ⟨Bool.eq_false_iff.2 fun ho => hkept ?_, hassigned⟩
  exact ⟨g, hg, rule, hrule, ho, p, hp, q, tag, hsays, hlow, hhigh⟩

/-! ### Features at the end whose rules all override -/

/-- When all rules of the features at the end override, they change nothing of a byte that they say nothing of, assigned or not. -/
theorem tag_eq_of_overriding (h : r.active after = r.active before ++ added)
    (hoverriding : ∀ g ∈ added, ∀ rule ∈ g.rules, rule.override = true) (hkept : ¬Overridden tree added pos) :
    (r.sweep tree after start stop).1.tag pos = (r.sweep tree before start stop).1.tag pos := by
  refine tag_eq_of_plain h fun g hg rule hrule p hp q tag hsays hlow hhigh => absurd ?_ hkept
  exact ⟨g, hg, rule, hrule, hoverriding g hg rule hrule, p, hp, q, tag, hsays, hlow, hhigh⟩

/-- A byte of the table that override rules of the features at the end say something of has what one of them says. -/
theorem exists_tag_of_overridden (h : r.active after = r.active before ++ added)
    (hpos : lowOf start ≤ pos ∧ pos < max (lowOf start) (highOf tree.source stop)) (hoverridden : Overridden tree added pos) :
    ∃ g ∈ added, ∃ rule ∈ g.rules, ∃ p ∈ tree.places, ∃ q tag, rule.Says tree.source p q tag ∧
      (r.sweep tree after start stop).1.tag pos = some tag := by
  obtain ⟨g, hg, rule, hrule, ho, p, hp, q, tag, hsays, hcovers⟩ := hoverridden
  have hclaim : rule.claim q tag ∈ claims tree.source added tree.places :=
    mem_claims_iff.2 ⟨g, hg, p, hp, rule, hrule, q, tag, hsays, rfl⟩
  obtain ⟨e, he, -, hwinner⟩ :=
    Claim.winner_append_override (claims tree.source (r.active before) tree.places) hclaim ho ⟨hcovers, hpos⟩
  obtain ⟨g', hg', p', hp', rule', hrule', q', tag', hsays', rfl⟩ := mem_claims_iff.1 he
  refine ⟨g', hg', rule', hrule', p', hp', q', tag', hsays', ?_⟩
  rw [tag_sweep, claims_active_append h, hwinner]
  rfl

/-- If all that the features at the end can say is one classification, such a byte has it. -/
theorem classificationAt_of_overridden {cls : Classification} (h : r.active after = r.active before ++ added)
    (hpos : lowOf start ≤ pos ∧ pos < max (lowOf start) (highOf tree.source stop)) (hoverridden : Overridden tree added pos)
    (hcls : ∀ g ∈ added, ∀ rule ∈ g.rules, ∀ p q tag, rule.Says tree.source p q tag → tag.classification = cls) :
    (r.sweep tree after start stop).1.classificationAt pos = some cls := by
  obtain ⟨g, hg, rule, hrule, p, -, q, tag, hsaid, htag⟩ := exists_tag_of_overridden h hpos hoverridden
  rw [Table.classificationAt, htag, Option.map_some, hcls g hg rule hrule p q tag hsaid]

/-! ### Features with different names -/

/-- Features with different names are found under their names. -/
theorem group?_eq_some_iff {name : String} {g : FeatureGroup} (hnames : (r.groups.map (·.name)).Nodup) :
    r.group? name = some g ↔ g ∈ r.groups ∧ g.name = name := by
  constructor
  · intro hfound
    exact ⟨List.mem_of_find?_eq_some hfound, by simpa using List.find?_some hfound⟩
  · rintro ⟨hg, rfl⟩
    cases hfound : r.group? g.name with
    | none =>
      have hmissed := List.find?_eq_none.1 hfound g hg
      simp at hmissed
    | some found =>
      have hmem := List.mem_of_find?_eq_some hfound
      have hname : found.name = g.name := by simpa using List.find?_some hfound
      rw [List.inj_on_of_nodup_map hnames hmem hg hname]

/-- Of features with different names the last active one stands after those of other names. -/
theorem active_eq_of_getLast? {config : EngineConfig} {g : FeatureGroup} (hnames : (r.groups.map (·.name)).Nodup)
    (hlast : (r.active config).getLast? = some g) : r.active config = (r.active config).filter (·.name != g.name) ++ [g] := by
  obtain ⟨rest, hrest⟩ := List.getLast?_eq_some_iff.1 hlast
  have hactive : ((r.active config).map (·.name)).Nodup := hnames.sublist (List.filter_sublist.map _)
  rw [hrest, List.map_append, List.map_singleton] at hactive
  have hother : rest.filter (·.name != g.name) = rest := by
    rw [List.filter_eq_self]
    intro g' hg'
    have := (List.nodup_append.1 hactive).2.2 _ (List.mem_map_of_mem hg') _ (List.mem_singleton.2 rfl)
    simpa using this
  rw [hrest, List.filter_append, hother]
  simp

/-- A feature is the last active one when it is on and those after it are off. -/
theorem getLast?_active_iff {config : EngineConfig} {earlier later : List FeatureGroup} {g : FeatureGroup}
    (hgroups : r.groups = earlier ++ g :: later) (hnames : (r.groups.map (·.name)).Nodup) :
    (r.active config).getLast?.map (·.name) = some g.name ↔
      config.featureEnabled g.name g.level = true ∧ ∀ g' ∈ later, config.featureEnabled g'.name g'.level = false := by
  constructor
  · intro hnamed
    obtain ⟨last, hlast, hname⟩ := Option.map_eq_some_iff.1 hnamed
    obtain ⟨hmem, hon⟩ := List.mem_filter.1 (List.mem_of_getLast? hlast)
    obtain rfl : last = g := List.inj_on_of_nodup_map hnames hmem (by simp [hgroups]) hname
    refine ⟨hon, fun g' hg' => Bool.eq_false_iff.2 fun hon' => ?_⟩
    -- If a later feature is on, the last one is one of them.
    have hsome : (later.filter fun g => config.featureEnabled g.name g.level) ≠ [] :=
      List.ne_nil_of_mem (List.mem_filter.2 ⟨hg', hon'⟩)
    rw [active, hgroups, List.filter_append, List.filter_cons, if_pos hon, List.append_cons,
      List.getLast?_append_of_ne_nil _ hsome] at hlast
    have hlater : last ∈ later := List.mem_of_mem_filter (List.mem_of_getLast? hlast)
    rw [hgroups, List.map_append, List.nodup_append, List.map_cons, List.nodup_cons] at hnames
    exact hnames.2.1.1 (List.mem_map_of_mem hlater)
  · rintro ⟨hon, hoff⟩
    have hnone : (later.filter fun g => config.featureEnabled g.name g.level) = [] := by
      rw [List.filter_eq_nil_iff]
      intro g' hg'
      simp [hoff g' hg']
    rw [active, hgroups, List.filter_append, List.filter_cons, if_pos hon, hnone, List.getLast?_concat, Option.map_some]

end HighlightRules

end AwkEdit
