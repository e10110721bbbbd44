import AwkEdit.Highlight.Pass
import AwkEdit.Proofs.Pattern.Dispatch
import AwkEdit.Proofs.Pattern.RootTypes
import Mathlib.Data.List.Perm.Basic

/-!
# The exhaustive pass

A pass as it is described and not as it is carried out: feature by feature, node by node, every rule of the feature is tried
at every node, whatever the type of the node, and what it matches is claimed at once. `sweep_exhaustive` says that a pass that
walks the nodes once, asks an index for the rules to try and puts the matches into buckets makes the same claims in the same
order, and reports the same rules as skipped, if in another order.
-/

namespace AwkEdit

/-- Whether the event reports a rule that was skipped at a node. -/
def Event.isRuleSkipped : Event → Bool
  | ruleSkipped .. => true
  | _ => false

namespace Exhaustive

/-! ## The pass as it is described -/

/-- What an enumeration finds, or nothing when it fails. -/
def found {α : Type} (e : Enumeration TestFailure α) : List α :=
  match e.all with
  | .ok as => as
  | .error _ => []

/-- What is reported of an enumeration: the failure, if it fails. -/
def failed {α : Type} (report : String → Event) (e : Enumeration TestFailure α) : List Event :=
  match e.all with
  | .ok _ => []
  | .error failure => [report failure.message]

/-- The secondary matches of a composite action: those at every node of the subtree, in pre-order, none of which is left out
for its type. -/
def secondary (source : Source) (c : Composite) (p : Place) : Enumeration TestFailure Match :=
  Enumeration.join (c.secondary.bareMatches source) p.subtree

/-- The claim of a node for a rule, under a label. -/
def claimFor (r : HighlightRule) (label : String) (p : Place) (cls : Classification) : Claim :=
  ⟨p.node.start, p.node.stop, ⟨cls, r.feature, label⟩, r.override⟩

/-- The claims of a secondary match, capture by capture. -/
def claimsOfSecondary (r : HighlightRule) (c : Composite) (m : Match) : List Claim :=
  m.captures.flatMap fun captured =>
    ((c.emits.lookup captured.name).map (claimFor r (r.label ++ "/" ++ c.name) captured.place)).toList

/-- The claims of a composite action: its own classification first, and then the captures of its secondary matches. -/
def claimsOfComposite (source : Source) (r : HighlightRule) (c : Composite) (p : Place) : List Claim :=
  (c.classification.map (claimFor r (r.label ++ "/" ++ c.name) p)).toList ++
    (found (secondary source c p)).flatMap (claimsOfSecondary r c)

/-- The claims of a capture. -/
def claimsOfCapture (source : Source) (r : HighlightRule) (captured : Capture) : List Claim :=
  match r.actions.lookup captured.name with
  | none => []
  | some (.emit cls) => [claimFor r r.label captured.place cls]
  | some (.composite c) => claimsOfComposite source r c captured.place

/-- The matches of a rule at a node, whatever the type of the node. -/
def attempt (source : Source) (r : HighlightRule) (p : Place) : Enumeration TestFailure Match := r.pattern.bareMatches source p

/-- The claims of a pass: for each feature, for each node, for each rule of the feature, for each match, for each capture. -/
def claims (source : Source) (groups : List FeatureGroup) (places : List Place) : List Claim :=
  groups.flatMap fun g => places.flatMap fun p => g.rules.flatMap fun r =>
    (found (attempt source r p)).flatMap fun m => m.captures.flatMap (claimsOfCapture source r)

/-- The rules that a pass skips: for each feature, for each node, each rule that fails there. -/
def skips (source : Source) (groups : List FeatureGroup) (places : List Place) : List Event :=
  groups.flatMap fun g => places.flatMap fun p => g.rules.flatMap fun r =>
    failed (.ruleSkipped r.label p.node.type p.node.start) (attempt source r p)

/-- What is reported of a capture: the composite action, if its secondary pattern fails below the node. -/
def breaksOfCapture (source : Source) (r : HighlightRule) (captured : Capture) : List Event :=
  match r.actions.lookup captured.name with
  | some (.composite c) =>
    failed (.compositeSkipped (r.label ++ "/" ++ c.name) captured.place.node.type captured.place.node.start)
      (secondary source c captured.place)
  | _ => []

/-- The composite actions that a pass breaks off, in the order of the claims. -/
def breaks (source : Source) (groups : List FeatureGroup) (places : List Place) : List Event :=
  groups.flatMap fun g => places.flatMap fun p => g.rules.flatMap fun r =>
    (found (attempt source r p)).flatMap fun m => m.captures.flatMap (breaksOfCapture source r)

/-! ## Rules and their claims -/

/-- Sweeping a subtree for a secondary pattern finds what the pattern matches at every node of it. -/
theorem sweep_eq_secondary (source : Source) (c : Composite) (p : Place) :
    c.secondary.sweep source p = secondary source c p := by
  rw [CompiledPattern.sweep, secondary, funext (c.secondary.matchesAt_eq_bareMatches source)]

theorem secondaryClaims_eq (r : HighlightRule) (c : Composite) (m : Match) :
    Hit.secondaryClaims r c m = claimsOfSecondary r c m := by
  rw [Hit.secondaryClaims, List.filterMap_eq_flatMap_toList]
  rfl

theorem captureClaims_eq (source : Source) (r : HighlightRule) (captured : Capture) :
    Hit.captureClaims source r captured = (claimsOfCapture source r captured, breaksOfCapture source r captured) := by
  unfold Hit.captureClaims claimsOfCapture breaksOfCapture
  cases r.actions.lookup captured.name with
  | none => rfl
  | some action =>
    cases action with
    | emit cls => rfl
    | composite c =>
      simp only [Hit.compositeClaims, claimsOfComposite, sweep_eq_secondary, found, failed]
      cases (secondary source c captured.place).all with
      | error e =>
        rw [List.flatMap_nil, List.append_nil]
        rfl
      | ok ms =>
        simp only [funext (secondaryClaims_eq r c)]
        rfl

/-- The claims of a hit are those of its captures. -/
theorem claims_hit (source : Source) (h : Hit) :
    Hit.claims source h =
      (h.found.captures.flatMap (claimsOfCapture source h.rule), h.found.captures.flatMap (breaksOfCapture source h.rule)) := by
  simp only [Hit.claims, List.flatMap_map, captureClaims_eq]

/-- A rule that is tried where the index says so matches what it matches anywhere. -/
theorem attempt_eq (source : Source) (p : Place) (r : HighlightRule) :
    r.attempt source p =
      ((found (attempt source r p)).map (⟨r, ·⟩),
        failed (.ruleSkipped r.label p.node.type p.node.start) (attempt source r p)) := by
  rw [HighlightRule.attempt, CompiledPattern.matchesAt_eq_bareMatches, attempt]
  unfold found failed
  cases (r.pattern.bareMatches source p).all <;> rfl

/-- A rule that the index leaves out at a node would match nothing there and would not fail. -/
theorem attempt_of_not_applies {source : Source} {p : Place} {r : HighlightRule}
    (h : Dispatch.applies (·.pattern.rootTypes) p.node.type r = false) : attempt source r p = .none := by
  refine CompiledPattern.bareMatches_of_not_acceptsType ?_ source
  rw [CompiledPattern.acceptsType_eq]
  exact Bool.eq_false_iff.1 h

/-- Leaving out what contributes nothing changes no list put together from contributions. -/
theorem flatMap_filter_of_nil {α β : Type} {keep : α → Bool} {f : α → List β} (as : List α)
    (h : ∀ a ∈ as, keep a = false → f a = []) : (as.filter keep).flatMap f = as.flatMap f := by
  induction as with
  | nil => rfl
  | cons a as ih =>
    have ih := ih fun b hb => h b (List.mem_cons_of_mem _ hb)
    rw [List.filter_cons, List.flatMap_cons]
    split
    · rw [List.flatMap_cons, ih]
    · rw [ih, h a List.mem_cons_self (Bool.eq_false_iff.2 ‹_›), List.nil_append]

/-- What a feature contributes at a node: the hits and the failures of all its rules. -/
theorem visit_eq (source : Source) (p : Place) (g : FeatureGroup) :
    g.visit source p =
      (g.rules.flatMap fun r => (found (attempt source r p)).map (⟨r, ·⟩),
        g.rules.flatMap fun r => failed (.ruleSkipped r.label p.node.type p.node.start) (attempt source r p)) := by
  have hrules : g.dispatch.candidates p.node.type = g.rules.filter (Dispatch.applies (·.pattern.rootTypes) p.node.type) := by
    rw [g.dispatch_eq, Dispatch.candidates_ofItems]
  simp only [FeatureGroup.visit, hrules, List.flatMap_map, attempt_eq]
  congr 1
  · refine flatMap_filter_of_nil _ fun r _ h => ?_
    rw [attempt_of_not_applies h]
    rfl
  · refine flatMap_filter_of_nil _ fun r _ h => ?_
    rw [attempt_of_not_applies h]
    rfl

/-! ## Buckets -/

/-- The buckets of a pass hold, feature by feature, what the feature contributes at the nodes in order; what is reported goes
node by node. -/
theorem collect_eq (source : Source) (groups : List FeatureGroup) (places : List Place) :
    HighlightRules.collect source groups places =
      (groups.map fun g => places.flatMap fun p => (g.visit source p).1,
        places.flatMap fun p => groups.flatMap fun g => (g.visit source p).2) := by
  induction places with
  | nil => rfl
  | cons p places ih =>
    rw [HighlightRules.collect, ih]
    simp only [List.flatMap_cons, List.map_map, List.flatMap_map, List.zipWith_map, List.zipWith_self, Function.comp_def]

/-- Contributions put together in either order of two loops are the same up to order. -/
theorem flatMap_swap_perm {α β γ : Type} (f : α → β → List γ) (as : List α) (bs : List β) :
    (as.flatMap fun a => bs.flatMap fun b => f a b).Perm (bs.flatMap fun b => as.flatMap fun a => f a b) := by
  induction as with
  | nil => simp
  | cons a as ih =>
    simp only [List.flatMap_cons]
    exact (ih.append_left _).trans (List.flatMap_append_perm bs (f a) fun b => as.flatMap fun a => f a b)

/-- The matches in the buckets, in the order in which they are applied. -/
theorem flatten_buckets (source : Source) (groups : List FeatureGroup) (places : List Place) :
    (HighlightRules.collect source groups places).1.flatten =
      groups.flatMap fun g => places.flatMap fun p => g.rules.flatMap fun r => (found (attempt source r p)).map (⟨r, ·⟩) := by
  rw [collect_eq, ← List.flatMap_def]
  simp only [visit_eq]

/-- The claims of a pass over the buckets are those of the pass as it is described. -/
theorem claims_buckets (source : Source) (groups : List FeatureGroup) (places : List Place) :
    ((HighlightRules.collect source groups places).1.flatten.map (Hit.claims source)).flatMap (·.1) =
      claims source groups places := by
  rw [flatten_buckets, List.flatMap_map, claims]
  simp only [claims_hit, List.flatMap_assoc, List.flatMap_map]

/-- So is what the pass reports of composite actions. -/
theorem breaks_buckets (source : Source) (groups : List FeatureGroup) (places : List Place) :
    ((HighlightRules.collect source groups places).1.flatten.map (Hit.claims source)).flatMap (·.2) =
      breaks source groups places := by
  rw [flatten_buckets, List.flatMap_map, breaks]
  simp only [claims_hit, List.flatMap_assoc, List.flatMap_map]

/-- The rules that a pass skips node by node are those that it would skip feature by feature. -/
theorem skips_collect (source : Source) (groups : List FeatureGroup) (places : List Place) :
    (HighlightRules.collect source groups places).2.Perm (skips source groups places) := by
  rw [collect_eq, skips]
  simp only [visit_eq]
  exact flatMap_swap_perm _ places groups

/-! ## Reports -/

theorem eq_report_of_mem_failed {α : Type} {report : String → Event} {e : Enumeration TestFailure α} {event : Event}
    (h : event ∈ failed report e) : ∃ message, event = report message := by
  unfold failed at h
  split at h
  · cases h
  · exact ⟨_, List.mem_singleton.1 h⟩

theorem isRuleSkipped_of_mem_skips {source : Source} {groups : List FeatureGroup} {places : List Place} {event : Event}
    (h : event ∈ skips source groups places) : event.isRuleSkipped = true := by
  simp only [skips, List.mem_flatMap] at h
  obtain ⟨g, -, p, -, r, -, h⟩ := h
  obtain ⟨message, rfl⟩ := eq_report_of_mem_failed h
  rfl

theorem not_isRuleSkipped_of_mem_breaks {source : Source} {groups : List FeatureGroup} {places : List Place} {event : Event}
    (h : event ∈ breaks source groups places) : event.isRuleSkipped = false := by
  simp only [breaks, List.mem_flatMap] at h
  obtain ⟨g, -, p, -, r, -, m, -, captured, -, h⟩ := h
  unfold breaksOfCapture at h
  split at h
  · obtain ⟨message, rfl⟩ := eq_report_of_mem_failed h
    rfl
  · cases h

end Exhaustive

namespace HighlightRules

open Exhaustive

/-- What a pass does to its table, and what it reports: the rules that are skipped while the buckets are filled, and then the
composite actions that are broken off. -/
theorem sweep_collect (r : HighlightRules) (tree : Snapshot) (config : EngineConfig) (start stop : Option Int) :
    r.sweep tree config start stop =
      ((Table.empty (lowOf start) (max (lowOf start) (highOf tree.source stop))).claimAll
          (claims tree.source (r.active config) (tree.walk (some (lowOf start)) (some (highOf tree.source stop)))),
        (collect tree.source (r.active config) (tree.walk (some (lowOf start)) (some (highOf tree.source stop)))).2 ++
          breaks tree.source (r.active config) (tree.walk (some (lowOf start)) (some (highOf tree.source stop)))) := by
  rw [← claims_buckets, ← breaks_buckets]
  rfl

/-- What a pass does to its table and what it reports, by what the exhaustive pass claims and skips. -/
theorem sweep_eq (r : HighlightRules) (tree : Snapshot) (config : EngineConfig) (start stop : Option Int) :
    ∃ skipped,
      r.sweep tree config start stop =
        ((Table.empty (lowOf start) (max (lowOf start) (highOf tree.source stop))).claimAll
            (claims tree.source (r.active config) (tree.walk (some (lowOf start)) (some (highOf tree.source stop)))),
          skipped ++ breaks tree.source (r.active config) (tree.walk (some (lowOf start)) (some (highOf tree.source stop)))) ∧
      skipped.Perm (skips tree.source (r.active config) (tree.walk (some (lowOf start)) (some (highOf tree.source stop)))) :=
  ⟨_, sweep_collect r tree config start stop, skips_collect _ _ _⟩

/-- A pass reports exactly the assignments of the exhaustive pass: its table is what the claims of the exhaustive pass, one
after another, make of an empty table over the same range. It reports the same rules as skipped, each as often, and the same
composite actions as broken off. -/
theorem sweep_exhaustive (r : HighlightRules) (tree : Snapshot) (config : EngineConfig) (start stop : Option Int) :
    let low := lowOf start
    let high := highOf tree.source stop
    let places := tree.walk (some low) (some high)
    let (table, events) := r.sweep tree config start stop
    table = (Table.empty low (max low high)).claimAll (claims tree.source (r.active config) places) ∧
    table.assignments = ((Table.empty low (max low high)).claimAll (claims tree.source (r.active config) places)).assignments ∧
    (events.filter Event.isRuleSkipped).Perm (skips tree.source (r.active config) places) ∧
    events.filter (!·.isRuleSkipped) = breaks tree.source (r.active config) places := by
  obtain ⟨skipped, hsweep, hperm⟩ := sweep_eq r tree config start stop
  have hskipped : ∀ event ∈ skipped, event.isRuleSkipped = true := fun event h =>
    isRuleSkipped_of_mem_skips (hperm.mem_iff.1 h)
  intro low high places
  rw [hsweep]
  refine ⟨rfl, rfl, ?_, ?_⟩
  · rw [List.filter_append, List.filter_eq_self.2 hskipped, List.filter_eq_nil_iff.2, List.append_nil]
    · exact hperm
    · intro event h
      rw [not_isRuleSkipped_of_mem_breaks h]
      exact Bool.false_ne_true
  · rw [List.filter_append, List.filter_eq_nil_iff.2, List.nil_append, List.filter_eq_self]
    · intro event h
      rw [not_isRuleSkipped_of_mem_breaks h]
      rfl
    · intro event h
      simp [hskipped event h]

end HighlightRules

end AwkEdit
