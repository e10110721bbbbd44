import AwkEdit.Proofs.Highlight.Exhaustive
import AwkEdit.Proofs.Pattern.Calm

/-!
# Failures stay where they are

A predicate that fails while the matches of a rule at a node are enumerated takes away all matches of that rule at that node, those
found before it included, and nothing else. One that fails while a composite action sweeps the subtree of a node takes away what
the action says of nodes below, but not its own classification of the node. Everything else is as in a pass in which every test
answers, whatever it answers to the texts that it fails on (`sweep_isolated`). Each failure is reported once: those of rules in the
order in which the nodes are walked and the rules tried, and after all of them those of composite actions as they are applied.
-/

namespace AwkEdit

namespace Isolated

open Exhaustive (claimFor claimsOfSecondary)

/-! ## The pass without what fails -/

/-- The matches that a rule has at a place when its tests are calmed, but none where one of them fails. -/
def matchesOf (answers : Answers) (source : Source) (r : HighlightRule) (p : Place) : List Match :=
  if (r.pattern.matchesAt source p).failure.isSome then [] else ((r.pattern.calmed answers).matchesAt source p).found

/-- The matches that a composite action has at and below a place when its tests are calmed, but none where one of them fails. -/
def secondaryOf (answers : Answers) (source : Source) (c : Composite) (p : Place) : List Match :=
  if (c.secondary.sweep source p).failure.isSome then [] else ((c.secondary.calmed answers).sweep source p).found

/-- The claims of a capture: the classification of a composite action stands whether or not its secondary pattern fails. -/
def claimsOf (answers : Answers) (source : Source) (r : HighlightRule) (captured : Capture) : List Claim :=
  match r.actions.lookup captured.name with
  | none => []
  | some (.emit cls) => [claimFor r r.label captured.place cls]
  | some (.composite c) =>
    (c.classification.map (claimFor r (r.label ++ "/" ++ c.name) captured.place)).toList ++
      (secondaryOf answers source c captured.place).flatMap (claimsOfSecondary r c)

/-- The claims of a pass: for each feature, for each node, for each rule of the feature, for each match, for each capture. -/
def claims (answers : Answers) (source : Source) (groups : List FeatureGroup) (places : List Place) : List Claim :=
  groups.flatMap fun g => places.flatMap fun p => g.rules.flatMap fun r =>
    (matchesOf answers source r p).flatMap fun m => m.captures.flatMap (claimsOf answers source r)

/-- The report of a rule that fails at a place. -/
def skip? (source : Source) (p : Place) (r : HighlightRule) : Option Event :=
  (r.pattern.matchesAt source p).failure.map fun e => .ruleSkipped r.label p.node.type p.node.start e.message

/-- The report of a capture with a composite action that fails. -/
def break? (source : Source) (r : HighlightRule) (captured : Capture) : Option Event :=
  match r.actions.lookup captured.name with
  | some (.composite c) =>
    (c.secondary.sweep source captured.place).failure.map fun e =>
      .compositeSkipped (r.label ++ "/" ++ c.name) captured.place.node.type captured.place.node.start e.message
  | _ => none

/-- The reports of rules that fail: for each node, for each feature, for each rule of the feature that fails there, one. -/
def skips (source : Source) (groups : List FeatureGroup) (places : List Place) : List Event :=
  places.flatMap fun p => groups.flatMap fun g => g.rules.filterMap (skip? source p)

/-- The reports of composite actions that fail, one for each capture with such an action, in the order of the claims. -/
def breaks (answers : Answers) (source : Source) (groups : List FeatureGroup) (places : List Place) : List Event :=
  groups.flatMap fun g => places.flatMap fun p => g.rules.flatMap fun r =>
    (matchesOf answers source r p).flatMap fun m => m.captures.filterMap (break? source r)

/-! ## What an enumeration contributes -/

/-- What counts as found is everything, unless something fails. -/
theorem found_eq {α : Type} (e : Enumeration TestFailure α) : Exhaustive.found e = if e.failure.isSome then [] else e.found := by
  unfold Exhaustive.found Enumeration.all
  cases e.failure <;> rfl

/-- The report of an enumeration is that of its failure. -/
theorem failed_eq {α : Type} (report : String → Event) (e : Enumeration TestFailure α) :
    Exhaustive.failed report e = (e.failure.map fun failure => report failure.message).toList := by
  unfold Exhaustive.failed Enumeration.all
  cases e.failure <;> rfl

variable (answers : Answers) (source : Source) (groups : List FeatureGroup) (places : List Place)

/-- A rule contributes the matches of the calmed rule where it does not fail. -/
theorem found_attempt (r : HighlightRule) (p : Place) :
    Exhaustive.found (Exhaustive.attempt source r p) = matchesOf answers source r p := by
  rw [found_eq, Exhaustive.attempt, ← CompiledPattern.matchesAt_eq_bareMatches, matchesOf]
  split
  next => rfl
  next hcalm =>
    rw [CompiledPattern.matchesAt_calmed answers (by simpa using hcalm)]

/-- A composite action contributes the matches of the calmed action where it does not fail. -/
theorem found_secondary (c : Composite) (p : Place) :
    Exhaustive.found (Exhaustive.secondary source c p) = secondaryOf answers source c p := by
  rw [found_eq, ← Exhaustive.sweep_eq_secondary, secondaryOf]
  split
  next => rfl
  next hcalm =>
    rw [CompiledPattern.sweep_calmed answers (by simpa using hcalm)]

theorem claimsOfCapture_eq (r : HighlightRule) (captured : Capture) :
    Exhaustive.claimsOfCapture source r captured = claimsOf answers source r captured := by
  unfold Exhaustive.claimsOfCapture claimsOf
  cases r.actions.lookup captured.name with
  | none => rfl
  | some action =>
    cases action with
    | emit cls => rfl
    | composite c => simp only [Exhaustive.claimsOfComposite, found_secondary answers]

theorem breaksOfCapture_eq (r : HighlightRule) (captured : Capture) :
    Exhaustive.breaksOfCapture source r captured = (break? source r captured).toList := by
  unfold Exhaustive.breaksOfCapture break?
  cases r.actions.lookup captured.name with
  | none => rfl
  | some action =>
    cases action with
    | emit cls => rfl
    | composite c => simp only [failed_eq, ← Exhaustive.sweep_eq_secondary]

/-! ## Passes -/

/-- The claims of a pass are those of the pass without what fails. -/
theorem claims_exhaustive : Exhaustive.claims source groups places = claims answers source groups places := by
  simp only [Exhaustive.claims, claims, found_attempt answers, funext (claimsOfCapture_eq answers source _)]

/-- So are the composite actions that it breaks off. -/
theorem breaks_exhaustive : Exhaustive.breaks source groups places = breaks answers source groups places := by
  simp only [Exhaustive.breaks, breaks, found_attempt answers, funext (breaksOfCapture_eq source _),
    List.filterMap_eq_flatMap_toList]

/-- The rules that a pass skips while it fills its buckets are reported node by node. -/
theorem skips_collect : (HighlightRules.collect source groups places).2 = skips source groups places := by
  rw [Exhaustive.collect_eq, skips]
  simp only [Exhaustive.visit_eq, failed_eq, Exhaustive.attempt, ← CompiledPattern.matchesAt_eq_bareMatches]
  simp only [List.filterMap_eq_flatMap_toList, skip?]

end Isolated

namespace HighlightRules

open Isolated

/-- Whatever tests fail, a pass makes the claims of the pass in which every test answers, so that no pattern fails, but those of a
rule at a node where it fails and those of a composite action for what is below a node where it fails; its table is what these make
of an empty table over the range, and there is such a table. It reports each rule at each node where it fails once, node by node,
feature by feature and rule by rule, and then each composite action that fails once, in the order of the claims. -/
theorem sweep_isolated (r : HighlightRules) (tree : Snapshot) (config : EngineConfig) (start stop : Option Int)
    (answers : Answers) :
    let low := lowOf start
    let high := highOf tree.source stop
    let groups := r.active config
    let places := tree.walk (some low) (some high)
    (r.sweep tree config start stop).1 = (Table.empty low (max low high)).claimAll (claims answers tree.source groups places) ∧
      (∀ a b, Table.blank low (max low high) ≠ .error (.reversed a b)) ∧
      (r.sweep tree config start stop).2 = skips tree.source groups places ++ breaks answers tree.source groups places ∧
      ∀ (p : CompiledPattern) (place : Place), ((p.calmed answers).matchesAt tree.source place).failure = none ∧
        ((p.calmed answers).sweep tree.source place).failure = none := by
  intro low high groups places
  have hsweep := sweep_collect r tree config start stop
  refine ⟨?_, fun a b hblank => ?_, ?_, fun p place => ?_⟩
  · rw [hsweep, claims_exhaustive answers]
  · have hordered : ¬max low high < low := by omega
    rw [Table.blank, if_neg hordered] at hblank
    split at hblank <;> simp at hblank
  · rw [hsweep, skips_collect, breaks_exhaustive answers]
  · exact ⟨p.failure_matchesAt_calmed answers tree.source place, p.failure_sweep_calmed answers tree.source place⟩

end HighlightRules

end AwkEdit
