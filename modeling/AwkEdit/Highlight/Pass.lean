import AwkEdit.Highlight.Rules
import AwkEdit.Highlight.Table
import AwkEdit.Settings.Basic
import AwkEdit.Tree.Snapshot

/-!
# Highlight passes

A pass walks a range of a snapshot once. At each node it tries the rules of the active features that can match a node of that type,
and puts what they match into a bucket for each feature. The buckets are then turned into claims, feature by feature, and the
table takes the claims in order. A rule whose predicate fails at a node matches nothing there, and a composite action whose
secondary pattern fails claims nothing below its node; both are reported.
-/

namespace AwkEdit

/-- A match of a rule. -/
structure Hit where
  rule : HighlightRule
  found : Match

namespace Hit

/-- The claim of a place for a rule, under a label. -/
def claimOf (r : HighlightRule) (label : String) (c : Classification) (p : Place) : Claim :=
  ⟨p.node.start, p.node.stop, ⟨c, r.feature, label⟩, r.override⟩

/-- The label of what a composite action of a rule claims. -/
def compositeLabel (r : HighlightRule) (c : Composite) : String := r.label ++ "/" ++ c.name

/-- The claims of the captures of a secondary match. -/
def secondaryClaims (r : HighlightRule) (c : Composite) (m : Match) : List Claim :=
  m.captures.filterMap fun captured => (c.emits.lookup captured.name).map (claimOf r (compositeLabel r c) · captured.place)

/-- The claims of a composite action at a place. -/
def compositeClaims (source : Source) (r : HighlightRule) (c : Composite) (p : Place) : List Claim × List Event :=
  let own := (c.classification.map (claimOf r (compositeLabel r c) · p)).toList
  match (c.secondary.sweep source p).all with
  | .ok found => (own ++ found.flatMap (secondaryClaims r c), [])
  | .error e => (own, [.compositeSkipped (compositeLabel r c) p.node.type p.node.start e.message])

/-- The claims of a capture of a rule. -/
def captureClaims (source : Source) (r : HighlightRule) (captured : Capture) : List Claim × List Event :=
  match r.actions.lookup captured.name with
  | none => ([], [])
  | some (.emit c) => ([claimOf r r.label c captured.place], [])
  | some (.composite c) => compositeClaims source r c captured.place

/-- The claims of a match, capture by capture. -/
def claims (source : Source) (h : Hit) : List Claim × List Event :=
  let each := h.found.captures.map (captureClaims source h.rule)
  (each.flatMap (·.1), each.flatMap (·.2))

end Hit

namespace HighlightRule

/-- The matches of a rule at a place; none when a predicate fails on the way. -/
def attempt (source : Source) (p : Place) (r : HighlightRule) : List Hit × List Event :=
  match (r.pattern.matchesAt source p).all with
  | .ok found => (found.map (⟨r, ·⟩), [])
  | .error e => ([], [.ruleSkipped r.label p.node.type p.node.start e.message])

end HighlightRule

namespace FeatureGroup

/-- The matches of a feature's rules at a place. -/
def visit (source : Source) (p : Place) (g : FeatureGroup) : List Hit × List Event :=
  let each := (g.dispatch.candidates p.node.type).map (HighlightRule.attempt source p)
  (each.flatMap (·.1), each.flatMap (·.2))

end FeatureGroup

namespace HighlightRules

/-- The features that are on, in order. -/
def active (r : HighlightRules) (config : EngineConfig) : List FeatureGroup :=
  r.groups.filter fun g => config.featureEnabled g.name g.level

/-- The buckets of several features, filled at places one after another, and what is reported on the way. -/
def collect (source : Source) (groups : List FeatureGroup) : List Place → List (List Hit) × List Event
  | [] => (groups.map fun _ => [], [])
  | p :: ps =>
    let here := groups.map (FeatureGroup.visit source p)
    let (buckets, events) := collect source groups ps
    (List.zipWith (· ++ ·) (here.map (·.1)) buckets, here.flatMap (·.2) ++ events)

/-- The first byte of a pass. -/
def lowOf (start : Option Int) : Int := (start.map (max 0)).getD 0

/-- The byte after the last one of a pass. -/
def highOf (source : Source) (stop : Option Int) : Int := (stop.map fun i => min i (source.size : Int)).getD source.size

/-- The table of a pass over a range of a snapshot, and what is reported on the way. -/
def sweep (r : HighlightRules) (tree : Snapshot) (config : EngineConfig) (start stop : Option Int) : Table × List Event :=
  let low := lowOf start
  let high := highOf tree.source stop
  let (buckets, skipped) := collect tree.source (r.active config) (tree.walk (some low) (some high))
  let applied := buckets.flatten.map (Hit.claims tree.source)
  ((Table.empty low (max low high)).claimAll (applied.flatMap (·.1)), skipped ++ applied.flatMap (·.2))

end HighlightRules

end AwkEdit
