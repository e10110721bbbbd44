import AwkEdit.Proofs.Highlight.Exhaustive
import AwkEdit.Proofs.Highlight.Ownership
import AwkEdit.Proofs.Pattern.Bindings

/-!
# What a pass may leave out

A pass over a range does not walk below nodes that have nothing to do with the range. Nothing is lost that way: what is claimed
at a node lies in the range of the node, however deep the patterns and the composite actions of the rules go
(`Exhaustive.within_of_mem_claimsAt`), a node that touches the table touches it with all nodes above it, and a claim that does not touch
the table changes nothing in it. So the table is the one that the claims at all nodes of the tree make (`sweep_unpruned`).
-/

namespace AwkEdit

/-! ## Claims beside the table -/

/-- Whether some byte of a table from `base` to `limit` lies in the claim. -/
def Claim.Touches (base limit : Int) (c : Claim) : Prop := max c.start base < min c.stop limit

instance (base limit : Int) (c : Claim) : Decidable (c.Touches base limit) :=
  inferInstanceAs (Decidable (max c.start base < min c.stop limit))

theorem Claim.touches_of_covers {base limit pos : Int} {c : Claim} (h : c.Covers base limit pos) : c.Touches base limit := by
  simp only [Covers] at h
  simp only [Touches]
  omega

namespace Table

/-- A claim without a byte in the table leaves the table as it is. -/
theorem claim_of_not_touches {t : Table} {c : Claim} (h : ¬c.Touches t.base t.limit) : (t.claim c).1 = t := by
  rw [claim_eq, if_pos (span_empty_iff.2 h)]

theorem claimAll_cons (t : Table) (c : Claim) (cs : List Claim) : t.claimAll (c :: cs) = (t.claim c).1.claimAll cs := rfl

/-- Claims without a byte in the table may be left out of a sequence. -/
theorem claimAll_filter (t : Table) (cs : List Claim) :
    t.claimAll (cs.filter (·.Touches t.base t.limit)) = t.claimAll cs := by
  induction cs generalizing t with
  | nil => rfl
  | cons c cs ih =>
    rw [List.filter_cons, claimAll_cons]
    split
    next =>
      have ih := ih (t.claim c).1
      rw [(range_claim t c).1, (range_claim t c).2] at ih
      rw [claimAll_cons, ih]
    next h => rw [claim_of_not_touches (by simpa using h), ih t]

end Table

/-! ## Claims at a node -/

namespace Exhaustive

/-- The claims of a feature at a node. -/
def claimsAt (source : Source) (g : FeatureGroup) (p : Place) : List Claim :=
  g.rules.flatMap fun r => (found (attempt source r p)).flatMap fun m => m.captures.flatMap (claimsOfCapture source r)

theorem claims_eq (source : Source) (groups : List FeatureGroup) (places : List Place) :
    claims source groups places = groups.flatMap fun g => places.flatMap (claimsAt source g) := rfl

/-- What counts as found was found. -/
theorem mem_of_mem_found {α : Type} {e : Enumeration TestFailure α} {a : α} (h : a ∈ found e) : a ∈ e.found := by
  unfold found Enumeration.all at h
  split at h
  next heq =>
    split at heq
    · cases heq
    · cases heq
      exact h
  next => cases h

/-- Whether a claim is of the range of a node at or below a place. -/
def Within (p : Place) (c : Claim) : Prop := ∃ q, p.Reaches q ∧ c.start = q.node.start ∧ c.stop = q.node.stop

theorem Within.of_reaches {p q : Place} {c : Claim} (h : p.Reaches q) (hc : Within q c) : Within p c := by
  obtain ⟨q', hq', hrange⟩ := hc
  exact ⟨q', h.trans hq', hrange⟩

theorem within_claimFor (r : HighlightRule) (label : String) (p : Place) (cls : Classification) :
    Within p (claimFor r label p cls) := ⟨p, .refl p, rfl, rfl⟩

/-- A composite action claims nodes at or below the captured one. -/
theorem within_of_mem_claimsOfComposite {source : Source} {r : HighlightRule} {c : Composite} {p : Place} {claim : Claim}
    (h : claim ∈ claimsOfComposite source r c p) : Within p claim := by
  rcases List.mem_append.1 h with h | h
  · obtain ⟨cls, -, rfl⟩ := Option.map_eq_some_iff.1 (Option.mem_toList.1 h)
    exact within_claimFor r _ p cls
  · obtain ⟨m, hm, h⟩ := List.mem_flatMap.1 h
    obtain ⟨captured, hcaptured, h⟩ := List.mem_flatMap.1 h
    obtain ⟨cls, -, rfl⟩ := Option.map_eq_some_iff.1 (Option.mem_toList.1 h)
    rw [← sweep_eq_secondary] at hm
    exact .of_reaches (CompiledPattern.reaches_of_mem_sweep (mem_of_mem_found hm) hcaptured) (within_claimFor r _ _ cls)

theorem within_of_mem_claimsOfCapture {source : Source} {r : HighlightRule} {captured : Capture} {claim : Claim}
    (h : claim ∈ claimsOfCapture source r captured) : Within captured.place claim := by
  unfold claimsOfCapture at h
  split at h
  · cases h
  · rw [List.mem_singleton.1 h]
    exact within_claimFor r _ _ _
  · exact within_of_mem_claimsOfComposite h

/-- What is claimed at a node is the range of a node at or below it. -/
theorem within_of_mem_claimsAt {source : Source} {g : FeatureGroup} {p : Place} {claim : Claim}
    (h : claim ∈ claimsAt source g p) : Within p claim := by
  simp only [claimsAt, List.mem_flatMap] at h
  obtain ⟨r, -, m, hm, captured, hcaptured, h⟩ := h
  rw [attempt, ← CompiledPattern.matchesAt_eq_bareMatches] at hm
  exact .of_reaches (CompiledPattern.reaches_of_mem_matchesAt (mem_of_mem_found hm) hcaptured) (within_of_mem_claimsOfCapture h)

end Exhaustive

/-! ## Nodes beside the table -/

namespace Place

/-- Whether some byte of a table from `base` to `limit` lies in the node. -/
def touches (base limit : Int) (p : Place) : Bool := max p.node.start base < min p.node.stop limit

/-- With a node all nodes above it touch the table. -/
theorem touches_of_reaches {p q : Place} {size : Nat} {base limit : Int} (h : p.Reaches q) (hp : p.node.Valid size)
    (hq : q.touches base limit = true) : p.touches base limit = true := by
  obtain ⟨-, hstart, hstop⟩ := h.range hp
  simp only [touches, decide_eq_true_eq] at hq ⊢
  omega

/-- A pass keeps the nodes that touch its table. -/
theorem meets_of_touches {p : Place} {low high : Int} (h : p.touches low (max low high) = true) :
    p.node.meets low high = true := by
  simp only [touches, decide_eq_true_eq] at h
  simp only [Node.meets]
  split
  · omega
  · simp only [Bool.and_eq_true, decide_eq_true_eq]
    omega

end Place

namespace Exhaustive

/-- A node that does not touch the table claims none of its bytes. -/
theorem not_touches_of_mem_claimsAt {source : Source} {g : FeatureGroup} {p : Place} {claim : Claim} {size : Nat}
    {base limit : Int} (hp : p.node.Valid size) (hoff : p.touches base limit = false) (h : claim ∈ claimsAt source g p) :
    ¬claim.Touches base limit := by
  obtain ⟨q, hreach, hstart, hstop⟩ := within_of_mem_claimsAt h
  intro htouch
  rw [Claim.Touches, hstart, hstop] at htouch
  have := Place.touches_of_reaches hreach hp (decide_eq_true htouch)
  rw [hoff] at this
  cases this

/-- The claims with a byte in the table are made at nodes that touch the table. -/
theorem filter_claims {base limit : Int} {size : Nat} (source : Source) (groups : List FeatureGroup) {places : List Place}
    (hvalid : ∀ p ∈ places, p.node.Valid size) :
    (claims source groups places).filter (·.Touches base limit) =
      (claims source groups (places.filter (·.touches base limit))).filter (·.Touches base limit) := by
  simp only [claims_eq, List.filter_flatMap]
  congr 1
  funext g
  refine (flatMap_filter_of_nil places fun p hp hoff => ?_).symm
  refine List.filter_eq_nil_iff.2 fun claim hclaim => ?_
  simpa using not_touches_of_mem_claimsAt (hvalid p hp) hoff hclaim

end Exhaustive

namespace Snapshot

theorem mem_places_iff {tree : Snapshot} {p : Place} : p ∈ tree.places ↔ tree.rootPlace.Reaches p := Place.mem_subtree_iff

/-- Every node of a snapshot makes sense over its source. -/
theorem valid_of_reaches {tree : Snapshot} {p : Place} (h : tree.rootPlace.Reaches p) : p.node.Valid tree.source.size :=
  (h.range tree.valid).1

/-- The walk over a range comes to all nodes that touch the table over that range, in the order of the whole walk. -/
theorem filter_walk (tree : Snapshot) (low high : Int) :
    (tree.walk (some low) (some high)).filter (·.touches low (max low high)) =
      tree.places.filter (·.touches low (max low high)) :=
  Place.filter_walk fun c _ hc hq hwanted =>
    Place.meets_of_touches (p := c) (Place.touches_of_reaches hq (valid_of_reaches hc) hwanted)

end Snapshot

namespace HighlightRules

open Exhaustive

/-- The table of a pass is what the claims at all nodes of the tree make of an empty table over the range. -/
theorem table_sweep (r : HighlightRules) (tree : Snapshot) (config : EngineConfig) (start stop : Option Int) :
    (r.sweep tree config start stop).1 =
      (Table.empty (lowOf start) (max (lowOf start) (highOf tree.source stop))).claimAll
        (claims tree.source (r.active config) tree.places) := by
  obtain ⟨skipped, hsweep, -⟩ := sweep_eq r tree config start stop
  generalize lowOf start = low, highOf tree.source stop = high at hsweep ⊢
  have hwalked : ∀ p ∈ tree.walk (some low) (some high), p.node.Valid tree.source.size := fun p hp =>
    Snapshot.valid_of_reaches (Place.reaches_of_mem_walk hp)
  have hplaces : ∀ p ∈ tree.places, p.node.Valid tree.source.size := fun p hp =>
    Snapshot.valid_of_reaches (Snapshot.mem_places_iff.1 hp)
  let blank := Table.empty low (max low high)
  calc (r.sweep tree config start stop).1
      = blank.claimAll (claims tree.source (r.active config) (tree.walk (some low) (some high))) := by rw [hsweep]
    _ = blank.claimAll ((claims tree.source (r.active config) (tree.walk (some low) (some high))).filter
          (·.Touches low (max low high))) := (blank.claimAll_filter _).symm
    _ = blank.claimAll ((claims tree.source (r.active config) tree.places).filter (·.Touches low (max low high))) := by
      rw [filter_claims _ _ hwalked, tree.filter_walk, ← filter_claims _ _ hplaces]
    _ = blank.claimAll (claims tree.source (r.active config) tree.places) := blank.claimAll_filter _

/-- The table over a range is what the claims at all nodes of the tree make of an empty table over the range: the nodes that the
pass does not walk claim no byte of it. -/
theorem sweep_unpruned (r : HighlightRules) (tree : Snapshot) (config : EngineConfig) (start stop : Option Int) :
    let low := lowOf start
    let high := highOf tree.source stop
    let whole := (Table.empty low (max low high)).claimAll (claims tree.source (r.active config) (tree.walk none none))
    (r.sweep tree config start stop).1 = whole ∧
    (r.sweep tree config start stop).1.assignments = whole.assignments ∧
    ∀ p ∈ tree.walk none none, p ∉ tree.walk (some low) (some high) →
      ∀ c ∈ claims tree.source (r.active config) [p], ∀ pos, ¬c.Covers low (max low high) pos := by
  intro low high whole
  have hwhole : (r.sweep tree config start stop).1 = whole := table_sweep r tree config start stop
  refine ⟨hwhole, congrArg Table.assignments hwhole, fun p hp hskipped c hc pos hcovers => ?_⟩
  obtain ⟨g, -, hc⟩ := List.mem_flatMap.1 hc
  rw [List.flatMap_singleton] at hc
  have hoff : p.touches low (max low high) = false := by
    refine Bool.eq_false_iff.2 fun htouch => hskipped ?_
    have : p ∈ tree.places.filter (·.touches low (max low high)) := List.mem_filter.2 ⟨hp, htouch⟩
    rw [← tree.filter_walk] at this
    exact List.mem_of_mem_filter this
  exact not_touches_of_mem_claimsAt (Snapshot.valid_of_reaches (Snapshot.mem_places_iff.1 hp)) hoff hc
    (Claim.touches_of_covers hcovers)

end HighlightRules

end AwkEdit
