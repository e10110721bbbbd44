import AwkEdit.Proofs.Highlight.Runs
import AwkEdit.Proofs.Highlight.Says
import AwkEdit.Proofs.Highlight.Subrange

/-!
# Leaves have one owner

A node holds a leaf of its tree or lies apart from it, so a claim covers all bytes that a leaf has in a table or none of them. What
covers all or none of some bytes at every step gives them all to one owner in the end, so no reported assignment begins or ends
inside a leaf. And a claim of the leaf itself is refused only for a claim that has taken the whole leaf before: a leaf of which some
rule says something is assigned as a whole (`HighlightRules.sweep_leaf`).
-/

namespace AwkEdit

/-- A node holds a leaf or lies apart from it. -/
theorem Place.Reaches.holds_leaf {limit : Nat} {p q leaf : Place} (hq : p.Reaches q) (hleaf : p.Reaches leaf)
    (hp : p.node.Valid limit) (hchildless : leaf.node.children = []) :
    (q.node.start ≤ leaf.node.start ∧ leaf.node.stop ≤ q.node.stop) ∨ q.Apart leaf := by
  induction hq with
  | refl p => exact .inl (hleaf.range hp).2
  | @step p c q hc hcq ih =>
    cases hleaf with
    | refl =>
      have hnone := node_mem_of_mem_children hc
      rw [hchildless] at hnone
      cases hnone
    | @step _ d _ hd hleaf =>
      have hcvalid := (hp.child (node_mem_of_mem_children hc)).1
      have hdvalid := (hp.child (node_mem_of_mem_children hd)).1
      by_cases hsame : c = d
      · subst hsame
        exact ih hleaf hcvalid
      · -- Below different children nothing is shared.
        have hapart : c.Apart d := (pairwise_apart hp).forall hc hd hsame
        have hqin := (hcq.range hcvalid).2
        have hleafin := (hleaf.range hdvalid).2
        simp only [Apart] at hapart ⊢
        omega

namespace Claim

variable {base limit start stop pos other : Int} {c : Claim} {cs : List Claim}

/-- Whether the claim holds all the bytes from `start` to before `stop`, or none of them. -/
def HoldsOrMisses (start stop : Int) (c : Claim) : Prop := (c.start ≤ start ∧ stop ≤ c.stop) ∨ c.stop ≤ start ∨ stop ≤ c.start

/-- Of bytes that a claim holds or misses together it covers all that lie in the table, or none. -/
theorem HoldsOrMisses.covers_iff (h : c.HoldsOrMisses start stop) (hpos : start ≤ pos ∧ pos < stop ∧ base ≤ pos ∧ pos < limit)
    (hother : start ≤ other ∧ other < stop ∧ base ≤ other ∧ other < limit) :
    c.Covers base limit pos ↔ c.Covers base limit other := by
  simp only [HoldsOrMisses] at h
  simp only [Covers]
  omega

/-- Bytes that the same claims cover are covered last by the same claim. -/
theorem lastCovering_congr (h : ∀ c ∈ cs, (c.Covers base limit pos ↔ c.Covers base limit other)) :
    lastCovering base limit pos cs = lastCovering base limit other cs := by
  induction cs with
  | nil => rfl
  | cons c cs ih =>
    rw [List.forall_mem_cons] at h
    simp only [lastCovering, ih h.2, h.1]

/-- A claim whose bytes every other claim holds or misses together leaves none of them unassigned: if it does not succeed, the
claim in its way has all of them. -/
theorem exists_success_covers (hc : c ∈ cs) (hwhole : ∀ d ∈ cs, d.HoldsOrMisses c.start c.stop) (hcovers : c.Covers base limit pos) :
    ∃ w ∈ successes base limit cs, w.Covers base limit pos := by
  obtain ⟨before, after, rfl⟩ := List.append_of_mem hc
  by_cases hs : c.Succeeds base limit (successes base limit before)
  · exact ⟨c, mem_successes_of_succeeds hs, hcovers⟩
  · obtain ⟨-, w, hw, met, hmet, hwmet⟩ := exists_meets_of_not_succeeds (touches_of_covers hcovers) hs
    have hwall := hwhole w (List.mem_append_left _ (mem_of_mem_successes hw))
    refine ⟨w, mem_successes_append hw, ?_⟩
    refine (hwall.covers_iff ?_ ?_).1 hwmet
    · exact ⟨hmet.1.1, hmet.1.2, hmet.2⟩
    · exact ⟨hcovers.1.1, hcovers.1.2, hcovers.2⟩

end Claim

namespace HighlightRules

open Exhaustive

/-- The range of the table of a pass. -/
theorem range_sweep (r : HighlightRules) (tree : Snapshot) (config : EngineConfig) (start stop : Option Int) :
    (r.sweep tree config start stop).1.base = lowOf start ∧
      (r.sweep tree config start stop).1.limit = max (lowOf start) (highOf tree.source stop) := by
  rw [table_sweep]
  exact Table.range_claimAll _ _

/-- The table of a pass records the claims at all nodes of the tree that succeed. -/
theorem records_sweep (r : HighlightRules) (tree : Snapshot) (config : EngineConfig) (start stop : Option Int) :
    let table := (r.sweep tree config start stop).1
    table.Records (Claim.successes table.base table.limit (claims tree.source (r.active config) tree.places)) := by
  intro table
  have hrange := range_sweep r tree config start stop
  rw [hrange.1, hrange.2]
  unfold table
  rw [table_sweep]
  exact Table.records_claimAll _ _ _

/-- Every claim of a pass holds a leaf of the tree or misses it. -/
theorem holdsOrMisses_of_mem_claims {tree : Snapshot} {groups : List FeatureGroup} {leaf : Place} (hleaf : leaf ∈ tree.places)
    (hchildless : leaf.node.children = []) {c : Claim} (hc : c ∈ claims tree.source groups tree.places) :
    c.HoldsOrMisses leaf.node.start leaf.node.stop := by
  obtain ⟨g, -, p, hp, r, -, q, tag, hsays, rfl⟩ := mem_claims_iff.1 hc
  have hreach := (Snapshot.mem_places_iff.1 hp).trans hsays.reaches
  exact hreach.holds_leaf (Snapshot.mem_places_iff.1 hleaf) tree.valid hchildless

/-- After a pass all bytes that a leaf has in the table are unassigned or belong to one claim, so that no reported assignment begins
or ends at a place strictly inside both; and when an active rule says something of the leaf, they are all assigned. -/
theorem sweep_leaf (r : HighlightRules) (tree : Snapshot) (config : EngineConfig) (start stop : Option Int) {leaf : Place}
    (hleaf : leaf ∈ tree.places) (hchildless : leaf.node.children = []) :
    let table := (r.sweep tree config start stop).1
    let shared (pos : Int) := leaf.node.start ≤ pos ∧ pos < leaf.node.stop ∧ table.base ≤ pos ∧ pos < table.limit
    ((∀ pos, shared pos → table.owner pos = none) ∨ ∃ k, ∀ pos, shared pos → table.owner pos = some k) ∧
    (∀ a ∈ table.assignments, ∀ edge, edge = a.start ∨ edge = a.stop →
      ¬((leaf.node.start < edge ∧ edge < leaf.node.stop) ∧ table.base < edge ∧ edge < table.limit)) ∧
    (∀ g ∈ r.active config, ∀ rule ∈ g.rules, ∀ p ∈ tree.places, ∀ tag, rule.Says tree.source p leaf tag →
      ∀ pos, shared pos → table.classificationAt pos ≠ none) := by
  intro table shared
  have hrecords := records_sweep r tree config start stop
  have hone : ∀ pos other, shared pos → shared other → table.owner pos = table.owner other := by
    intro pos other hpos hother
    rw [hrecords.owner_eq, hrecords.owner_eq]
    refine Claim.lastCovering_congr fun c hc => ?_
    exact (holdsOrMisses_of_mem_claims hleaf hchildless (Claim.mem_of_mem_successes hc)).covers_iff hpos hother
  refine ⟨?_, ?_, ?_⟩
  · by_cases hnone : ∀ pos, shared pos → table.owner pos = none
    · exact .inl hnone
    · push Not at hnone
      obtain ⟨pos, hpos, howned⟩ := hnone
      obtain ⟨k, hk⟩ := Option.ne_none_iff_exists'.1 howned
      exact .inr ⟨k, fun other hother => (hone other pos hother hpos).trans hk⟩
  · rintro a ha edge hedge ⟨hinleaf, hintable⟩
    obtain ⟨k, -, hbase, hlt, hlimit, howned, hbefore, hafter⟩ := Table.mem_assignments hrecords ha
    -- The owner changes at the edge of an assignment, but not inside the leaf.
    have hsame : table.owner (edge - 1) = table.owner edge := by
      apply hone <;> simp only [shared] <;> omega
    rcases hedge with rfl | rfl
    · apply hbefore hintable.1
      rw [hsame]
      exact howned _ (Int.le_refl _) hlt
    · apply hafter hintable.2
      rw [← hsame]
      exact howned _ (by omega) (by omega)
  · intro g hg rule hrule p hp tag hsays pos hpos
    have hmem : rule.claim leaf tag ∈ claims tree.source (r.active config) tree.places :=
      mem_claims_iff.2 ⟨g, hg, p, hp, rule, hrule, leaf, tag, hsays, rfl⟩
    have hcovers : (rule.claim leaf tag).Covers table.base table.limit pos := ⟨⟨hpos.1, hpos.2.1⟩, hpos.2.2⟩
    obtain ⟨w, hw, hwcovers⟩ := Claim.exists_success_covers hmem
      (fun d hd => holdsOrMisses_of_mem_claims hleaf hchildless hd) hcovers
    rw [Table.classificationAt, hrecords.tag_eq, Option.map_map, ne_eq, Option.map_eq_none_iff, Claim.winner_eq_none_iff]
    exact fun hnone => hnone w hw hwcovers

/-! ### A word cut by the range -/

/-- The word on the left. -/
def leftWord : Node := .mk { type := "left", start := 0, stop := 3 } []

/-- A pair of a word and a letter. -/
def wordPair : Node := .mk { type := "pair", start := 0, stop := 4 } [leftWord, .mk { type := "right", start := 3, stop := 4 } []]

/-- A tree of the pair. -/
def wordTree : Node := .mk { type := "program", start := 0, stop := 4 } [wordPair]

theorem valid_wordTree : wordTree.Valid (Source.ofString "abcd").size := by
  simp only [wordTree, wordPair, leftWord, Node.Valid, Node.ValidAll, Node.Laid]
  decide

/-- The pair with its tree. -/
def wordSnapshot : Snapshot := ⟨wordTree, .ofString "abcd", valid_wordTree⟩

/-- The word in its place. -/
def leftPlace : Place := ⟨leftWord, [(0, wordPair), (0, wordTree)]⟩

theorem leftPlace_mem : leftPlace ∈ wordSnapshot.places :=
  Snapshot.mem_places_iff.2 (.step (c := ⟨wordPair, [(0, wordTree)]⟩) (.head _) (.child (.head _)))

/-- The rule that calls words on the left keywords. -/
def wordRule : HighlightRule :=
  ⟨⟨.node (.type "left") [] ["keyword"], [], some "word#0"⟩, [("keyword", .emit .keyword)], 0, "word", false⟩

/-- The rule that calls pairs strings. -/
def pairRule : HighlightRule :=
  ⟨⟨.node (.type "pair") [] ["string"], [], some "pair#1"⟩, [("string", .emit .string)], 1, "pair", false⟩

/-- The features of these rules, words before pairs. -/
def wordRules : HighlightRules := ⟨[groupOf "word" 1 [wordRule], groupOf "pair" 1 [pairRule]]⟩

theorem wordRule_says : wordRule.Says wordSnapshot.source leftPlace leftPlace ⟨.keyword, "word", "word#0"⟩ :=
  ⟨⟨"keyword", leftPlace⟩, CompiledPattern.binds_bare_iff.2 ⟨by decide, rfl, by decide⟩, .emit rfl⟩

/-- A pass that begins inside the word gives the rest of the word to one claim, whole, and reports no edge inside it. -/
theorem sweep_leaf_word :
    let table := (wordRules.sweep wordSnapshot {} (some 1) none).1
    (leftPlace ∈ wordSnapshot.places ∧ leftPlace.node.children = []) ∧
      (table.owner 1 = some 0 ∧ table.owner 2 = some 0 ∧ table.owner 3 = none) ∧
      (∀ a ∈ table.assignments, a.start ≠ 2 ∧ a.stop ≠ 2) ∧ table.classificationAt 2 ≠ none := by
  intro table
  have hinside : table.base < 2 ∧ 2 < table.limit := by decide +kernel
  obtain ⟨-, hedges, hassigned⟩ := sweep_leaf wordRules wordSnapshot {} (some 1) none leftPlace_mem rfl
  refine ⟨⟨leftPlace_mem, rfl⟩, by decide +kernel, fun a ha => ⟨fun hstart => ?_, fun hstop => ?_⟩, ?_⟩
  · exact hedges a ha 2 (.inl hstart.symm) ⟨by decide, hinside⟩
  · exact hedges a ha 2 (.inr hstop.symm) ⟨by decide, hinside⟩
  · exact hassigned _ (.head _) _ (.head _) _ leftPlace_mem _ wordRule_says 2 ⟨by decide, by decide, Int.le_of_lt hinside.1, hinside.2⟩

end HighlightRules

end AwkEdit
