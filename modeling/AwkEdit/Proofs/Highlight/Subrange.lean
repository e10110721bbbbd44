import AwkEdit.Proofs.Highlight.Pruning

/-!
# Passes over a part of the text

A pass over a part of the text makes the same claims as a pass over all of it, on a smaller table. A claim is cut to the table, so
a plain claim may be refused on the whole text for a byte that the smaller table does not have. Claims are nested or apart, so a
byte that the whole pass assigns is never left out of the part (`Claim.covered_narrow`), and a plain claim that the part grants and
the whole refuses can only be one of these. Overrides are never refused. Both passes therefore say the same of every byte that none
of these claims covers (`Claim.winner_narrow`).
-/

namespace AwkEdit

namespace Claim

/-! ## Two tables -/

variable {base limit bottom top pos : Int} {c d : Claim} {cs won : List Claim}

/-- Whether a table from `base` to `limit` is part of one from `bottom` to `top`. -/
def Part (base limit bottom top : Int) : Prop := base < limit → bottom ≤ base ∧ limit ≤ top

theorem Covers.widen (hpart : Part base limit bottom top) (h : c.Covers base limit pos) : c.Covers bottom top pos := by
  have := hpart (by simp only [Covers] at h; omega)
  simp only [Covers] at h ⊢
  omega

theorem Touches.widen (hpart : Part base limit bottom top) (h : c.Touches base limit) : c.Touches bottom top := by
  simp only [Touches] at h ⊢
  have := hpart (by omega)
  omega

/-- In a byte of the part a claim covers the same of both tables. -/
theorem covers_part_iff (hpart : Part base limit bottom top) (hpos : base ≤ pos ∧ pos < limit) :
    c.Covers base limit pos ↔ c.Covers bottom top pos := by
  refine ⟨fun h => h.widen hpart, fun h => ⟨h.1, hpos⟩⟩

/-- Whether a plain claim that touches the part is refused in the whole table, after the claims of `won` have succeeded there,
for bytes beside the part alone. -/
def RefusedBeside (base limit bottom top : Int) (won : List Claim) (c : Claim) : Prop :=
  c.override = false ∧ c.Touches base limit ∧ (∀ w ∈ won, ¬c.Meets base limit w) ∧ ∃ w ∈ won, c.Meets bottom top w

/-- Whether that happens to a claim of a sequence when its turn comes. -/
def SomeRefusedBeside (base limit bottom top : Int) (cs : List Claim) : Prop :=
  ∃ before c after, cs = before ++ c :: after ∧ c.RefusedBeside base limit bottom top (successes bottom top before)

/-- Whether it happens to a claim that covers a byte. -/
def SomeRefusedBesideAt (base limit bottom top : Int) (cs : List Claim) (pos : Int) : Prop :=
  ∃ before c after, cs = before ++ c :: after ∧ c.RefusedBeside base limit bottom top (successes bottom top before) ∧
    c.Covers base limit pos

theorem SomeRefusedBesideAt.someRefusedBeside (h : SomeRefusedBesideAt base limit bottom top cs pos) :
    SomeRefusedBeside base limit bottom top cs := by
  obtain ⟨before, c, after, hsplit, hrefused, -⟩ := h
  exact ⟨before, c, after, hsplit, hrefused⟩

/-- A claim that touches a table succeeds unless it is plain and meets a claim that succeeded before. -/
theorem succeeds_iff (h : c.Touches base limit) :
    c.Succeeds base limit won ↔ (c.override = false → ∀ w ∈ won, ¬c.Meets base limit w) := by
  refine (and_iff_right h).trans ?_
  cases c.override <;> simp

/-- Where the part cuts no plain claim, none is refused for bytes beside the part. -/
theorem not_someRefusedBeside_of_uncut
    (h : ∀ c ∈ cs, c.override = false → c.Touches base limit → base ≤ c.start ∧ c.stop ≤ limit) :
    ¬SomeRefusedBeside base limit bottom top cs := by
  rintro ⟨before, c, after, rfl, hplain, htouch, hfree, w, hw, pos, hc, hwc⟩
  have huncut := h c (List.mem_append_right _ List.mem_cons_self) hplain htouch
  have hpos : base ≤ pos ∧ pos < limit := by
    have := hc.1
    omega
  exact hfree w hw ⟨pos, ⟨hc.1, hpos⟩, ⟨hwc.1, hpos⟩⟩

/-! ## Overrides -/

/-- Of the overrides that cover a byte, one comes last. -/
theorem exists_last_override (hc : c ∈ cs) (ho : c.override = true) (hcovers : c.Covers base limit pos) :
    ∃ before d after, cs = before ++ d :: after ∧ d.override = true ∧ d.Covers base limit pos ∧
      ∀ e ∈ after, e.override = true → ¬e.Covers base limit pos := by
  induction cs using List.reverseRecOn with
  | nil => cases hc
  | append_singleton cs e ih =>
    by_cases he : e.override = true ∧ e.Covers base limit pos
    · exact ⟨cs, e, [], rfl, he.1, he.2, by simp⟩
    · rcases List.mem_append.1 hc with hc | hc
      · obtain ⟨before, d, after, rfl, hd, hdcovers, hafter⟩ := ih hc
        refine ⟨before, d, after ++ [e], by simp, hd, hdcovers, fun f hf hfo hfcovers => ?_⟩
        rcases List.mem_append.1 hf with hf | hf
        · exact hafter f hf hfo hfcovers
        · rw [List.mem_singleton.1 hf] at hfo hfcovers
          exact he ⟨hfo, hfcovers⟩
      · rw [List.mem_singleton.1 hc] at ho hcovers
        exact absurd ⟨ho, hcovers⟩ he

/-- A byte that an override covers belongs to the same claim in both tables. -/
theorem winner_override_narrow (hpart : Part base limit bottom top) (hc : c ∈ cs) (ho : c.override = true)
    (hcovers : c.Covers base limit pos) :
    winner base limit pos (successes base limit cs) = winner bottom top pos (successes bottom top cs) := by
  obtain ⟨before, d, after, rfl, hd, hdcovers, hafter⟩ := exists_last_override hc ho hcovers
  have hwide := hdcovers.widen hpart
  rw [winner_of_succeeds before after (succeeds_of_override hd hdcovers _) hdcovers hafter,
    winner_of_succeeds before after (succeeds_of_override hd hwide _) hwide fun e he heo hecovers =>
      hafter e he heo ((covers_part_iff hpart hcovers.2).2 hecovers)]

/-! ## Nested claims -/

/-- Whether one claim lies in another, or no byte lies in both. -/
def NestedOrApart (c d : Claim) : Prop :=
  (c.start ≤ d.start ∧ d.stop ≤ c.stop) ∨ (d.start ≤ c.start ∧ c.stop ≤ d.stop) ∨ c.stop ≤ d.start ∨ d.stop ≤ c.start

theorem meets_self (h : c.Touches base limit) : c.Meets base limit c := by
  rw [Touches] at h
  rw [meets_iff]
  omega

/-- A claim that meets another meets every claim that holds the other. -/
theorem Meets.of_within {w v : Claim} (hw : c.start ≤ w.start ∧ w.stop ≤ c.stop) (h : w.Meets base limit v) :
    c.Meets base limit v := by
  rw [meets_iff] at h ⊢
  omega

/-- A plain claim that touches the table and does not succeed meets a successful one. -/
theorem exists_meets_of_not_succeeds (htouch : c.Touches base limit) (h : ¬c.Succeeds base limit won) :
    c.override = false ∧ ∃ w ∈ won, c.Meets base limit w := by
  rw [succeeds_iff htouch] at h
  push Not at h
  exact h

/-- A claim that succeeds in the part meets one that succeeds in the whole: itself, or the one for which it is refused. -/
theorem exists_meets_of_succeeded (hpart : Part base limit bottom top) (h : c ∈ successes base limit cs) :
    ∃ v ∈ successes bottom top cs, c.Meets bottom top v := by
  obtain ⟨before, after, rfl, hs⟩ := exists_turn h
  have htouch := Touches.widen hpart hs.1
  by_cases hwhole : c.Succeeds bottom top (successes bottom top before)
  · exact ⟨c, mem_successes_of_succeeds hwhole, meets_self htouch⟩
  · obtain ⟨-, v, hv, hmeets⟩ := exists_meets_of_not_succeeds htouch hwhole
    exact ⟨v, mem_successes_append hv, hmeets⟩

/-- When claims are nested or apart, a byte of the part that a successful claim covers in the whole is covered by one in the
part. -/
theorem covered_narrow (hpart : Part base limit bottom top) (hnested : ∀ c ∈ cs, ∀ d ∈ cs, c.NestedOrApart d)
    (hc : c ∈ successes bottom top cs) (hcovers : c.Covers base limit pos) :
    ∃ w ∈ successes base limit cs, w.Covers base limit pos := by
  obtain ⟨before, after, rfl, hwhole⟩ := exists_turn hc
  by_cases hs : c.Succeeds base limit (successes base limit before)
  · exact ⟨c, mem_successes_of_succeeds hs, hcovers⟩
  · -- What is in the way in the part holds the claim: if it lay in the claim, the claim would be refused in the whole.
    obtain ⟨hplain, w, hw, hmeets⟩ := exists_meets_of_not_succeeds (touches_of_covers hcovers) hs
    have hwmem : w ∈ before := mem_of_mem_successes hw
    rcases hnested c (List.mem_append_right _ List.mem_cons_self) w (List.mem_append_left _ hwmem) with hin | hout | hapart
    · obtain ⟨v, hv, hwv⟩ := exists_meets_of_succeeded hpart hw
      exact absurd (hwv.of_within hin) ((succeeds_iff hwhole.1).1 hwhole hplain v hv)
    · refine ⟨w, mem_successes_append hw, ?_⟩
      simp only [Covers] at hcovers ⊢
      omega
    · rw [meets_iff] at hmeets
      omega

/-- When claims are nested or apart, a plain claim that succeeds in the part and not in the whole is refused for bytes beside the
part alone. -/
theorem refusedBeside_of_succeeds (hpart : Part base limit bottom top) (hnested : ∀ c ∈ cs, ∀ d ∈ cs, c.NestedOrApart d)
    (hplain : c.override = false) (hs : c.Succeeds base limit (successes base limit cs))
    (hwhole : ¬c.Succeeds bottom top (successes bottom top cs)) :
    c.RefusedBeside base limit bottom top (successes bottom top cs) := by
  have htouch : c.Touches base limit := hs.1
  refine ⟨hplain, htouch, ?_, (exists_meets_of_not_succeeds (htouch.widen hpart) hwhole).2⟩
  rintro w hw ⟨pos, hc, hwc⟩
  obtain ⟨v, hv, hvc⟩ := covered_narrow hpart hnested hw hwc
  exact (succeeds_iff htouch).1 hs hplain v hv ⟨pos, hc, hvc⟩

/-- Two plain claims that have both succeeded cover no byte together. -/
theorem eq_of_mem_successes (hc : c ∈ successes base limit cs) (hd : d ∈ successes base limit cs) (hcplain : c.override = false)
    (hdplain : d.override = false) (hcpos : c.Covers base limit pos) (hdpos : d.Covers base limit pos) : c = d := by
  induction cs using List.reverseRecOn with
  | nil => cases hc
  | append_singleton cs e ih =>
    rcases mem_successes_concat_iff.1 hc with hcwon | ⟨rfl, hcs⟩ <;> rcases mem_successes_concat_iff.1 hd with hdwon | ⟨rfl, hds⟩
    · exact ih hcwon hdwon
    · exact absurd (override_of_succeeds hds hdpos hcwon hcpos) (by simp [hdplain])
    · exact absurd (override_of_succeeds hcs hcpos hdwon hdpos) (by simp [hcplain])
    · rfl

/-- When claims are nested or apart, a byte belongs to the same claim in both tables unless a claim that covers it is refused for
bytes beside the part alone. -/
theorem winner_narrow (hpart : Part base limit bottom top) (hnested : ∀ c ∈ cs, ∀ d ∈ cs, c.NestedOrApart d)
    (hpos : base ≤ pos ∧ pos < limit) (h : ¬SomeRefusedBesideAt base limit bottom top cs pos) :
    winner base limit pos (successes base limit cs) = winner bottom top pos (successes bottom top cs) := by
  by_cases hover : ∃ c ∈ cs, c.override = true ∧ c.Covers base limit pos
  · obtain ⟨c, hc, ho, hcovers⟩ := hover
    exact winner_override_narrow hpart hc ho hcovers
  have hplain : ∀ c ∈ cs, c.Covers base limit pos → c.override = false := by
    intro c hc hcovers
    by_contra ho
    exact hover ⟨c, hc, by simpa using ho, hcovers⟩
  -- Without overrides each table has one successful claim at most that covers the byte; that of the part succeeds in the whole.
  have hkept : ∀ w ∈ successes base limit cs, w.Covers base limit pos → w ∈ successes bottom top cs := by
    intro w hw hcovers
    have hwplain := hplain w (mem_of_mem_successes hw) hcovers
    obtain ⟨before, after, rfl, hs⟩ := exists_turn hw
    by_contra hmem
    have hfailed : ¬w.Succeeds bottom top (successes bottom top before) := fun hwhole => hmem (mem_successes_of_succeeds hwhole)
    have hearlier : ∀ c ∈ before, ∀ d ∈ before, c.NestedOrApart d := by
      intro c hc d hd
      exact hnested c (List.mem_append_left _ hc) d (List.mem_append_left _ hd)
    exact h ⟨before, w, after, rfl, refusedBeside_of_succeeds hpart hearlier hwplain hs hfailed, hcovers⟩
  cases hwhole : winner bottom top pos (successes bottom top cs) with
  | none =>
    rw [winner_eq_none_iff] at hwhole ⊢
    exact fun w hw hcovers => hwhole w (hkept w hw hcovers) (hcovers.widen hpart)
  | some v =>
    obtain ⟨hv, hvcovers⟩ := mem_of_winner hwhole
    have hvpart := (covers_part_iff hpart hpos).2 hvcovers
    cases hpartial : winner base limit pos (successes base limit cs) with
    | none =>
      obtain ⟨w, hw, hwcovers⟩ := covered_narrow hpart hnested hv hvpart
      exact absurd hwcovers (winner_eq_none_iff.1 hpartial w hw)
    | some w =>
      obtain ⟨hw, hwcovers⟩ := mem_of_winner hpartial
      rw [eq_of_mem_successes (hkept w hw hwcovers) hv (hplain w (mem_of_mem_successes hw) hwcovers)
        (hplain v (mem_of_mem_successes hv) hvpart) (hwcovers.widen hpart) hvcovers]

end Claim

namespace Exhaustive

/-- The claims of a pass over a tree are nested or apart, like the nodes of the tree. -/
theorem nestedOrApart_of_mem_claims {tree : Snapshot} {groups : List FeatureGroup} {c d : Claim}
    (hc : c ∈ claims tree.source groups tree.places) (hd : d ∈ claims tree.source groups tree.places) : c.NestedOrApart d := by
  have hwithin : ∀ c ∈ claims tree.source groups tree.places, Within tree.rootPlace c := by
    intro c hc
    simp only [claims_eq, List.mem_flatMap] at hc
    obtain ⟨g, -, p, hp, hc⟩ := hc
    exact .of_reaches (Snapshot.mem_places_iff.1 hp) (within_of_mem_claimsAt hc)
  obtain ⟨p, hp, hcstart, hcstop⟩ := hwithin c hc
  obtain ⟨q, hq, hdstart, hdstop⟩ := hwithin d hd
  rw [Claim.NestedOrApart, hcstart, hcstop, hdstart, hdstop]
  exact hp.nested hq tree.valid

end Exhaustive

namespace HighlightRules

open Exhaustive

/-- The table of a pass over the whole text ends where the text does. -/
theorem limit_whole (source : Source) : max (lowOf none) (highOf source none) = source.size :=
  Int.max_eq_right (Int.natCast_nonneg _)

/-- The table of a pass over a range is part of the table of a pass over the whole text. -/
theorem part_sweep (start stop : Option Int) (source : Source) :
    Claim.Part (lowOf start) (max (lowOf start) (highOf source stop)) 0 source.size := by
  intro h
  have hlow : 0 ≤ lowOf start := by
    cases start with
    | none => exact Int.le_refl 0
    | some i => exact Int.le_max_left 0 i
  have hhigh : highOf source stop ≤ source.size := by
    cases stop with
    | none => exact Int.le_refl _
    | some i => exact Int.min_le_right i _
  omega

/-- The classification of a byte after a pass. -/
theorem classificationAt_sweep (r : HighlightRules) (tree : Snapshot) (config : EngineConfig) (start stop : Option Int) (pos : Int) :
    (r.sweep tree config start stop).1.classificationAt pos =
      (Claim.winner (lowOf start) (max (lowOf start) (highOf tree.source stop)) pos
        (Claim.successes (lowOf start) (max (lowOf start) (highOf tree.source stop))
          (claims tree.source (r.active config) tree.places))).map (·.tag.classification) := by
  rw [table_sweep, Table.classificationAt_claimAll]

/-- A pass over a range says the same of a byte of the range as the pass over the whole text, unless a plain claim that covers the
byte is refused in the pass over the whole text for bytes beside the range alone. So they say the same of every byte of the range
when no such claim is refused so, and where the range cuts no plain claim, none is. In any case both say the same of a byte that an
override covers, and a byte that the pass over the whole text assigns is assigned. -/
theorem sweep_subrange (r : HighlightRules) (tree : Snapshot) (config : EngineConfig) (start stop : Option Int) :
    let low := lowOf start
    let limit := max low (highOf tree.source stop)
    let cs := claims tree.source (r.active config) (tree.walk none none)
    let part := (r.sweep tree config start stop).1
    let whole := (r.sweep tree config none none).1
    (∀ pos, low ≤ pos → pos < limit → ¬Claim.SomeRefusedBesideAt low limit 0 tree.source.size cs pos →
      part.classificationAt pos = whole.classificationAt pos) ∧
    (¬Claim.SomeRefusedBeside low limit 0 tree.source.size cs →
      ∀ pos, low ≤ pos → pos < limit → part.classificationAt pos = whole.classificationAt pos) ∧
    ((∀ c ∈ cs, c.override = false → c.Touches low limit → low ≤ c.start ∧ c.stop ≤ limit) →
      ∀ pos, low ≤ pos → pos < limit → part.classificationAt pos = whole.classificationAt pos) ∧
    (∀ c ∈ cs, c.override = true → ∀ pos, c.Covers low limit pos → part.classificationAt pos = whole.classificationAt pos) ∧
    (∀ pos, low ≤ pos → pos < limit → whole.classificationAt pos ≠ none → part.classificationAt pos ≠ none) := by
  intro low limit cs part whole
  have hpart : Claim.Part low limit 0 tree.source.size := part_sweep start stop tree.source
  have hpartAt : ∀ pos, part.classificationAt pos =
      (Claim.winner low limit pos (Claim.successes low limit cs)).map (·.tag.classification) :=
    classificationAt_sweep r tree config start stop
  have hwholeAt : ∀ pos, whole.classificationAt pos =
      (Claim.winner 0 tree.source.size pos (Claim.successes 0 tree.source.size cs)).map (·.tag.classification) := by
    have := classificationAt_sweep r tree config none none
    rwa [limit_whole] at this
  have hnested : ∀ c ∈ cs, ∀ d ∈ cs, c.NestedOrApart d := fun c hc d hd => nestedOrApart_of_mem_claims hc hd
  have hagreeAt : ∀ pos, low ≤ pos → pos < limit → ¬Claim.SomeRefusedBesideAt low limit 0 tree.source.size cs pos →
      part.classificationAt pos = whole.classificationAt pos := by
    intro pos hlow hlimit h
    rw [hpartAt, hwholeAt, Claim.winner_narrow hpart hnested ⟨hlow, hlimit⟩ h]
  have hagree : ¬Claim.SomeRefusedBeside low limit 0 tree.source.size cs →
      ∀ pos, low ≤ pos → pos < limit → part.classificationAt pos = whole.classificationAt pos :=
    fun h pos hlow hlimit => hagreeAt pos hlow hlimit fun hat => h hat.someRefusedBeside
  refine ⟨hagreeAt, hagree, fun huncut => hagree (Claim.not_someRefusedBeside_of_uncut huncut),
    fun c hc ho pos hcovers => ?_, fun pos hlow hlimit hassigned => ?_⟩
  · rw [hpartAt, hwholeAt, Claim.winner_override_narrow hpart hc ho hcovers]
  · rw [hwholeAt, ne_eq, Option.map_eq_none_iff, ← ne_eq, Option.ne_none_iff_exists'] at hassigned
    obtain ⟨c, hc⟩ := hassigned
    obtain ⟨hmem, hcovers⟩ := Claim.mem_of_winner hc
    have hpartcovers : c.Covers low limit pos := (Claim.covers_part_iff hpart ⟨hlow, hlimit⟩).2 hcovers
    obtain ⟨w, hw, hwcovers⟩ := Claim.covered_narrow hpart hnested hmem hpartcovers
    rw [hpartAt, ne_eq, Option.map_eq_none_iff, Claim.winner_eq_none_iff]
    exact fun hnone => hnone w hw hwcovers

/-! ### A pair of letters -/

/-- A tree of two letters in a pair. -/
def pairTree : Node :=
  .mk { type := "program", start := 0, stop := 2 }
    [.mk { type := "pair", start := 0, stop := 2 }
      [.mk { type := "left", start := 0, stop := 1 } [], .mk { type := "right", start := 1, stop := 2 } []]]

theorem valid_pairTree : pairTree.Valid (Source.ofString "ab").size := by
  simp only [pairTree, Node.Valid, Node.ValidAll, Node.Laid]
  decide

/-- The letters with their tree. -/
def pairSnapshot : Snapshot := ⟨pairTree, .ofString "ab", valid_pairTree⟩

/-- A feature that classifies the letter on the left, and one that classifies the pair after it. -/
def pairFeatures : List FeatureSpec :=
  [⟨"inner", 1, [⟨.tuple [.text "left", .text "@keyword"], none⟩], false⟩,
    ⟨"outer", 1, [⟨.tuple [.text "pair", .text "@string"], none⟩], false⟩]

theorem isSome_buildPair : (build pairFeatures [] none).2.toOption.isSome = true := by decide +kernel

/-- The rules of these features. -/
def pairRules : HighlightRules := (build pairFeatures [] none).2.toOption.get isSome_buildPair

/-- The letter on the left claims before the pair does. -/
theorem claims_pair :
    claims pairSnapshot.source (pairRules.active {}) (pairSnapshot.walk none none) =
      [⟨0, 1, ⟨.keyword, "inner", "inner#0"⟩, false⟩, ⟨0, 2, ⟨.string, "outer", "outer#1"⟩, false⟩] := by
  decide +kernel

/-- A pass over the first letter says what the pass over the whole text does: it refuses the pair for that letter as well. -/
theorem sweep_subrange_left :
    ¬Claim.SomeRefusedBeside 0 1 0 2 (claims pairSnapshot.source (pairRules.active {}) (pairSnapshot.walk none none)) ∧
      (pairRules.sweep pairSnapshot {} none (some 1)).1.classificationAt 0 = some .keyword ∧
      (pairRules.sweep pairSnapshot {} none none).1.classificationAt 0 = some .keyword := by
  have hnone : ¬Claim.SomeRefusedBeside 0 1 0 2
      (claims pairSnapshot.source (pairRules.active {}) (pairSnapshot.walk none none)) := by
    rw [claims_pair]
    rintro ⟨before, c, after, hsplit, -, -, hfree, w, hw, hmeets⟩
    match before, hsplit with
    | [], hsplit => cases hw
    | [left], hsplit =>
      obtain ⟨rfl, rfl, -⟩ : _ = left ∧ _ = c ∧ _ := by simpa using hsplit
      exact absurd (hfree _ hw) (by revert w; decide)
    | _ :: _ :: _, hsplit => simp at hsplit
  have hwhole : (pairRules.sweep pairSnapshot {} none none).1.classificationAt 0 = some .keyword := by decide +kernel
  have hagree := (sweep_subrange pairRules pairSnapshot {} none (some 1)).2.1 hnone 0 (by decide) (by decide)
  exact ⟨hnone, hagree.trans hwhole, hwhole⟩

/-- The pair is refused in the pass over the whole text, because its first letter is taken, but a pass over the second letter
alone grants it. -/
theorem sweep_subrange_straddled :
    let part := (pairRules.sweep pairSnapshot {} (some 1) (some 2)).1
    let whole := (pairRules.sweep pairSnapshot {} none none).1
    (part.base ≤ 1 ∧ 1 < part.limit) ∧ part.classificationAt 1 = some .string ∧ whole.classificationAt 1 = none := by
  decide +kernel

end HighlightRules

end AwkEdit
