import AwkEdit.Proofs.Highlight.Report
import AwkEdit.Proofs.Highlight.Subrange

/-!
# Claims that are made twice

A claim keeps two bytes when it succeeds, covers both, and no later override covers one of them (`Claim.Keeps`); the bytes belong
together exactly when some claim keeps both. When a sequence of claims is made a second time, its plain claims find their bytes
taken, and its overrides take their bytes again, each from the override that the same sequence had put in its place. The table then
counts other claims as owners, but the claims keep the same pairs of bytes (`Claim.keeps_replay_iff`), so the report stays the same
(`Table.assignments_replay`).
-/

namespace AwkEdit

namespace Claim

variable {base limit pos other : Int} {c : Claim} {cs ds earlier : List Claim}

/-! ## Bytes that belong together -/

/-- Whether a claim of a sequence succeeds, covers two bytes, and keeps them, as no override after it covers one of them. -/
def Keeps (base limit : Int) (cs : List Claim) (c : Claim) (pos other : Int) : Prop :=
  ∃ before after, cs = before ++ c :: after ∧ c.Succeeds base limit (successes base limit before) ∧
    (c.Covers base limit pos ∧ c.Covers base limit other) ∧
    ∀ d ∈ after, d.override = true → ¬d.Covers base limit pos ∧ ¬d.Covers base limit other

/-- More claims change nothing for the two bytes if no override among them covers one. -/
theorem Keeps.append (h : Keeps base limit cs c pos other)
    (hds : ∀ d ∈ ds, d.override = true → ¬d.Covers base limit pos ∧ ¬d.Covers base limit other) :
    Keeps base limit (cs ++ ds) c pos other := by
  obtain ⟨before, after, rfl, hs, hcovers, hafter⟩ := h
  refine ⟨before, after ++ ds, by simp, hs, hcovers, ?_⟩
  intro d hd ho
  rcases List.mem_append.1 hd with hd | hd
  · exact hafter d hd ho
  · exact hds d hd ho

/-- A claim that keeps a byte owns it, under the number of claims that succeeded before it. -/
theorem lastCovering_of_succeeds (before after : List Claim) (hs : c.Succeeds base limit (successes base limit before))
    (hc : c.Covers base limit pos) (hafter : ∀ d ∈ after, d.override = true → ¬d.Covers base limit pos) :
    lastCovering base limit pos (successes base limit (before ++ c :: after)) = some (successes base limit before).length := by
  induction after using List.reverseRecOn with
  | nil => rw [successes_concat, successStep, if_pos hs, lastCovering_concat, if_pos hc]
  | append_singleton after d ih =>
    have hearlier : ∀ e ∈ after, e.override = true → ¬e.Covers base limit pos := by
      intro e he
      exact hafter e (List.mem_append_left _ he)
    have howned := mem_of_winner (winner_of_succeeds before after hs hc hearlier)
    have ih := ih hearlier
    rw [← List.cons_append, ← List.append_assoc, successes_concat, successStep]
    split
    next hd =>
      have hmissed : ¬d.Covers base limit pos := by
        intro hdc
        exact hafter d (by simp) (override_of_succeeds hd hdc howned.1 howned.2) hdc
      rw [lastCovering_concat, if_neg hmissed]
      exact ih
    next => exact ih

/-- Two bytes have one owner exactly when some claim keeps both. -/
theorem exists_keeps_iff :
    (∃ c, Keeps base limit cs c pos other) ↔
      ∃ k, lastCovering base limit pos (successes base limit cs) = some k ∧
        lastCovering base limit other (successes base limit cs) = some k := by
  constructor
  · rintro ⟨c, before, after, rfl, hs, ⟨hpos, hother⟩, hafter⟩
    refine ⟨(successes base limit before).length, ?_, ?_⟩
    · exact lastCovering_of_succeeds before after hs hpos fun d hd ho => (hafter d hd ho).1
    · exact lastCovering_of_succeeds before after hs hother fun d hd ho => (hafter d hd ho).2
  · rintro ⟨k, hpos, hother⟩
    induction cs using List.reverseRecOn with
    | nil => cases hpos
    | append_singleton cs d ih =>
      rw [successes_concat, successStep] at hpos hother
      split at hpos
      next hd =>
        rw [if_pos hd] at hother
        rw [lastCovering_concat] at hpos hother
        split at hpos
        next hdpos =>
          split at hother
          next hdother => exact ⟨d, cs, [], rfl, hd, ⟨hdpos, hdother⟩, by simp⟩
          next =>
            -- The last claim has a number that no earlier one has.
            have hlt := lastCovering_lt hother
            rw [← Option.some.inj hpos] at hlt
            omega
        next hdpos =>
          split at hother
          next =>
            have hlt := lastCovering_lt hpos
            rw [← Option.some.inj hother] at hlt
            omega
          next hdother =>
            obtain ⟨c, hkeeps⟩ := ih hpos hother
            refine ⟨c, hkeeps.append ?_⟩
            intro e he _
            rw [List.mem_singleton.1 he]
            exact ⟨hdpos, hdother⟩
      next hd =>
        rw [if_neg hd] at hother
        obtain ⟨c, hkeeps⟩ := ih hpos hother
        refine ⟨c, hkeeps.append ?_⟩
        intro e he ho
        rw [List.mem_singleton.1 he] at ho ⊢
        exact ⟨fun hcovers => hd (succeeds_of_override ho hcovers _), fun hcovers => hd (succeeds_of_override ho hcovers _)⟩

/-- A byte belongs to the claim that keeps it. -/
theorem keeps_self_iff : Keeps base limit cs c pos pos ↔ winner base limit pos (successes base limit cs) = some c := by
  have howner : ∀ {d}, Keeps base limit cs d pos pos → winner base limit pos (successes base limit cs) = some d := by
    rintro d ⟨before, after, rfl, hs, ⟨hpos, -⟩, hafter⟩
    exact winner_of_succeeds before after hs hpos fun e he ho => (hafter e he ho).1
  constructor
  · exact howner
  · intro hwinner
    have hnumber := getElem?_lastCovering base limit pos (successes base limit cs)
    rw [hwinner] at hnumber
    obtain ⟨k, hk, -⟩ := Option.bind_eq_some_iff.1 hnumber
    obtain ⟨d, hd⟩ := exists_keeps_iff.2 ⟨k, hk, hk⟩
    have hsame : some d = some c := (howner hd).symm.trans hwinner
    rw [← Option.some.inj hsame]
    exact hd

/-! ## The second time -/

/-- A claim that succeeds although it was made before is an override: either it has taken its bytes the first time, or it was
refused for a claim that still has one of them. -/
theorem override_of_succeeds_again (hc : c ∈ cs) (hs : c.Succeeds base limit (successes base limit (cs ++ ds))) :
    c.override = true := by
  obtain ⟨before, after, rfl⟩ := List.append_of_mem hc
  have htouch : c.Touches base limit := hs.1
  rcases hs.2 with ho | hfree
  · exact ho
  · by_cases hfirst : c.Succeeds base limit (successes base limit before)
    · have hmem : c ∈ successes base limit ((before ++ c :: after) ++ ds) :=
        mem_successes_append (mem_successes_of_succeeds hfirst)
      exact absurd (meets_self htouch) (hfree c hmem)
    · obtain ⟨-, w, hw, hmeets⟩ := exists_meets_of_not_succeeds htouch hfirst
      exact absurd hmeets (hfree w (mem_successes_append (mem_successes_append hw)))

/-- A plain claim that succeeds covers no byte that an override has covered before. -/
theorem not_covers_of_succeeds {d : Claim} (hs : c.Succeeds base limit (successes base limit cs)) (hplain : c.override = false)
    (hc : c.Covers base limit pos) (hd : d ∈ cs) (ho : d.override = true) : ¬d.Covers base limit pos := by
  intro hdc
  obtain ⟨before, e, after, rfl, heo, hec, hafter⟩ := exists_last_override hd ho hdc
  have howned := mem_of_winner (winner_of_succeeds before after (succeeds_of_override heo hec _) hec hafter)
  have hoverride := override_of_succeeds hs hc howned.1 howned.2
  rw [hplain] at hoverride
  cases hoverride

/-- A claim of one sequence followed by another is made in the first or in the second. -/
theorem split_append {before after : List Claim} (h : cs ++ ds = before ++ c :: after) :
    (∃ rest, cs = before ++ c :: rest ∧ after = rest ++ ds) ∨ ∃ first, before = cs ++ first ∧ ds = first ++ c :: after := by
  rcases List.append_eq_append_iff.1 h with hsecond | ⟨rest, hcs, hds⟩
  · exact .inr hsecond
  · rcases List.cons_eq_append_iff.1 hds with ⟨rfl, rfl⟩ | ⟨rest', rfl, hafter⟩
    · rw [List.append_nil] at hcs
      subst hcs
      exact .inr ⟨[], by simp, rfl⟩
    · exact .inl ⟨rest', hcs, hafter⟩

/-- What a claim keeps after claims were made a second time, it kept after the first time. -/
theorem Keeps.of_replay (h : Keeps base limit (earlier ++ cs ++ cs) c pos other) :
    Keeps base limit (earlier ++ cs) c pos other := by
  obtain ⟨before, after, hsplit, hs, hcovers, hafter⟩ := h
  rcases split_append hsplit with ⟨rest, hfirst, rfl⟩ | ⟨again, rfl, hcs⟩
  · refine ⟨before, rest, hfirst, hs, hcovers, ?_⟩
    intro d hd
    exact hafter d (List.mem_append_left _ hd)
  · -- The claim is made for the second time, so it is an override, which succeeds the first time too.
    have hmem : c ∈ earlier ++ cs := by simp [hcs]
    have ho := override_of_succeeds_again hmem hs
    refine ⟨earlier ++ again, after, ?_, succeeds_of_override ho hcovers.1 _, hcovers, hafter⟩
    rw [List.append_assoc, ← hcs]

/-- What a claim keeps, it keeps when the last claims are made a second time, as an override by being made again. -/
theorem Keeps.replay (h : Keeps base limit (earlier ++ cs) c pos other) : Keeps base limit (earlier ++ cs ++ cs) c pos other := by
  obtain ⟨before, after, hsplit, hs, hcovers, hafter⟩ := id h
  rcases split_append hsplit with ⟨rest, -, rfl⟩ | ⟨first, rfl, hcs⟩
  · -- All of the claims that are made again were made after it.
    refine h.append ?_
    intro d hd
    exact hafter d (List.mem_append_right _ hd)
  · by_cases ho : c.override = true
    · refine ⟨earlier ++ cs ++ first, after, ?_, succeeds_of_override ho hcovers.1 _, hcovers, hafter⟩
      rw [List.append_assoc (earlier ++ cs), ← hcs]
    · have hplain := Bool.eq_false_iff.2 ho
      refine h.append ?_
      intro d hd hdo
      rw [hcs, List.mem_append, List.mem_cons] at hd
      rcases hd with hd | rfl | hd
      · have hbefore := List.mem_append_right earlier hd
        exact ⟨not_covers_of_succeeds hs hplain hcovers.1 hbefore hdo, not_covers_of_succeeds hs hplain hcovers.2 hbefore hdo⟩
      · exact absurd hdo ho
      · exact hafter d hd hdo

/-- Claims that are made a second time keep the bytes that they kept the first time, and no others. -/
theorem keeps_replay_iff :
    Keeps base limit (earlier ++ cs ++ cs) c pos other ↔ Keeps base limit (earlier ++ cs) c pos other :=
  ⟨Keeps.of_replay, Keeps.replay⟩

end Claim

namespace Table

variable {start stop pos other : Int} {cs ds : List Claim}

/-- Two bytes have the same owner after a sequence of calls when one claim keeps both, or none keeps either. -/
theorem owner_eq_iff_keeps :
    ((empty start stop).claimAll cs).owner pos = ((empty start stop).claimAll cs).owner other ↔
      (∃ c, Claim.Keeps start stop cs c pos other) ∨
        (∀ c, ¬Claim.Keeps start stop cs c pos pos) ∧ ∀ c, ¬Claim.Keeps start stop cs c other other := by
  obtain ⟨hbase, hlimit⟩ := range_claimAll (empty start stop) cs
  have howner := (records_claimAll start stop cs).owner_eq
  rw [howner, howner, hbase, hlimit]
  have hnone : ∀ i, (∀ c, ¬Claim.Keeps start stop cs c i i) ↔
      Claim.lastCovering start stop i (Claim.successes start stop cs) = none := by
    intro i
    rw [← not_exists, Claim.exists_keeps_iff]
    simp [Option.eq_none_iff_forall_ne_some]
  rw [Claim.exists_keeps_iff, hnone, hnone]
  change Claim.lastCovering start stop pos _ = Claim.lastCovering start stop other _ ↔ _
  cases Claim.lastCovering start stop pos (Claim.successes start stop cs) with
  | none => simp [eq_comm]
  | some k => simp [eq_comm]

/-- Tables after calls that keep the same bytes agree. -/
theorem agrees_of_keeps (h : ∀ c pos other, Claim.Keeps start stop cs c pos other ↔ Claim.Keeps start stop ds c pos other) :
    ((empty start stop).claimAll cs).Agrees ((empty start stop).claimAll ds) where
  base_eq := by rw [(range_claimAll _ cs).1, (range_claimAll _ ds).1]
  limit_eq := by rw [(range_claimAll _ cs).2, (range_claimAll _ ds).2]
  tag_eq pos := by
    have hwinner : Claim.winner start stop pos (Claim.successes start stop cs) =
        Claim.winner start stop pos (Claim.successes start stop ds) := by
      refine Option.ext ?_
      intro c
      rw [← Claim.keeps_self_iff, ← Claim.keeps_self_iff, h]
    have hcs := (records_claimAll start stop cs).tag_eq pos
    have hds := (records_claimAll start stop ds).tag_eq pos
    rw [(range_claimAll _ cs).1, (range_claimAll _ cs).2] at hcs
    rw [(range_claimAll _ ds).1, (range_claimAll _ ds).2] at hds
    rw [hcs, hds]
    exact congrArg _ hwinner
  owner_eq_iff pos other := by
    rw [owner_eq_iff_keeps, owner_eq_iff_keeps]
    simp only [h]

/-- Whatever calls a table has seen, making a sequence of calls on it a second time leaves its report as it is, range for range and
tag for tag. -/
theorem assignments_replay (start stop : Int) (earlier cs : List Claim) :
    let table := (empty start stop).claimAll earlier
    ((table.claimAll cs).claimAll cs).assignments = (table.claimAll cs).assignments := by
  intro table
  have honce : table.claimAll cs = (empty start stop).claimAll (earlier ++ cs) := by
    simp only [table, claimAll, List.foldl_append]
  have htwice : (table.claimAll cs).claimAll cs = (empty start stop).claimAll (earlier ++ cs ++ cs) := by
    simp only [table, claimAll, List.foldl_append]
  rw [htwice, honce]
  refine assignments_congr (records_claimAll _ _ _) (records_claimAll _ _ _) (agrees_of_keeps ?_)
  intro c pos other
  exact Claim.keeps_replay_iff

end Table

end AwkEdit
