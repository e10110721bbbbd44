import AwkEdit.Highlight.Table
import Mathlib.Data.List.Induction

/-!
# Who owns a byte

A claim succeeds after others when some byte of the table lies in it and, unless it is an override, no byte of it was taken by
a claim that succeeded before. The successful claims of a sequence decide what a table says: `Table.Records` relates a table
to them, one call keeps the relation (`records_claim`), and so a byte belongs to the last successful claim that covers it.
-/

namespace AwkEdit

/-! ## Successful claims -/

namespace Claim

/-- Whether a byte lies in the claim and in a table from `base` to `limit`. -/
def Covers (base limit pos : Int) (c : Claim) : Prop := (c.start ≤ pos ∧ pos < c.stop) ∧ base ≤ pos ∧ pos < limit

instance (base limit pos : Int) (c : Claim) : Decidable (c.Covers base limit pos) :=
  inferInstanceAs (Decidable ((c.start ≤ pos ∧ pos < c.stop) ∧ base ≤ pos ∧ pos < limit))

/-- Whether a byte lies in both claims and in a table from `base` to `limit`. -/
def Meets (base limit : Int) (c d : Claim) : Prop := ∃ pos, c.Covers base limit pos ∧ d.Covers base limit pos

/-- Two claims meet in a table when the later start lies before the earlier end. -/
theorem meets_iff {base limit : Int} {c d : Claim} :
    c.Meets base limit d ↔ max (max c.start d.start) base < min (min c.stop d.stop) limit := by
  constructor
  · rintro ⟨pos, hc, hd⟩
    simp only [Covers] at hc hd
    omega
  · intro h
    refine ⟨max (max c.start d.start) base, ?_, ?_⟩ <;> simp only [Covers] <;> omega

instance (base limit : Int) (c d : Claim) : Decidable (c.Meets base limit d) := decidable_of_iff _ meets_iff.symm

/-- Whether a claim succeeds in a table from `base` to `limit` after the claims of `won` have: a byte of the table lies in it,
and it is an override or none of its bytes lies in one of them. -/
def Succeeds (base limit : Int) (won : List Claim) (c : Claim) : Prop :=
  max c.start base < min c.stop limit ∧ (c.override = true ∨ ∀ w ∈ won, ¬c.Meets base limit w)

instance (base limit : Int) (won : List Claim) (c : Claim) : Decidable (c.Succeeds base limit won) :=
  inferInstanceAs (Decidable (max c.start base < min c.stop limit ∧ (c.override = true ∨ ∀ w ∈ won, ¬c.Meets base limit w)))

/-- The successful claims, after those of `won`, when one more claim is made. -/
def successStep (base limit : Int) (won : List Claim) (c : Claim) : List Claim :=
  if c.Succeeds base limit won then won ++ [c] else won

/-- The successful claims of a sequence, in order. -/
def successes (base limit : Int) (cs : List Claim) : List Claim := cs.foldl (successStep base limit) []

theorem successes_concat (base limit : Int) (cs : List Claim) (c : Claim) :
    successes base limit (cs ++ [c]) = successStep base limit (successes base limit cs) c := by
  simp [successes]

/-- What succeeded stays: the successful claims of a longer sequence start with those of a shorter one. -/
theorem successes_mono (base limit : Int) (cs ds : List Claim) :
    successes base limit cs <+: successes base limit (cs ++ ds) := by
  induction ds using List.reverseRecOn with
  | nil => exact (List.append_nil cs).symm ▸ List.prefix_rfl
  | append_singleton ds d ih =>
    rw [← List.append_assoc, successes_concat, successStep]
    split
    · exact ih.trans (List.prefix_append _ _)
    · exact ih

section

variable {base limit : Int} {c d : Claim} {cs ds before after : List Claim}

/-- A successful claim stays one when more claims are made. -/
theorem mem_successes_append (h : c ∈ successes base limit cs) : c ∈ successes base limit (cs ++ ds) :=
  (successes_mono base limit cs ds).subset h

/-- The successful claims after one more claim: those before it, and the claim if it succeeds. -/
theorem mem_successes_concat_iff :
    c ∈ successes base limit (cs ++ [d]) ↔
      c ∈ successes base limit cs ∨ c = d ∧ d.Succeeds base limit (successes base limit cs) := by
  rw [successes_concat, successStep]
  split
  next hd => rw [List.mem_append, List.mem_singleton, and_iff_left hd]
  next hd => rw [or_iff_left fun h => hd h.2]

/-- A claim that succeeds when its turn comes is one of the successful claims. -/
theorem mem_successes_of_succeeds (h : c.Succeeds base limit (successes base limit before)) :
    c ∈ successes base limit (before ++ c :: after) := by
  have hmem : c ∈ successes base limit ((before ++ [c]) ++ after) :=
    mem_successes_append (mem_successes_concat_iff.2 (.inr ⟨rfl, h⟩))
  rwa [List.append_assoc] at hmem

/-- A successful claim succeeded when its turn came. -/
theorem exists_turn (h : c ∈ successes base limit cs) :
    ∃ before after, cs = before ++ c :: after ∧ c.Succeeds base limit (successes base limit before) := by
  induction cs using List.reverseRecOn with
  | nil => cases h
  | append_singleton cs d ih =>
    rcases mem_successes_concat_iff.1 h with h | ⟨rfl, hs⟩
    · obtain ⟨before, after, rfl, hs⟩ := ih h
      exact ⟨before, after ++ [d], by simp, hs⟩
    · exact ⟨cs, [], rfl, hs⟩

theorem mem_of_mem_successes (h : c ∈ successes base limit cs) : c ∈ cs := by
  obtain ⟨before, after, rfl, -⟩ := exists_turn h
  exact List.mem_append_right _ List.mem_cons_self

end

/-! ## The last claim that covers a byte -/

/-- The number of the last of several claims that covers a byte. -/
def lastCovering (base limit pos : Int) : List Claim → Option Nat
  | [] => none
  | c :: cs => ((lastCovering base limit pos cs).map (· + 1)).or (if c.Covers base limit pos then some 0 else none)

/-- A claim made last covers its bytes last, and changes nothing for the others. -/
theorem lastCovering_concat (base limit pos : Int) (cs : List Claim) (c : Claim) :
    lastCovering base limit pos (cs ++ [c]) =
      if c.Covers base limit pos then some cs.length else lastCovering base limit pos cs := by
  induction cs with
  | nil => simp [lastCovering]
  | cons d cs ih =>
    rw [List.cons_append, lastCovering, ih, lastCovering, List.length_cons]
    split <;> rfl

theorem lastCovering_lt {base limit pos : Int} {cs : List Claim} {k : Nat} (h : lastCovering base limit pos cs = some k) :
    k < cs.length := by
  induction cs using List.reverseRecOn with
  | nil => simp [lastCovering] at h
  | append_singleton cs c ih =>
    rw [lastCovering_concat] at h
    rw [List.length_append, List.length_singleton]
    split at h
    · cases h
      omega
    · have := ih h
      omega

theorem lastCovering_eq_none_iff {base limit pos : Int} {cs : List Claim} :
    lastCovering base limit pos cs = none ↔ ∀ c ∈ cs, ¬c.Covers base limit pos := by
  induction cs with
  | nil => simp [lastCovering]
  | cons c cs ih => by_cases h : c.Covers base limit pos <;> simp [lastCovering, ih, h]

/-- The last claim that covers a byte. -/
def winner (base limit pos : Int) (won : List Claim) : Option Claim := won.findRev? (·.Covers base limit pos)

theorem winner_concat (base limit pos : Int) (cs : List Claim) (c : Claim) :
    winner base limit pos (cs ++ [c]) = if c.Covers base limit pos then some c else winner base limit pos cs := by
  simp only [winner, List.findRev?_eq_find?_reverse, List.reverse_append, List.reverse_singleton, List.singleton_append,
    List.find?_cons]
  split <;> simp_all

/-- The claim of the last number is the last claim. -/
theorem getElem?_lastCovering (base limit pos : Int) (won : List Claim) :
    (lastCovering base limit pos won).bind (won[·]?) = winner base limit pos won := by
  induction won using List.reverseRecOn with
  | nil => rfl
  | append_singleton won c ih =>
    rw [lastCovering_concat, winner_concat, ← ih]
    split
    · simp
    · cases h : lastCovering base limit pos won with
      | none => rfl
      | some k =>
        exact List.getElem?_append_left (lastCovering_lt h)

/-- The last claim that covers a byte is one of the claims, and it covers the byte. -/
theorem mem_of_winner {base limit pos : Int} {won : List Claim} {c : Claim} (h : winner base limit pos won = some c) :
    c ∈ won ∧ c.Covers base limit pos := by
  rw [winner, List.findRev?_eq_find?_reverse] at h
  exact ⟨List.mem_reverse.1 (List.mem_of_find?_eq_some h), by simpa using List.find?_some h⟩

/-- No claim is the last one that covers a byte when none covers it. -/
theorem winner_eq_none_iff {base limit pos : Int} {won : List Claim} :
    winner base limit pos won = none ↔ ∀ w ∈ won, ¬w.Covers base limit pos := by
  simp [winner, List.findRev?_eq_find?_reverse]

end Claim

namespace Claim

/-! ## What later claims leave -/

/-- An override with a byte in the table succeeds after any others. -/
theorem succeeds_of_override {base limit pos : Int} {c : Claim} (h : c.override = true) (hc : c.Covers base limit pos)
    (won : List Claim) : c.Succeeds base limit won := by
  refine ⟨?_, Or.inl h⟩
  simp only [Covers] at hc
  omega

/-- A claim that covers a byte which a successful claim covers succeeds only as an override. -/
theorem override_of_succeeds {base limit pos : Int} {won : List Claim} {c w : Claim} (h : c.Succeeds base limit won)
    (hc : c.Covers base limit pos) (hw : w ∈ won) (hwc : w.Covers base limit pos) : c.override = true := by
  rcases h.2 with ho | hfree
  · exact ho
  · exact absurd ⟨pos, hc, hwc⟩ (hfree w hw)

/-- A claim that has succeeded keeps each of its bytes until an override covers it. -/
theorem winner_of_succeeds {base limit pos : Int} (before after : List Claim) {c : Claim}
    (hs : c.Succeeds base limit (successes base limit before)) (hc : c.Covers base limit pos)
    (hafter : ∀ d ∈ after, d.override = true → ¬d.Covers base limit pos) :
    winner base limit pos (successes base limit (before ++ c :: after)) = some c := by
  induction after using List.reverseRecOn with
  | nil => rw [successes_concat, successStep, if_pos hs, winner_concat, if_pos hc]
  | append_singleton after d ih =>
    have ih := ih fun e he => hafter e (List.mem_append_left _ he)
    rw [← List.cons_append, ← List.append_assoc, successes_concat, successStep]
    split
    next hd =>
      have hd' : ¬d.Covers base limit pos := fun hdc =>
        hafter d (by simp) (override_of_succeeds hd hdc (mem_of_winner ih).1 hc) hdc
      rw [winner_concat, if_neg hd']
      exact ih
    next => exact ih

/-- A byte that a successful claim covers stays covered by one. -/
theorem winner_ne_none_append {base limit pos : Int} {cs : List Claim} (ds : List Claim)
    (h : winner base limit pos (successes base limit cs) ≠ none) :
    winner base limit pos (successes base limit (cs ++ ds)) ≠ none := by
  intro hnone
  apply h
  rw [winner_eq_none_iff] at hnone ⊢
  intro w hw
  exact hnone w (mem_successes_append hw)

end Claim

/-! ## What a table records -/

namespace Table

/-- The table says what the successful claims say: it lists their tags, and each byte belongs to the last of them that covers
it. -/
structure Records (t : Table) (won : List Claim) : Prop where
  size_owners : t.owners.size = (t.limit - t.base).toNat
  granted_eq : t.granted.toList = won.map (·.tag)
  owner_eq : ∀ pos, t.owner pos = Claim.lastCovering t.base t.limit pos won

/-- A byte outside the table has no owner. -/
theorem owner_of_outside {t : Table} {pos : Int} (h : ¬(t.base ≤ pos ∧ pos < t.limit)) : t.owner pos = none := if_neg h

/-- A byte inside the table has the owner that stands at its place. -/
theorem owner_of_inside {t : Table} {pos : Int} (h : t.base ≤ pos ∧ pos < t.limit) :
    t.owner pos = (t.owners[(pos - t.base).toNat]?).join := if_pos h

/-- An empty table records that nothing has succeeded. -/
theorem records_empty (start stop : Int) : (empty start stop).Records [] where
  size_owners := by simp [empty]
  granted_eq := rfl
  owner_eq pos := by
    by_cases h : (empty start stop).base ≤ pos ∧ pos < (empty start stop).limit
    · rw [owner_of_inside h]
      simp only [empty, Claim.lastCovering, Array.getElem?_replicate]
      split <;> rfl
    · exact owner_of_outside h

theorem size_assign (owner low count : Nat) (owners : Array (Option Nat)) :
    (assign owner low count owners).size = owners.size := by
  induction count generalizing owners with
  | zero => rfl
  | succ count ih => rw [assign, ih, Array.set!_eq_setIfInBounds, Array.size_setIfInBounds]

/-- The places of a claim's bytes in a table, from the first to before the last. -/
def span (t : Table) (c : Claim) : Nat × Nat := ((max c.start t.base - t.base).toNat, (min c.stop t.limit - t.base).toNat)

theorem claim_eq (t : Table) (c : Claim) :
    t.claim c =
      if (t.span c).2 ≤ (t.span c).1 then (t, false)
      else if !c.override && t.owners.any Option.isSome (t.span c).1 (t.span c).2 then (t, false)
      else ({ t with owners := assign t.granted.size (t.span c).1 ((t.span c).2 - (t.span c).1) t.owners
                     granted := t.granted.push c.tag }, true) := rfl

/-- A claim has no place in a table when no byte of the table lies in it. -/
theorem span_empty_iff {t : Table} {c : Claim} : (t.span c).2 ≤ (t.span c).1 ↔ ¬max c.start t.base < min c.stop t.limit := by
  simp only [span]
  omega

/-- Some byte of a claim has an owner exactly when the claim meets one that succeeded. -/
theorem any_owned_iff {t : Table} {won : List Claim} (h : t.Records won) (c : Claim) :
    t.owners.any Option.isSome (t.span c).1 (t.span c).2 = true ↔ ∃ w ∈ won, c.Meets t.base t.limit w := by
  have hsize := h.size_owners
  have owned (pos : Int) : (t.owner pos).isSome = true ↔ ∃ w ∈ won, w.Covers t.base t.limit pos := by
    rw [h.owner_eq, ← Option.not_isNone, Bool.not_eq_true', ← Bool.not_eq_true, Option.isNone_iff_eq_none,
      Claim.lastCovering_eq_none_iff]
    simp
  rw [Array.any_iff_exists]
  constructor
  · rintro ⟨i, hi, hlow, hhigh, ho⟩
    simp only [span] at hlow hhigh
    have hpos : t.base ≤ t.base + i ∧ t.base + i < t.limit := by omega
    have : (t.owner (t.base + i)).isSome = true := by
      rw [owner_of_inside hpos, show (t.base + i - t.base).toNat = i by omega, Array.getElem?_eq_getElem hi]
      exact ho
    obtain ⟨w, hw, hwc⟩ := (owned _).1 this
    refine ⟨w, hw, t.base + i, ⟨?_, hpos⟩, hwc⟩
    omega
  · rintro ⟨w, hw, pos, hc, hwc⟩
    have hpos := hc.2
    have ho := (owned pos).2 ⟨w, hw, hwc⟩
    have hi : (pos - t.base).toNat < t.owners.size := by omega
    rw [owner_of_inside hpos, Array.getElem?_eq_getElem hi] at ho
    have hcov := hc.1
    refine ⟨(pos - t.base).toNat, hi, ?_, ?_, ho⟩ <;> simp only [span] <;> omega

/-- A call answers yes when the claim has a byte in the table and is an override or has no byte that is owned. -/
theorem claim_answer (t : Table) (c : Claim) :
    (t.claim c).2 = true ↔
      ¬(t.span c).2 ≤ (t.span c).1 ∧ (c.override = true ∨ ¬t.owners.any Option.isSome (t.span c).1 (t.span c).2 = true) := by
  rw [claim_eq]
  split
  next hs => simp [hs]
  next hs =>
    split
    next ho => simp_all
    next ho =>
      rw [Bool.and_eq_true, not_and_or, Bool.not_eq_true', Bool.not_eq_false] at ho
      exact ⟨fun _ => ⟨hs, ho⟩, fun _ => rfl⟩

/-- A call answers yes exactly when the claim succeeds after those that succeeded before. -/
theorem claim_granted_iff {t : Table} {won : List Claim} (h : t.Records won) (c : Claim) :
    (t.claim c).2 = true ↔ c.Succeeds t.base t.limit won := by
  rw [claim_answer, Claim.Succeeds, span_empty_iff, not_not, any_owned_iff h, not_exists]
  simp only [not_and]

/-- A call that answers no leaves the table as it is. -/
theorem claim_refused {t : Table} {c : Claim} (h : (t.claim c).2 = false) : (t.claim c).1 = t := by
  rw [claim_eq] at h ⊢
  split
  · rfl
  · split
    · rfl
    · simp_all

/-- A call that answers yes gives all bytes of the claim to it. -/
theorem claim_accepted {t : Table} {c : Claim} (h : (t.claim c).2 = true) :
    (t.claim c).1 = { t with owners := assign t.granted.size (t.span c).1 ((t.span c).2 - (t.span c).1) t.owners
                             granted := t.granted.push c.tag } := by
  rw [claim_eq] at h ⊢
  split
  · simp_all
  · split
    · simp_all
    · rfl

/-- The range of a table stays the same. -/
theorem range_claim (t : Table) (c : Claim) : (t.claim c).1.base = t.base ∧ (t.claim c).1.limit = t.limit := by
  rw [claim_eq]
  split
  · exact ⟨rfl, rfl⟩
  · split <;> exact ⟨rfl, rfl⟩

/-- Who owns a byte after a call that answers yes: the claim, if it covers the byte, and else who owned it before. -/
theorem owner_claim_accepted {t : Table} {won : List Claim} (hr : t.Records won) {c : Claim} (h : (t.claim c).2 = true)
    (pos : Int) : (t.claim c).1.owner pos = if c.Covers t.base t.limit pos then some t.granted.size else t.owner pos := by
  have hsize := hr.size_owners
  obtain ⟨hbase, hlimit⟩ := range_claim t c
  have howners : (t.claim c).1.owners = assign t.granted.size (t.span c).1 ((t.span c).2 - (t.span c).1) t.owners := by
    rw [claim_accepted h]
  by_cases hpos : t.base ≤ pos ∧ pos < t.limit
  · have hpos' : (t.claim c).1.base ≤ pos ∧ pos < (t.claim c).1.limit := by rwa [hbase, hlimit]
    have hplace : ((t.span c).1 ≤ (pos - t.base).toNat ∧
        (pos - t.base).toNat < (t.span c).1 + ((t.span c).2 - (t.span c).1) ∧ (pos - t.base).toNat < t.owners.size) ↔
          c.Covers t.base t.limit pos := by
      simp only [span, Claim.Covers]
      omega
    rw [owner_of_inside hpos, owner_of_inside hpos', howners, hbase, getElem?_assign]
    simp only [hplace]
    split <;> rfl
  · have hpos' : ¬((t.claim c).1.base ≤ pos ∧ pos < (t.claim c).1.limit) := by rwa [hbase, hlimit]
    rw [owner_of_outside hpos, owner_of_outside hpos', if_neg fun hc => hpos hc.2]

/-- One call keeps what a table records: a claim that succeeds is recorded after the others, and one that does not leaves all as
it is. -/
theorem records_claim {t : Table} {won : List Claim} (h : t.Records won) (c : Claim) :
    (t.claim c).1.Records (Claim.successStep t.base t.limit won c) := by
  rw [Claim.successStep]
  by_cases hc : c.Succeeds t.base t.limit won
  · have hok := (claim_granted_iff h c).2 hc
    rw [if_pos hc]
    obtain ⟨hbase, hlimit⟩ := range_claim t c
    refine ⟨?_, ?_, fun pos => ?_⟩
    · rw [hbase, hlimit, ← h.size_owners, claim_accepted hok]
      exact size_assign _ _ _ _
    · rw [claim_accepted hok, Array.toList_push, h.granted_eq, List.map_append, List.map_singleton]
    · rw [owner_claim_accepted h hok, hbase, hlimit, Claim.lastCovering_concat, h.owner_eq, ← Array.length_toList,
        h.granted_eq, List.length_map]
  · have hno : (t.claim c).2 = false := Bool.eq_false_iff.2 (mt (claim_granted_iff h c).1 hc)
    rw [if_neg hc, claim_refused hno]
    exact h

/-! ## Sequences of calls -/

theorem claimAll_concat (t : Table) (cs : List Claim) (c : Claim) : t.claimAll (cs ++ [c]) = ((t.claimAll cs).claim c).1 := by
  simp [claimAll]

/-- A sequence of calls leaves the range of the table. -/
theorem range_claimAll (t : Table) (cs : List Claim) : (t.claimAll cs).base = t.base ∧ (t.claimAll cs).limit = t.limit := by
  induction cs using List.reverseRecOn with
  | nil => exact ⟨rfl, rfl⟩
  | append_singleton cs c ih =>
    rw [claimAll_concat, (range_claim _ c).1, (range_claim _ c).2]
    exact ih

/-- A sequence of calls on an empty table records the successful claims. -/
theorem records_claimAll (start stop : Int) (cs : List Claim) :
    ((empty start stop).claimAll cs).Records (Claim.successes start stop cs) := by
  induction cs using List.reverseRecOn with
  | nil => exact records_empty start stop
  | append_singleton cs c ih =>
    obtain ⟨hbase, hlimit⟩ := range_claimAll (empty start stop) cs
    have := records_claim ih c
    rw [hbase, hlimit] at this
    rw [claimAll_concat, Claim.successes_concat]
    exact this

/-- What a recorded byte says is the tag of the last successful claim that covers it. -/
theorem Records.tag_eq {t : Table} {won : List Claim} (h : t.Records won) (pos : Int) :
    t.tag pos = (Claim.winner t.base t.limit pos won).map (·.tag) := by
  rw [Table.tag, h.owner_eq, ← Claim.getElem?_lastCovering]
  cases Claim.lastCovering t.base t.limit pos won with
  | none => rfl
  | some k =>
    rw [Option.bind_some, Option.bind_some, ← Array.getElem?_toList, h.granted_eq, List.getElem?_map]

/-- The classification of a byte after a sequence of calls on an empty table. -/
theorem classificationAt_claimAll (start stop : Int) (cs : List Claim) (pos : Int) :
    ((empty start stop).claimAll cs).classificationAt pos =
      (Claim.winner start stop pos (Claim.successes start stop cs)).map (·.tag.classification) := by
  obtain ⟨hbase, hlimit⟩ := range_claimAll (empty start stop) cs
  rw [classificationAt, (records_claimAll start stop cs).tag_eq, Option.map_map, hbase, hlimit]
  rfl

/-- Every call of a sequence on a table answers whether its claim succeeds, and a call that does not succeed leaves the table
as it is. After the sequence a byte has the classification of the last successful claim that covers it, and none exactly when
no successful claim does or it lies outside the table. So a byte that is assigned stays assigned, the last override that
covers a byte wins it, and a byte that no later override covers stays with a claim that has won it. -/
theorem claims_resolve (start stop : Int) (cs : List Claim) :
    (∀ before c after, cs = before ++ c :: after →
      ((((empty start stop).claimAll before).claim c).2 = true ↔
        c.Succeeds start stop (Claim.successes start stop before)) ∧
      (¬c.Succeeds start stop (Claim.successes start stop before) →
        (empty start stop).claimAll (before ++ [c]) = (empty start stop).claimAll before)) ∧
    (∀ pos, ((empty start stop).claimAll cs).classificationAt pos =
      (Claim.winner start stop pos (Claim.successes start stop cs)).map (·.tag.classification)) ∧
    (∀ pos, ((empty start stop).claimAll cs).classificationAt pos = none ↔
      (∀ c ∈ Claim.successes start stop cs, ¬(c.start ≤ pos ∧ pos < c.stop)) ∨ ¬(start ≤ pos ∧ pos < stop)) ∧
    (∀ pos more, ((empty start stop).claimAll cs).classificationAt pos ≠ none →
      ((empty start stop).claimAll (cs ++ more)).classificationAt pos ≠ none) ∧
    (∀ before c after pos, cs = before ++ c :: after → c.override = true → c.Covers start stop pos →
      (∀ d ∈ after, d.override = true → ¬d.Covers start stop pos) →
      ((empty start stop).claimAll cs).classificationAt pos = some c.tag.classification) ∧
    (∀ before c after pos, cs = before ++ c :: after → c.Succeeds start stop (Claim.successes start stop before) →
      c.Covers start stop pos → (∀ d ∈ cs, d.override = true → ¬d.Covers start stop pos) →
      ((empty start stop).claimAll cs).classificationAt pos = some c.tag.classification) := by
  refine ⟨fun before c after _ => ?_, classificationAt_claimAll start stop cs, fun pos => ?_, fun pos more h => ?_, ?_, ?_⟩
  · have hanswer := claim_granted_iff (records_claimAll start stop before) c
    rw [(range_claimAll _ before).1, (range_claimAll _ before).2] at hanswer
    refine ⟨hanswer, fun hno => ?_⟩
    rw [claimAll_concat]
    exact claim_refused (Bool.eq_false_iff.2 (mt hanswer.1 hno))
  · rw [classificationAt_claimAll, Option.map_eq_none_iff, Claim.winner_eq_none_iff]
    by_cases hpos : start ≤ pos ∧ pos < stop <;> simp [Claim.Covers, hpos]
  · rw [classificationAt_claimAll, ne_eq, Option.map_eq_none_iff] at h ⊢
    exact Claim.winner_ne_none_append more h
  · rintro before c after pos rfl ho hc hafter
    rw [classificationAt_claimAll, Claim.winner_of_succeeds before after (Claim.succeeds_of_override ho hc _) hc hafter]
    rfl
  · rintro before c after pos rfl hs hc hnone
    have hafter : ∀ d ∈ after, d.override = true → ¬d.Covers start stop pos := fun d hd => hnone d (by simp [hd])
    rw [classificationAt_claimAll, Claim.winner_of_succeeds before after hs hc hafter]
    rfl

end Table

end AwkEdit
