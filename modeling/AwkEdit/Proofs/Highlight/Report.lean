import AwkEdit.Proofs.Highlight.Runs

/-!
# The report of a table

A table reports what it says of its bytes: an assignment is reported exactly when its bytes belong to one claim, with the tag of that
claim, and the bytes just before and just after them do not (`Table.mem_assignments_iff`). The assignments come from left to right and
do not overlap, and every byte of which the table says something lies in one of them (`Table.assignments_faithful`). So the report
depends only on which bytes belong together and on what is said of each, and not on the numbers of the claims
(`Table.assignments_congr`).
-/

namespace AwkEdit

namespace Run

variable {pos : Int} {os : List (Option Nat)} {rs : List Run}

/-- Runs that lay owners out come one after another. -/
theorem Tiles.pairwise (h : Tiles pos os rs) : rs.Pairwise fun r r' => r.stop ≤ r'.start := by
  induction h with
  | nil => exact .nil
  | cons hne htiles ih =>
    refine List.pairwise_cons.2 ⟨?_, ih⟩
    intro r hr
    exact (htiles.maximal r hr).pos_le

/-- Every byte whose owner is laid out lies in one of the runs. -/
theorem Tiles.exists_run (h : Tiles pos os rs) {i : Nat} (hi : i < os.length) :
    ∃ r ∈ rs, r.start ≤ pos + i ∧ pos + i < r.stop := by
  induction h generalizing i with
  | nil => cases hi
  | @cons pos n o rest rs hne htiles ih =>
    by_cases hfirst : i < n + 1
    · refine ⟨_, List.mem_cons_self, ?_, ?_⟩ <;> simp only <;> omega
    · have hrest : i - (n + 1) < rest.length := by
        rw [List.length_append, List.length_replicate] at hi
        omega
      obtain ⟨r, hr, hstart, hstop⟩ := ih hrest
      refine ⟨r, List.mem_cons_of_mem _ hr, ?_, ?_⟩ <;> omega

end Run

namespace Table

variable {t u : Table} {won won' : List Claim} {a b : Assignment} {pos : Int}

/-! ## What is reported -/

/-- Whether an assignment is what a table says of a range of bytes: they lie in the table and have one owner, with the tag of the
assignment, and the bytes just before and just after them, if they are in the table, have another. -/
structure Reported (t : Table) (a : Assignment) : Prop where
  base_le : t.base ≤ a.start
  start_lt : a.start < a.stop
  stop_le : a.stop ≤ t.limit
  said : t.tag a.start = some a.tag
  owner_eq : ∀ pos, a.start ≤ pos → pos < a.stop → t.owner pos = t.owner a.start
  before : t.base < a.start → t.owner (a.start - 1) ≠ t.owner a.start
  after : a.stop < t.limit → t.owner a.stop ≠ t.owner a.start

/-- What is said of the bytes of a reported assignment is its tag. -/
theorem Reported.tag_eq (h : t.Reported a) (hstart : a.start ≤ pos) (hstop : pos < a.stop) : t.tag pos = some a.tag := by
  have hsaid := h.said
  unfold tag at hsaid ⊢
  rw [h.owner_eq pos hstart hstop]
  exact hsaid

/-- A reported assignment holds every other one that shares a byte with it. -/
theorem Reported.holds (ha : t.Reported a) (hb : t.Reported b) (hapos : a.start ≤ pos ∧ pos < a.stop)
    (hbpos : b.start ≤ pos ∧ pos < b.stop) : a.start ≤ b.start ∧ b.stop ≤ a.stop := by
  have hsame : t.owner a.start = t.owner b.start := by
    rw [← ha.owner_eq pos hapos.1 hapos.2, hb.owner_eq pos hbpos.1 hbpos.2]
  have hbase := hb.base_le
  have hlimit := hb.stop_le
  constructor
  · -- Else the byte just before `a` lies in `b`.
    by_contra hlt
    apply ha.before (by omega)
    rw [hb.owner_eq _ (by omega) (by omega), hsame]
  · by_contra hlt
    apply ha.after (by omega)
    rw [hb.owner_eq _ (by omega) (by omega), hsame]

/-- Reported assignments that share a byte are the same. -/
theorem Reported.eq (ha : t.Reported a) (hb : t.Reported b) (hapos : a.start ≤ pos ∧ pos < a.stop)
    (hbpos : b.start ≤ pos ∧ pos < b.stop) : a = b := by
  obtain ⟨hstart, hstop⟩ := ha.holds hb hapos hbpos
  obtain ⟨hstart', hstop'⟩ := hb.holds ha hbpos hapos
  have htag : some a.tag = some b.tag := by
    rw [← ha.tag_eq hapos.1 hapos.2, hb.tag_eq hbpos.1 hbpos.2]
  cases a
  cases b
  simp only [Assignment.mk.injEq, Option.some.injEq] at hstart hstop hstart' hstop' htag ⊢
  exact ⟨Int.le_antisymm hstart hstart', Int.le_antisymm hstop' hstop, htag⟩

theorem reported_of_mem_assignments (h : t.Records won) (ha : a ∈ t.assignments) : t.Reported a := by
  obtain ⟨k, hk, hbase, hlt, hlimit, howned, hbefore, hafter⟩ := mem_assignments h ha
  have hfirst : t.owner a.start = some k := howned a.start (Int.le_refl _) hlt
  refine ⟨hbase, hlt, hlimit, ?_, ?_, ?_, ?_⟩
  · rw [tag, hfirst]
    exact hk
  · intro pos hstart hstop
    rw [howned pos hstart hstop, hfirst]
  · rw [hfirst]
    exact hbefore
  · rw [hfirst]
    exact hafter

/-- A byte of which a table says something lies in an assignment that is reported. -/
theorem exists_assignment (h : t.Records won) (hsaid : t.tag pos ≠ none) :
    ∃ a ∈ t.assignments, a.start ≤ pos ∧ pos < a.stop := by
  obtain ⟨said, hsaid⟩ := Option.ne_none_iff_exists'.1 hsaid
  have hpos : t.base ≤ pos ∧ pos < t.limit := by
    by_contra hout
    rw [tag, owner_of_outside hout] at hsaid
    cases hsaid
  have hsize := h.size_owners
  obtain ⟨r, hr, hstart, hstop⟩ := (tiles_runs t.base t.owners.toList).exists_run
    (i := (pos - t.base).toNat) (by rw [Array.length_toList]; omega)
  have hplace : t.base + ((pos - t.base).toNat : Int) = pos := by omega
  rw [hplace] at hstart hstop
  -- The run that the byte lies in has the byte's owner, so it is reported.
  have howner : t.owner pos = r.owner := by
    have hrun := (maximal_of_mem_runs hr).owned (pos - t.base).toNat (by omega) (by omega)
    rw [← some_owner_eq h hpos] at hrun
    exact Option.some.inj hrun
  refine ⟨⟨r.start, r.stop, said⟩, ?_, hstart, hstop⟩
  rw [assignments, List.mem_filterMap]
  refine ⟨r, hr, ?_⟩
  rw [← howner, ← tag, hsaid]
  rfl

/-- The assignments of a table are what it says of ranges of bytes. -/
theorem mem_assignments_iff (h : t.Records won) : a ∈ t.assignments ↔ t.Reported a := by
  constructor
  · exact reported_of_mem_assignments h
  · intro ha
    have hsaid : t.tag a.start ≠ none := by simp [ha.said]
    obtain ⟨b, hb, hstart, hstop⟩ := exists_assignment h hsaid
    have heq := ha.eq (reported_of_mem_assignments h hb) ⟨Int.le_refl _, ha.start_lt⟩ ⟨hstart, hstop⟩
    rw [heq]
    exact hb

/-! ## The order of the report -/

/-- The assignments of a table come one after another. -/
theorem pairwise_assignments (t : Table) : t.assignments.Pairwise fun a b => a.stop ≤ b.start := by
  refine (tiles_runs t.base t.owners.toList).pairwise.filterMap _ ?_
  intro r r' hapart a ha b hb
  obtain ⟨_, -, rfl⟩ := Option.map_eq_some_iff.1 ha
  obtain ⟨_, -, rfl⟩ := Option.map_eq_some_iff.1 hb
  exact hapart

theorem nodup_assignments (h : t.Records won) : t.assignments.Nodup := by
  refine t.pairwise_assignments.imp_of_mem ?_
  intro a b ha _ hapart heq
  have hlt := (reported_of_mem_assignments h ha).start_lt
  subst heq
  omega

/-! ## Tables that report the same -/

/-- Whether two tables over the same range say the same of each byte, and the same bytes belong together in both. -/
structure Agrees (t u : Table) : Prop where
  base_eq : t.base = u.base
  limit_eq : t.limit = u.limit
  tag_eq : ∀ pos, t.tag pos = u.tag pos
  owner_eq_iff : ∀ pos other, t.owner pos = t.owner other ↔ u.owner pos = u.owner other

theorem Agrees.symm (h : t.Agrees u) : u.Agrees t where
  base_eq := h.base_eq.symm
  limit_eq := h.limit_eq.symm
  tag_eq pos := (h.tag_eq pos).symm
  owner_eq_iff pos other := (h.owner_eq_iff pos other).symm

theorem Agrees.reported (h : t.Agrees u) (ha : t.Reported a) : u.Reported a := by
  refine ⟨?_, ha.start_lt, ?_, ?_, ?_, ?_, ?_⟩
  · rw [← h.base_eq]
    exact ha.base_le
  · rw [← h.limit_eq]
    exact ha.stop_le
  · rw [← h.tag_eq]
    exact ha.said
  · intro pos hstart hstop
    exact (h.owner_eq_iff _ _).1 (ha.owner_eq pos hstart hstop)
  · intro hinside hsame
    rw [← h.base_eq] at hinside
    exact ha.before hinside ((h.owner_eq_iff _ _).2 hsame)
  · intro hinside hsame
    rw [← h.limit_eq] at hinside
    exact ha.after hinside ((h.owner_eq_iff _ _).2 hsame)

/-- Tables that agree report the same, whatever the numbers of their claims are. -/
theorem assignments_congr (ht : t.Records won) (hu : u.Records won') (h : t.Agrees u) : t.assignments = u.assignments := by
  have hmem : ∀ a, a ∈ t.assignments ↔ a ∈ u.assignments := by
    intro a
    rw [mem_assignments_iff ht, mem_assignments_iff hu]
    exact ⟨h.reported, h.symm.reported⟩
  have hperm := (List.perm_ext_iff_of_nodup (nodup_assignments ht) (nodup_assignments hu)).2 hmem
  refine List.Perm.eq_of_pairwise ?_ t.pairwise_assignments u.pairwise_assignments hperm
  intro a b ha hb hab hba
  have hlta := (reported_of_mem_assignments ht ha).start_lt
  have hltb := (reported_of_mem_assignments hu hb).start_lt
  omega

/-! ## The report after a sequence of calls -/

/-- After any sequence of calls on an empty table the reported assignments are not empty, lie in the table, and come one after
another without overlapping. A byte lies in one of them exactly when it is classified. All bytes of one belong to the same
successful claim, whose tag it has, and two that touch belong to different claims, whatever their tags are. -/
theorem assignments_faithful (start stop : Int) (cs : List Claim) :
    let table := (empty start stop).claimAll cs
    let won := Claim.successes start stop cs
    let owner (pos : Int) := Claim.lastCovering start stop pos won
    (∀ a ∈ table.assignments, start ≤ a.start ∧ a.start < a.stop ∧ a.stop ≤ stop) ∧
    table.assignments.Pairwise (fun a b => a.stop ≤ b.start) ∧
    (∀ pos, table.classificationAt pos ≠ none ↔ ∃ a ∈ table.assignments, a.start ≤ pos ∧ pos < a.stop) ∧
    (∀ a ∈ table.assignments, ∃ k c, won[k]? = some c ∧ a.tag = c.tag ∧ ∀ pos, a.start ≤ pos → pos < a.stop →
      owner pos = some k ∧ table.classificationAt pos = some c.tag.classification) ∧
    (∀ a ∈ table.assignments, ∀ b ∈ table.assignments, a.stop = b.start → owner a.start ≠ owner b.start) := by
  intro table won owner
  have hrecords : table.Records won := records_claimAll start stop cs
  obtain ⟨hbase, hlimit⟩ : table.base = start ∧ table.limit = stop := range_claimAll (empty start stop) cs
  have howner : ∀ pos, table.owner pos = owner pos := by
    intro pos
    rw [hrecords.owner_eq, hbase, hlimit]
  have hreported : ∀ a ∈ table.assignments, table.Reported a := fun a => reported_of_mem_assignments hrecords
  refine ⟨?_, table.pairwise_assignments, ?_, ?_, ?_⟩
  · intro a ha
    have hbelow := (hreported a ha).base_le
    have habove := (hreported a ha).stop_le
    rw [hbase] at hbelow
    rw [hlimit] at habove
    exact ⟨hbelow, (hreported a ha).start_lt, habove⟩
  · intro pos
    rw [classificationAt, ne_eq, Option.map_eq_none_iff]
    constructor
    · intro hsaid
      exact exists_assignment hrecords hsaid
    · rintro ⟨a, ha, hstart, hstop⟩
      rw [(hreported a ha).tag_eq hstart hstop]
      exact Option.some_ne_none _
  · intro a ha
    have hsaid := (hreported a ha).said
    rw [tag, howner] at hsaid
    obtain ⟨k, hk, htag⟩ := Option.bind_eq_some_iff.1 hsaid
    -- The tag of number `k` is that of the successful claim of number `k`.
    have hclaim : (won[k]?).map (·.tag) = some a.tag := by
      rw [← List.getElem?_map, ← hrecords.granted_eq, Array.getElem?_toList]
      exact htag
    obtain ⟨c, hc, hctag⟩ := Option.map_eq_some_iff.1 hclaim
    refine ⟨k, c, hc, hctag.symm, ?_⟩
    intro pos hstart hstop
    refine ⟨?_, ?_⟩
    · rw [← howner, (hreported a ha).owner_eq pos hstart hstop, howner, hk]
    · rw [classificationAt, (hreported a ha).tag_eq hstart hstop, hctag]
      rfl
  · intro a ha b hb htouch hsame
    have hlt := (hreported a ha).start_lt
    have hinside := (hreported a ha).base_le
    apply (hreported b hb).before (by omega)
    rw [(hreported a ha).owner_eq _ (by omega) (by omega), howner, howner, hsame]

end Table

end AwkEdit
