import AwkEdit.Proofs.Highlight.Ownership

/-!
# What a table reports

The runs of a table lay the owners out from left to right: each run has one owner, and the run after it has another
(`Table.tiles_runs`). So a run of a table begins where the owner changes or the table begins, and ends where the owner changes or the
table ends (`Table.maximal_of_mem_runs`), and every reported assignment is such a run (`Table.mem_assignments`).
-/

namespace AwkEdit

namespace Run

/-- Runs that lay owners out, the first of which is that of the byte at a position: every run has at least one byte, and the run
after it has another owner. -/
inductive Tiles : Int → List (Option Nat) → List Run → Prop
  | nil (pos : Int) : Tiles pos [] []
  | cons {pos : Int} {n : Nat} {o : Option Nat} {rest : List (Option Nat)} {rs : List Run} :
      rest.head? ≠ some o → Tiles (pos + (n + 1)) rest rs →
        Tiles pos (List.replicate (n + 1) o ++ rest) (⟨pos, pos + (n + 1), o⟩ :: rs)

/-- A run of one owner between bytes of other owners, among owners the first of which is that of the byte at `pos`. -/
structure Maximal (pos : Int) (os : List (Option Nat)) (r : Run) : Prop where
  pos_le : pos ≤ r.start
  start_lt : r.start < r.stop
  stop_le : r.stop ≤ pos + os.length
  owned : ∀ i : Nat, r.start ≤ pos + i → pos + i < r.stop → os[i]? = some r.owner
  before : ∀ i : Nat, pos + i + 1 = r.start → os[i]? ≠ some r.owner
  after : ∀ i : Nat, pos + i = r.stop → os[i]? ≠ some r.owner

variable {pos : Int} {os rest : List (Option Nat)} {rs : List Run} {r : Run} {n : Nat} {o : Option Nat}

/-- The first of the runs that lay owners out is maximal. -/
theorem maximal_head (hne : rest.head? ≠ some o) :
    Maximal pos (List.replicate (n + 1) o ++ rest) ⟨pos, pos + (n + 1), o⟩ where
  pos_le := Int.le_refl pos
  start_lt := by simp only; omega
  stop_le := by
    simp only [List.length_append, List.length_replicate]
    omega
  owned i _ hi := by
    simp only at hi
    rw [List.getElem?_append_left (by simp; omega), List.getElem?_replicate, if_pos (by omega)]
  before i hi := by
    simp only at hi
    omega
  after i hi := by
    simp only at hi
    obtain rfl : i = n + 1 := by omega
    rw [List.getElem?_append_right (by simp), List.length_replicate, Nat.sub_self, ← List.head?_eq_getElem?]
    exact hne

/-- A run that is maximal among later owners is maximal after a run of another owner. -/
theorem Maximal.later (hne : rest.head? ≠ some o) (h : Maximal (pos + (n + 1)) rest r) :
    Maximal pos (List.replicate (n + 1) o ++ rest) r := by
  have hshift : ∀ i : Nat, n + 1 ≤ i → (List.replicate (n + 1) o ++ rest)[i]? = rest[i - (n + 1)]? := by
    intro i hi
    rw [List.getElem?_append_right (by simpa using hi), List.length_replicate]
  have hpos := h.pos_le
  have hlt := h.start_lt
  refine ⟨by omega, hlt, ?_, ?_, ?_, ?_⟩
  · have hstop := h.stop_le
    simp only [List.length_append, List.length_replicate]
    omega
  · intro i hstart hstop
    rw [hshift i (by omega)]
    exact h.owned _ (by omega) (by omega)
  · intro i hi
    by_cases hfirst : n + 1 ≤ i
    · rw [hshift i hfirst]
      exact h.before _ (by omega)
    · -- The byte before the run is the last one of the run in front, whose owner is another.
      have howned := h.owned 0 (by omega) (by omega)
      rw [List.getElem?_append_left (by simp; omega), List.getElem?_replicate, if_pos (by omega)]
      rw [← List.head?_eq_getElem?] at howned
      rw [← howned]
      exact fun heq => hne heq.symm
  · intro i hi
    rw [hshift i (by omega)]
    exact h.after _ (by omega)

/-- Each of the runs that lay owners out is maximal. -/
theorem Tiles.maximal (h : Tiles pos os rs) : ∀ r ∈ rs, r.Maximal pos os := by
  induction h with
  | nil => simp
  | cons hne _ ih =>
    intro r hr
    rcases List.mem_cons.1 hr with rfl | hr
    · exact maximal_head hne
    · exact (ih r hr).later hne

end Run

namespace Table

/-- The runs of a list of owners lay them out. -/
theorem tiles_runs (pos : Int) (os : List (Option Nat)) : Run.Tiles pos os (runs pos os) := by
  induction os generalizing pos with
  | nil => exact .nil pos
  | cons o os ih =>
    have ih := ih (pos + 1)
    rw [runs]
    cases hruns : runs (pos + 1) os with
    | nil =>
      rw [hruns] at ih
      cases ih
      exact .cons (n := 0) (by simp) (.nil _)
    | cons r rs =>
      rw [hruns] at ih
      obtain ⟨⟩ | @⟨_, n, owner, rest, rs, hne, htiles⟩ := ih
      dsimp only
      split
      next hsame =>
        subst hsame
        -- The first run grows by one byte to the left.
        have hgrown : pos + 1 + (n + 1) = pos + ((n + 1 : Nat) + 1) := by omega
        rw [hgrown] at htiles ⊢
        exact .cons hne htiles
      next hother =>
        exact .cons (n := 0) (by simpa using hother) (.cons hne htiles)

/-- Each run of a list of owners is maximal. -/
theorem maximal_of_mem_runs {pos : Int} {os : List (Option Nat)} {r : Run} (h : r ∈ runs pos os) : r.Maximal pos os :=
  (tiles_runs pos os).maximal r h

/-- The owner of a byte of a table is the one that stands at its place in the list of owners. -/
theorem some_owner_eq {t : Table} {won : List Claim} (h : t.Records won) {pos : Int} (hpos : t.base ≤ pos ∧ pos < t.limit) :
    some (t.owner pos) = t.owners.toList[(pos - t.base).toNat]? := by
  have hsize := h.size_owners
  have hi : (pos - t.base).toNat < t.owners.size := by omega
  rw [owner_of_inside hpos, Array.getElem?_eq_getElem hi, Array.getElem?_toList, Array.getElem?_eq_getElem hi]
  rfl

/-- A reported assignment is a run of bytes of one owner: it lies in the table, its bytes belong to that owner, and the bytes just
before and just after it, if they are in the table, do not. -/
theorem mem_assignments {t : Table} {won : List Claim} (h : t.Records won) {a : Assignment} (ha : a ∈ t.assignments) :
    ∃ k, t.granted[k]? = some a.tag ∧ t.base ≤ a.start ∧ a.start < a.stop ∧ a.stop ≤ t.limit ∧
      (∀ pos, a.start ≤ pos → pos < a.stop → t.owner pos = some k) ∧
      (t.base < a.start → t.owner (a.start - 1) ≠ some k) ∧ (a.stop < t.limit → t.owner a.stop ≠ some k) := by
  rw [assignments, List.mem_filterMap] at ha
  obtain ⟨r, hr, ha⟩ := ha
  obtain ⟨tag, htag, rfl⟩ := Option.map_eq_some_iff.1 ha
  obtain ⟨k, hk, htag⟩ := Option.bind_eq_some_iff.1 htag
  have hmax := maximal_of_mem_runs hr
  have hsize := h.size_owners
  have hbase := hmax.pos_le
  have hlt := hmax.start_lt
  have hlimit : r.stop ≤ t.limit := by
    have := hmax.stop_le
    rw [Array.length_toList] at this
    omega
  -- The owner of a byte of the table is compared with what stands at its place in the list.
  have howner : ∀ pos, t.base ≤ pos → pos < t.limit →
      (t.owner pos = some k ↔ t.owners.toList[(pos - t.base).toNat]? = some r.owner) := by
    intro pos hlow hhigh
    rw [← some_owner_eq h ⟨hlow, hhigh⟩, hk, Option.some_inj]
  refine ⟨k, htag, hbase, hlt, hlimit, ?_, ?_, ?_⟩
  · intro pos hstart hstop
    simp only at hstart hstop
    rw [howner pos (by omega) (by omega)]
    exact hmax.owned _ (by omega) (by omega)
  · intro hinside
    simp only at hinside ⊢
    rw [ne_eq, howner _ (by omega) (by omega)]
    exact hmax.before _ (by omega)
  · intro hinside
    simp only at hinside ⊢
    rw [ne_eq, howner _ (by omega) hinside]
    exact hmax.after _ (by omega)

end Table

end AwkEdit
