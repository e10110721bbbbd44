import AwkEdit.Tree.Literal
import Mathlib.Data.List.Pairwise

/-!
# Where tokens can stand

Tokens can be placed in a text when each occurs in it, one after another, where the one before it ends or after that. Nothing is
lost by placing the first of them at its earliest occurrence: wherever else it could stand it would leave less of the text to the
others (`placeableFrom_cons_of_earliest`). So looking for each token from the end of the one before it finds a placement if there
is any.
-/

namespace AwkEdit

namespace TreeLiteral

variable {bytes needle : List UInt8} {tokens : List (List UInt8)} {cursor i k : Nat}

/-- The bytes `needle` occur at an offset. -/
def OccursAt (bytes needle : List UInt8) (i : Nat) : Prop := needle <+: bytes.drop i

/-- What is not empty occurs before the end of the text and ends in it. -/
theorem OccursAt.end_le (h : OccursAt bytes needle i) (hne : needle ≠ []) : i + needle.length ≤ bytes.length := by
  have hlength := h.length_le
  have hpos := List.length_pos_iff.2 hne
  rw [List.length_drop] at hlength
  omega

/-! ## Looking for a token -/

/-- What is found is the first occurrence. -/
theorem first_of_find {text : List UInt8} (h : find needle i text = some k) :
    i ≤ k ∧ OccursAt text needle (k - i) ∧ ∀ j, i ≤ j → OccursAt text needle (j - i) → k ≤ j := by
  induction text generalizing i with
  | nil =>
    rw [find] at h
    split at h
    next hempty =>
      obtain rfl := Option.some.inj h
      obtain rfl := List.isEmpty_iff.1 hempty
      exact ⟨Nat.le_refl i, List.nil_prefix, fun j hj _ => hj⟩
    next => cases h
  | cons b bs ih =>
    rw [find] at h
    split at h
    next hprefix =>
      obtain rfl := Option.some.inj h
      refine ⟨Nat.le_refl i, ?_, fun j hj _ => hj⟩
      rw [Nat.sub_self]
      exact List.isPrefixOf_iff_prefix.1 hprefix
    next hprefix =>
      obtain ⟨hle, hoccurs, hfirst⟩ := ih h
      refine ⟨by omega, ?_, fun j hj hj' => ?_⟩
      · obtain ⟨d, rfl⟩ := Nat.exists_eq_add_of_le hle
        rw [show i + 1 + d - (i + 1) = d by omega] at hoccurs
        rw [show i + 1 + d - i = d + 1 by omega]
        exact hoccurs
      · obtain ⟨d, rfl⟩ := Nat.exists_eq_add_of_le hj
        rw [Nat.add_sub_cancel_left] at hj'
        cases d with
        | zero => exact absurd (List.isPrefixOf_iff_prefix.2 hj') hprefix
        | succ d =>
          refine hfirst _ (by omega) ?_
          rw [show i + (d + 1) - (i + 1) = d by omega]
          exact hj'

/-- What is not found does not occur. -/
theorem not_occursAt_of_find {text : List UInt8} (h : find needle i text = none) (d : Nat) : ¬OccursAt text needle d := by
  induction text generalizing i d with
  | nil =>
    rw [find] at h
    split at h
    next => cases h
    next hempty =>
      intro hoccurs
      rw [OccursAt, List.drop_nil, List.prefix_nil] at hoccurs
      exact hempty (List.isEmpty_iff.2 hoccurs)
  | cons b bs ih =>
    rw [find] at h
    split at h
    next => cases h
    next hprefix =>
      cases d with
      | zero => exact fun hoccurs => hprefix (List.isPrefixOf_iff_prefix.2 hoccurs)
      | succ d => exact ih h d

/-- The offset is the first one from the cursor on at which the bytes occur. -/
structure Earliest (bytes needle : List UInt8) (cursor i : Nat) : Prop where
  after : cursor ≤ i
  occurs : OccursAt bytes needle i
  first : ∀ j, cursor ≤ j → OccursAt bytes needle j → i ≤ j

theorem occursAt_drop_iff (h : cursor ≤ i) : OccursAt (bytes.drop cursor) needle (i - cursor) ↔ OccursAt bytes needle i := by
  rw [OccursAt, OccursAt, List.drop_drop, Nat.add_sub_cancel' h]

/-- What is found from a cursor on is the earliest occurrence there. -/
theorem earliest_of_find (h : find needle cursor (bytes.drop cursor) = some i) : Earliest bytes needle cursor i := by
  obtain ⟨hle, hoccurs, hfirst⟩ := first_of_find h
  exact ⟨hle, (occursAt_drop_iff hle).1 hoccurs, fun j hj hj' => hfirst j hj ((occursAt_drop_iff hj).2 hj')⟩

/-- What is not found from a cursor on does not occur there. -/
theorem not_occursAt_of_find_drop (h : find needle cursor (bytes.drop cursor) = none) (hi : cursor ≤ i) :
    ¬OccursAt bytes needle i :=
  fun hoccurs => not_occursAt_of_find h (i - cursor) ((occursAt_drop_iff hi).2 hoccurs)

/-! ## Placing tokens -/

/-- The tokens can be placed in the text in their order: there is an offset for each at which it occurs, and no earlier token ends
after the offset of a later one. -/
def Placeable (bytes : List UInt8) (tokens : List (List UInt8)) : Prop :=
  ∃ spans : List (Nat × List UInt8), spans.map (·.2) = tokens ∧ (∀ s ∈ spans, OccursAt bytes s.2 s.1) ∧
    spans.Pairwise fun a b => a.1 + a.2.length ≤ b.1

/-- They can be placed from a cursor on. -/
def PlaceableFrom (bytes : List UInt8) (cursor : Nat) (tokens : List (List UInt8)) : Prop :=
  ∃ spans : List (Nat × List UInt8), spans.map (·.2) = tokens ∧ (∀ s ∈ spans, OccursAt bytes s.2 s.1) ∧
    (spans.Pairwise fun a b => a.1 + a.2.length ≤ b.1) ∧ ∀ s ∈ spans, cursor ≤ s.1

theorem placeableFrom_zero_iff : PlaceableFrom bytes 0 tokens ↔ Placeable bytes tokens := by
  simp [PlaceableFrom, Placeable]

theorem placeableFrom_nil (bytes : List UInt8) (cursor : Nat) : PlaceableFrom bytes cursor [] :=
  ⟨[], rfl, List.forall_mem_nil _, .nil, List.forall_mem_nil _⟩

/-- What can be placed from a cursor on can be placed from an earlier one on. -/
theorem PlaceableFrom.mono (h : PlaceableFrom bytes k tokens) (hle : cursor ≤ k) : PlaceableFrom bytes cursor tokens := by
  obtain ⟨spans, htokens, hoccurs, hapart, hafter⟩ := h
  exact ⟨spans, htokens, hoccurs, hapart, fun s hs => Nat.le_trans hle (hafter s hs)⟩

/-- Tokens are placed by placing the first one and the others after its end. -/
theorem placeableFrom_cons_iff :
    PlaceableFrom bytes cursor (needle :: tokens) ↔
      ∃ i, cursor ≤ i ∧ OccursAt bytes needle i ∧ PlaceableFrom bytes (i + needle.length) tokens := by
  constructor
  · rintro ⟨spans, htokens, hoccurs, hapart, hafter⟩
    obtain ⟨s, spans, rfl, rfl, hrest⟩ := List.map_eq_cons_iff.1 htokens
    rw [List.forall_mem_cons] at hoccurs hafter
    rw [List.pairwise_cons] at hapart
    exact ⟨s.1, hafter.1, hoccurs.1, spans, hrest, hoccurs.2, hapart.2, hapart.1⟩
  · rintro ⟨i, hi, hoccurs, spans, rfl, hrest, hapart, hafter⟩
    refine ⟨(i, needle) :: spans, rfl, List.forall_mem_cons.2 ⟨hoccurs, hrest⟩, List.pairwise_cons.2 ⟨hafter, hapart⟩, ?_⟩
    exact List.forall_mem_cons.2 ⟨hi, fun s hs => Nat.le_trans hi (Nat.le_trans (Nat.le_add_right _ _) (hafter s hs))⟩

/-- Tokens can be placed exactly when they can be with the first one at its earliest occurrence. -/
theorem placeableFrom_cons_of_earliest (h : Earliest bytes needle cursor i) :
    PlaceableFrom bytes cursor (needle :: tokens) ↔ PlaceableFrom bytes (i + needle.length) tokens := by
  rw [placeableFrom_cons_iff]
  constructor
  · rintro ⟨j, hj, hoccurs, hrest⟩
    exact hrest.mono (Nat.add_le_add_right (h.first j hj hoccurs) _)
  · exact fun hrest => ⟨i, h.after, h.occurs, hrest⟩

end TreeLiteral

end AwkEdit
