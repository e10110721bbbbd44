import AwkEdit.Pattern.Dispatch
import AwkEdit.Proofs.Text.Names

/-!
# Dispatch keeps the order

The entries of a type in an index are those of the items that list the type and those of the items that list none, merged by
their numbers. The merge is the list of all items without the others (`candidates_ofItems`): sorting by number puts back the
order in which the items were given. So an index is a filter of the items for each type (`ofItems_dispatch`).
-/

namespace AwkEdit.Dispatch

variable {α : Type}

/-- Whether an item applies to a type: it lists the type, or it lists no types at all. -/
def applies (key : α → Option (List String)) (type : String) (item : α) : Bool := (key item).all (·.contains type)

theorem zipIdx_pairwise (items : List α) (i : Nat) : (items.zipIdx i).Pairwise fun a b => a.2 < b.2 := by
  rw [← List.pairwise_map (f := Prod.snd), List.zipIdx_map_snd]
  exact List.pairwise_lt_range'

/-- Two numbered items of one number are the same. -/
theorem eq_of_mem_zipIdx {items : List α} {a b : α × Nat} (ha : a ∈ items.zipIdx) (hb : b ∈ items.zipIdx) (h : a.2 = b.2) :
    a = b := by
  have hx := List.mem_zipIdx' ha
  have hy := List.mem_zipIdx' hb
  refine Prod.ext ?_ h
  rw [hx.2, hy.2]
  simp only [h]

/-- Items kept by a test of what they list come out in the order in which they were given. -/
theorem map_fst_numbered (key : α → Option (List String)) (keep : Option (List String) → Bool) (items : List α) :
    (numbered key keep items).map (·.1) = items.filter (keep <| key ·) := by
  calc (numbered key keep items).map (·.1)
      = (items.zipIdx.map (·.1)).filter (keep <| key ·) := by rw [List.filter_map]; rfl
    _ = items.filter (keep <| key ·) := by rw [show items.zipIdx.map (·.1) = items from List.zipIdx_map_fst 0 items]

/-- The entries that list a type and those that list none are the entries that apply to it. -/
theorem numbered_perm (key : α → Option (List String)) (type : String) (items : List α) :
    (numbered key (·.any (·.contains type)) items ++ numbered key Option.isNone items).Perm
      (items.zipIdx.filter (applies key type ·.1)) := by
  unfold numbered
  induction items.zipIdx with
  | nil => exact .refl _
  | cons a entries ih =>
    cases h : key a.1 with
    | none =>
      simp only [List.filter_cons, h, applies, Option.any_none, Option.isNone_none, Option.all_none, if_true, if_false,
        Bool.false_eq_true]
      exact List.perm_middle.trans (ih.cons a)
    | some types =>
      simp only [List.filter_cons, h, applies, Option.any_some, Option.isNone_some, Option.all_some, if_false,
        Bool.false_eq_true]
      split
      · exact ih.cons a
      · exact ih

/-- Merging by number puts the entries that apply to a type back in order. -/
theorem sortBy_numbered (key : α → Option (List String)) (type : String) (items : List α) :
    sortBy (·.2 ≤ ·.2) (numbered key (·.any (·.contains type)) items ++ numbered key Option.isNone items) =
      items.zipIdx.filter (applies key type ·.1) := by
  have hperm := (sortBy_perm (fun a b : α × Nat => a.2 ≤ b.2) _).trans (numbered_perm key type items)
  have hsorted : (sortBy (fun a b : α × Nat => decide (a.2 ≤ b.2))
        (numbered key (·.any (·.contains type)) items ++ numbered key Option.isNone items)).Pairwise
      fun a b => decide (a.2 ≤ b.2) = true :=
    sortBy_pairwise (by simp; omega) (by simp; omega) _
  have hlisted : (items.zipIdx.filter (applies key type ·.1)).Pairwise fun a b => decide (a.2 ≤ b.2) = true :=
    ((zipIdx_pairwise items 0).filter _).imp fun h => by simpa using Nat.le_of_lt h
  refine List.Perm.eq_of_pairwise (fun a b ha hb hab hba => ?_) hsorted hlisted hperm
  have ha := (List.mem_filter.1 (hperm.mem_iff.1 ha)).1
  have hb := (List.mem_filter.1 hb).1
  exact eq_of_mem_zipIdx ha hb (Nat.le_antisymm (by simpa using hab) (by simpa using hba))

/-- Looking up a name in a table that has an entry for each of several names. -/
theorem lookup_map_pair {β : Type} (f : String → β) (names : List String) (name : String) :
    (names.map fun n => (n, f n)).lookup name = if name ∈ names then some (f name) else none := by
  induction names with
  | nil => rfl
  | cons n names ih =>
    rw [List.map_cons, List.lookup_cons, ih]
    by_cases h : name = n
    · subst h
      simp
    · have hne : (name == n) = false := beq_eq_false_iff_ne.2 h
      simp [hne, h]

/-- The candidates of a type are the items that apply to it, in the order in which they were given. -/
theorem candidates_ofItems (key : α → Option (List String)) (items : List α) (type : String) :
    (ofItems key items).candidates type = items.filter (applies key type) := by
  simp only [candidates, ofItems, lookup_map_pair, List.mem_eraseDups]
  split
  next h =>
    rw [Option.getD_some, sortBy_numbered]
    exact map_fst_numbered key (·.all (·.contains type)) items
  next h =>
    rw [Option.getD_none, map_fst_numbered]
    refine List.filter_congr fun item hitem => ?_
    cases hkey : key item with
    | none => simp [applies, hkey]
    | some types =>
      have : type ∉ types := fun hmem => h (List.mem_flatMap.2 ⟨item, hitem, by simpa [hkey] using hmem⟩)
      simp [applies, hkey, this]

/-! ## What an index tells of its items -/

/-- An item applies to a type when it lists no types, or the type among them. -/
theorem applies_iff {key : α → Option (List String)} {type : String} {item : α} :
    applies key type item = true ↔ key item = none ∨ ∃ types, key item = some types ∧ type ∈ types := by
  rw [applies]
  cases key item <;> simp

theorem types_ofItems (key : α → Option (List String)) (items : List α) :
    (ofItems key items).types = (items.flatMap fun item => (key item).getD []).eraseDups := by
  rw [types, ofItems, List.map_map]
  exact List.map_id _

/-- The types of an index are those that some item lists. -/
theorem mem_types_ofItems {key : α → Option (List String)} {items : List α} {type : String} :
    type ∈ (ofItems key items).types ↔ ∃ item ∈ items, ∃ types, key item = some types ∧ type ∈ types := by
  rw [types_ofItems, List.mem_eraseDups, List.mem_flatMap]
  refine exists_congr fun item => and_congr_right fun _ => ?_
  cases key item <;> simp

theorem mem_agnostic_ofItems {key : α → Option (List String)} {items : List α} {item : α} :
    item ∈ (ofItems key items).agnostic ↔ item ∈ items ∧ key item = none := by
  rw [ofItems, map_fst_numbered, List.mem_filter, Option.isNone_iff_eq_none]

/-- An index is empty when it has no types and no items that apply to any. -/
theorem isNonempty_iff {d : Dispatch α} : d.isNonempty = true ↔ d.types ≠ [] ∨ d.agnostic ≠ [] := by
  rw [isNonempty, Bool.or_eq_true, Bool.not_eq_true', Bool.not_eq_true', List.isEmpty_eq_false_iff, List.isEmpty_eq_false_iff,
    types]
  exact or_congr_left (not_congr List.map_eq_nil_iff).symm

/-- There is something to dispatch to as soon as an item applies to any type, or lists one. -/
theorem isNonempty_ofItems {key : α → Option (List String)} {items : List α} :
    (ofItems key items).isNonempty = true ↔
      ∃ item ∈ items, key item = none ∨ ∃ types, key item = some types ∧ types ≠ [] := by
  rw [isNonempty_iff]
  constructor
  · rintro (hne | hne)
    · obtain ⟨type, hmem⟩ := List.exists_mem_of_ne_nil _ hne
      obtain ⟨item, hitem, types, hkey, htype⟩ := mem_types_ofItems.1 hmem
      exact ⟨item, hitem, .inr ⟨types, hkey, List.ne_nil_of_mem htype⟩⟩
    · obtain ⟨item, hmem⟩ := List.exists_mem_of_ne_nil _ hne
      obtain ⟨hitem, hkey⟩ := mem_agnostic_ofItems.1 hmem
      exact ⟨item, hitem, .inl hkey⟩
  · rintro ⟨item, hitem, hkey | ⟨types, hkey, htypes⟩⟩
    · exact .inr (List.ne_nil_of_mem (mem_agnostic_ofItems.2 ⟨hitem, hkey⟩))
    · obtain ⟨type, htype⟩ := List.exists_mem_of_ne_nil types htypes
      exact .inl (List.ne_nil_of_mem (mem_types_ofItems.2 ⟨item, hitem, types, hkey, htype⟩))

/-- An index of items, whatever they list and however often they are given, tells for every type the items that apply to it, each
as often as it was given and in that order; its types are those that are listed, each once, and it is empty exactly when no
item applies to anything. -/
theorem ofItems_dispatch (key : α → Option (List String)) (items : List α) :
    (∀ type, (ofItems key items).candidates type = items.filter (applies key type) ∧
      ∀ item, applies key type item = true ↔ key item = none ∨ ∃ types, key item = some types ∧ type ∈ types) ∧
      (ofItems key items).types.Nodup ∧
      (∀ type, type ∈ (ofItems key items).types ↔ ∃ item ∈ items, ∃ types, key item = some types ∧ type ∈ types) ∧
      ((ofItems key items).isNonempty = true ↔
        ∃ item ∈ items, key item = none ∨ ∃ types, key item = some types ∧ types ≠ []) := by
  refine ⟨fun type => ⟨candidates_ofItems key items type, fun item => applies_iff⟩, ?_, fun type => mem_types_ofItems,
    isNonempty_ofItems⟩
  rw [types_ofItems]
  exact nodup_eraseDups _

end AwkEdit.Dispatch
