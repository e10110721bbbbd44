/-!
# Sorting by insertion

Short lists are sorted by insertion: the order of equal elements is kept, and the sorted list holds the same elements.
-/

namespace AwkEdit

/-- An element put in front of the first element that it does not come after. -/
def insertBy {α : Type} (le : α → α → Bool) (a : α) : List α → List α
  | [] => [a]
  | b :: bs => if le a b then a :: b :: bs else b :: insertBy le a bs

/-- A list in order. -/
def sortBy {α : Type} (le : α → α → Bool) (as : List α) : List α := as.foldr (insertBy le) []

theorem insertBy_perm {α : Type} (le : α → α → Bool) (a : α) (bs : List α) : (insertBy le a bs).Perm (a :: bs) := by
  induction bs with
  | nil => exact .refl _
  | cons b bs ih =>
    unfold insertBy
    split
    · exact .refl _
    · exact (List.Perm.cons b ih).trans (.swap a b bs)

/-- Sorting loses nothing and adds nothing. -/
theorem sortBy_perm {α : Type} (le : α → α → Bool) (as : List α) : (sortBy le as).Perm as := by
  induction as with
  | nil => exact .refl _
  | cons a as ih => exact (insertBy_perm le a _).trans (.cons a ih)

theorem mem_sortBy {α : Type} {le : α → α → Bool} {as : List α} {a : α} : a ∈ sortBy le as ↔ a ∈ as :=
  (sortBy_perm le as).mem_iff

theorem insertBy_pairwise {α : Type} {le : α → α → Bool} (trans : ∀ a b c, le a b → le b c → le a c)
    (total : ∀ a b, le a b || le b a) (a : α) {bs : List α} (h : bs.Pairwise (le · ·)) :
    (insertBy le a bs).Pairwise (le · ·) := by
  induction bs with
  | nil => exact List.pairwise_singleton _ a
  | cons b bs ih =>
    obtain ⟨hb, hbs⟩ := List.pairwise_cons.1 h
    unfold insertBy
    split
    case isTrue hab =>
      refine List.pairwise_cons.2 ⟨fun c hc => ?_, h⟩
      rcases List.mem_cons.1 hc with rfl | hc
      · exact hab
      · exact trans a b c hab (hb c hc)
    case isFalse hab =>
      refine List.pairwise_cons.2 ⟨fun c hc => ?_, ih hbs⟩
      rcases List.mem_cons.1 ((insertBy_perm le a bs).mem_iff.1 hc) with rfl | hc
      · have := total c b
        simp_all
      · exact hb c hc

/-- A sorted list is in order. -/
theorem sortBy_pairwise {α : Type} {le : α → α → Bool} (trans : ∀ a b c, le a b → le b c → le a c)
    (total : ∀ a b, le a b || le b a) (as : List α) : (sortBy le as).Pairwise (le · ·) := by
  induction as with
  | nil => exact .nil
  | cons a as ih => exact insertBy_pairwise trans total a ih

end AwkEdit
