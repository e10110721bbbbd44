import AwkEdit.Proofs.Source.Variant
import AwkEdit.Proofs.Tree.Descent

/-!
# Trees carried over to another indentation

A tree is carried over from a text to a variant of it when its shape is kept and everything below the root keeps its places.
Kept places are in the same order as before, so a search for what starts at a place comes to the same node of both trees.
-/

namespace AwkEdit

/-! ## Trees and places -/

/-- The labels are the same but for their ranges. -/
def Label.SameKind (l m : Label) : Prop := m = { l with start := m.start, stop := m.stop }

namespace Node

mutual

/-- The tree is carried over from one text to another: it has the same shape, and every range is at the same places. -/
def CarriedTo (s t : Source) : Node → Node → Prop
  | mk l cs, mk m ds => l.SameKind m ∧ s.SamePlace t l.start m.start ∧ s.SamePlace t l.stop m.stop ∧ CarriedAll s t cs ds

/-- The trees are carried over one by one. -/
def CarriedAll (s t : Source) : List Node → List Node → Prop
  | [], [] => True
  | c :: cs, d :: ds => c.CarriedTo s t d ∧ CarriedAll s t cs ds
  | _, _ => False

end

/-- The tree is carried over but for the range of its root. -/
def CarriedBelow (s t : Source) (n m : Node) : Prop := n.label.SameKind m.label ∧ CarriedAll s t n.children m.children

variable {s t : Source} {n m : Node}

theorem CarriedTo.carriedBelow (h : n.CarriedTo s t m) : n.CarriedBelow s t m := by
  cases n
  cases m
  exact ⟨h.1, h.2.2.2⟩

theorem CarriedTo.start (h : n.CarriedTo s t m) : s.SamePlace t n.start m.start := by
  cases n
  cases m
  exact h.2.1

theorem CarriedTo.stop (h : n.CarriedTo s t m) : s.SamePlace t n.stop m.stop := by
  cases n
  cases m
  exact h.2.2.1

theorem CarriedBelow.type_eq (h : n.CarriedBelow s t m) : n.type = m.type := (congrArg Label.type h.1).symm

end Node

/-- The tree of a snapshot is carried over to the text of another. -/
def Snapshot.CarriedTo (t u : Snapshot) : Prop := t.root.CarriedBelow t.source u.source u.root

namespace Place

/-- The places are the same in a tree and in what it was carried over to: the same steps lead there from the roots. -/
inductive CarriedTo (t u : Snapshot) : Place → Place → Prop where
  | root : CarriedTo t u ⟨t.root, []⟩ ⟨u.root, []⟩
  | child {n m above other : Node} {trail way : List (Nat × Node)} (i : Nat) : n.CarriedTo t.source u.source m →
      CarriedTo t u ⟨above, trail⟩ ⟨other, way⟩ → CarriedTo t u ⟨n, (i, above) :: trail⟩ ⟨m, (i, other) :: way⟩

/-- The nodes at the same places are the same but for the range of the root. -/
theorem CarriedTo.carriedBelow {t u : Snapshot} (htree : t.CarriedTo u) {p q : Place} (h : CarriedTo t u p q) :
    p.node.CarriedBelow t.source u.source q.node := by
  cases h with
  | root => exact htree
  | child _ h _ => exact h.carriedBelow

end Place

/-! ## Searches -/

section Search

variable {t u : Snapshot} {accept other : Node → Bool}

mutual

/-- Descents by tests that accept the same nodes come to the same place. -/
theorem Node.deepest_carried (htree : t.CarriedTo u)
    (hsame : ∀ n m : Node, n.CarriedTo t.source u.source m → accept n = other m) :
    (n m : Node) → (trail way : List (Nat × Node)) → Place.CarriedTo t u ⟨n, trail⟩ ⟨m, way⟩ →
      Place.CarriedTo t u (n.deepest accept trail) (m.deepest other way)
  | .mk l cs, .mk m ds, trail, way, h => by
    rw [Node.deepest, Node.deepest]
    exact deepestChild_carried htree hsame h cs ds (h.carriedBelow htree).2 0

/-- The same for descents through some of the children. -/
theorem deepestChild_carried (htree : t.CarriedTo u)
    (hsame : ∀ n m : Node, n.CarriedTo t.source u.source m → accept n = other m) {above below : Node}
    {trail way : List (Nat × Node)} (h : Place.CarriedTo t u ⟨above, trail⟩ ⟨below, way⟩) :
    (cs ds : List Node) → Node.CarriedAll t.source u.source cs ds → (i : Nat) →
      Place.CarriedTo t u ((deepestChild accept above trail i cs).getD ⟨above, trail⟩)
        ((deepestChild other below way i ds).getD ⟨below, way⟩)
  | [], [], _, _ => by
    rw [deepestChild, deepestChild, Option.getD_none, Option.getD_none]
    exact h
  | c :: cs, d :: ds, hcs, i => by
    rw [deepestChild, deepestChild, hsame c d hcs.1]
    split
    next =>
      rw [Option.getD_some, Option.getD_some]
      exact Node.deepest_carried htree hsame c d _ _ (.child i hcs.1 h)
    next => exact deepestChild_carried htree hsame h cs ds hcs.2 (i + 1)

end

/-- Climbs from the same place come to the same place. -/
theorem Place.climb_carried {n m : Node} {trail way : List (Nat × Node)} (h : Place.CarriedTo t u ⟨n, trail⟩ ⟨m, way⟩) :
    Place.CarriedTo t u (climb n trail) (climb m way) := by
  induction trail generalizing n m way with
  | nil =>
    cases h with
    | root => exact .root
  | cons step trail ih =>
    cases h with
    | child i hnode habove =>
      cases habove with
      | root => exact .child i hnode .root
      | child j hnext hrest =>
        rw [climb, climb]
        simp only [hnext.start.eq_iff hnode.start]
        split
        · exact ih (.child j hnext hrest)
        · exact .child i hnode (.child j hnext hrest)

/-- What starts at a place is the same in both trees. -/
theorem Snapshot.largestNodeAt_carried (htree : t.CarriedTo u) {p q : Int} (hpq : t.source.SamePlace u.source p q) :
    Place.CarriedTo t u (t.largestNodeAt p) (u.largestNodeAt q) := by
  refine Place.climb_carried (Node.deepest_carried htree (fun n m hnm => ?_) _ _ _ _ .root)
  simp only [Node.contains, hnm.start.le_iff hpq, hpq.lt_iff hnm.stop]

end Search

end AwkEdit
