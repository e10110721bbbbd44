import AwkEdit.Proofs.Tree.Descent
import AwkEdit.Proofs.Tree.Laminar

/-!
# Looking up what covers a position

In a tree that makes sense at most one child of a node contains a position, so the nodes that contain it lie one below the
other, and the descent to the deepest of them comes through all of them. The same holds of the nodes that strictly enclose the
position (`Node.Locates` is what the two tests have in common). The climb back goes to the outermost place below the root that
starts where the deepest one does. So the nodes below the root that contain a position, or strictly enclose it, are those on the
way up from where it is looked up (`lookups_lineage`), and the largest node at a position is, of all nodes below the root that
contain it, the outermost of those that start last (`largestNodeAt_spec`).
-/

namespace AwkEdit

namespace Place

variable {p q : Place}

/-! ## Descents -/

theorem deepestChild_eq (accept : Node → Bool) (parent : Node) (trail : List (Nat × Node)) (i : Nat) (cs : List Node) :
    deepestChild accept parent trail i cs =
      ((cs.zipIdx i).find? fun (c, _) => accept c).map fun (c, j) => c.deepest accept ((j, parent) :: trail) := by
  induction cs generalizing i with
  | nil => rfl
  | cons c cs ih =>
    rw [deepestChild, List.zipIdx_cons, List.find?_cons]
    by_cases hc : accept c = true
    · simp [hc]
    · simp [hc, ih]

/-- A descent goes on from the first child that is accepted, and stops where none is. -/
theorem deepest_eq (accept : Node → Bool) (p : Place) :
    p.deepest accept = ((p.children.find? (accept ·.node)).map (·.deepest accept)).getD p := by
  obtain ⟨⟨l, cs⟩, trail⟩ := p
  rw [deepest, Node.deepest, deepestChild_eq, children, List.find?_map, Option.map_map]
  rfl

/-- A descent comes to a place below. -/
theorem reaches_deepest (accept : Node → Bool) (p : Place) : p.Reaches (p.deepest accept) := by
  induction p using children_induction with
  | hstep p ih =>
    rw [deepest_eq]
    cases hfind : p.children.find? (accept ·.node) with
    | none => exact .refl p
    | some c =>
      have hc := List.mem_of_find?_eq_some hfind
      exact .step hc (ih c hc)

/-- A descent stays where it is or comes to an accepted node. -/
theorem deepest_eq_or_accepted (accept : Node → Bool) (p : Place) :
    p.deepest accept = p ∨ accept (p.deepest accept).node = true := by
  induction p using children_induction with
  | hstep p ih =>
    rw [deepest_eq]
    cases hfind : p.children.find? (accept ·.node) with
    | none => exact .inl rfl
    | some c =>
      refine .inr ?_
      have haccept : accept c.node = true := by simpa using List.find?_some hfind
      rcases ih c (List.mem_of_find?_eq_some hfind) with heq | hdeep
      · simpa [heq] using haccept
      · exact hdeep

end Place

namespace Node

/-- A test that looks for one position: with a node it accepts every node whose range holds that node's range, and of two nodes
that are apart it accepts one at most. -/
structure Locates (accept : Node → Bool) : Prop where
  outward : ∀ {n m : Node}, n.start ≤ m.start → m.stop ≤ n.stop → accept m = true → accept n = true
  single : ∀ {n m : Node}, n.stop ≤ m.start → accept n = true → accept m = false

theorem locates_contains (pos : Int) : Locates (contains pos) where
  outward := by
    intro n m hstart hstop hm
    simp only [contains, Bool.and_eq_true, decide_eq_true_eq] at hm ⊢
    omega
  single := by
    intro n m hapart hn
    simp only [contains, Bool.and_eq_true, decide_eq_true_eq] at hn
    simp only [contains, Bool.and_eq_false_iff, decide_eq_false_iff_not]
    omega

theorem locates_encloses (pos : Int) : Locates (encloses pos) where
  outward := by
    intro n m hstart hstop hm
    simp only [encloses, Bool.and_eq_true, decide_eq_true_eq] at hm ⊢
    omega
  single := by
    intro n m hapart hn
    simp only [encloses, Bool.and_eq_true, decide_eq_true_eq] at hn
    simp only [encloses, Bool.and_eq_false_iff, decide_eq_false_iff_not]
    omega

end Node

namespace Place

variable {p q : Place}

section Locating

variable {accept : Node → Bool} {limit : Nat}

/-- Two children of a node that makes sense are not both accepted. -/
theorem eq_of_accepted (haccept : Node.Locates accept) {c d : Place} (hp : p.node.Valid limit) (hc : c ∈ p.children)
    (hd : d ∈ p.children) (hcaccept : accept c.node = true) (hdaccept : accept d.node = true) : c = d := by
  by_contra hne
  rcases (pairwise_apart hp).forall hc hd hne with hapart | hapart
  · rw [haccept.single hapart hcaccept] at hdaccept
    cases hdaccept
  · rw [haccept.single hapart hdaccept] at hcaccept
    cases hcaccept

/-- A node is accepted with all nodes above it. -/
theorem accepted_of_reaches (haccept : Node.Locates accept) (h : p.Reaches q) (hp : p.node.Valid limit)
    (hq : accept q.node = true) : accept p.node = true :=
  haccept.outward (h.range hp).2.1 (h.range hp).2.2 hq

/-- Every accepted place below another is above where the descent comes to. -/
theorem reaches_deepest_of_accepted (haccept : Node.Locates accept) (h : p.Reaches q) (hp : p.node.Valid limit)
    (hq : accept q.node = true) : q.Reaches (p.deepest accept) := by
  induction h with
  | refl p => exact reaches_deepest _ p
  | @step p c q hc hcq ih =>
    have hvalid := (hp.child (node_mem_of_mem_children hc)).1
    have hcaccept := accepted_of_reaches haccept hcq hvalid hq
    -- The descent steps to an accepted child, and there is no other than the one on the way.
    have hfind : p.children.find? (accept ·.node) = some c := by
      cases hfind : p.children.find? (accept ·.node) with
      | none => exact absurd hcaccept (by simpa using List.find?_eq_none.1 hfind c hc)
      | some d =>
        have hdaccept : accept d.node = true := by simpa using List.find?_some hfind
        rw [eq_of_accepted haccept hp (List.mem_of_find?_eq_some hfind) hc hdaccept hcaccept]
    rw [deepest_eq, hfind]
    exact ih hvalid hq

/-- A node that contains a position contains it with all nodes above it. -/
theorem contains_of_reaches {pos : Int} (h : p.Reaches q) (hp : p.node.Valid limit) (hq : q.node.contains pos = true) :
    p.node.contains pos = true :=
  accepted_of_reaches (Node.locates_contains pos) h hp hq

/-- Everything below a place that contains a position is above where the descent to the position comes to. -/
theorem reaches_deepest_of_contains {pos : Int} (h : p.Reaches q) (hp : p.node.Valid limit)
    (hq : q.node.contains pos = true) : q.Reaches (p.deepest (Node.contains pos)) :=
  reaches_deepest_of_accepted (Node.locates_contains pos) h hp hq

end Locating

/-! ## What is above a place -/

/-- Of a place and what is above it, the later one is above the earlier one. -/
theorem pairwise_ancestors (q : Place) : (q :: q.ancestors).Pairwise fun a b => b ∈ a.ancestors := by
  obtain ⟨n, trail⟩ := q
  induction trail generalizing n with
  | nil => exact List.pairwise_singleton _ _
  | cons step trail ih => exact List.pairwise_cons.2 ⟨fun b hb => hb, ih step.2⟩

/-- What is above a place is nearer to the root. -/
theorem trail_length_lt_of_mem_ancestors {p q : Place} (h : p ∈ q.ancestors) : p.trail.length < q.trail.length := by
  obtain ⟨n, trail⟩ := q
  rw [ancestors] at h
  induction trail with
  | nil => cases h
  | cons step trail ih =>
    rcases List.mem_cons.1 h with rfl | h
    · exact Nat.lt_succ_self _
    · exact Nat.lt_succ_of_lt (ih h)

/-- What is above a place that lies below another is above both, or between them. -/
theorem Reaches.mem_ancestors_or {a p q : Place} (h : a.Reaches q) (hp : p ∈ q :: q.ancestors) :
    p ∈ a.ancestors ∨ (a.Reaches p ∧ p.Reaches q) := by
  induction h with
  | refl a =>
    rcases List.mem_cons.1 hp with rfl | hp
    · exact .inr ⟨.refl p, .refl p⟩
    · exact .inl hp
  | @step a c q hc hcq ih =>
    rcases ih hp with habove | ⟨hcp, hpq⟩
    · rw [ancestors_of_mem_children hc] at habove
      rcases List.mem_cons.1 habove with rfl | habove
      · exact .inr ⟨.refl p, .step hc hcq⟩
      · exact .inl habove
    · exact .inr ⟨.step hc hcp, hpq⟩

/-- A place and what is above it are the places on the way to it from the root. -/
theorem mem_cons_ancestors_iff {m : Node} {p q : Place} (hq : (root m).Reaches q) :
    p ∈ q :: q.ancestors ↔ (root m).Reaches p ∧ p.Reaches q := by
  constructor
  · intro hp
    rcases hq.mem_ancestors_or hp with habove | hbetween
    · cases habove
    · exact hbetween
  · rintro ⟨-, hpq⟩
    cases hpq with
    | refl => exact List.mem_cons_self
    | step hc hcq =>
      refine List.mem_cons_of_mem _ (hcq.mem_ancestors ?_)
      rw [ancestors_of_mem_children hc]
      exact List.mem_cons_self

/-- The place above a child is the place it is a child of. -/
theorem parent_of_mem_children {c : Place} (h : c ∈ p.children) : c.parent = some p := by
  rw [parent, ancestors_of_mem_children h, List.head?_cons]

/-- On the way to a place the last step is from the place above it. -/
theorem Reaches.eq_or_parent (h : p.Reaches q) : q = p ∨ ∃ r, q.parent = some r ∧ p.Reaches r ∧ q ∈ r.children := by
  induction h with
  | refl p => exact .inl rfl
  | @step p c q hc _ ih =>
    refine .inr ?_
    rcases ih with rfl | ⟨r, hparent, hreach, hq⟩
    · exact ⟨p, parent_of_mem_children hc, .refl p, hc⟩
    · exact ⟨r, hparent, .step hc hreach, hq⟩

/-- From the root a place below another is reached through that one, as a child of it. -/
theorem Reaches.above {m n above : Node} {i : Nat} {trail : List (Nat × Node)}
    (h : (root m).Reaches ⟨n, (i, above) :: trail⟩) :
    (root m).Reaches ⟨above, trail⟩ ∧ ⟨n, (i, above) :: trail⟩ ∈ (⟨above, trail⟩ : Place).children := by
  rcases h.eq_or_parent with heq | ⟨r, hparent, hreach, hmem⟩
  · cases heq
  · obtain rfl := Option.some.inj hparent
    exact ⟨hreach, hmem⟩

/-- Nothing but the root leads to the root. -/
theorem Reaches.eq_of_isRoot (h : p.Reaches q) (hq : q.isRoot = true) : q = p := by
  rcases h.eq_or_parent with heq | ⟨r, hparent, -⟩
  · exact heq
  · rw [isRoot, List.isEmpty_iff] at hq
    rw [parent, ancestors, hq] at hparent
    cases hparent

/-! ## Climbs -/

/-- Of the places between the root and a place that start where it does, and are not the root, the climb from it comes to the
one that all others are below. -/
theorem climb_reaches {limit : Nat} {m : Node} (hm : m.Valid limit) {n : Node} {trail : List (Nat × Node)}
    (h : (root m).Reaches ⟨n, trail⟩) :
    (root m).Reaches (climb n trail) ∧ (climb n trail).Reaches ⟨n, trail⟩ ∧
      ∀ q, (root m).Reaches q → q.trail ≠ [] → q.Reaches ⟨n, trail⟩ → q.node.start = n.start →
        (climb n trail).Reaches q := by
  induction trail generalizing n with
  | nil =>
    refine ⟨h, .refl _, fun q hq hne hreach _ => ?_⟩
    rw [← hreach.eq_of_isRoot rfl] at hne
    exact absurd rfl hne
  | cons step trail ih =>
    obtain ⟨i, above⟩ := step
    obtain ⟨habove, hchild⟩ := h.above
    -- What is above the place, and not the place itself, is at or above the place just above.
    have hstep : ∀ q : Place, q.Reaches ⟨n, (i, above) :: trail⟩ →
        ⟨n, (i, above) :: trail⟩ = q ∨ q.Reaches ⟨above, trail⟩ := by
      intro q hq
      rcases hq.eq_or_parent with heq | ⟨r, hparent, hreach, -⟩
      · exact .inl heq
      · obtain rfl := Option.some.inj hparent
        exact .inr hreach
    cases trail with
    | nil =>
      refine ⟨h, .refl _, fun q hq hne hreach _ => ?_⟩
      rcases hstep q hreach with rfl | hreach
      · exact .refl _
      · rw [← hreach.eq_of_isRoot rfl] at hne
        exact absurd rfl hne
    | cons next trail =>
      rw [climb]
      split
      next hstart =>
        obtain ⟨hroot, hreach, hout⟩ := ih habove
        refine ⟨hroot, hreach.trans (.child hchild), fun q hq hne hqn hqstart => ?_⟩
        rcases hstep q hqn with rfl | hqabove
        · exact hreach.trans (.child hchild)
        · exact hout q hq hne hqabove (hqstart.trans hstart.symm)
      next hstart =>
        refine ⟨h, .refl _, fun q hq hne hqn hqstart => ?_⟩
        rcases hstep q hqn with rfl | hqabove
        · exact .refl _
        · -- A place further up that starts here would put the one just above here as well.
          have hqvalid := (hq.range hm).1
          have hlow := (hqabove.range hqvalid).2.1
          have hhigh := ((habove.range hm).1.child (node_mem_of_mem_children hchild)).2
          exact absurd (by simp only at hlow hhigh; omega) hstart

/-- A climb comes to the root only from the root. -/
theorem isRoot_climb (n : Node) (trail : List (Nat × Node)) : (climb n trail).isRoot = trail.isEmpty := by
  induction trail generalizing n with
  | nil => rfl
  | cons step trail ih =>
    cases trail with
    | nil => rfl
    | cons next trail =>
      rw [climb]
      split
      · exact ih step.2
      · rfl

end Place

/-! ## Lookups -/

namespace Snapshot

variable {t : Snapshot} {p q : Place} {pos : Int}

/-- The place is below the root of the tree, and its node contains the position. -/
def CoversBelow (t : Snapshot) (pos : Int) (p : Place) : Prop :=
  p ∈ t.places ∧ p.isRoot = false ∧ p.node.contains pos = true

theorem isRoot_eq_false_iff : p.isRoot = false ↔ p.trail ≠ [] := by
  rw [Place.isRoot, List.isEmpty_eq_false_iff]

/-- What covers a position covers it above where the descent to the position comes to. -/
theorem CoversBelow.reaches_nodeAt (h : t.CoversBelow pos p) : p.Reaches (t.nodeAt pos) :=
  Place.reaches_deepest_of_contains (Place.mem_subtree_iff.1 h.1) t.valid h.2.2

/-- A position is looked up at the root exactly when nothing below the root covers it. -/
theorem isRoot_nodeAt_iff : (t.nodeAt pos).isRoot = true ↔ ∀ q, ¬t.CoversBelow pos q := by
  constructor
  · intro hroot q hq
    rw [hq.reaches_nodeAt.eq_of_isRoot hroot, hq.2.1] at hroot
    cases hroot
  · intro hnone
    rcases Place.deepest_eq_or_accepted (Node.contains pos) t.rootPlace with heq | haccept
    · rw [nodeAt, heq]
      rfl
    · by_contra hroot
      exact hnone (t.nodeAt pos) ⟨Place.mem_subtree_iff.2 (Place.reaches_deepest _ _), by simpa using hroot, haccept⟩

/-- What is looked up at a position is the root exactly when nothing below the root covers the position. Otherwise it covers the
position, and of all that does it starts last and is the outermost of those that start there. -/
theorem largestNodeAt_spec (t : Snapshot) (pos : Int) :
    ((t.largestNodeAt pos).isRoot = true ↔ ∀ q, ¬t.CoversBelow pos q) ∧
      ((t.largestNodeAt pos).isRoot = false → t.CoversBelow pos (t.largestNodeAt pos) ∧
        ∀ q, t.CoversBelow pos q → q.node.start ≤ (t.largestNodeAt pos).node.start ∧
          (q.node.start = (t.largestNodeAt pos).node.start → (t.largestNodeAt pos).Reaches q)) := by
  have hdeep : t.rootPlace.Reaches (t.nodeAt pos) := Place.reaches_deepest _ _
  obtain ⟨hreached, hreach, hout⟩ := Place.climb_reaches t.valid hdeep
  have hstart : (t.largestNodeAt pos).node.start = (t.nodeAt pos).node.start :=
    (Place.climb_spec (t.nodeAt pos).node (t.nodeAt pos).trail).1
  have hroot : (t.largestNodeAt pos).isRoot = (t.nodeAt pos).isRoot := Place.isRoot_climb _ _
  refine ⟨by rw [hroot, isRoot_nodeAt_iff], fun hbelow => ?_⟩
  have hcovers : t.CoversBelow pos (t.nodeAt pos) := by
    refine ⟨Place.mem_subtree_iff.2 hdeep, hroot.symm.trans hbelow, ?_⟩
    rcases Place.deepest_eq_or_accepted (Node.contains pos) t.rootPlace with heq | haccept
    · rw [hroot, nodeAt, heq] at hbelow
      cases hbelow
    · exact haccept
  have hvalid := (hreached.range t.valid).1
  refine ⟨⟨Place.mem_subtree_iff.2 hreached, hbelow, Place.contains_of_reaches hreach hvalid hcovers.2.2⟩, fun q hq => ?_⟩
  have hqroot := Place.mem_subtree_iff.1 hq.1
  have hqdeep := hq.reaches_nodeAt
  rw [hstart]
  exact ⟨(hqdeep.range (hqroot.range t.valid).1).2.1, hout q hqroot (isRoot_eq_false_iff.1 hq.2.1) hqdeep⟩

/-- The places on the way up from where a descent comes to are, below the root, those that are accepted. -/
theorem mem_lineage_deepest_iff {accept : Node → Bool} (haccept : Node.Locates accept) (t : Snapshot) :
    (p ∈ t.rootPlace.deepest accept :: (t.rootPlace.deepest accept).ancestors ∧ p.isRoot = false) ↔
      p ∈ t.places ∧ p.isRoot = false ∧ accept p.node = true := by
  have hdeep : t.rootPlace.Reaches (t.rootPlace.deepest accept) := Place.reaches_deepest _ _
  rw [Place.mem_cons_ancestors_iff hdeep]
  constructor
  · rintro ⟨⟨hroot, hreach⟩, hbelow⟩
    refine ⟨Place.mem_subtree_iff.2 hroot, hbelow, ?_⟩
    rcases Place.deepest_eq_or_accepted accept t.rootPlace with heq | hdeepest
    · rw [heq] at hreach
      rw [← hreach.eq_of_isRoot rfl] at hbelow
      cases hbelow
    · exact Place.accepted_of_reaches haccept hreach (hroot.range t.valid).1 hdeepest
  · rintro ⟨hplace, hbelow, hp⟩
    have hroot := Place.mem_subtree_iff.1 hplace
    exact ⟨⟨hroot, Place.reaches_deepest_of_accepted haccept hroot t.valid hp⟩, hbelow⟩

/-- Of a place and what is above it, but the root, `p` is the outermost that starts where the place does. -/
structure OutermostFrom (q p : Place) : Prop where
  above : p ∈ q :: q.ancestors
  belowRoot : p.isRoot = false
  start : p.node.start = q.node.start
  outermost : ∀ r ∈ q :: q.ancestors, r.isRoot = false → r.node.start = q.node.start → p ∈ r :: r.ancestors

/-- The nodes below the root that contain a position are those on the way up from the deepest node there, and the nodes below the
root that strictly enclose it are those on the way up from the smallest enclosing node, which is the deepest node or above it. The
largest node at the position is the root exactly when the deepest one is, and otherwise the outermost one on the way up from there,
but the root, that starts where the deepest one does. -/
theorem lookups_lineage (t : Snapshot) (pos : Int) :
    (∀ p, (p ∈ t.nodeAt pos :: (t.nodeAt pos).ancestors ∧ p.isRoot = false) ↔
      p ∈ t.places ∧ p.isRoot = false ∧ p.node.start ≤ pos ∧ pos < p.node.stop) ∧
    (∀ p, (p ∈ t.enclosingNode pos :: (t.enclosingNode pos).ancestors ∧ p.isRoot = false) ↔
      p ∈ t.places ∧ p.isRoot = false ∧ p.node.start < pos ∧ pos < p.node.stop) ∧
    t.enclosingNode pos ∈ t.nodeAt pos :: (t.nodeAt pos).ancestors ∧
    (t.largestNodeAt pos = t.rootPlace ↔ t.nodeAt pos = t.rootPlace) ∧
    (t.nodeAt pos = t.rootPlace ∨ OutermostFrom (t.nodeAt pos) (t.largestNodeAt pos)) := by
  have hdeep : t.rootPlace.Reaches (t.nodeAt pos) := Place.reaches_deepest _ _
  obtain ⟨hreached, hreach, hout⟩ := Place.climb_reaches t.valid hdeep
  have hroot : (t.largestNodeAt pos).isRoot = (t.nodeAt pos).isRoot := Place.isRoot_climb _ _
  have heq_root : ∀ {p : Place}, t.rootPlace.Reaches p → (p = t.rootPlace ↔ p.isRoot = true) := by
    intro p hp
    exact ⟨fun heq => by rw [heq]; rfl, hp.eq_of_isRoot⟩
  refine ⟨fun p => ?_, fun p => ?_, ?_, ?_, ?_⟩
  · have hlineage := mem_lineage_deepest_iff (p := p) (Node.locates_contains pos) t
    rwa [Node.contains, Bool.and_eq_true, decide_eq_true_eq, decide_eq_true_eq] at hlineage
  · have hlineage := mem_lineage_deepest_iff (p := p) (Node.locates_encloses pos) t
    rwa [Node.encloses, Bool.and_eq_true, decide_eq_true_eq, decide_eq_true_eq] at hlineage
  · -- A node that strictly encloses a position contains it.
    have henclosing : t.rootPlace.Reaches (t.enclosingNode pos) := Place.reaches_deepest _ _
    refine (Place.mem_cons_ancestors_iff hdeep).2 ⟨henclosing, ?_⟩
    rcases Place.deepest_eq_or_accepted (Node.encloses pos) t.rootPlace with heq | hencloses
    · rw [enclosingNode, heq]
      exact hdeep
    · refine Place.reaches_deepest_of_contains henclosing t.valid ?_
      simp only [Node.encloses, Node.contains, Bool.and_eq_true, decide_eq_true_eq] at hencloses ⊢
      exact ⟨Int.le_of_lt hencloses.1, hencloses.2⟩
  · exact (heq_root hreached).trans (hroot ▸ (heq_root hdeep).symm)
  · by_cases hnode : t.nodeAt pos = t.rootPlace
    · exact .inl hnode
    · have hbelow : (t.nodeAt pos).isRoot = false := by
        rwa [heq_root hdeep, Bool.not_eq_true] at hnode
      refine .inr ⟨(Place.mem_cons_ancestors_iff hdeep).2 ⟨hreached, hreach⟩, hroot.trans hbelow,
        (Place.climb_spec (t.nodeAt pos).node (t.nodeAt pos).trail).1, fun r hr hrbelow hrstart => ?_⟩
      obtain ⟨hrroot, hrreach⟩ := (Place.mem_cons_ancestors_iff hdeep).1 hr
      exact (Place.mem_cons_ancestors_iff hrroot).2 ⟨hreached, hout r hrroot (isRoot_eq_false_iff.1 hrbelow) hrreach hrstart⟩

end Snapshot

end AwkEdit
