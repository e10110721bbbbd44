import AwkEdit.Proofs.Pattern.Bindings
import AwkEdit.Proofs.Tree.Laminar

/-!
# The order of what a match binds

A match runs through a pattern and a tree together: where the pattern goes on to the patterns for the children, the match goes on
to children of the node, the later pattern to the later child. Without a choice in the pattern every match therefore binds the
captures in the order in which they are written, each to a node as deep below the anchor as the capture is in the pattern
(`map_bindings`), and it comes to the nodes in pre-order (`pairwise_inOrder_bindings`). The induction is over the pattern; over
the patterns for the children it is what comes after the child that was picked last that the later ones are left with.
-/

namespace AwkEdit

/-! ## The order of a listing -/

/-- Whether one of two elements is the other or comes before it in a listing. -/
def InOrder {α : Type} (listing : List α) (a b : α) : Prop := a = b ∨ [a, b].Sublist listing

section Listing

variable {α : Type} {a b : α} {as bs : List α}

theorem InOrder.sublist (h : InOrder as a b) (hsub : as.Sublist bs) : InOrder bs a b := h.imp_right (·.trans hsub)

/-- What is listed in a first part comes before what is listed in a second one. -/
theorem inOrder_append (ha : a ∈ as) (hb : b ∈ bs) : InOrder (as ++ bs) a b :=
  .inr ((List.singleton_sublist.2 ha).append (List.singleton_sublist.2 hb))

end Listing

/-- In a tree that makes sense, what comes first in pre-order does not start after what comes later. -/
theorem InOrder.start_le {limit : Nat} {p q r : Place} (h : InOrder p.subtree q r) (hp : p.node.Valid limit) :
    q.node.start ≤ r.node.start := by
  rcases h with rfl | hsub
  · exact Int.le_refl _
  · have hpair := (Place.pairwise_start_le hp).sublist hsub
    exact List.rel_of_pairwise_cons hpair (List.mem_singleton_self r)

namespace Pattern

/-! ## Captures as they are written -/

mutual

/-- Whether there is a choice in the pattern. -/
def hasChoice : Pattern → Bool
  | node _ children _ => hasChoiceBelow children
  | choice _ _ => true

/-- Whether there is a choice in one of the patterns for children. -/
def hasChoiceBelow : List (Option String × Pattern) → Bool
  | [] => false
  | (_, p) :: ps => p.hasChoice || hasChoiceBelow ps

end

mutual

/-- The capture names of a pattern in the order in which they are written, each with how deep in the pattern it is, from the depth
at which the pattern itself is. -/
def captureDepths (depth : Nat) : Pattern → List (String × Nat)
  | node _ children captures => captures.map (·, depth) ++ captureDepthsBelow (depth + 1) children
  | choice alternatives captures => captureDepthsOf depth alternatives ++ captures.map (·, depth)

/-- The same for the patterns for children. -/
def captureDepthsBelow (depth : Nat) : List (Option String × Pattern) → List (String × Nat)
  | [] => []
  | (_, p) :: ps => p.captureDepths depth ++ captureDepthsBelow depth ps

/-- The same for alternatives. -/
def captureDepthsOf (depth : Nat) : List Pattern → List (String × Nat)
  | [] => []
  | p :: ps => p.captureDepths depth ++ captureDepthsOf depth ps

end

mutual

theorem map_fst_captureDepths (depth : Nat) : (pattern : Pattern) →
    (pattern.captureDepths depth).map (·.1) = pattern.captureNames
  | node head children captures => by
    rw [captureDepths, captureNames, List.map_append, map_fst_captureDepthsBelow (depth + 1) children, List.map_map]
    exact congrArg (· ++ _) (List.map_id captures)
  | choice alternatives captures => by
    rw [captureDepths, captureNames, List.map_append, map_fst_captureDepthsOf depth alternatives, List.map_map]
    exact congrArg (_ ++ ·) (List.map_id captures)

theorem map_fst_captureDepthsBelow (depth : Nat) : (patterns : List (Option String × Pattern)) →
    (captureDepthsBelow depth patterns).map (·.1) = captureNamesBelow patterns
  | [] => rfl
  | (_, pattern) :: rest => by
    rw [captureDepthsBelow, captureNamesBelow, List.map_append, map_fst_captureDepths depth pattern,
      map_fst_captureDepthsBelow depth rest]

theorem map_fst_captureDepthsOf (depth : Nat) : (patterns : List Pattern) →
    (captureDepthsOf depth patterns).map (·.1) = captureNamesOf patterns
  | [] => rfl
  | pattern :: rest => by
    rw [captureDepthsOf, captureNamesOf, List.map_append, map_fst_captureDepths depth pattern,
      map_fst_captureDepthsOf depth rest]

end

/-! ## Captures as they are bound -/

/-- What is bound at children lies at or below them. -/
theorem mem_flatMap_of_mem_bindingsBelow {patterns : List (Option String × Pattern)} {children : List Place}
    {cs : List Capture} {c : Capture} (hcs : cs ∈ bindingsBelow patterns children) (hc : c ∈ cs) :
    c.place ∈ children.flatMap Place.subtree := by
  obtain ⟨child, hchild, hreach⟩ := reaches_of_mem_bindingsBelow patterns children cs c hcs hc
  exact List.mem_flatMap.2 ⟨child, hchild, Place.mem_subtree_iff.2 hreach⟩

mutual

/-- Without a choice, a match binds the captures as they are written, each as deep below the anchor as it is in the pattern. -/
theorem map_bindings : ∀ (pattern : Pattern) (p : Place) (cs : List Capture), pattern.hasChoice = false →
    cs ∈ pattern.bindings p → cs.map (fun c => (c.name, c.place.trail.length)) = pattern.captureDepths p.trail.length
  | node head children captures, p, cs, hchoice, hcs => by
    obtain ⟨-, below, hbelow, rfl⟩ := mem_bindings_node.1 hcs
    have hdepth : ∀ c ∈ p.children, c.trail.length = p.trail.length + 1 := by
      intro c hc
      obtain ⟨⟨n, i⟩, -, rfl⟩ := List.mem_map.1 hc
      rfl
    rw [List.map_append, map_bindingsBelow children p.children below hdepth hchoice hbelow, List.map_map, captureDepths]
    rfl
  | choice alternatives captures, p, cs, hchoice, hcs => by cases hchoice

/-- The same for what is bound at children. -/
theorem map_bindingsBelow {depth : Nat} : ∀ (patterns : List (Option String × Pattern)) (children : List Place)
    (cs : List Capture), (∀ c ∈ children, c.trail.length = depth) → hasChoiceBelow patterns = false →
    cs ∈ bindingsBelow patterns children →
      cs.map (fun c => (c.name, c.place.trail.length)) = captureDepthsBelow depth patterns
  | [], _, cs, _, _, hcs => by
    rw [bindingsBelow, List.mem_singleton] at hcs
    rw [hcs]
    rfl
  | (field, pattern) :: rest, children, cs, hdepth, hchoice, hcs => by
    rw [hasChoiceBelow, Bool.or_eq_false_iff] at hchoice
    obtain ⟨child, after, hpick, -, first, hfirst, below, hbelow, rfl⟩ := mem_bindingsBelow_cons.1 hcs
    obtain ⟨hchild, hafter⟩ := subset_of_mem_picks hpick
    have hrest := map_bindingsBelow rest after below (fun c hc => hdepth c (hafter hc)) hchoice.2 hbelow
    rw [List.map_append, map_bindings pattern child first hchoice.1 hfirst, hrest, hdepth child hchild, captureDepthsBelow]

end

mutual

/-- Without a choice, a match binds its captures to places in pre-order. -/
theorem pairwise_inOrder_bindings : ∀ (pattern : Pattern) (p : Place) (cs : List Capture), pattern.hasChoice = false →
    cs ∈ pattern.bindings p → cs.Pairwise fun c d => InOrder p.subtree c.place d.place
  | node head children captures, p, cs, hchoice, hcs => by
    obtain ⟨-, below, hbelow, rfl⟩ := mem_bindings_node.1 hcs
    have hinner := pairwise_inOrder_bindingsBelow children p.children below hchoice hbelow
    rw [Place.subtree_eq, List.pairwise_append]
    refine ⟨List.pairwise_map.2 (List.pairwise_of_forall fun _ _ => .inl rfl),
      hinner.imp fun h => h.sublist (List.sublist_cons_self _ _), fun c hc d hd => ?_⟩
    -- The node itself comes before everything below it.
    obtain ⟨name, -, rfl⟩ := List.mem_map.1 hc
    exact inOrder_append (List.mem_singleton_self p) (mem_flatMap_of_mem_bindingsBelow hbelow hd)
  | choice alternatives captures, p, cs, hchoice, hcs => by cases hchoice

/-- The same at children, in the pre-order of what lies at or below them. -/
theorem pairwise_inOrder_bindingsBelow : ∀ (patterns : List (Option String × Pattern)) (children : List Place)
    (cs : List Capture), hasChoiceBelow patterns = false → cs ∈ bindingsBelow patterns children →
      cs.Pairwise fun c d => InOrder (children.flatMap Place.subtree) c.place d.place
  | [], _, cs, _, hcs => by
    rw [bindingsBelow, List.mem_singleton] at hcs
    rw [hcs]
    exact .nil
  | (field, pattern) :: rest, children, cs, hchoice, hcs => by
    rw [hasChoiceBelow, Bool.or_eq_false_iff] at hchoice
    obtain ⟨child, after, hpick, -, first, hfirst, below, hbelow, rfl⟩ := mem_bindingsBelow_cons.1 hcs
    obtain ⟨before, rfl⟩ := mem_picks_iff.1 hpick
    rw [List.flatMap_append, List.flatMap_cons]
    have hlater := List.sublist_append_right (before.flatMap Place.subtree) (child.subtree ++ after.flatMap Place.subtree)
    refine List.pairwise_append.2 ⟨?_, ?_, fun c hc d hd => ?_⟩
    · exact (pairwise_inOrder_bindings pattern child first hchoice.1 hfirst).imp fun h =>
        (h.sublist (List.sublist_append_left _ _)).sublist hlater
    · exact (pairwise_inOrder_bindingsBelow rest after below hchoice.2 hbelow).imp fun h =>
        (h.sublist (List.sublist_append_right _ _)).sublist hlater
    · -- What the first pattern binds lies at or below the child, and what the others bind below a later one.
      have hc := Place.mem_subtree_iff.2 (reaches_of_mem_bindings pattern child first c hfirst hc)
      exact (inOrder_append hc (mem_flatMap_of_mem_bindingsBelow hbelow hd)).sublist hlater

end

end Pattern

/-! ## Matches -/

namespace CompiledPattern

/-- Every match at a place binds captures of the pattern, each to the place or to one below it, which lies in its range where the
tree makes sense. If there is no choice in the pattern, all matches bind the captures in the order in which they are written, each
as deep below the place as it is in the pattern, and to places in pre-order, none of which starts before an earlier one where the
tree makes sense. -/
theorem matchesAt_captures (pattern : CompiledPattern) (source : Source) (p : Place) :
    ∀ m ∈ (pattern.matchesAt source p).found,
      (∀ c ∈ m.captures, c.place ∈ p.subtree ∧ c.name ∈ pattern.captureNames) ∧
      (∀ t : Snapshot, p ∈ t.places →
        ∀ c ∈ m.captures, p.node.start ≤ c.place.node.start ∧ c.place.node.stop ≤ p.node.stop) ∧
      (pattern.root.hasChoice = false →
        m.captures.map (·.name) = pattern.root.captureNames ∧
        m.captures.map (fun c => (c.name, c.place.trail.length)) = pattern.root.captureDepths p.trail.length ∧
        m.captures.Pairwise (fun c d => InOrder p.subtree c.place d.place) ∧
        ∀ t : Snapshot, p ∈ t.places → m.captures.Pairwise fun c d => c.place.node.start ≤ d.place.node.start) := by
  intro m hm
  refine ⟨fun c hc => ⟨Place.mem_subtree_iff.2 (reaches_of_mem_matchesAt hm hc), name_mem_of_mem_matchesAt hm hc⟩,
    fun t hp c hc => ((reaches_of_mem_matchesAt hm hc).range (Snapshot.valid_of_mem_places hp)).2, fun hchoice => ?_⟩
  have hbound := captures_mem_bindings hm
  have hdepths := pattern.root.map_bindings p m.captures hchoice hbound
  have hordered := pattern.root.pairwise_inOrder_bindings p m.captures hchoice hbound
  refine ⟨?_, hdepths, hordered, fun t hp => hordered.imp fun h => h.start_le (Snapshot.valid_of_mem_places hp)⟩
  rw [← pattern.root.map_fst_captureDepths p.trail.length, ← hdepths, List.map_map]
  rfl

/-! ### Items of a list -/

/-- An item with its word, and a later item. -/
def twoItems : CompiledPattern :=
  ⟨.node (.type "list")
    [(none, .node (.type "item") [(none, .node (.type "word") [] ["word"])] ["first"]), (none, .node (.type "item") [] ["second"])]
    ["list"], [], none⟩

/-- A list of two items, each with a word. -/
def wordList : Node :=
  .mk { type := "list", start := 0, stop := 4 }
    [.mk { type := "item", start := 0, stop := 2 } [.mk { type := "word", start := 0, stop := 2 } []],
      .mk { type := "item", start := 2, stop := 4 } [.mk { type := "word", start := 2, stop := 4 } []]]

theorem valid_wordList : wordList.Valid (Source.ofString "abcd").size := by
  simp only [wordList, Node.Valid, Node.ValidAll, Node.Laid]
  decide

/-- The pattern matches at the list, and binds the list, the first item, the word in it and the second item. -/
theorem matchesAt_captures_wordList :
    let t : Snapshot := ⟨wordList, .ofString "abcd", valid_wordList⟩
    twoItems.root.hasChoice = false ∧ t.rootPlace ∈ t.places ∧
      ∃ m ∈ (twoItems.matchesAt t.source t.rootPlace).found,
        m.captures.map (fun c => (c.name, c.place.trail.length)) = [("list", 0), ("first", 1), ("word", 2), ("second", 1)] ∧
        (∀ c ∈ m.captures, c.name ∈ twoItems.captureNames ∧ c.place.node.stop ≤ 4) ∧
        m.captures.Pairwise fun c d => c.place.node.start ≤ d.place.node.start := by
  intro t
  have hchoice : twoItems.root.hasChoice = false := by decide
  have hroot : t.rootPlace ∈ t.places := Place.mem_subtree_iff.2 (.refl _)
  have hsome : (twoItems.matchesAt t.source t.rootPlace).found ≠ [] := by
    rw [← List.isEmpty_eq_false_iff]
    decide +kernel
  obtain ⟨m, hm⟩ := List.exists_mem_of_ne_nil _ hsome
  obtain ⟨hnames, hrange, hordered⟩ := matchesAt_captures twoItems t.source t.rootPlace m hm
  obtain ⟨-, hdepths, -, hstarts⟩ := hordered hchoice
  exact ⟨hchoice, hroot, m, hm, hdepths, fun c hc => ⟨(hnames c hc).2, (hrange t hroot c hc).2⟩, hstarts t hroot⟩

end CompiledPattern

end AwkEdit
