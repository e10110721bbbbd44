import AwkEdit.Proofs.Pattern.Bindings
import AwkEdit.Proofs.Pattern.RootTypes

/-!
# Derivations

What a pattern matches, said without a search: a derivation says how a pattern matches at a place, by the children at which the
patterns below it are matched or by the alternative that matches, and `Pattern.Derives` says which derivations there are and
what each binds. Derivations come one before the other as they differ first. The search finds every derivation once, in that
order (`Pattern.mem_derivations_iff`, `Pattern.pairwise_derivations`), so the matches of a compiled pattern are the derivations that
its predicates keep (`CompiledPattern.matchesAt_derivations`).
-/

namespace AwkEdit

/-- How a pattern matches at a place. A node pattern matches with each of its patterns at a child, given by its number; a choice
matches by one of its alternatives. -/
inductive Derivation where
  | node (steps : List (Nat × Derivation))
  | choice (alternative : Nat) (inner : Derivation)

namespace Derivation

/-! ## The order of derivations -/

mutual

/-- Whether one derivation comes before another: they differ first in the number of a child or of an alternative, and the smaller
one comes first. -/
inductive Before : Derivation → Derivation → Prop
  | node {s t : List (Nat × Derivation)} : StepsBefore s t → Before (.node s) (.node t)
  | alternative {i j : Nat} {d e : Derivation} : i < j → Before (.choice i d) (.choice j e)
  | inner {i : Nat} {d e : Derivation} : Before d e → Before (.choice i d) (.choice i e)

/-- Whether some steps come before others. -/
inductive StepsBefore : List (Nat × Derivation) → List (Nat × Derivation) → Prop
  | child {i j : Nat} {d e : Derivation} {s t : List (Nat × Derivation)} : i < j → StepsBefore ((i, d) :: s) ((j, e) :: t)
  | within {i : Nat} {d e : Derivation} {s t : List (Nat × Derivation)} : Before d e → StepsBefore ((i, d) :: s) ((i, e) :: t)
  | rest {i : Nat} {d : Derivation} {s t : List (Nat × Derivation)} : StepsBefore s t → StepsBefore ((i, d) :: s) ((i, d) :: t)

end

mutual

/-- Of two derivations at most one comes before the other. -/
theorem Before.asymm : ∀ {d e : Derivation}, Before d e → ¬Before e d
  | _, _, .node h, .node h' => h.asymm h'
  | _, _, .alternative h, .alternative h' => Nat.lt_asymm h h'
  | _, _, .alternative h, .inner _ => Nat.lt_irrefl _ h
  | _, _, .inner _, .alternative h => Nat.lt_irrefl _ h
  | _, _, .inner h, .inner h' => h.asymm h'

theorem StepsBefore.asymm : ∀ {s t : List (Nat × Derivation)}, StepsBefore s t → ¬StepsBefore t s
  | _, _, .child h, .child h' => Nat.lt_asymm h h'
  | _, _, .child h, .within _ => Nat.lt_irrefl _ h
  | _, _, .child h, .rest _ => Nat.lt_irrefl _ h
  | _, _, .within _, .child h => Nat.lt_irrefl _ h
  | _, _, .within h, .within h' => h.asymm h'
  | _, _, .within h, .rest _ => h.asymm h
  | _, _, .rest _, .child h => Nat.lt_irrefl _ h
  | _, _, .rest _, .within h => h.asymm h
  | _, _, .rest h, .rest h' => h.asymm h'

end

theorem Before.ne {d e : Derivation} (h : Before d e) : d ≠ e := by
  rintro rfl
  exact h.asymm h

end Derivation

namespace Pattern

/-! ## Which derivations there are -/

mutual

/-- Whether a pattern matches at a place by a derivation, and what it binds then. A node pattern matches when its head accepts the
type of the node and its patterns match at children with increasing numbers; it binds the node first and then what they bind. A
choice matches when one of its alternatives does; it binds what the alternative binds, and then the node. -/
inductive Derives : Pattern → Place → Derivation → List Capture → Prop
  | node {head : Head} {children : List (Option String × Pattern)} {captures : List String} {p : Place}
      {steps : List (Nat × Derivation)} {below : List Capture} :
      head.accepts p.node.type = true → (steps.map (·.1)).Pairwise (· < ·) → DerivesBelow children p.children steps below →
        Derives (.node head children captures) p (.node steps) (captures.map (⟨·, p⟩) ++ below)
  | choice {alternatives : List Pattern} {captures : List String} {p : Place} {i : Nat} {pattern : Pattern} {d : Derivation}
      {inner : List Capture} :
      alternatives[i]? = some pattern → Derives pattern p d inner →
        Derives (.choice alternatives captures) p (.choice i d) (inner ++ captures.map (⟨·, p⟩))

/-- Whether patterns match at some of the places, one step for each pattern: the place has the field asked for, if one is, and the
pattern matches there. -/
inductive DerivesBelow : List (Option String × Pattern) → List Place → List (Nat × Derivation) → List Capture → Prop
  | nil {places : List Place} : DerivesBelow [] places [] []
  | cons {field : Option String} {pattern : Pattern} {rest : List (Option String × Pattern)} {places : List Place} {i : Nat}
      {child : Place} {d : Derivation} {first : List Capture} {steps : List (Nat × Derivation)} {below : List Capture} :
      places[i]? = some child → (∀ name ∈ field, child.node.field = some name) → Derives pattern child d first →
        DerivesBelow rest places steps below →
          DerivesBelow ((field, pattern) :: rest) places ((i, d) :: steps) (first ++ below)

end

/-! ## The search for derivations -/

/-- The ways in which a pattern matches at the place of a number, each followed by each of the ways in which others match. -/
def extend (i : Nat) (firsts : List (Derivation × List Capture)) (rests : List (List (Nat × Derivation) × List Capture)) :
    List (List (Nat × Derivation) × List Capture) :=
  firsts.flatMap fun (d, first) => rests.map fun (steps, below) => ((i, d) :: steps, first ++ below)

theorem mem_extend_iff {i : Nat} {firsts : List (Derivation × List Capture)}
    {rests : List (List (Nat × Derivation) × List Capture)} {s : List (Nat × Derivation)} {cs : List Capture} :
    (s, cs) ∈ extend i firsts rests ↔ ∃ d first steps below, (d, first) ∈ firsts ∧ (steps, below) ∈ rests ∧
      s = (i, d) :: steps ∧ cs = first ++ below := by
  constructor
  · intro h
    obtain ⟨⟨d, first⟩, hfirst, h⟩ := List.mem_flatMap.1 h
    obtain ⟨⟨steps, below⟩, hrest, heq⟩ := List.mem_map.1 h
    obtain ⟨rfl, rfl⟩ := Prod.mk.inj heq
    exact ⟨d, first, steps, below, hfirst, hrest, rfl, rfl⟩
  · rintro ⟨d, first, steps, below, hfirst, hrest, rfl, rfl⟩
    exact List.mem_flatMap.2 ⟨(d, first), hfirst, List.mem_map.2 ⟨(steps, below), hrest, rfl⟩⟩

mutual

/-- The derivations of a pattern at a place with what they bind, in the order in which the search comes to them. -/
def derivations : Pattern → Place → List (Derivation × List Capture)
  | node head children captures, p =>
    if head.accepts p.node.type then
      (derivationsBelow children p.children.zipIdx).map fun (steps, below) => (.node steps, captures.map (⟨·, p⟩) ++ below)
    else []
  | choice alternatives captures, p =>
    (derivationsOf 0 alternatives p).map fun (i, d, inner) => (.choice i d, inner ++ captures.map (⟨·, p⟩))

/-- The ways in which patterns match at some of the places, which come with their numbers. -/
def derivationsBelow : List (Option String × Pattern) → List (Place × Nat) → List (List (Nat × Derivation) × List Capture)
  | [], _ => [([], [])]
  | (field, pattern) :: rest, places =>
    (picks places).flatMap fun ((child, i), after) =>
      if underField field child then extend i (pattern.derivations child) (derivationsBelow rest after) else []

/-- The derivations of alternatives at a place, each with the number of its alternative; the first has the number `i`. -/
def derivationsOf (i : Nat) : List Pattern → Place → List (Nat × Derivation × List Capture)
  | [], _ => []
  | pattern :: rest, p => (pattern.derivations p).map (i, ·) ++ derivationsOf (i + 1) rest p

end

/-- Splits of numbered places are splits of the places. -/
theorem picks_map {α β : Type} (f : α → β) (as : List α) :
    picks (as.map f) = (picks as).map fun (a, after) => (f a, after.map f) := by
  induction as with
  | nil => rfl
  | cons a as ih => rw [List.map_cons, picks, picks, ih, List.map_cons]

mutual

/-- What the derivations bind is what matches bind. -/
theorem map_snd_derivations : ∀ (pattern : Pattern) (p : Place), (pattern.derivations p).map (·.2) = pattern.bindings p
  | node head children captures, p => by
    rw [derivations, bindings]
    split
    · have := map_snd_derivationsBelow children p.children.zipIdx
      rw [List.zipIdx_map_fst] at this
      rw [← this, List.map_map, List.map_map]
      rfl
    · rfl
  | choice alternatives captures, p => by
    rw [derivations, bindings, ← map_snd_derivationsOf 0 alternatives p, List.map_map, List.map_map]
    rfl

theorem map_snd_derivationsBelow : ∀ (patterns : List (Option String × Pattern)) (places : List (Place × Nat)),
    (derivationsBelow patterns places).map (·.2) = bindingsBelow patterns (places.map (·.1))
  | [], _ => by rw [derivationsBelow, bindingsBelow, List.map_singleton]
  | (field, pattern) :: rest, places => by
    rw [derivationsBelow, bindingsBelow, picks_map, List.flatMap_map, List.map_flatMap]
    refine congrArg (List.flatMap · (picks places)) (funext fun ⟨⟨child, i⟩, after⟩ => ?_)
    dsimp only
    split
    · rw [extend, ← map_snd_derivations pattern child, ← map_snd_derivationsBelow rest after, List.map_flatMap,
        List.flatMap_map]
      simp only [List.map_map, Function.comp_def]
    · rfl

theorem map_snd_derivationsOf : ∀ (i : Nat) (patterns : List Pattern) (p : Place),
    (derivationsOf i patterns p).map (·.2.2) = bindingsOf patterns p
  | _, [], _ => by rw [derivationsOf, bindingsOf, List.map_nil]
  | i, pattern :: rest, p => by
    rw [derivationsOf, bindingsOf, List.map_append, List.map_map, ← map_snd_derivations pattern p,
      ← map_snd_derivationsOf (i + 1) rest p]
    rfl

end

/-! ## The search finds every derivation -/

/-- A numbered list is split at one of its elements, under the number of the element, with what comes after it. -/
theorem mem_picks_zipIdx {α : Type} {as : List α} {k i : Nat} {a : α} {after : List (α × Nat)} :
    ((a, i), after) ∈ picks (as.zipIdx k) ↔ ∃ n, i = k + n ∧ as[n]? = some a ∧ after = (as.drop (n + 1)).zipIdx (i + 1) := by
  induction as generalizing k with
  | nil => simp [picks]
  | cons b as ih =>
    rw [List.zipIdx_cons, picks, List.mem_cons, ih]
    constructor
    · rintro (h | ⟨n, rfl, ha, rfl⟩)
      · obtain ⟨⟨rfl, rfl⟩, rfl⟩ : (a = b ∧ i = k) ∧ after = as.zipIdx (k + 1) := by simpa using h
        exact ⟨0, rfl, rfl, rfl⟩
      · exact ⟨n + 1, by omega, ha, rfl⟩
    · rintro ⟨n, rfl, ha, rfl⟩
      cases n with
      | zero =>
        obtain rfl : b = a := Option.some.inj ha
        exact .inl rfl
      | succ n => exact .inr ⟨n, by omega, ha, rfl⟩

/-- A place is under the field asked for when it has each field that is asked for. -/
theorem underField_iff {field : Option String} {p : Place} :
    underField field p = true ↔ ∀ name ∈ field, p.node.field = some name := by
  cases field with
  | none => simp [underField]
  | some name => simp [underField]

mutual

/-- The search finds the derivations of a pattern with what they bind, and nothing else. -/
theorem mem_derivations_iff : ∀ (pattern : Pattern) (p : Place) (d : Derivation) (cs : List Capture),
    (d, cs) ∈ pattern.derivations p ↔ pattern.Derives p d cs
  | node head children captures, p, d, cs => by
    rw [derivations]
    constructor
    · intro h
      split at h
      next hhead =>
        obtain ⟨⟨steps, below⟩, hmem, heq⟩ := List.mem_map.1 h
        obtain ⟨rfl, rfl⟩ := Prod.mk.inj heq
        obtain ⟨hbelow, hincreasing, -⟩ := (mem_derivationsBelow_iff children p.children 0 steps below).1 hmem
        exact .node hhead hincreasing hbelow
      next => cases h
    · rintro ⟨hhead, hincreasing, hbelow⟩
      rw [if_pos hhead]
      refine List.mem_map.2 ⟨(_, _), (mem_derivationsBelow_iff children p.children 0 _ _).2 ⟨hbelow, hincreasing, ?_⟩, rfl⟩
      exact fun _ _ => Nat.zero_le _
  | choice alternatives captures, p, d, cs => by
    rw [derivations, List.mem_map]
    constructor
    · rintro ⟨⟨i, e, inner⟩, hmem, heq⟩
      obtain ⟨rfl, rfl⟩ := Prod.mk.inj heq
      obtain ⟨n, pattern, hi, hpattern, hderives⟩ := (mem_derivationsOf_iff 0 alternatives p i e inner).1 hmem
      rw [Nat.zero_add] at hi
      exact .choice (hi ▸ hpattern) hderives
    · rintro (_ | ⟨hpattern, hderives⟩)
      refine ⟨(_, _, _), (mem_derivationsOf_iff 0 alternatives p _ _ _).2 ⟨_, _, (Nat.zero_add _).symm, hpattern, hderives⟩, rfl⟩

/-- From the place of a number on, the search finds the ways in which patterns match at places with increasing numbers. -/
theorem mem_derivationsBelow_iff : ∀ (patterns : List (Option String × Pattern)) (places : List Place) (k : Nat)
    (steps : List (Nat × Derivation)) (below : List Capture),
    (steps, below) ∈ derivationsBelow patterns ((places.drop k).zipIdx k) ↔
      DerivesBelow patterns places steps below ∧ (steps.map (·.1)).Pairwise (· < ·) ∧ ∀ i ∈ steps.map (·.1), k ≤ i
  | [], places, k, steps, below => by
    rw [derivationsBelow, List.mem_singleton]
    constructor
    · rintro ⟨rfl, rfl⟩
      exact ⟨.nil, by simp⟩
    · rintro ⟨⟨⟩, -⟩
      rfl
  | (field, pattern) :: rest, places, k, steps, below => by
    rw [derivationsBelow, List.mem_flatMap]
    constructor
    · rintro ⟨⟨⟨child, i⟩, after⟩, hpick, hmem⟩
      obtain ⟨n, rfl, hchild, rfl⟩ := mem_picks_zipIdx.1 hpick
      rw [List.getElem?_drop] at hchild
      rw [List.drop_drop, ← Nat.add_assoc] at hmem
      dsimp only at hmem
      split at hmem
      next hfield =>
        obtain ⟨d, first, steps, below, hfirst, hsteps, rfl, rfl⟩ := mem_extend_iff.1 hmem
        obtain ⟨hrest, hincreasing, hfrom⟩ := (mem_derivationsBelow_iff rest places (k + n + 1) steps below).1 hsteps
        refine ⟨.cons hchild (underField_iff.1 hfield) ((mem_derivations_iff pattern child d first).1 hfirst) hrest, ?_, ?_⟩
        · exact List.pairwise_cons.2 ⟨hfrom, hincreasing⟩
        · refine List.forall_mem_cons.2 ⟨Nat.le_add_right k n, fun j hj => ?_⟩
          have := hfrom j hj
          omega
      next => cases hmem
    · rintro ⟨hderives, hincreasing, hfrom⟩
      cases hderives with
      | @cons _ _ _ _ i child d first steps below hchild hfield hfirst hrest =>
        rw [List.map_cons, List.pairwise_cons] at hincreasing
        have hk : k ≤ i := hfrom i List.mem_cons_self
        refine ⟨((child, i), (places.drop (i + 1)).zipIdx (i + 1)), mem_picks_zipIdx.2 ⟨i - k, by omega, ?_, ?_⟩, ?_⟩
        · rw [List.getElem?_drop, Nat.add_sub_cancel' hk]
          exact hchild
        · rw [List.drop_drop, show k + (i - k + 1) = i + 1 by omega]
        · dsimp only
          rw [if_pos (underField_iff.2 hfield)]
          refine mem_extend_iff.2 ⟨d, first, steps, below, (mem_derivations_iff pattern child d first).2 hfirst, ?_, rfl, rfl⟩
          exact (mem_derivationsBelow_iff rest places (i + 1) steps below).2 ⟨hrest, hincreasing.2, hincreasing.1⟩

/-- The search finds the derivations of every alternative under its number. -/
theorem mem_derivationsOf_iff : ∀ (k : Nat) (patterns : List Pattern) (p : Place) (i : Nat) (d : Derivation)
    (inner : List Capture),
    (i, d, inner) ∈ derivationsOf k patterns p ↔
      ∃ n pattern, i = k + n ∧ patterns[n]? = some pattern ∧ pattern.Derives p d inner
  | k, [], p, i, d, inner => by simp [derivationsOf]
  | k, pattern :: rest, p, i, d, inner => by
    rw [derivationsOf, List.mem_append, mem_derivationsOf_iff (k + 1) rest p i d inner]
    constructor
    · rintro (h | ⟨n, other, rfl, hother, hderives⟩)
      · obtain ⟨⟨e, cs⟩, hmem, heq⟩ := List.mem_map.1 h
        cases heq
        exact ⟨0, pattern, rfl, rfl, (mem_derivations_iff pattern p d inner).1 hmem⟩
      · exact ⟨n + 1, other, by omega, hother, hderives⟩
    · rintro ⟨n, other, rfl, hother, hderives⟩
      cases n with
      | zero =>
        obtain rfl : pattern = other := Option.some.inj hother
        exact .inl (List.mem_map.2 ⟨(d, inner), (mem_derivations_iff pattern p d inner).2 hderives, rfl⟩)
      | succ n => exact .inr ⟨n, other, by omega, hother, hderives⟩

end

/-! ## The search goes in order -/

/-- The splits of a numbered list come in the order of the numbers. -/
theorem pairwise_picks_zipIdx {α : Type} (as : List α) (k : Nat) :
    (picks (as.zipIdx k)).Pairwise fun a b => a.1.2 < b.1.2 := by
  induction as generalizing k with
  | nil => exact .nil
  | cons a as ih =>
    rw [List.zipIdx_cons, picks]
    refine List.pairwise_cons.2 ⟨?_, ih (k + 1)⟩
    rintro ⟨⟨b, i⟩, after⟩ hb
    obtain ⟨n, rfl, -, -⟩ := mem_picks_zipIdx.1 hb
    dsimp only
    omega

theorem pairwise_extend {i : Nat} {firsts : List (Derivation × List Capture)}
    {rests : List (List (Nat × Derivation) × List Capture)} (hfirsts : firsts.Pairwise fun a b => a.1.Before b.1)
    (hrests : rests.Pairwise fun a b => Derivation.StepsBefore a.1 b.1) :
    (extend i firsts rests).Pairwise fun a b => Derivation.StepsBefore a.1 b.1 := by
  refine List.pairwise_flatMap.2 ⟨fun _ _ => List.pairwise_map.2 (hrests.imp .rest), hfirsts.imp fun hbefore x hx y hy => ?_⟩
  obtain ⟨s, -, rfl⟩ := List.mem_map.1 hx
  obtain ⟨t, -, rfl⟩ := List.mem_map.1 hy
  exact .within hbefore

mutual

/-- The search comes to the derivations of a pattern in their order. -/
theorem pairwise_derivations : ∀ (pattern : Pattern) (p : Place), (pattern.derivations p).Pairwise fun a b => a.1.Before b.1
  | node head children captures, p => by
    rw [derivations]
    split
    · exact List.pairwise_map.2 ((pairwise_derivationsBelow children p.children 0).imp .node)
    · exact .nil
  | choice alternatives captures, p => by
    rw [derivations]
    refine List.pairwise_map.2 ((pairwise_derivationsOf 0 alternatives p).imp fun {a b} h => ?_)
    obtain ⟨i, d, inner⟩ := a
    obtain ⟨j, e, other⟩ := b
    rcases h with hlt | ⟨rfl, hbefore⟩
    · exact .alternative hlt
    · exact .inner hbefore

/-- It comes to the ways in which patterns match at children in their order: by the first child, then by the match there, then by
the others. -/
theorem pairwise_derivationsBelow : ∀ (patterns : List (Option String × Pattern)) (places : List Place) (k : Nat),
    (derivationsBelow patterns (places.zipIdx k)).Pairwise fun a b => Derivation.StepsBefore a.1 b.1
  | [], _, _ => by
    rw [derivationsBelow]
    exact List.pairwise_singleton _ _
  | (field, pattern) :: rest, places, k => by
    rw [derivationsBelow]
    refine List.pairwise_flatMap.2 ⟨fun ⟨⟨child, i⟩, after⟩ hpick => ?_, ?_⟩
    · obtain ⟨n, rfl, -, rfl⟩ := mem_picks_zipIdx.1 hpick
      dsimp only
      split
      · exact pairwise_extend (pairwise_derivations pattern child) (pairwise_derivationsBelow rest _ (k + n + 1))
      · exact .nil
    · refine (pairwise_picks_zipIdx places k).imp ?_
      rintro ⟨⟨child, i⟩, after⟩ ⟨⟨other, j⟩, later⟩ hlt ⟨s, cs⟩ hs ⟨t, ds⟩ ht
      -- Each of the two starts with a step to its own child.
      dsimp only at hlt hs ht
      split at hs
      · split at ht
        · obtain ⟨d, _, s, _, -, -, rfl, -⟩ := mem_extend_iff.1 hs
          obtain ⟨e, _, t, _, -, -, rfl, -⟩ := mem_extend_iff.1 ht
          exact .child hlt
        · cases ht
      · cases hs

/-- It comes to the derivations of alternatives in the order of the alternatives. -/
theorem pairwise_derivationsOf : ∀ (k : Nat) (patterns : List Pattern) (p : Place),
    (derivationsOf k patterns p).Pairwise fun a b => a.1 < b.1 ∨ a.1 = b.1 ∧ a.2.1.Before b.2.1
  | _, [], _ => .nil
  | k, pattern :: rest, p => by
    rw [derivationsOf]
    refine List.pairwise_append.2 ⟨?_, pairwise_derivationsOf (k + 1) rest p, fun a ha b hb => .inl ?_⟩
    · exact List.pairwise_map.2 ((pairwise_derivations pattern p).imp fun h => .inr ⟨rfl, h⟩)
    · obtain ⟨_, -, rfl⟩ := List.mem_map.1 ha
      obtain ⟨i, d, inner⟩ := b
      obtain ⟨n, other, rfl, -, -⟩ := (mem_derivationsOf_iff (k + 1) rest p i d inner).1 hb
      dsimp only
      omega

end

end Pattern

/-! ## What predicates keep -/

namespace Predicate

/-- Whether a predicate holds of a node that a match binds. -/
def onNode (source : Source) (q : Predicate) (c : Capture) : Except TestFailure Bool :=
  q.test.holds (source.text c.place.node.start c.place.node.stop)

/-- A predicate holds of what is bound when it holds of every node that is bound to its capture. -/
theorem holds_iff {source : Source} {q : Predicate} {cs : List Capture} :
    q.holds source cs = .ok true ↔ ∀ c ∈ cs, c.name = q.capture → q.onNode source c = .ok true := by
  induction cs with
  | nil => simp [holds]
  | cons c cs ih =>
    rw [holds, List.forall_mem_cons, ← ih]
    by_cases hname : c.name = q.capture
    · rw [if_pos hname, onNode]
      split
      next h => simp [h]
      next h => exact ⟨fun hpass => absurd hpass h, fun hpass => absurd (hpass.1 hname) h⟩
    · simp [hname]

/-- A predicate decides about what is bound when it decides about every node that is bound to its capture. -/
theorem exists_holds {source : Source} {q : Predicate} {cs : List Capture}
    (h : ∀ c ∈ cs, c.name = q.capture → ∃ b, q.onNode source c = .ok b) : ∃ b, q.holds source cs = .ok b := by
  induction cs with
  | nil => exact ⟨true, rfl⟩
  | cons c cs ih =>
    rw [List.forall_mem_cons] at h
    rw [holds]
    split
    next hname =>
      obtain ⟨b, hb⟩ := h.1 hname
      rw [onNode] at hb
      rw [hb]
      cases b with
      | true => exact ih h.2
      | false => exact ⟨false, rfl⟩
    next => exact ih h.2

/-- Several predicates hold when each of them does. -/
theorem allHold_iff {source : Source} {cs : List Capture} {qs : List Predicate} :
    allHold source cs qs = .ok true ↔ ∀ q ∈ qs, q.holds source cs = .ok true := by
  induction qs with
  | nil => simp [allHold]
  | cons q qs ih =>
    rw [allHold, List.forall_mem_cons, ← ih]
    split
    next h => simp [h]
    next h => exact ⟨fun hpass => absurd hpass h, fun hpass => absurd hpass.1 h⟩

/-- Several predicates decide when each of them does. -/
theorem exists_allHold {source : Source} {cs : List Capture} {qs : List Predicate}
    (h : ∀ q ∈ qs, ∃ b, q.holds source cs = .ok b) : ∃ b, allHold source cs qs = .ok b := by
  induction qs with
  | nil => exact ⟨true, rfl⟩
  | cons q qs ih =>
    rw [List.forall_mem_cons] at h
    obtain ⟨b, hb⟩ := h.1
    rw [allHold, hb]
    cases b with
    | true => exact ih h.2
    | false => exact ⟨false, rfl⟩

end Predicate

namespace Enumeration

theorem found_map {ε α β : Type} (f : α → β) (e : Enumeration ε α) : (e.map f).found = e.found.map f := rfl

theorem failure_map {ε α β : Type} (f : α → β) (e : Enumeration ε α) : (e.map f).failure = e.failure := rfl

theorem all_eq_ok_iff {ε α : Type} {e : Enumeration ε α} {as : List α} :
    e.all = .ok as ↔ e.failure = Option.none ∧ e.found = as := by
  unfold all
  cases e.failure <;> simp

/-- Whether a test that may fail is passed. -/
instance decidablePassed {ε : Type} : (answer : Except ε Bool) → Decidable (answer = .ok true)
  | .ok true => isTrue rfl
  | .ok false => isFalse nofun
  | .error _ => isFalse nofun

/-- Without a failure what passes the test is kept. -/
theorem found_keep {ε α : Type} {test : α → Except ε Bool} {as : List α}
    (h : (keep test as).failure = Option.none) : (keep test as).found = as.filter (test · = .ok true) := by
  induction as with
  | nil => rfl
  | cons a as ih =>
    rw [keep] at h ⊢
    rw [List.filter_cons]
    split at h
    next => cases h
    next hpass => simp [hpass, ih h]
    next hdrop => simp [hdrop, ih h]

/-- There is no failure when the test decides about everything. -/
theorem failure_keep {ε α : Type} {test : α → Except ε Bool} {as : List α} (h : ∀ a ∈ as, ∃ b, test a = .ok b) :
    (keep test as).failure = Option.none := by
  induction as with
  | nil => rfl
  | cons a as ih =>
    rw [List.forall_mem_cons] at h
    obtain ⟨b, hb⟩ := h.1
    rw [keep, hb]
    cases b <;> exact ih h.2

end Enumeration

namespace CompiledPattern

/-- Whether the predicates keep what a match binds: each of them holds of every node that is bound to its capture. -/
def Keeps (p : CompiledPattern) (source : Source) (cs : List Capture) : Prop :=
  ∀ q ∈ p.predicates, ∀ c ∈ cs, c.name = q.capture → q.onNode source c = .ok true

/-- Whether the predicates decide about what a match binds: none of them fails on a node that is bound to its capture. -/
def Decides (p : CompiledPattern) (source : Source) (cs : List Capture) : Prop :=
  ∀ q ∈ p.predicates, ∀ c ∈ cs, c.name = q.capture → ∃ b, q.onNode source c = .ok b

instance (p : CompiledPattern) (source : Source) (cs : List Capture) : Decidable (p.Keeps source cs) :=
  inferInstanceAs (Decidable (∀ q ∈ p.predicates, ∀ c ∈ cs, c.name = q.capture → q.onNode source c = .ok true))

theorem admits_iff {p : CompiledPattern} {source : Source} {cs : List Capture} :
    p.admits source cs = .ok true ↔ p.Keeps source cs := by
  simp only [admits, Predicate.allHold_iff, Predicate.holds_iff, Keeps]

theorem Decides.exists_admits {p : CompiledPattern} {source : Source} {cs : List Capture} (h : p.Decides source cs) :
    ∃ b, p.admits source cs = .ok b :=
  Predicate.exists_allHold fun q hq => Predicate.exists_holds (h q hq)

/-- The matches of a pattern at a place are those derivations which are kept. -/
theorem matchesAt_eq_keep (p : CompiledPattern) (source : Source) (place : Place) :
    p.matchesAt source place =
      (Enumeration.keep (p.admits source) ((p.root.derivations place).map (·.2))).map (⟨place, ·⟩) := by
  rw [matchesAt_eq_bareMatches, bareMatches, Pattern.map_snd_derivations]

/-- The matches of a pattern at a place are its derivations there, each once and in their order, as far as the predicates keep
what they bind; nothing fails when the predicates decide about what every derivation binds. -/
theorem matchesAt_derivations (p : CompiledPattern) (source : Source) (place : Place) :
    ∃ ds : List (Derivation × List Capture),
      (∀ d cs, (d, cs) ∈ ds ↔ p.root.Derives place d cs) ∧
      (ds.map (·.1)).Pairwise Derivation.Before ∧
      (ds.map (·.1)).Nodup ∧
      ((∀ d cs, p.root.Derives place d cs → p.Decides source cs) → (p.matchesAt source place).failure = none) ∧
      ((p.matchesAt source place).failure = none →
        (p.matchesAt source place).found = (ds.filter (p.Keeps source ·.2)).map fun (_, cs) => ⟨place, cs⟩) := by
  have hmem := p.root.mem_derivations_iff place
  have hordered : ((p.root.derivations place).map (·.1)).Pairwise Derivation.Before :=
    List.pairwise_map.2 (p.root.pairwise_derivations place)
  refine ⟨p.root.derivations place, hmem, hordered, hordered.imp Derivation.Before.ne, fun hdecides => ?_, fun hfailure => ?_⟩
  · rw [matchesAt_eq_keep, Enumeration.failure_map]
    refine Enumeration.failure_keep fun cs hcs => ?_
    obtain ⟨⟨d, cs⟩, hd, rfl⟩ := List.mem_map.1 hcs
    exact (hdecides d cs ((hmem d cs).1 hd)).exists_admits
  · rw [matchesAt_eq_keep, Enumeration.failure_map] at hfailure
    rw [matchesAt_eq_keep, Enumeration.found_map, Enumeration.found_keep hfailure, List.filter_map, List.map_map]
    simp only [Function.comp_def, admits_iff]

/-- Two items of a list of three are found in three ways, by the first and then by the second. -/
example :
    let item : Pattern := .node (.type "item") [] ["found"]
    let leaf (i : Int) : Node := .mk { type := "item", start := i, stop := i + 1 } []
    let list : Place := .root (.mk { type := "list", start := 0, stop := 3 } [leaf 0, leaf 1, leaf 2])
    let pair : CompiledPattern := ⟨.node (.type "list") [(none, item), (none, item)] [], [], none⟩
    ((pair.matchesAt (.ofString "abc") list).found.map fun m => m.captures.map (·.place.path)) =
      [[[0], [1]], [[0], [2]], [[1], [2]]] := by
  decide +kernel

end CompiledPattern

end AwkEdit
