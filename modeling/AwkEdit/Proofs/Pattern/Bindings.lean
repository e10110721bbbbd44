import AwkEdit.Pattern.Match
import AwkEdit.Proofs.Tree.Descendants

/-!
# What a match binds

A pattern binds the place at which it is matched, and its children's patterns bind places at or below the children. So
everything that a match binds lies below the place it is anchored at (`reaches_of_mem_bindings`), however deep the pattern is,
and this holds of the matches of a sweep as well. What it binds, it binds to captures of the pattern (`name_mem_of_mem_bindings`).
-/

namespace AwkEdit

/-! ## Splits -/

/-- A list is split at an element when the element stands between what comes before it and what comes after it. -/
theorem mem_picks_iff {α : Type} {a : α} {as after : List α} :
    (a, after) ∈ picks as ↔ ∃ before, as = before ++ a :: after := by
  induction as with
  | nil => simp [picks]
  | cons b as ih =>
    rw [picks, List.mem_cons, Prod.mk.injEq, ih]
    constructor
    · rintro (⟨rfl, rfl⟩ | ⟨before, rfl⟩)
      · exact ⟨[], rfl⟩
      · exact ⟨b :: before, rfl⟩
    · rintro ⟨before, h⟩
      cases before with
      | nil =>
        obtain ⟨rfl, rfl⟩ := List.cons.inj h
        exact .inl ⟨rfl, rfl⟩
      | cons c before =>
        obtain ⟨rfl, rfl⟩ := List.cons.inj h
        exact .inr ⟨before, rfl⟩

/-- What is picked and what comes after it belong to the list. -/
theorem subset_of_mem_picks {α : Type} {a : α} {as after : List α} (h : (a, after) ∈ picks as) : a ∈ as ∧ after ⊆ as := by
  obtain ⟨before, rfl⟩ := mem_picks_iff.1 h
  refine ⟨List.mem_append_right _ List.mem_cons_self, fun b hb => ?_⟩
  exact List.mem_append_right _ (List.mem_cons_of_mem _ hb)

namespace Pattern

/-! ## Matches of a pattern and of its children -/

/-- A match of a node pattern binds the node to the pattern's captures, and what a match at the children binds. -/
theorem mem_bindings_node {head : Head} {children : List (Option String × Pattern)} {captures : List String} {p : Place}
    {cs : List Capture} :
    cs ∈ (node head children captures).bindings p ↔
      head.accepts p.node.type = true ∧ ∃ below ∈ bindingsBelow children p.children, captures.map (⟨·, p⟩) ++ below = cs := by
  rw [bindings]
  split
  next haccepts => rw [List.mem_map, and_iff_right haccepts]
  next hrejects => simp [hrejects]

/-- A match at children binds what the first pattern binds at one child, under the field asked for, and what the other patterns
bind at the children after that one. -/
theorem mem_bindingsBelow_cons {field : Option String} {pattern : Pattern} {rest : List (Option String × Pattern)}
    {children : List Place} {cs : List Capture} :
    cs ∈ bindingsBelow ((field, pattern) :: rest) children ↔
      ∃ child after, (child, after) ∈ picks children ∧ underField field child = true ∧
        ∃ first ∈ pattern.bindings child, ∃ below ∈ bindingsBelow rest after, first ++ below = cs := by
  rw [bindingsBelow, List.mem_flatMap, Prod.exists]
  refine exists_congr fun child => exists_congr fun after => and_congr_right fun _ => ?_
  dsimp only
  split
  next hfield => simp only [List.mem_flatMap, List.mem_map, and_iff_right hfield]
  next hfield => simp [hfield]

/-! ## Bound places -/

mutual

/-- What a match binds lies below the place it is anchored at. -/
theorem reaches_of_mem_bindings : ∀ (pattern : Pattern) (p : Place) (cs : List Capture) (c : Capture),
    cs ∈ pattern.bindings p → c ∈ cs → p.Reaches c.place
  | node head children captures, p, cs, c, hcs, hc => by
    obtain ⟨-, below, hbelow, rfl⟩ := mem_bindings_node.1 hcs
    rcases List.mem_append.1 hc with hc | hc
    · obtain ⟨name, -, rfl⟩ := List.mem_map.1 hc
      exact .refl p
    · obtain ⟨child, hchild, hreach⟩ := reaches_of_mem_bindingsBelow children p.children below c hbelow hc
      exact .step hchild hreach
  | choice alternatives captures, p, cs, c, hcs, hc => by
    rw [bindings] at hcs
    obtain ⟨inner, hinner, rfl⟩ := List.mem_map.1 hcs
    rcases List.mem_append.1 hc with hc | hc
    · exact reaches_of_mem_bindingsOf alternatives p inner c hinner hc
    · obtain ⟨name, -, rfl⟩ := List.mem_map.1 hc
      exact .refl p

/-- What matches at children of a node bind lies below one of the children. -/
theorem reaches_of_mem_bindingsBelow : ∀ (patterns : List (Option String × Pattern)) (children : List Place)
    (cs : List Capture) (c : Capture), cs ∈ bindingsBelow patterns children → c ∈ cs →
      ∃ child ∈ children, child.Reaches c.place
  | [], _, cs, c, hcs, hc => by
    rw [bindingsBelow, List.mem_singleton] at hcs
    subst hcs
    cases hc
  | (field, pattern) :: rest, children, cs, c, hcs, hc => by
    obtain ⟨child, after, hpick, -, first, hfirst, below, hbelow, rfl⟩ := mem_bindingsBelow_cons.1 hcs
    obtain ⟨hchild, hafter⟩ := subset_of_mem_picks hpick
    rcases List.mem_append.1 hc with hc | hc
    · exact ⟨child, hchild, reaches_of_mem_bindings pattern child first c hfirst hc⟩
    · obtain ⟨other, hother, hreach⟩ := reaches_of_mem_bindingsBelow rest after below c hbelow hc
      exact ⟨other, hafter hother, hreach⟩

/-- What matches of alternatives bind lies below the place they are anchored at. -/
theorem reaches_of_mem_bindingsOf : ∀ (patterns : List Pattern) (p : Place) (cs : List Capture) (c : Capture),
    cs ∈ bindingsOf patterns p → c ∈ cs → p.Reaches c.place
  | [], _, _, _, hcs, _ => by cases hcs
  | pattern :: rest, p, cs, c, hcs, hc => by
    rw [bindingsOf] at hcs
    rcases List.mem_append.1 hcs with hcs | hcs
    · exact reaches_of_mem_bindings pattern p cs c hcs hc
    · exact reaches_of_mem_bindingsOf rest p cs c hcs hc

end

/-! ## Bound names -/

mutual

/-- A match binds captures of the pattern. -/
theorem name_mem_of_mem_bindings : ∀ (pattern : Pattern) (p : Place) (cs : List Capture) (c : Capture),
    cs ∈ pattern.bindings p → c ∈ cs → c.name ∈ pattern.captureNames
  | node head children captures, p, cs, c, hcs, hc => by
    obtain ⟨-, below, hbelow, rfl⟩ := mem_bindings_node.1 hcs
    rcases List.mem_append.1 hc with hc | hc
    · obtain ⟨name, hname, rfl⟩ := List.mem_map.1 hc
      exact List.mem_append_left _ hname
    · exact List.mem_append_right _ (name_mem_of_mem_bindingsBelow children p.children below c hbelow hc)
  | choice alternatives captures, p, cs, c, hcs, hc => by
    rw [bindings] at hcs
    obtain ⟨inner, hinner, rfl⟩ := List.mem_map.1 hcs
    rcases List.mem_append.1 hc with hc | hc
    · exact List.mem_append_left _ (name_mem_of_mem_bindingsOf alternatives p inner c hinner hc)
    · obtain ⟨name, hname, rfl⟩ := List.mem_map.1 hc
      exact List.mem_append_right _ hname

/-- Matches at children of a node bind captures of the patterns for the children. -/
theorem name_mem_of_mem_bindingsBelow : ∀ (patterns : List (Option String × Pattern)) (children : List Place)
    (cs : List Capture) (c : Capture), cs ∈ bindingsBelow patterns children → c ∈ cs → c.name ∈ captureNamesBelow patterns
  | [], _, cs, c, hcs, hc => by
    rw [bindingsBelow, List.mem_singleton] at hcs
    subst hcs
    cases hc
  | (field, pattern) :: rest, children, cs, c, hcs, hc => by
    obtain ⟨child, after, -, -, first, hfirst, below, hbelow, rfl⟩ := mem_bindingsBelow_cons.1 hcs
    rcases List.mem_append.1 hc with hc | hc
    · exact List.mem_append_left _ (name_mem_of_mem_bindings pattern child first c hfirst hc)
    · exact List.mem_append_right _ (name_mem_of_mem_bindingsBelow rest after below c hbelow hc)

/-- Matches of alternatives bind captures of the alternatives. -/
theorem name_mem_of_mem_bindingsOf : ∀ (patterns : List Pattern) (p : Place) (cs : List Capture) (c : Capture),
    cs ∈ bindingsOf patterns p → c ∈ cs → c.name ∈ captureNamesOf patterns
  | [], _, _, _, hcs, _ => by cases hcs
  | pattern :: rest, p, cs, c, hcs, hc => by
    rw [bindingsOf] at hcs
    rcases List.mem_append.1 hcs with hcs | hcs
    · exact List.mem_append_left _ (name_mem_of_mem_bindings pattern p cs c hcs hc)
    · exact List.mem_append_right _ (name_mem_of_mem_bindingsOf rest p cs c hcs hc)

end

end Pattern

/-! ## Matches -/

namespace Enumeration

/-- What is kept was there. -/
theorem mem_of_mem_keep {ε α : Type} {test : α → Except ε Bool} {as : List α} {a : α} (h : a ∈ (keep test as).found) :
    a ∈ as := by
  induction as with
  | nil => cases h
  | cons b as ih =>
    rw [keep] at h
    split at h
    · cases h
    · rcases List.mem_cons.1 h with rfl | h
      · exact List.mem_cons_self
      · exact List.mem_cons_of_mem _ (ih h)
    · exact List.mem_cons_of_mem _ (ih h)

/-- What enumerations one after another find, one of them finds. -/
theorem exists_of_mem_join {ε α β : Type} {f : α → Enumeration ε β} {as : List α} {b : β} (h : b ∈ (join f as).found) :
    ∃ a ∈ as, b ∈ (f a).found := by
  induction as with
  | nil => cases h
  | cons a as ih =>
    have hrest (h : b ∈ (join f as).found) : ∃ a' ∈ a :: as, b ∈ (f a').found := by
      obtain ⟨a', ha', hb⟩ := ih h
      exact ⟨a', List.mem_cons_of_mem _ ha', hb⟩
    rw [join] at h
    split at h
    next => exact ⟨a, List.mem_cons_self, h⟩
    next =>
      rw [append] at h
      split at h
      · exact ⟨a, List.mem_cons_self, h⟩
      · rcases List.mem_append.1 h with h | h
        · exact ⟨a, List.mem_cons_self, h⟩
        · exact hrest h

end Enumeration

namespace CompiledPattern

/-- A match at a place binds what the root of the pattern binds there in some way. -/
theorem captures_mem_bindings {pattern : CompiledPattern} {source : Source} {p : Place} {m : Match}
    (hm : m ∈ (pattern.matchesAt source p).found) : m.captures ∈ pattern.root.bindings p := by
  rw [matchesAt_eq] at hm
  split at hm
  next =>
    obtain ⟨cs, hcs, rfl⟩ := List.mem_map.1 hm
    exact Enumeration.mem_of_mem_keep hcs
  next => cases hm

/-- What a match at a place binds lies below the place. -/
theorem reaches_of_mem_matchesAt {pattern : CompiledPattern} {source : Source} {p : Place} {m : Match} {c : Capture}
    (hm : m ∈ (pattern.matchesAt source p).found) (hc : c ∈ m.captures) : p.Reaches c.place :=
  pattern.root.reaches_of_mem_bindings p m.captures c (captures_mem_bindings hm) hc

/-- A match at a place binds captures of the pattern. -/
theorem name_mem_of_mem_matchesAt {pattern : CompiledPattern} {source : Source} {p : Place} {m : Match} {c : Capture}
    (hm : m ∈ (pattern.matchesAt source p).found) (hc : c ∈ m.captures) : c.name ∈ pattern.captureNames := by
  rw [captureNames, mem_sortedNames]
  exact pattern.root.name_mem_of_mem_bindings p m.captures c (captures_mem_bindings hm) hc

/-- What a match of a sweep binds lies below the place that is swept. -/
theorem reaches_of_mem_sweep {pattern : CompiledPattern} {source : Source} {p : Place} {m : Match} {c : Capture}
    (hm : m ∈ (pattern.sweep source p).found) (hc : c ∈ m.captures) : p.Reaches c.place := by
  obtain ⟨q, hq, hm⟩ := Enumeration.exists_of_mem_join hm
  exact (Place.mem_subtree_iff.1 hq).trans (reaches_of_mem_matchesAt hm hc)

end CompiledPattern

end AwkEdit
