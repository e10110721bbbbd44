import AwkEdit.Pattern.Match

/-!
# Root types

The types that a pattern lists are those of the nodes it can match, so nothing is lost when a node of another type is not
tried: the matches at a node are what the root of the pattern binds there and the predicates keep, whatever the type of the
node.
-/

namespace AwkEdit

namespace Head

/-- A head accepts the types that it lists, and every type when it lists none. -/
theorem accepts_eq (h : Head) (type : String) : h.accepts type = h.types.all (·.contains type) := by
  cases h with
  | type name =>
    simp only [accepts, types, Option.all_some, List.contains_cons, List.contains_nil, Bool.or_false]
  | oneOf names => rfl
  | any => rfl

end Head

namespace Pattern

/-- Several patterns list a type when one of them does. -/
theorem rootTypesOf_cons_all (p : Pattern) (ps : List Pattern) (type : String) :
    (rootTypesOf (p :: ps)).all (·.contains type) =
      (p.rootTypes.all (·.contains type) || (rootTypesOf ps).all (·.contains type)) := by
  rw [rootTypesOf]
  cases p.rootTypes with
  | none => rfl
  | some types =>
    cases rootTypesOf ps with
    | none => simp
    | some more => simp [List.contains_eq_mem, List.mem_append]

mutual

/-- A pattern that binds something at a place lists the type of its node. -/
theorem rootTypes_of_bindings : ∀ (p : Pattern) (place : Place),
    p.bindings place ≠ [] → p.rootTypes.all (·.contains place.node.type) = true
  | node head children captures, place, h => by
    rw [rootTypes, ← Head.accepts_eq]
    by_cases ha : head.accepts place.node.type = true
    · exact ha
    · exact absurd (by rw [bindings, if_neg ha]) h
  | choice alternatives captures, place, h => by
    rw [rootTypes]
    refine rootTypes_of_bindingsOf alternatives place fun hnil => h ?_
    rw [bindings, hnil, List.map_nil]

/-- Alternatives that bind something at a place list the type of its node. -/
theorem rootTypes_of_bindingsOf : ∀ (ps : List Pattern) (place : Place),
    bindingsOf ps place ≠ [] → (rootTypesOf ps).all (·.contains place.node.type) = true
  | [], _, h => absurd rfl h
  | p :: ps, place, h => by
    rw [rootTypesOf_cons_all, Bool.or_eq_true]
    by_cases hp : p.bindings place = []
    · refine .inr (rootTypes_of_bindingsOf ps place fun hps => h ?_)
      rw [bindingsOf, hp, hps, List.append_nil]
    · exact .inl (rootTypes_of_bindings p place hp)

end

end Pattern

namespace CompiledPattern

theorem acceptsType_eq (p : CompiledPattern) (type : String) : p.acceptsType type = p.rootTypes.all (·.contains type) := by
  unfold acceptsType
  cases p.rootTypes <;> rfl

/-- What the root of a pattern binds at a place, as far as the predicates keep it: the type of the node is not asked first. -/
def bareMatches (p : CompiledPattern) (source : Source) (place : Place) : Enumeration TestFailure Match :=
  (Enumeration.keep (p.admits source) (p.root.bindings place)).map (⟨place, ·⟩)

/-- A pattern binds nothing at a node of a type that it does not list. -/
theorem bareMatches_of_not_acceptsType {p : CompiledPattern} {place : Place} (h : ¬p.acceptsType place.node.type = true)
    (source : Source) : p.bareMatches source place = .none := by
  have hnil : p.root.bindings place = [] := by
    rw [acceptsType_eq] at h
    exact Classical.not_not.1 (mt (Pattern.rootTypes_of_bindings p.root place) h)
  rw [bareMatches, hnil]
  rfl

/-- Asking the type of the node first changes nothing. -/
theorem matchesAt_eq_bareMatches (p : CompiledPattern) (source : Source) (place : Place) :
    p.matchesAt source place = p.bareMatches source place := by
  rw [matchesAt_eq]
  split
  · rfl
  · rw [bareMatches_of_not_acceptsType ‹_›]

end CompiledPattern

end AwkEdit
