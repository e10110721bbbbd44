import AwkEdit.Proofs.Indent.FirstMatch

/-!
# Rules that hang lines from lines above

A rule set hangs lines when it goes by the types of nodes alone, puts what is right below a top node at the left, and measures
everything else from the beginning of the line of the node above. Such rules decide alike in contexts whose nodes have the
same types.
-/

namespace AwkEdit

/-- The contexts have nodes of the same types, if they have any. -/
structure IndentContext.Alike (c d : IndentContext) : Prop where
  node : c.node.map (·.node.type) = d.node.map (·.node.type)
  parent : c.parent.node.type = d.parent.node.type

namespace Matcher

/-- Whether the matcher goes by the types of the nodes alone. -/
def readsTypes : Matcher → Bool
  | nodeIs _ | parentIs _ | noNode | catchAll => true
  | _ => false

/-- A matcher that goes by types alone cannot tell nodes of the same types apart. -/
theorem holds_alike {c d : IndentContext} (h : c.Alike d) {m : Matcher} (hm : m.readsTypes = true) : m.holds c = m.holds d := by
  have hnode := h.node
  cases m with
  | nodeIs types =>
    have hany : ∀ n : Option Place, n.any (types.contains ·.node.type) = (n.map (·.node.type)).any types.contains := by
      intro n
      cases n <;> rfl
    rw [holds, holds, hany, hany, hnode]
  | parentIs types => rw [holds, holds, h.parent]
  | noNode =>
    have hnone := congrArg Option.isNone hnode
    rw [Option.isNone_map, Option.isNone_map] at hnone
    rw [holds, holds, hnone]
  | catchAll => rw [holds, holds]
  | fieldIs | nodeMatches | parentMatches | allOf | custom => cases hm

end Matcher

namespace IndentRules

/-- The rules put what is right below a node of type `top` at the left, measure everything else from the beginning of the line
of the node above, and go by types alone. -/
structure Hanging (top : String) (rules : List IndentRule) : Prop where
  types : ∀ r ∈ rules, r.matcher.readsTypes = true
  left : ∃ first rest, rules = first :: rest ∧ first.matcher = .parentIs [top] ∧ first.anchor = .columnZero ∧
    ∀ r ∈ rest, r.anchor = .parentBol

variable {rules : List IndentRule} {c d : IndentContext}

/-- The rule that is selected is one of the rules. -/
theorem mem_of_select {r : IndentRule} (h : (select c rules).1 = some r) : r ∈ rules := by
  obtain ⟨before, after, rfl, -⟩ := exists_split_of_select h
  exact List.mem_append_right _ List.mem_cons_self

/-- Contexts with nodes of the same types select the same rule. -/
theorem select_alike (h : c.Alike d) (hrules : ∀ r ∈ rules, r.matcher.readsTypes = true) : select c rules = select d rules := by
  induction rules with
  | nil => rfl
  | cons r rules ih =>
    rw [List.forall_mem_cons] at hrules
    rw [select, select, Matcher.holds_alike h hrules.1, ih hrules.2, h.node]

/-- Right below a node of a type, a rule for that type is selected if it comes first. -/
theorem select_cons_of_parentIs {r : IndentRule} {top : String} (hr : r.matcher = .parentIs [top])
    (htop : c.parent.node.type = top) : (select c (r :: rules)).1 = some r := by
  rw [select, hr, Matcher.holds]
  simp only [htop, List.contains_cons, BEq.rfl, Bool.true_or]

/-- Lines right below a top node are measured from the left, and all others from the beginning of the line of the node above. -/
theorem Hanging.anchor {top : String} (h : Hanging top rules) {r : IndentRule} (hr : (select c rules).1 = some r) :
    r.anchor = if c.parent.node.type = top then .columnZero else .parentBol := by
  obtain ⟨first, rest, rfl, hmatcher, hanchor, hrest⟩ := h.left
  by_cases htop : c.parent.node.type = top
  · rw [select_cons_of_parentIs hmatcher htop] at hr
    rw [if_pos htop, ← Option.some.inj hr]
    exact hanchor
  · rw [select, hmatcher, Matcher.holds] at hr
    rw [if_neg htop]
    have hne : (c.parent.node.type == top) = false := beq_eq_false_iff_ne.2 htop
    simp only [List.contains_cons, hne, List.contains_nil, Bool.or_self] at hr
    exact hrest r (mem_of_select hr)

/-- The decision in a context is that of the rule that is selected. -/
theorem exists_resolve_eq (rules : IndentRules) (config : EngineConfig) (measure : Int → Int) (c : IndentContext) :
    ∃ r, (select c rules.rules).1 = some r ∧ (rules.resolve config measure c).1 = decisionOf config measure c r :=
  ⟨_, (Option.some_get _).symm, rfl⟩

end IndentRules

end AwkEdit
