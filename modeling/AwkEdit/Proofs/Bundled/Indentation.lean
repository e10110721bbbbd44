import AwkEdit.Bundled.Rules
import AwkEdit.Proofs.Indent.Hanging

/-!
# The indentation rules of AWK

Whatever node types the grammar has, the rules of AWK are built from the same specifications. Their indentation rules hang
lines from lines above, with programs at the top.
-/

namespace AwkEdit

namespace Awk

/-- The rule of a matcher, an anchor and an offset. -/
theorem ruleOf_indentRule (index : Nat) (matcher : Matcher) (anchor : Anchor) (offset : Int) :
    IndentRules.ruleOf index (indentRule matcher anchor offset) =
      .ok ⟨s!"indent#{index}:{matcher.kind}", matcher, anchor, offset⟩ := by
  simp only [indentRule, IndentRules.ruleOf, MatcherSpec.matcher?, Anchor.ofName?_name]

/-- Rules that are written as a matcher, an anchor and an offset are built as such. -/
theorem exists_rulesOf (index : Nat) (written : List (Matcher × Anchor × Int)) :
    ∃ rules, (IndentRules.rulesOf none index (written.map fun w => indentRule w.1 w.2.1 w.2.2)).2 = .ok rules ∧
      rules.map (fun r => (r.matcher, r.anchor, r.offset)) = written := by
  induction written generalizing index with
  | nil => exact ⟨[], rfl, rfl⟩
  | cons w written ih =>
    obtain ⟨rules, hrules, hwritten⟩ := ih (index + 1)
    refine ⟨⟨s!"indent#{index}:{w.1.kind}", w.1, w.2.1, w.2.2⟩ :: rules, ?_, by rw [List.map_cons, hwritten]⟩
    rw [List.map_cons, IndentRules.rulesOf_cons, ruleOf_indentRule, hrules]
    rfl

/-- The indentation rules of AWK as they are written. -/
def written : List (Matcher × Anchor × Int) :=
  [(.parentIs ["program"], .columnZero, 0), (.nodeIs (sortedNames [")", "\x7d", "]"]), .parentBol, 0),
    (.nodeIs ["else", "else_clause"], .parentBol, 0), (.parentIs ["block"], .parentBol, 1), (.nodeIs ["block"], .parentBol, 0),
    (.parentIs (sortedNames Vocabulary.controlStatements), .parentBol, 1), (.noNode, .parentBol, 1), (.catchAll, .parentBol, 1)]

/-- A language that is built from the rules of AWK, over the node types of any grammar. -/
def Builds (language : Language) : Prop := ∃ nodeTypes, (buildOver nodeTypes).2 = .ok language

/-- The indentation rules of the language are those of AWK. -/
theorem Builds.rules {language : Language} (h : Builds language) :
    (IndentRules.rulesOf none 0 indentation).2 = .ok language.indent.rules := by
  obtain ⟨nodeTypes, h⟩ := h
  unfold buildOver at h
  split at h
  · cases h
  split at h
  next => cases h
  next hindent =>
    split at h
    next => cases h
    next =>
      obtain rfl := Except.ok.inj h
      rw [IndentRules.rulesOf_known none (some nodeTypes)]
      exact IndentRules.rules_of_build hindent

/-- The indentation rules of the language are as they are written. -/
theorem Builds.rules_eq_written {language : Language} (h : Builds language) :
    language.indent.rules.map (fun r => (r.matcher, r.anchor, r.offset)) = written := by
  obtain ⟨rules, hrules, hwritten⟩ := exists_rulesOf 0 written
  obtain rfl := Except.ok.inj (hrules.symm.trans h.rules)
  exact hwritten

/-- The indentation rules of the language hang lines, with programs at the top. -/
theorem Builds.hanging {language : Language} (h : Builds language) : IndentRules.Hanging "program" language.indent.rules := by
  have hwritten := h.rules_eq_written
  generalize language.indent.rules = rules at hwritten ⊢
  refine ⟨fun r hr => ?_, ?_⟩
  · have hall : ∀ w ∈ written, w.1.readsTypes = true := by
      have : written.all (·.1.readsTypes) = true := rfl
      exact List.all_eq_true.1 this
    exact hall _ (hwritten ▸ List.mem_map_of_mem hr)
  · obtain ⟨first, rest, rfl, hfirst, hrest⟩ := List.map_eq_cons_iff.1 hwritten
    have hall : ∀ w ∈ written.tail, w.2.1 = .parentBol := by
      have : written.tail.all (·.2.1 == .parentBol) = true := rfl
      exact fun w hw => eq_of_beq (List.all_eq_true.1 this w hw)
    refine ⟨first, rest, rfl, congrArg (·.1) hfirst, congrArg (·.2.1) hfirst, fun r hr => ?_⟩
    have hmem := List.mem_map_of_mem (f := fun r : IndentRule => (r.matcher, r.anchor, r.offset)) hr
    rw [hrest] at hmem
    exact hall _ hmem

/-- No indentation rule of the language moves a line to the left. -/
theorem Builds.offset_nonneg {language : Language} (h : Builds language) : ∀ r ∈ language.indent.rules, 0 ≤ r.offset := by
  have hall : ∀ w ∈ written, 0 ≤ w.2.2 := by
    have : written.all (0 ≤ ·.2.2) = true := rfl
    exact fun w hw => of_decide_eq_true (List.all_eq_true.1 this w hw)
  exact fun r hr => hall _ (h.rules_eq_written ▸ List.mem_map_of_mem hr)

/-- Right below a program no line is moved. -/
theorem Builds.offset_eq_zero {language : Language} (h : Builds language) {c : IndentContext}
    (hprogram : c.parent.node.type = "program") {r : IndentRule}
    (hr : (IndentRules.select c language.indent.rules).1 = some r) : r.offset = 0 := by
  obtain ⟨first, rest, hrules, hfirst, -⟩ := List.map_eq_cons_iff.1 h.rules_eq_written
  rw [hrules, IndentRules.select_cons_of_parentIs (congrArg (·.1) hfirst) hprogram] at hr
  rw [← Option.some.inj hr]
  exact congrArg (·.2.2) hfirst

/-- Languages that are built from the rules of AWK indent alike. -/
theorem Builds.indent_eq {language other : Language} (h : Builds language) (h' : Builds other) :
    language.indent = other.indent := by
  have hrules := Except.ok.inj (h.rules.symm.trans h'.rules)
  cases hl : language.indent
  cases ho : other.indent
  simp only [hl, ho] at hrules
  subst hrules
  rfl

/-- The rules of AWK are accepted over the node types of its own grammar. -/
theorem isSome_build : build.2.toOption.isSome = true := by decide +kernel

/-- The language of AWK. -/
@[irreducible]
def language : Language := build.2.toOption.get isSome_build

theorem builds_language : Builds language := by
  have hsome : build.2.toOption = some language := by
    unfold language
    exact (Option.some_get isSome_build).symm
  refine ⟨Vocabulary.nodeTypes, ?_⟩
  cases hbuild : build.2 with
  | error e =>
    rw [hbuild] at hsome
    cases hsome
  | ok built =>
    rw [hbuild] at hsome
    exact hbuild.trans (congrArg Except.ok (Option.some.inj hsome))

end Awk

end AwkEdit
