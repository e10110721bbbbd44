import AwkEdit.Highlight.Pass
import AwkEdit.Indent.Matcher
import AwkEdit.Proofs.Pattern.Derivation

/-!
# Failures after the first match

Whether a pattern matches at a node is decided by the first way of matching that its predicates do not drop: they keep it, or one of
them fails. All matches are there only if no predicate fails on any way. So the two part exactly where a predicate fails on a way
after an earlier way was kept (`CompiledPattern.hasMatchAt_late`): there an indentation matcher accepts the node and a highlight
rule finds nothing at it, and nowhere else do the two disagree about a pattern.
-/

namespace AwkEdit

/-! ## Enumerations -/

namespace Enumeration

variable {ε α : Type} {test : α → Except ε Bool} {as : List α} {e : ε}

/-- What is kept of two lists is what is kept of them one after the other. -/
theorem keep_append (test : α → Except ε Bool) (as bs : List α) :
    keep test (as ++ bs) = (keep test as).append (keep test bs) := by
  induction as with
  | nil => rfl
  | cons a as ih =>
    rw [List.cons_append, keep, keep, ih]
    cases test a with
    | error e => rfl
    | ok passed =>
      cases passed with
      | false => rfl
      | true =>
        obtain ⟨_, _ | _⟩ := keep test as <;> rfl

/-- The first element on which the test fails ends an enumeration, with what was kept before it. -/
theorem keep_of_failure {before after : List α} {a : α} (hbefore : ∀ b ∈ before, ∃ passed, test b = .ok passed)
    (ha : test a = .error e) : keep test (before ++ a :: after) = ⟨(keep test before).found, some e⟩ := by
  rw [keep_append, append, failure_keep hbefore, keep, ha]
  simp only [List.append_nil]

/-- An enumeration that fails does so on the first element on which the test fails. -/
theorem failure_keep_eq_some_iff :
    (keep test as).failure = some e ↔
      ∃ before a after, as = before ++ a :: after ∧ (∀ b ∈ before, ∃ passed, test b = .ok passed) ∧ test a = .error e := by
  constructor
  · intro h
    induction as with
    | nil => cases h
    | cons a as ih =>
      rw [keep] at h
      cases ha : test a with
      | error e' =>
        rw [ha] at h
        obtain rfl := Option.some.inj h
        exact ⟨[], a, as, rfl, List.forall_mem_nil _, ha⟩
      | ok passed =>
        have hrest : (keep test as).failure = some e := by
          rw [ha] at h
          cases passed <;> exact h
        obtain ⟨before, b, after, rfl, hbefore, hb⟩ := ih hrest
        exact ⟨a :: before, b, after, rfl, List.forall_mem_cons.2 ⟨⟨passed, ha⟩, hbefore⟩, hb⟩
  · rintro ⟨before, a, after, rfl, hbefore, ha⟩
    rw [keep_of_failure hbefore ha]

/-- Something is kept before an enumeration fails exactly when an element passes before the first one on which the test fails. -/
theorem failure_after_found_iff :
    ((keep test as).failure = some e ∧ (keep test as).found ≠ []) ↔
      ∃ before a after, as = before ++ a :: after ∧ (∀ b ∈ before, ∃ passed, test b = .ok passed) ∧
        (∃ b ∈ before, test b = .ok true) ∧ test a = .error e := by
  have hfound : ∀ before : List α, (∀ b ∈ before, ∃ passed, test b = .ok passed) →
      ((keep test before).found ≠ [] ↔ ∃ b ∈ before, test b = .ok true) := by
    intro before hbefore
    rw [found_keep (failure_keep hbefore), Ne, List.filter_eq_nil_iff]
    simp
  constructor
  · rintro ⟨hfailure, hkept⟩
    obtain ⟨before, a, after, rfl, hbefore, ha⟩ := failure_keep_eq_some_iff.1 hfailure
    rw [keep_of_failure hbefore ha] at hkept
    exact ⟨before, a, after, rfl, hbefore, (hfound before hbefore).1 hkept, ha⟩
  · rintro ⟨before, a, after, rfl, hbefore, hkept, ha⟩
    rw [keep_of_failure hbefore ha]
    exact ⟨rfl, (hfound before hbefore).2 hkept⟩

/-! ### Asking for anything and asking for everything -/

variable {a : Enumeration ε α}

/-- There is something exactly when something is found, whatever fails then. -/
theorem any_eq_true_iff : a.any = .ok true ↔ a.found ≠ [] := by
  obtain ⟨_ | ⟨_, _⟩, _ | _⟩ := a <;> simp [any]

/-- Asking for anything fails exactly when the enumeration fails before anything is found. -/
theorem any_eq_error_iff : a.any = .error e ↔ a.failure = some e ∧ a.found = [] := by
  obtain ⟨_ | ⟨_, _⟩, _ | _⟩ := a <;> simp [any]

/-- There is nothing exactly when the enumeration ends without a failure and without anything found. -/
theorem any_eq_false_iff : a.any = .ok false ↔ a.failure = Option.none ∧ a.found = [] := by
  obtain ⟨_ | ⟨_, _⟩, _ | _⟩ := a <;> simp [any]

theorem all_eq_error_iff : a.all = .error e ↔ a.failure = some e := by
  obtain ⟨_, _ | _⟩ := a <;> simp [all]

/-- What is enumerated to the end decides whether there is anything. -/
theorem any_of_all {found : List α} (h : a.all = .ok found) : a.any = .ok !found.isEmpty := by
  obtain ⟨hfailure, rfl⟩ := all_eq_ok_iff.1 h
  obtain ⟨_ | ⟨_, _⟩, failure⟩ := a
  · obtain rfl : failure = Option.none := hfailure
    rfl
  · rfl

end Enumeration

/-! ## Patterns -/

namespace Predicate

variable {source : Source} {cs : List Capture} {e : TestFailure}

/-- A predicate that fails does so on a node that is bound to its capture. -/
theorem exists_of_holds_eq_error {q : Predicate} (h : q.holds source cs = .error e) :
    ∃ c ∈ cs, c.name = q.capture ∧ q.onNode source c = .error e := by
  induction cs with
  | nil => cases h
  | cons c cs ih =>
    have hrest (h : q.holds source cs = .error e) : ∃ d ∈ c :: cs, d.name = q.capture ∧ q.onNode source d = .error e := by
      obtain ⟨d, hd, hfails⟩ := ih h
      exact ⟨d, List.mem_cons_of_mem _ hd, hfails⟩
    rw [holds] at h
    split at h
    next hname =>
      split at h
      next => exact hrest h
      next => exact ⟨c, List.mem_cons_self, hname, h⟩
    next => exact hrest h

/-- Of several predicates that fail, one does. -/
theorem exists_of_allHold_eq_error {qs : List Predicate} (h : allHold source cs qs = .error e) :
    ∃ q ∈ qs, q.holds source cs = .error e := by
  induction qs with
  | nil => cases h
  | cons q qs ih =>
    rw [allHold] at h
    split at h
    next =>
      obtain ⟨r, hr, hfails⟩ := ih h
      exact ⟨r, List.mem_cons_of_mem _ hr, hfails⟩
    next => exact ⟨q, List.mem_cons_self, h⟩

end Predicate

namespace CompiledPattern

variable {p : CompiledPattern} {source : Source} {place : Place} {e : TestFailure}

/-- The predicates fail on a way of matching at a place, after they kept an earlier way, and they fail on no way before it. -/
def FailsLate (p : CompiledPattern) (source : Source) (place : Place) (e : TestFailure) : Prop :=
  ∃ before way after, p.root.bindings place = before ++ way :: after ∧
    (∀ earlier ∈ before, ∃ kept, p.admits source earlier = .ok kept) ∧
    (∃ earlier ∈ before, p.admits source earlier = .ok true) ∧ p.admits source way = .error e

theorem failsLate_iff :
    p.FailsLate source place e ↔ (p.matchesAt source place).failure = some e ∧ (p.matchesAt source place).found ≠ [] := by
  rw [matchesAt_eq_bareMatches, bareMatches, Enumeration.failure_map, Enumeration.found_map, Ne, List.map_eq_nil_iff]
  exact Enumeration.failure_after_found_iff.symm

/-- Where a pattern fails late, one of its predicates fails on a node that is bound to its capture. -/
theorem FailsLate.exists_predicate (h : p.FailsLate source place e) :
    ∃ q ∈ p.predicates, ∃ way ∈ p.root.bindings place, ∃ c ∈ way, c.name = q.capture ∧ q.onNode source c = .error e := by
  obtain ⟨before, way, after, hways, -, -, hfails⟩ := h
  obtain ⟨q, hq, hfails⟩ := Predicate.exists_of_allHold_eq_error hfails
  obtain ⟨c, hc, hname, hfails⟩ := Predicate.exists_of_holds_eq_error hfails
  exact ⟨q, hq, way, by simp [hways], c, hc, hname, hfails⟩

/-- A rule finds something at a place exactly when its pattern does and does not fail. -/
theorem attempt_ne_nil_iff {r : HighlightRule} :
    (r.attempt source place).1 ≠ [] ↔
      (r.pattern.matchesAt source place).failure = none ∧ (r.pattern.matchesAt source place).found ≠ [] := by
  rw [HighlightRule.attempt]
  obtain ⟨found, _ | e⟩ := r.pattern.matchesAt source place <;> simp [Enumeration.all]

/-- A matcher for a pattern accepts a node and a rule for the pattern finds nothing at it, or the other way round, exactly when the
pattern fails late there. -/
theorem disagree_iff {c : IndentContext} {m : Matcher} {r : HighlightRule} (hsource : c.tree.source = source)
    (hpattern : r.pattern = p)
    (hm : m = .nodeMatches p ∧ c.node = some place ∨ m = .parentMatches p ∧ c.parent = place) :
    ¬(m.holds c = .ok true ↔ (r.attempt source place).1 ≠ []) ↔ ∃ e, p.FailsLate source place e := by
  have hholds : m.holds c = p.hasMatchAt source place := by
    rcases hm with ⟨rfl, hnode⟩ | ⟨rfl, rfl⟩
    · rw [Matcher.holds, hnode, hsource]
    · rw [Matcher.holds, hsource]
  simp only [failsLate_iff]
  rw [hholds, hasMatchAt_eq, Enumeration.any_eq_true_iff, attempt_ne_nil_iff, hpattern]
  cases (p.matchesAt source place).failure <;> simp

/-- Asking whether a pattern matches at a place agrees with listing its matches there up to failures that come after the first
match. What is listed to the end decides the answer; an answer "no" and a failure of the question are those of the list; and a list
that fails either fails as the question does or, exactly when it fails late, leaves the answer "yes". Then a predicate fails on a
node that is bound to its capture, and only then do an indentation matcher and a highlight rule for the pattern disagree. -/
theorem hasMatchAt_late (p : CompiledPattern) (source : Source) (place : Place) :
    (∀ ms, (p.matchesAt source place).all = .ok ms → p.hasMatchAt source place = .ok !ms.isEmpty) ∧
      (p.hasMatchAt source place = .ok false → (p.matchesAt source place).all = .ok []) ∧
      (∀ e, p.hasMatchAt source place = .error e → (p.matchesAt source place).all = .error e) ∧
      (∀ e, (p.matchesAt source place).all = .error e →
        (p.hasMatchAt source place = .error e ∨ p.hasMatchAt source place = .ok true) ∧
          (p.hasMatchAt source place = .ok true ↔ p.FailsLate source place e)) ∧
      (∀ e, p.FailsLate source place e → (p.matchesAt source place).found ≠ [] ∧
        ∃ q ∈ p.predicates, ∃ way ∈ p.root.bindings place, ∃ c ∈ way, c.name = q.capture ∧ q.onNode source c = .error e) ∧
      ∀ (c : IndentContext) (m : Matcher) (r : HighlightRule), c.tree.source = source → r.pattern = p →
        (m = .nodeMatches p ∧ c.node = some place ∨ m = .parentMatches p ∧ c.parent = place) →
          (¬(m.holds c = .ok true ↔ (r.attempt source place).1 ≠ []) ↔ ∃ e, p.FailsLate source place e) := by
  simp only [hasMatchAt_eq, Enumeration.all_eq_error_iff]
  refine ⟨fun _ => Enumeration.any_of_all, fun h => Enumeration.all_eq_ok_iff.2 (Enumeration.any_eq_false_iff.1 h),
    fun e h => (Enumeration.any_eq_error_iff.1 h).1, fun e he => ⟨?_, ?_⟩,
    fun e h => ⟨(failsLate_iff.1 h).2, h.exists_predicate⟩, fun c m r => disagree_iff⟩
  · by_cases hfound : (p.matchesAt source place).found = []
    · exact .inl (Enumeration.any_eq_error_iff.2 ⟨he, hfound⟩)
    · exact .inr (Enumeration.any_eq_true_iff.2 hfound)
  · rw [Enumeration.any_eq_true_iff, failsLate_iff]
    exact ⟨fun h => ⟨he, h⟩, And.right⟩

/-- The first item of a list passes and the test fails on the second one: the pattern matches, but its matches cannot be listed. -/
example :
    let leaf (i : Int) : Node := .mk { type := "item", start := i, stop := i + 1 } []
    let list : Place := .root (.mk { type := "list", start := 0, stop := 2 } [leaf 0, leaf 1])
    let isA : Predicate := ⟨.passes fun text => if text = "a" then .ok true else .error (.raised "not an a"), "found"⟩
    let p : CompiledPattern := ⟨.node (.type "list") [(none, .node .any [] ["found"])] [], [isA], none⟩
    (p.hasMatchAt (.ofString "ab") list).toOption = some true ∧
      (p.matchesAt (.ofString "ab") list).failure = some (.raised "not an a") := by
  decide +kernel

end CompiledPattern

end AwkEdit
