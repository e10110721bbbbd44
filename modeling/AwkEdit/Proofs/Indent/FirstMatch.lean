import AwkEdit.Indent.Resolve
import AwkEdit.Proofs.Indent.Context
import AwkEdit.Proofs.Source.Lines

/-!
# The first rule that accepts a line

Rules that are accepted are those that were written, number by number. For every line they come to a decision: the first rule whose
matcher accepts the context of the line makes it, a matcher that fails accepts nothing, and each of those before it that fail is
reported, in their order. `attempt` is the search as it may go wrong, by running out of rules or by asking for a line that the
text does not have; it never does.
-/

namespace AwkEdit

/-! ## Rules as they are written -/

/-- Every anchor is found under its name. -/
theorem Anchor.ofName?_name (a : Anchor) : ofName? a.name = some a := by cases a <;> decide

/-- An anchor is found under no other name. -/
theorem Anchor.name_of_ofName? {name : String} {a : Anchor} (h : ofName? name = some a) : a.name = name := by
  have hname : (a.name == name) = true := by
    unfold ofName? at h
    simpa using List.find?_some h
  exact eq_of_beq hname

/-- The rule of number `index` says what is written there: a matcher, an anchor by its name, and an offset. -/
structure IndentRule.WrittenAs (r : IndentRule) (index : Nat) (spec : IndentSpec) : Prop where
  name : r.name = s!"indent#{index}:{r.matcher.kind}"
  triple : ∃ matcher, spec = .triple matcher (.text r.anchor.name) (.integer r.offset) ∧ matcher.matcher? = some r.matcher

namespace IndentRules

/-- The rules of specifications, one after another. -/
theorem rulesOf_cons (known : Option (List String)) (index : Nat) (spec : IndentSpec) (specs : List IndentSpec) :
    (rulesOf known index (spec :: specs)).2 =
      (ruleOf index spec).bind fun rule => (rulesOf known (index + 1) specs).2.map (rule :: ·) := by
  rw [rulesOf]
  cases ruleOf index spec <;> rfl

/-- The rules that are built do not depend on the node types that the grammar knows. -/
theorem rulesOf_known (known other : Option (List String)) (index : Nat) (specs : List IndentSpec) :
    (rulesOf known index specs).2 = (rulesOf other index specs).2 := by
  induction specs generalizing index with
  | nil => rfl
  | cons spec specs ih => simp only [rulesOf_cons, ih]

/-- The rules that are accepted are those of the specifications. -/
theorem rules_of_build {specs : List IndentSpec} {known : Option (List String)} {events : List Event} {rules : IndentRules}
    (h : build specs known = (events, .ok rules)) : (rulesOf known 0 specs).2 = .ok rules.rules := by
  unfold build at h
  split at h
  · cases h
  split at h
  next => cases h
  next built heq =>
    split at h
    next =>
      obtain rfl := Except.ok.inj (Prod.mk.inj h).2
      rw [heq]
    next => cases h

/-- A rule that is accepted says what is written. -/
theorem writtenAs_of_ruleOf {index : Nat} {spec : IndentSpec} {r : IndentRule} (h : ruleOf index spec = .ok r) :
    r.WrittenAs index spec := by
  cases spec with
  | malformed => cases h
  | triple matcher anchor offset =>
    cases hmatcher : matcher.matcher? with
    | none => simp [ruleOf, hmatcher] at h
    | some accepted =>
      cases anchor with
      | text name =>
        cases hanchor : Anchor.ofName? name with
        | none => simp [ruleOf, hmatcher, hanchor] at h
        | some found =>
          cases offset with
          | integer offset =>
            simp only [ruleOf, hmatcher, hanchor, Except.ok.injEq] at h
            subst h
            exact ⟨rfl, matcher, by rw [Anchor.name_of_ofName? hanchor], hmatcher⟩
          | _ => simp [ruleOf, hmatcher, hanchor] at h
      | _ =>
        simp only [ruleOf, hmatcher] at h
        split at h <;> cases h

/-- So do all rules that are accepted, number by number. -/
theorem writtenAs_of_rulesOf {known : Option (List String)} {index : Nat} {specs : List IndentSpec} {rules : List IndentRule}
    (h : (rulesOf known index specs).2 = .ok rules) :
    rules.length = specs.length ∧
      ∀ (i : Nat) (r : IndentRule), rules[i]? = some r → ∃ spec, specs[i]? = some spec ∧ r.WrittenAs (index + i) spec := by
  induction specs generalizing index rules with
  | nil =>
    obtain rfl := Except.ok.inj h
    simp
  | cons spec specs ih =>
    rw [rulesOf_cons] at h
    cases hfirst : ruleOf index spec with
    | error e =>
      rw [hfirst] at h
      cases h
    | ok first =>
      cases hrest : (rulesOf known (index + 1) specs).2 with
      | error e =>
        rw [hfirst, hrest] at h
        cases h
      | ok rest =>
        rw [hfirst, hrest] at h
        obtain rfl := Except.ok.inj h
        obtain ⟨hlength, hwritten⟩ := ih hrest
        refine ⟨by rw [List.length_cons, List.length_cons, hlength], fun i r hr => ?_⟩
        cases i with
        | zero =>
          obtain rfl := Option.some.inj hr
          exact ⟨spec, rfl, writtenAs_of_ruleOf hfirst⟩
        | succ i =>
          obtain ⟨s, hs, hr⟩ := hwritten i r hr
          exact ⟨s, hs, by rwa [show index + (i + 1) = index + 1 + i by omega]⟩

end IndentRules

/-! ## The lines that anchors ask for -/

namespace Source

/-- The line of a position is a line of the text. -/
theorem line?_lineOf (s : Source) (pos : Int) : s.line? (s.lineOf pos) = .ok (s.lineOf pos) :=
  line?_natCast (s.lineOf_spec pos).1

/-- The beginning of the line of a position, if the text has the line. -/
def bol? (s : Source) (pos : Int) : Except LineOutOfRange Nat :=
  (s.line? (s.lineOf pos)).map fun line => (s.firstNonblank line).getD (s.lineEnd line)

theorem bol?_eq (s : Source) (pos : Int) : s.bol? pos = .ok (s.bol pos) := by
  rw [bol?, line?_lineOf]
  rfl

end Source

namespace Anchor

/-- The nearest node, from one upwards along its trail, that starts its line, unless a line on the way is not there. -/
def standalone? (source : Source) (n : Node) : List (Nat × Node) → Except LineOutOfRange Node
  | [] => .ok n
  | (_, above) :: trail => do
    let bol ← source.bol? n.start
    if (bol : Int) = n.start then .ok n else standalone? source above trail

/-- The byte that an anchor stands for in a context, unless it asks for a line that is not there. -/
def position? (c : IndentContext) : Anchor → Except LineOutOfRange Int
  | columnZero => (c.tree.source.line? (c.tree.source.lineOf c.bol)).map fun line => (c.tree.source.lineStart line : Int)
  | parentBol => (c.tree.source.bol? c.parent.node.start).map Int.ofNat
  | parent => .ok c.parent.node.start
  | grandParentBol => (c.tree.source.bol? (c.parent.parent.getD c.parent).node.start).map Int.ofNat
  | standaloneParent => (standalone? c.tree.source c.parent.node c.parent.trail).map (·.start)
  | firstSibling => .ok (c.parent.node.children.head?.getD c.parent.node).start

theorem standalone?_eq (source : Source) (n : Node) (trail : List (Nat × Node)) :
    standalone? source n trail = .ok (standalone source n trail) := by
  induction trail generalizing n with
  | nil => rfl
  | cons step trail ih =>
    obtain ⟨i, above⟩ := step
    rw [standalone?, standalone, Source.bol?_eq]
    by_cases hbol : (source.bol n.start : Int) = n.start
    · simp [hbol, bind, Except.bind]
    · simp [hbol, bind, Except.bind, ih above]

/-- Every line that an anchor asks for is there. -/
theorem position?_eq (c : IndentContext) (a : Anchor) : a.position? c = .ok (a.position c) := by
  cases a with
  | columnZero =>
    rw [position?, Source.line?_lineOf]
    rfl
  | parentBol =>
    rw [position?, Source.bol?_eq]
    rfl
  | grandParentBol =>
    rw [position?, Source.bol?_eq]
    rfl
  | standaloneParent =>
    rw [position?, standalone?_eq]
    rfl
  | parent | firstSibling => rfl

end Anchor

/-! ## The search for a rule -/

namespace IndentRules

/-- The report of a rule whose matcher fails in a context. -/
def skipped? (c : IndentContext) (r : IndentRule) : Option Event :=
  match r.matcher.holds c with
  | .error e => some (.indentRuleSkipped r.name (c.node.map (·.node.type)) e.message)
  | .ok _ => none

/-- The decision in a context by the first of some rules that accepts it, and what is reported on the way: no decision when the
rules run out, and a failure when the anchor asks for a line that is not there. -/
def attempt (config : EngineConfig) (measure : Int → Int) (c : IndentContext) :
    List IndentRule → Except LineOutOfRange (Option IndentDecision) × List Event
  | [] => (.ok none, [])
  | r :: rs =>
    match r.matcher.holds c with
    | .ok true =>
      ((r.anchor.position? c).map fun anchor =>
        some ⟨r.name, anchor, r.offset, max 0 (measure anchor + r.offset * config.indentUnit), c.node.map (·.node.type),
          c.parent.node.type⟩, [])
    | .ok false => attempt config measure c rs
    | .error e =>
      let (answer, events) := attempt config measure c rs
      (answer, .indentRuleSkipped r.name (c.node.map (·.node.type)) e.message :: events)

variable {c : IndentContext} {rules : List IndentRule}

/-- The search comes to the decision of the rule that is selected, and reports what selecting it does. -/
theorem attempt_eq (config : EngineConfig) (measure : Int → Int) (c : IndentContext) (rules : List IndentRule) :
    attempt config measure c rules = (.ok ((select c rules).1.map (decisionOf config measure c)), (select c rules).2) := by
  induction rules with
  | nil => rfl
  | cons r rs ih =>
    rw [attempt, select]
    cases r.matcher.holds c with
    | ok accepted =>
      cases accepted with
      | true =>
        simp only [Anchor.position?_eq]
        rfl
      | false => exact ih
    | error e => simp only [ih]

/-- A rule that accepts the context is selected if no rule before it accepts it, and the rules before it that fail are reported
in their order. -/
theorem select_eq {before after : List IndentRule} {r : IndentRule} (hr : r.matcher.holds c = .ok true)
    (hbefore : ∀ s ∈ before, s.matcher.holds c ≠ .ok true) :
    select c (before ++ r :: after) = (some r, before.filterMap (skipped? c)) := by
  induction before with
  | nil => rw [List.nil_append, select, hr, List.filterMap_nil]
  | cons s before ih =>
    rw [List.forall_mem_cons] at hbefore
    rw [List.cons_append, select, ih hbefore.2]
    split
    next hs => exact absurd hs hbefore.1
    next hs => rw [List.filterMap_cons_none (by rw [skipped?, hs])]
    next hs => rw [List.filterMap_cons_some (by rw [skipped?, hs])]

/-- The rule that is selected accepts the context, and no rule before it does. -/
theorem exists_split_of_select {r : IndentRule} (h : (select c rules).1 = some r) :
    ∃ before after, rules = before ++ r :: after ∧ r.matcher.holds c = .ok true ∧
      ∀ s ∈ before, s.matcher.holds c ≠ .ok true := by
  induction rules with
  | nil => cases h
  | cons s rs ih =>
    by_cases hs : s.matcher.holds c = .ok true
    · rw [select, hs] at h
      obtain rfl := Option.some.inj h
      exact ⟨[], rs, rfl, hs, by simp⟩
    · have hrest : (select c rs).1 = some r := by
        rw [select] at h
        split at h
        next htrue => exact absurd htrue hs
        all_goals exact h
      obtain ⟨before, after, rfl, hr, hbefore⟩ := ih hrest
      exact ⟨s :: before, after, rfl, hr, List.forall_mem_cons.2 ⟨hs, hbefore⟩⟩

/-- Rules that are accepted are the written ones, number by number, and come to a decision for every line, however columns are
measured: the search neither runs out of rules nor asks for a line that is not there. The decision is that of the first rule whose
matcher accepts the context of the line, a matcher that fails accepting nothing; its column is the one of the anchor moved by the
offset in units of indentation, but not to the left of the first column; and each rule before it that fails is reported once, in
the order of the rules. -/
theorem resolveWith_firstMatch {specs : List IndentSpec} {known : Option (List String)} {events : List Event}
    {rules : IndentRules} (hbuild : build specs known = (events, .ok rules)) (config : EngineConfig) (measure : Int → Int)
    (tree : Snapshot) (l : Nat) :
    let c := IndentContext.ofLine tree l
    (rules.rules.length = specs.length ∧
      ∀ (i : Nat) (r : IndentRule), rules.rules[i]? = some r → ∃ spec, specs[i]? = some spec ∧ r.WrittenAs i spec) ∧
    ∃ (i : Nat) (r : IndentRule) (decision : IndentDecision),
      rules.rules[i]? = some r ∧ r.matcher.holds c = .ok true ∧
      (∀ (j : Nat) (s : IndentRule), j < i → rules.rules[j]? = some s → s.matcher.holds c ≠ .ok true) ∧
      decision = ⟨r.name, r.anchor.position c, r.offset, max 0 (measure (r.anchor.position c) + r.offset * config.indentUnit),
        c.node.map (·.node.type), c.parent.node.type⟩ ∧
      0 ≤ decision.column ∧
      attempt config measure c rules.rules = (.ok (some decision), (rules.rules.take i).filterMap (skipped? c)) ∧
      rules.resolveWith config measure tree l = (decision, (rules.rules.take i).filterMap (skipped? c)) := by
  intro c
  have hwritten := writtenAs_of_rulesOf (rules_of_build hbuild)
  simp only [Nat.zero_add] at hwritten
  refine ⟨hwritten, ?_⟩
  -- The last rule accepts every context, so that one is selected.
  obtain ⟨r, hselect⟩ := Option.isSome_iff_exists.1 (select_isSome c rules.catchAll_last)
  obtain ⟨before, after, hrules, hr, hbefore⟩ := exists_split_of_select hselect
  have hreports : (select c rules.rules).2 = (rules.rules.take before.length).filterMap (skipped? c) := by
    rw [hrules, select_eq hr hbefore, List.take_left]
  refine ⟨before.length, r, decisionOf config measure c r, ?_, hr, fun j s hj hs => ?_, rfl, Int.le_max_left _ _, ?_, ?_⟩
  · rw [hrules, List.getElem?_append_right (Nat.le_refl _), Nat.sub_self, List.getElem?_cons_zero]
  · rw [hrules, List.getElem?_append_left hj] at hs
    exact hbefore s (List.mem_of_getElem? hs)
  · rw [attempt_eq, hselect, hreports, Option.map_some]
  · have hdecision : (select c rules.rules).1.get (select_isSome c rules.catchAll_last) = r := by
      simp [hselect]
    rw [resolveWith, resolve, hdecision, hreports]

/-! ### Rules that fail before one decides -/

/-- A matcher that always fails. -/
def failing (message : String) : Matcher := .custom ⟨"Failing", [], "failing", fun _ => .error (.raised message)⟩

/-- Two rules that fail at blank lines, the first of them in the middle of several tests, and one that moves every line to the
left. -/
def stubborn : List IndentSpec :=
  [.triple (.allOf [.sound .noNode, .allOf [.sound (failing "inner"), .sound .catchAll]]) (.text "parent-bol") (.integer 1),
    .triple (.sound (.nodeIs ["block"])) (.text "parent") (.integer 0),
    .triple (.sound (failing "outer")) (.text "first-sibling") (.integer 2),
    .triple (.sound .catchAll) (.text "standalone-parent") (.integer (-3))]

theorem isSome_stubborn : (build stubborn none).2.toOption.isSome = true := by decide +kernel

/-- The rules as they are built. -/
def stubbornRules : IndentRules := (build stubborn none).2.toOption.get isSome_stubborn

/-- A program of one blank line. -/
def blankLine : Snapshot where
  root := .mk { type := "program", start := 0, stop := 1 } []
  source := .ofString "\n"
  valid := by
    simp only [Node.Valid, Node.ValidAll, Node.Laid]
    decide

/-- A blank line is left to the last rule, after a report of each rule that fails; although the rule moves it beyond the first
column, it is put there. -/
theorem resolveWith_firstMatch_stubborn :
    ∃ events, build stubborn none = (events, .ok stubbornRules) ∧
      ∃ decision, decision.rule = "indent#3:CatchAll" ∧ decision.offset = -3 ∧ 0 ≤ decision.column ∧
        stubbornRules.resolveWith {} (fun _ => 5) blankLine 0 =
          (decision, [.indentRuleSkipped "indent#0:AllOf" none "inner", .indentRuleSkipped "indent#2:Failing" none "outer"]) := by
  have hbuild : build stubborn none = ((build stubborn none).1, .ok stubbornRules) := by
    have hsome : (build stubborn none).2.toOption = some stubbornRules := (Option.some_get isSome_stubborn).symm
    cases h : (build stubborn none).2 with
    | error e =>
      rw [h] at hsome
      cases hsome
    | ok rules =>
      rw [h] at hsome
      obtain rfl := Option.some.inj hsome
      rw [← h]
  obtain ⟨-, i, r, decision, -, -, -, -, hcolumn, -, hresolve⟩ :=
    resolveWith_firstMatch hbuild {} (fun _ => 5) blankLine 0
  have hdecision : (stubbornRules.resolveWith {} (fun _ => 5) blankLine 0).1.rule = "indent#3:CatchAll" := by decide +kernel
  have hoffset : (stubbornRules.resolveWith {} (fun _ => 5) blankLine 0).1.offset = -3 := by decide +kernel
  have hreports : (stubbornRules.resolveWith {} (fun _ => 5) blankLine 0).2 =
      [.indentRuleSkipped "indent#0:AllOf" none "inner", .indentRuleSkipped "indent#2:Failing" none "outer"] := by decide +kernel
  rw [hresolve] at hdecision hoffset hreports
  exact ⟨_, hbuild, decision, hdecision, hoffset, hcolumn, hresolve.trans (by rw [← hreports])⟩

end IndentRules

end AwkEdit
