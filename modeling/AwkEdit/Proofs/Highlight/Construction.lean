import AwkEdit.Proofs.Highlight.Admissible
import AwkEdit.Proofs.Text.Normal

/-!
# What is promised of highlight rules

Rules that are put together from admissible specifications keep what the specifications and the step from a match to its claims
promise: names and labels that tell them apart, an action for whatever a match binds, and composite actions that end after one sweep
(`HighlightRules.build_constructed`).
-/

namespace AwkEdit

/-! ## Names -/

/-- The labels of rules with different numbers differ, whatever their features are called. -/
theorem order_of_ruleLabel {feature other : String} {m n : Nat} (h : ruleLabel feature m = ruleLabel other n) : m = n := by
  have hlast (name : String) (k : Nat) :
      ((ruleLabel name k).toList.reverse.takeWhile (· ≠ '#')).reverse = (toString k).toList := by
    have hdigits : ∀ c ∈ (toString k).toList.reverse, decide (c ≠ '#') = true := by
      intro c hc
      rw [List.mem_reverse, Nat.toString_eq_ofList_toDigits, String.toList_ofList] at hc
      have hdigit := Nat.isDigit_of_mem_toDigits (by decide) (by decide) hc
      rw [decide_eq_true_iff]
      rintro rfl
      cases hdigit
    rw [ruleLabel, String.toList_append, List.reverse_append, List.takeWhile_append_of_pos hdigits, String.toList_append,
      List.reverse_append]
    simp
  have hsame : (toString m).toList = (toString n).toList := by rw [← hlast feature m, h, hlast other n]
  rw [Nat.toString_eq_ofList_toDigits, Nat.toString_eq_ofList_toDigits, String.toList_ofList, String.toList_ofList] at hsame
  rw [← Nat.ofDigitChars_ten_toDigits (n := m), hsame, Nat.ofDigitChars_ten_toDigits]

namespace HighlightRules

/-! ## What applying a rule claims -/

/-- The captures that claims are made for because of a capture of a rule: the capture, and for a composite action what a single sweep
with its secondary pattern binds below. -/
def reached (source : Source) (r : HighlightRule) (captured : Capture) : List Capture :=
  match r.actions.lookup captured.name with
  | none => []
  | some (.emit _) => [captured]
  | some (.composite c) => captured :: (c.secondary.sweep source captured.place).found.flatMap (·.captures)

theorem length_flatMap_le {α β γ : Type} {f : α → List β} {g : α → List γ} (h : ∀ a, (f a).length ≤ (g a).length) (as : List α) :
    (as.flatMap f).length ≤ (as.flatMap g).length := by
  induction as with
  | nil => exact Nat.le_refl 0
  | cons a as ih =>
    rw [List.flatMap_cons, List.flatMap_cons, List.length_append, List.length_append]
    exact Nat.add_le_add (h a) ih

/-- A composite action makes no more claims than one sweep binds captures, and its own. -/
theorem length_claimsOfComposite_le (source : Source) (r : HighlightRule) (c : Composite) (p : Place) :
    (Exhaustive.claimsOfComposite source r c p).length ≤
      1 + ((c.secondary.sweep source p).found.flatMap (·.captures)).length := by
  have hown : ((c.classification.map (Exhaustive.claimFor r (r.label ++ "/" ++ c.name) p)).toList).length ≤ 1 := by
    cases c.classification <;> simp
  have heach (m : Match) : (Exhaustive.claimsOfSecondary r c m).length ≤ m.captures.length := by
    rw [← Exhaustive.secondaryClaims_eq]
    exact List.length_filterMap_le _ _
  rw [Exhaustive.claimsOfComposite, ← Exhaustive.sweep_eq_secondary, List.length_append]
  refine Nat.add_le_add hown ?_
  -- What was found before a failure does not count if the sweep fails.
  rw [Exhaustive.found, Enumeration.all]
  cases (c.secondary.sweep source p).failure with
  | none => exact length_flatMap_le heach _
  | some failure => exact Nat.zero_le _

theorem length_claimsOfCapture_le (source : Source) (r : HighlightRule) (captured : Capture) :
    (Exhaustive.claimsOfCapture source r captured).length ≤ (reached source r captured).length := by
  rw [Exhaustive.claimsOfCapture, reached]
  cases r.actions.lookup captured.name with
  | none => exact Nat.le_refl 0
  | some action =>
    cases action with
    | emit cls => exact Nat.le_refl 1
    | composite c =>
      refine Nat.le_trans (length_claimsOfComposite_le source r c captured.place) ?_
      rw [List.length_cons, Nat.add_comm]

/-- The claims of a match are what the rule says because of its captures, at most one for each capture that is reached. -/
theorem claims_hit_spec (source : Source) (h : Hit) :
    (∀ claim, claim ∈ (Hit.claims source h).1 ↔
      ∃ captured ∈ h.found.captures, ∃ q tag, h.rule.SaysBy source captured q tag ∧ claim = h.rule.claim q tag) ∧
    (Hit.claims source h).1.length ≤ (h.found.captures.flatMap (reached source h.rule)).length := by
  rw [Exhaustive.claims_hit]
  constructor
  · intro claim
    simp only [List.mem_flatMap, Exhaustive.mem_claimsOfCapture_iff]
  · exact length_flatMap_le (length_claimsOfCapture_le source h.rule) _

/-- Rules as they are promised for specifications. -/
structure Constructed (features : List FeatureSpec) (composites : List CompositeSpec) (r : HighlightRules) : Prop where
  names : r.names = features.map fun spec => Text.trimBlank spec.name
  distinct : r.names.Nodup
  trimmed : ∀ name ∈ r.names, name ≠ "" ∧ Text.trimBlank name = name
  nonempty : ∀ g ∈ r.groups, g.rules ≠ []
  named : ∀ g ∈ r.groups, ∀ rule ∈ g.rules, rule.feature = g.name
  orders : r.rules.map (·.order) = List.range r.rules.length
  labels : (r.rules.map (·.label)).Nodup
  overrides : ∀ (i : Nat) spec g, features[i]? = some spec → r.groups[i]? = some g →
    g.rules.map (·.override) = spec.rules.map fun rule => rule.override.getD spec.override
  active : ∀ rule ∈ r.rules, rule.actions ≠ []
  bound : ∀ rule ∈ r.rules, ∀ source p, ∀ m ∈ (rule.pattern.matchesAt source p).found, ∀ captured ∈ m.captures,
    isPrivate captured.name = true ∨ ∃ action, rule.actions.lookup captured.name = some action
  secondary : ∃ compiled, compileComposites (composites.map (·.name)) [] composites = .ok compiled ∧
    (∀ c ∈ compiled, Plain c ∧ ∀ spec ∈ composites, c.emits.lookup spec.name = none) ∧
    ∀ rule ∈ r.rules, ∀ name c, (name, .composite c) ∈ rule.actions → c ∈ compiled
  claims : ∀ rule ∈ r.rules, ∀ source m,
    (∀ claim, claim ∈ (Hit.claims source ⟨rule, m⟩).1 ↔
      ∃ captured ∈ m.captures, ∃ q tag, rule.SaysBy source captured q tag ∧ claim = rule.claim q tag) ∧
    (Hit.claims source ⟨rule, m⟩).1.length ≤ (m.captures.flatMap (reached source rule)).length

namespace Assembled

variable {features : List FeatureSpec} {composites : List CompositeSpec} {compiled : List Composite} {r : HighlightRules}

theorem names_eq (h : Assembled features composites compiled r) : r.names = features.map fun spec => Text.trimBlank spec.name := by
  obtain ⟨groups⟩ := r
  have hrealized : List.Forall₂ (Realizes compiled) features groups := h.realized
  change groups.map (·.name) = _
  clear h
  induction hrealized with
  | nil => rfl
  | cons hg _ ih => rw [List.map_cons, List.map_cons, hg.name, ih]

/-- Every group is what a feature says. -/
theorem exists_realizes (h : Assembled features composites compiled r) {g : FeatureGroup} (hg : g ∈ r.groups) :
    ∃ spec ∈ features, Realizes compiled spec g := by
  obtain ⟨i, hi, rfl⟩ := List.getElem_of_mem hg
  obtain ⟨hlength, hrealized⟩ := List.forall₂_iff_get.1 h.realized
  exact ⟨_, List.getElem_mem (hlength ▸ hi), hrealized i (hlength ▸ hi) hi⟩

theorem settled (h : Assembled features composites compiled r) {rule : HighlightRule} (hrule : rule ∈ r.rules) :
    Settled .emit (resolveComposite compiled) rule.pattern rule.actions := by
  obtain ⟨g, hg, hrule⟩ := List.mem_flatMap.1 hrule
  obtain ⟨spec, -, hrealizes⟩ := h.exists_realizes hg
  exact hrealizes.settled rule hrule

/-- Rules with different numbers have different labels. -/
theorem nodup_labels (h : Assembled features composites compiled r) : (r.rules.map (·.label)).Nodup := by
  have horders : (r.rules.map (·.order)).Nodup := by
    rw [h.orders]
    exact List.nodup_range
  rw [List.Nodup, List.pairwise_map] at horders ⊢
  exact horders.imp fun hne hlabel => hne (order_of_ruleLabel hlabel)

/-- The composite actions of rules are those that were compiled. -/
theorem mem_compiled (h : Assembled features composites compiled r) {rule : HighlightRule} (hrule : rule ∈ r.rules)
    {name : String} {c : Composite} (hentry : (name, .composite c) ∈ rule.actions) : c ∈ compiled := by
  have hmeaning := (h.settled hrule).means _ hentry
  rw [meaning] at hmeaning
  split at hmeaning
  next => cases hmeaning
  next =>
    rw [resolveComposite] at hmeaning
    split at hmeaning
    next other hother =>
      obtain rfl := Action.composite.inj (Except.ok.inj hmeaning)
      exact List.mem_of_find?_eq_some hother
    next => cases hmeaning

/-- What is put together from admissible specifications is as promised. -/
theorem constructed (h : Assembled features composites compiled r) (hadmissible : Admissible features composites) :
    Constructed features composites r where
  names := h.names_eq
  distinct := by
    rw [h.names_eq]
    exact hadmissible.distinct
  trimmed := by
    rw [h.names_eq, List.forall_mem_map]
    exact fun spec hspec => ⟨(hadmissible.features spec hspec).named, Text.trimBlank_trimBlank _⟩
  nonempty g hg hempty := by
    obtain ⟨spec, hspec, hrealizes⟩ := h.exists_realizes hg
    have hoverrides := hrealizes.overrides
    rw [hempty, List.map_nil, eq_comm, List.map_eq_nil_iff] at hoverrides
    exact (hadmissible.features spec hspec).rules hoverrides
  named g hg := by
    obtain ⟨spec, -, hrealizes⟩ := h.exists_realizes hg
    exact hrealizes.named
  orders := h.orders
  labels := h.nodup_labels
  overrides i spec g hspec hg := by
    obtain ⟨hi, rfl⟩ := List.getElem?_eq_some_iff.1 hspec
    obtain ⟨hi', rfl⟩ := List.getElem?_eq_some_iff.1 hg
    exact ((List.forall₂_iff_get.1 h.realized).2 i hi hi').overrides
  active rule hrule := (h.settled hrule).some
  bound rule hrule source p m hm captured hcaptured := by
    refine ((h.settled hrule).lookup (CompiledPattern.name_mem_of_mem_matchesAt hm hcaptured)).imp_right ?_
    rintro ⟨action, haction, -⟩
    exact ⟨action, haction⟩
  secondary := by
    refine ⟨compiled, h.compiles, fun c hc => ⟨h.plain c hc, fun spec hspec => ?_⟩, fun rule hrule _ _ => h.mem_compiled hrule⟩
    cases hlookup : c.emits.lookup spec.name with
    | none => rfl
    | some cls =>
      have hclassified := (h.plain c hc).classified _ (HighlightRule.mem_of_lookup hlookup)
      rw [hadmissible.composable.unclassified spec hspec] at hclassified
      cases hclassified
  claims rule _ source m := claims_hit_spec source ⟨rule, m⟩

end Assembled

/-- Rules are built from admissible specifications and from no others; what is refused is refused with a fault of its own, unless a
pattern asks for a regular expression that cannot be had or has an integer in it that cannot be written; and what is built is as
promised. -/
theorem build_constructed (features : List FeatureSpec) (composites : List CompositeSpec) (known : Option (List String)) :
    ((∃ r, (build features composites known).2 = .ok r) ↔ Admissible features composites) ∧
      (∀ e, (build features composites known).2 = .error e → e.isBare = true → SomeBeyond features composites) ∧
      ∀ r, (build features composites known).2 = .ok r → Constructed features composites r := by
  obtain ⟨haccepted, hrefused, hbuilt⟩ := (build_outcome features composites known).spec
  refine ⟨haccepted, hrefused, fun r hr => ?_⟩
  obtain ⟨compiled, h⟩ := hbuilt r hr
  exact h.constructed (haccepted.1 ⟨r, hr⟩)

/-- Calls, of which the numbers below are marked, and words with a private capture, which override. -/
def calls : FeatureSpec :=
  ⟨" call ", 2, [⟨.tuple [.text "call", .text "@arguments"], none⟩,
    ⟨.tuple [.text "word", .text "@variable-use", .text "@_word"], some true⟩], false⟩

/-- The composite action for calls. -/
def arguments : CompositeSpec := ⟨"arguments", .tuple [.text "number", .text "@number"], some .functionCall⟩

/-- So the rules for calls are as promised. -/
theorem build_constructed_calls :
    ∃ r, (build [calls] [arguments] none).2 = .ok r ∧ Constructed [calls] [arguments] r := by
  have hok : (build [calls] [arguments] none).2.toOption.isSome = true := by decide +kernel
  cases hr : (build [calls] [arguments] none).2 with
  | error e =>
    rw [hr] at hok
    cases hok
  | ok r => exact ⟨r, rfl, (build_constructed [calls] [arguments] none).2.2 r hr⟩

/-- A feature whose only capture stands for nothing, with a predicate that asks for an expression of too many rounds. -/
def tooOften : FeatureSpec := ⟨"f", 1, [⟨Pattern.tooOften, none⟩], false⟩

/-- It is refused for the expression alone. -/
theorem isBare_tooOften :
    Pattern.tooOften.Holds (.text "@x") ∧ isPrivate "x" = false ∧ Classification.ofName? "x" = none ∧
      ∃ e, (build [tooOften] [] none).2 = .error e ∧ e.isBare = true := by
  have hholds : Pattern.tooOften.Holds (.text "@x") := by
    refine .node ?_ List.mem_cons_self (.self _)
    rw [Literal.predicateShaped_iff]
    decide
  have hbare : (match (build [tooOften] [] none).2 with
      | .error e => e.isBare
      | .ok _ => false) = true := by decide +kernel
  refine ⟨hholds, by decide, by decide, ?_⟩
  split at hbare
  next e he => exact ⟨e, he, hbare⟩
  next => cases hbare

end HighlightRules

end AwkEdit
