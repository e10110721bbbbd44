import AwkEdit.Proofs.Outline
import AwkEdit.Proofs.Tree.Laminar

/-!
# Which definitions an outline lists

The outline of a snapshot has a line for each definition that has its name, in pre-order. If the top level is preferred it keeps of
these lines the ones of outermost definitions, which are those with no definition above them. Two outermost definitions are apart,
since of two nodes that are not, one lies above the other; and what is left out lies in the range of an outermost definition, since
of the definitions above it the one nearest to the root is outermost. What a definition is, is told by the rule that lists its type;
of rules that have been checked there is one at most. `outline_selection` puts this together.
-/

namespace AwkEdit.OutlineRules

variable {o : OutlineRules} {t : Snapshot} {config : EngineConfig} {p q : Place} {e : OutlineEntry}

/-! ## Rules -/

/-- The rule of a type is one that lists it. -/
theorem ruleFor?_spec {type : String} {rule : OutlineRule} (h : o.ruleFor? type = some rule) :
    rule ∈ o.rules ∧ type ∈ rule.types :=
  ⟨List.mem_of_find?_eq_some h, by simpa using List.find?_some h⟩

theorem ruleFor?_eq_none_iff {type : String} : o.ruleFor? type = none ↔ ∀ rule ∈ o.rules, type ∉ rule.types := by
  simp [ruleFor?]

/-- The types of rules that pass the check belong to no rule before them. -/
theorem pairwise_of_check {known : Option (List String)} {taken : List String} {rules : List OutlineRule}
    (h : (check known taken rules).2 = none) :
    (∀ rule ∈ rules, ∀ type ∈ rule.types, type ∉ taken) ∧
      rules.Pairwise fun earlier later => ∀ type ∈ later.types, type ∉ earlier.types := by
  induction rules generalizing taken with
  | nil => exact ⟨by simp, .nil⟩
  | cons rule rules ih =>
    cases hfault : fault? taken rule with
    | some e => simp [check, hfault] at h
    | none =>
      simp only [check, hfault] at h
      obtain ⟨hlater, hpairwise⟩ := ih h
      have hfresh : ∀ type ∈ rule.types, type ∉ taken := by
        rw [fault?] at hfault
        split at hfault
        · cases hfault
        · simpa using hfault
      simp only [List.mem_append, not_or] at hlater
      refine ⟨fun r hr type htype => ?_, List.pairwise_cons.2 ⟨fun r hr type htype => (hlater r hr type htype).2, hpairwise⟩⟩
      rcases List.mem_cons.1 hr with rfl | hr
      · exact hfresh type htype
      · exact (hlater r hr type htype).1

/-- Of rules that have been checked, the one that lists a type is the rule of the type. -/
theorem ruleFor?_of_build {known : Option (List String)} {type : String} {rule : OutlineRule}
    (h : (build o.rules known).2 = .ok o) (hrule : rule ∈ o.rules) (htype : type ∈ rule.types) :
    o.ruleFor? type = some rule := by
  have hcheck : (check known [] o.rules).2 = none := by
    rw [build] at h
    split at h
    next hfault => cases h
    next hnone => rw [hnone]
  obtain ⟨before, after, hsplit⟩ := List.append_of_mem hrule
  have hpairwise := (pairwise_of_check hcheck).2
  rw [hsplit, List.pairwise_append] at hpairwise
  refine List.find?_eq_some_iff_append.2 ⟨by simpa using htype, before, after, hsplit, fun earlier hearlier => ?_⟩
  simpa using hpairwise.2.2 earlier hearlier rule List.mem_cons_self type htype

/-! ## Lines -/

/-- The line of a definition, unless it lacks its name. -/
def listing? (o : OutlineRules) (t : Snapshot) (p : Place) : Option OutlineEntry := do
  let rule ← o.ruleFor? p.node.type
  let name ← p.childByField rule.nameField
  return ⟨t.text name.node, p.node.start, p.node.stop, rule.category⟩

/-- A place has a line when it is a definition with a child in the field that names it. The line has the text of the first such
child, the range of the definition and its category. -/
theorem listing?_eq_some_iff :
    o.listing? t p = some e ↔ ∃ rule name, o.ruleFor? p.node.type = some rule ∧ p.childByField rule.nameField = some name ∧
      e = ⟨t.text name.node, p.node.start, p.node.stop, rule.category⟩ := by
  simp only [listing?, Option.bind_eq_bind, Option.bind_eq_some_iff, Option.pure_def, Option.some.injEq]
  constructor
  · rintro ⟨rule, hrule, name, hname, rfl⟩
    exact ⟨rule, name, hrule, hname, rfl⟩
  · rintro ⟨rule, name, hrule, hname, rfl⟩
    exact ⟨rule, hrule, name, hname, rfl⟩

theorem isDefinition_of_listing? (h : o.listing? t p = some e) : o.isDefinition p.node = true := by
  obtain ⟨rule, -, hrule, -⟩ := listing?_eq_some_iff.1 h
  rw [isDefinition, hrule]
  rfl

/-- The line has the range of the definition. -/
theorem range_of_listing? (h : o.listing? t p = some e) : e.start = p.node.start ∧ e.stop = p.node.stop := by
  obtain ⟨rule, name, -, -, rfl⟩ := listing?_eq_some_iff.1 h
  exact ⟨rfl, rfl⟩

/-- A place that is listed has its line in an outline, and one that is not has none. -/
theorem entryOf_fst (o : OutlineRules) (t : Snapshot) (config : EngineConfig) (p : Place) :
    (o.entryOf t config p).1 = if o.isListed config p then (o.listing? t p).toList else [] := by
  rw [entryOf, listing?]
  cases o.ruleFor? p.node.type with
  | none => simp
  | some rule =>
    by_cases hlisted : o.isListed config p
    · cases hname : p.childByField rule.nameField <;> simp [hlisted, hname]
    · simp [hlisted]

/-- An outline has the lines of the places that are listed, in pre-order. -/
theorem outline_fst (o : OutlineRules) (t : Snapshot) (config : EngineConfig) :
    (o.outline t config).1 = (t.places.filter (o.isListed config)).filterMap (o.listing? t) := by
  change (t.places.map (o.entryOf t config)).flatMap (·.1) = _
  rw [List.flatMap_map]
  induction t.places with
  | nil => rfl
  | cons p ps ih =>
    rw [List.flatMap_cons, ih, entryOf_fst]
    by_cases hlisted : o.isListed config p
    · cases hlisting : o.listing? t p <;> simp [hlisted, hlisting]
    · simp [hlisted]

/-! ## Outermost definitions -/

/-- Whether no definition is above a place. -/
def isOutermost (o : OutlineRules) (p : Place) : Bool := !p.ancestors.any (o.isDefinition ·.node)

theorem isListed_everything : o.isListed { config with preferTopLevel := false } = fun _ => true := rfl

theorem isListed_topLevel : o.isListed { config with preferTopLevel := true } = o.isOutermost := rfl

/-- Above a place that a definition is above there is a definition that none is above. -/
theorem exists_outermost (h : o.isOutermost p = false) :
    ∃ q ∈ p.ancestors, o.isDefinition q.node = true ∧ o.isOutermost q = true := by
  obtain ⟨n, trail⟩ := p
  induction trail generalizing n with
  | nil => cases h
  | cons step trail ih =>
    obtain ⟨i, above⟩ := step
    cases hout : o.isOutermost ⟨above, trail⟩ with
    | false =>
      obtain ⟨q, hq, hdefinition, houtermost⟩ := ih above hout
      exact ⟨q, List.mem_cons_of_mem _ hq, hdefinition, houtermost⟩
    | true =>
      -- Nothing further up is a definition, so the place just above is one.
      refine ⟨⟨above, trail⟩, List.mem_cons_self, ?_, hout⟩
      have hsplit : o.isOutermost ⟨n, (i, above) :: trail⟩ = (!o.isDefinition above && o.isOutermost ⟨above, trail⟩) := by
        simp only [isOutermost, Place.ancestors, Place.along, List.any_cons, Bool.not_or]
      rw [hsplit, hout] at h
      simpa using h

/-- In pre-order an outermost definition starts where the outermost definition before it stops, or after that. -/
theorem pairwise_outermost (o : OutlineRules) (t : Snapshot) :
    (t.places.filter o.isOutermost).Pairwise fun p q => o.isDefinition p.node = true → p.node.stop ≤ q.node.start := by
  refine (t.pairwise_laminar.filter _).imp_of_mem fun {p q} _ hq hlaminar hdefinition => ?_
  rcases hlaminar with ⟨habove, -⟩ | hapart
  · -- What an outermost definition lies below is no definition.
    have hout : o.isOutermost q = true := List.of_mem_filter hq
    rw [isOutermost, Bool.not_eq_true', List.any_eq_false] at hout
    exact absurd hdefinition (hout p habove)
  · exact hapart

/-- A type has a rule exactly when one lists it, and then one that does; of checked rules, the only one. The full outline has one
line for each definition that has its name, in pre-order, and no line starts before an earlier one. The outline of the top level has
those of them, in the same order, whose definitions have no definition above, whatever the category of that and whether it has its
name or not; each of them starts where the one before stops or after that. A definition with a name that is left out lies in the
range of a definition above it that has no definition above. -/
theorem outline_selection (o : OutlineRules) (t : Snapshot) (config : EngineConfig) :
    let full := (o.outline t { config with preferTopLevel := false }).1
    let topLevel := (o.outline t { config with preferTopLevel := true }).1
    (∀ type, (o.ruleFor? type = none ↔ ∀ rule ∈ o.rules, type ∉ rule.types) ∧
      (∀ rule, o.ruleFor? type = some rule → rule ∈ o.rules ∧ type ∈ rule.types) ∧
      ∀ known, (build o.rules known).2 = .ok o →
        ∀ rule ∈ o.rules, type ∈ rule.types → o.ruleFor? type = some rule) ∧
    (full = t.places.filterMap (o.listing? t) ∧
      (∀ p e, o.listing? t p = some e ↔ ∃ rule name, o.ruleFor? p.node.type = some rule ∧
        p.childByField rule.nameField = some name ∧
        e = ⟨t.text name.node, p.node.start, p.node.stop, rule.category⟩) ∧
      full.Pairwise fun e f => e.start ≤ f.start) ∧
    (topLevel = (t.places.filter o.isOutermost).filterMap (o.listing? t) ∧ topLevel.Sublist full ∧
      topLevel.Pairwise fun e f => e.stop ≤ f.start) ∧
    ∀ p ∈ t.places, ∀ e, o.listing? t p = some e → o.isOutermost p = false →
      ∃ q ∈ p.ancestors, q ∈ t.places ∧ o.isDefinition q.node = true ∧ o.isOutermost q = true ∧
        q.node.start ≤ e.start ∧ e.stop ≤ q.node.stop := by
  intro full topLevel
  have hfull : full = t.places.filterMap (o.listing? t) := by
    rw [show full = _ from outline_fst o t _, isListed_everything, List.filter_true]
  have htop : topLevel = (t.places.filter o.isOutermost).filterMap (o.listing? t) := by
    rw [show topLevel = _ from outline_fst o t _, isListed_topLevel]
  have hrules : ∀ type, (o.ruleFor? type = none ↔ ∀ rule ∈ o.rules, type ∉ rule.types) ∧
      (∀ rule, o.ruleFor? type = some rule → rule ∈ o.rules ∧ type ∈ rule.types) ∧
      ∀ known, (build o.rules known).2 = .ok o →
        ∀ rule ∈ o.rules, type ∈ rule.types → o.ruleFor? type = some rule :=
    fun type => ⟨ruleFor?_eq_none_iff, fun rule => ruleFor?_spec, fun known h rule => ruleFor?_of_build h⟩
  refine ⟨hrules, ⟨hfull, fun p e => listing?_eq_some_iff, ?_⟩, ⟨htop, ?_, ?_⟩, fun p hp e he hout => ?_⟩
  · rw [hfull, List.pairwise_filterMap]
    refine t.pairwise_start_le.imp fun {p q} hle e he f hf => ?_
    rw [(range_of_listing? he).1, (range_of_listing? hf).1]
    exact hle
  · rw [hfull, htop]
    exact List.filter_sublist.filterMap _
  · rw [htop, List.pairwise_filterMap]
    refine (pairwise_outermost o t).imp fun {p q} hapart e he f hf => ?_
    rw [(range_of_listing? he).2, (range_of_listing? hf).1]
    exact hapart (isDefinition_of_listing? he)
  · obtain ⟨q, hq, hdefinition, houtermost⟩ := exists_outermost hout
    obtain ⟨hroot, hreach⟩ :=
      (Place.mem_cons_ancestors_iff (Place.mem_subtree_iff.1 hp)).1 (List.mem_cons_of_mem _ hq)
    have hplace : q ∈ t.places := Place.mem_subtree_iff.2 hroot
    obtain ⟨-, hstart, hstop⟩ := hreach.range (Snapshot.valid_of_mem_places hplace)
    obtain ⟨hestart, hestop⟩ := range_of_listing? he
    exact ⟨q, hq, hplace, hdefinition, houtermost, hestart ▸ hstart, hestop ▸ hstop⟩

/-- A function without a name around two functions that have one, the second in the first, and a function after it. -/
def nested : Snapshot where
  root := .mk { type := "program", start := 0, stop := 12 }
    [.mk { type := "func_def", start := 0, stop := 9 }
      [.mk { type := "func_def", start := 1, stop := 8 }
        [.mk { type := "identifier", start := 2, stop := 3, field := some "name" } [],
          .mk { type := "func_def", start := 4, stop := 7 }
            [.mk { type := "identifier", start := 5, stop := 6, field := some "name" } []]]],
      .mk { type := "func_def", start := 9, stop := 12 }
        [.mk { type := "identifier", start := 10, stop := 11, field := some "name" } []]]
  source := .ofString "[ f[ g ]][h]"
  valid := by
    simp only [Node.Valid, Node.ValidAll, Node.Laid]
    decide

/-- The full outline lists the functions with names; that of the top level leaves out those in the function without one. -/
example :
    let rules : OutlineRules := ⟨[⟨"function", ["func_def"], "name"⟩]⟩
    (rules.outline nested { preferTopLevel := false }).1 =
        [⟨"f", 1, 8, "function"⟩, ⟨"g", 4, 7, "function"⟩, ⟨"h", 9, 12, "function"⟩] ∧
      (rules.outline nested { preferTopLevel := true }).1 = [⟨"h", 9, 12, "function"⟩] := by
  decide

end AwkEdit.OutlineRules
