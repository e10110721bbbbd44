import AwkEdit.Proofs.Session.Canonical
import AwkEdit.Proofs.Tree.Lookup

/-!
# The outline and the definition at a position

The outline comes from a walk over the tree and the definition at a position from a climb, from the deepest node at the position
up to the root. The two tell of the same definitions: what the climb passes are all definitions around the position, innermost
first (`mem_definitionsAround_iff`, `pairwise_definitionsAround`), so the climb ends at the innermost or at the outermost of them,
and an outline of the top level lists a definition exactly when the climb has none to pass above it.
-/

namespace AwkEdit

namespace OutlineRules

variable {o : OutlineRules} {t : Snapshot} {config : EngineConfig} {pos : Int} {p q : Place} {e : OutlineEntry}

/-! ## Definitions around a position -/

/-- A definition around a position: a definition of the tree whose range contains the position. -/
def Around (o : OutlineRules) (t : Snapshot) (pos : Int) (p : Place) : Prop :=
  p ∈ t.places ∧ o.isDefinition p.node = true ∧ p.node.contains pos = true

/-- The climb from the deepest node at a position passes the definitions around the position. -/
theorem mem_definitionsAround_iff (hpos : t.root.contains pos = true) :
    p ∈ o.definitionsAround t pos ↔ o.Around t pos p := by
  have hdeep : t.rootPlace.Reaches (t.nodeAt pos) := Place.reaches_deepest _ _
  have hcontains : (t.nodeAt pos).node.contains pos = true := by
    rcases Place.deepest_eq_or_accepted (Node.contains pos) t.rootPlace with heq | haccept
    · rw [Snapshot.nodeAt, heq]
      exact hpos
    · exact haccept
  rw [definitionsAround, List.mem_filter, Place.mem_cons_ancestors_iff hdeep]
  constructor
  · rintro ⟨⟨hroot, hreach⟩, hdef⟩
    exact ⟨Place.mem_subtree_iff.2 hroot, hdef, Place.contains_of_reaches hreach (hroot.range t.valid).1 hcontains⟩
  · rintro ⟨hplace, hdef, hp⟩
    have hroot := Place.mem_subtree_iff.1 hplace
    exact ⟨⟨hroot, Place.reaches_deepest_of_contains hroot t.valid hp⟩, hdef⟩

/-- It passes an inner definition before an outer one. -/
theorem pairwise_definitionsAround (o : OutlineRules) (t : Snapshot) (pos : Int) :
    (o.definitionsAround t pos).Pairwise fun a b => b ∈ a.ancestors := by
  rw [definitionsAround]
  exact (Place.pairwise_ancestors (t.nodeAt pos)).filter _

/-- What is above a place of the tree leads to it. -/
theorem reaches_of_mem_ancestors (hq : q ∈ t.places) (h : p ∈ q.ancestors) : p.Reaches q :=
  ((Place.mem_cons_ancestors_iff (Place.mem_subtree_iff.1 hq)).1 (List.mem_cons_of_mem _ h)).2

/-- There is no definition at a position exactly when there is none around it. -/
theorem definitionAt?_eq_none_iff (hpos : t.root.contains pos = true) {topLevel : Bool} :
    o.definitionAt? t pos topLevel = none ↔ ∀ p, ¬o.Around t pos p := by
  have hnone : o.definitionAt? t pos topLevel = none ↔ o.definitionsAround t pos = [] := by
    cases topLevel with
    | false => exact List.head?_eq_none_iff
    | true => exact List.getLast?_eq_none_iff
  rw [hnone, List.eq_nil_iff_forall_not_mem]
  exact forall_congr' fun p => not_congr (mem_definitionsAround_iff hpos)

/-- The definition at a position is around it; all others around it lie above it, or all below it if the outermost is asked for. -/
theorem around_of_definitionAt? {topLevel : Bool} {d : Place} (hpos : t.root.contains pos = true)
    (hd : o.definitionAt? t pos topLevel = some d) :
    o.Around t pos d ∧ ∀ p, o.Around t pos p → p = d ∨ if topLevel then d ∈ p.ancestors else p ∈ d.ancestors := by
  have hpairwise := o.pairwise_definitionsAround t pos
  simp only [← mem_definitionsAround_iff hpos]
  cases topLevel with
  | false =>
    obtain ⟨outer, hsplit⟩ := List.head?_eq_some_iff.1 hd
    rw [hsplit] at hpairwise ⊢
    refine ⟨List.mem_cons_self, fun p hp => ?_⟩
    exact (List.mem_cons.1 hp).imp id fun hp => (List.pairwise_cons.1 hpairwise).1 p hp
  | true =>
    obtain ⟨inner, hsplit⟩ := List.getLast?_eq_some_iff.1 hd
    rw [hsplit] at hpairwise ⊢
    refine ⟨List.mem_concat_self, fun p hp => ?_⟩
    rcases List.mem_append.1 hp with hp | hp
    · exact .inr ((List.pairwise_append.1 hpairwise).2.2 p hp d (List.mem_singleton_self d))
    · exact .inl (List.mem_singleton.1 hp)

/-- Nothing above the outermost definition around a position is a definition. -/
theorem not_isDefinition_above {d : Place} (hpos : t.root.contains pos = true) (hd : o.definitionAt? t pos true = some d) :
    ∀ q ∈ d.ancestors, o.isDefinition q.node = false := by
  obtain ⟨hd, hothers⟩ := around_of_definitionAt? hpos hd
  intro q hq
  by_contra hdef
  have hplaces := (Place.mem_cons_ancestors_iff (Place.mem_subtree_iff.1 hd.1)).1 (List.mem_cons_of_mem _ hq)
  have hvalid := (hplaces.1.range t.valid).1
  have haround : o.Around t pos q :=
    ⟨Place.mem_subtree_iff.2 hplaces.1, by simpa using hdef, Place.contains_of_reaches hplaces.2 hvalid hd.2.2⟩
  have hnear := Place.trail_length_lt_of_mem_ancestors hq
  rcases hothers q haround with rfl | hbelow
  · exact Nat.lt_irrefl _ hnear
  · exact Nat.lt_asymm hnear (Place.trail_length_lt_of_mem_ancestors hbelow)

/-! ## Entries of the outline -/

/-- The entry lists a definition of the tree: it has its range, its category and its name, and if the top level is preferred,
nothing above the place is a definition. -/
structure Lists (o : OutlineRules) (t : Snapshot) (config : EngineConfig) (p : Place) (e : OutlineEntry) : Prop where
  place : p ∈ t.places
  range : e.start = p.node.start ∧ e.stop = p.node.stop
  category : ∃ rule, o.ruleFor? p.node.type = some rule ∧ e.category = rule.category
  name : ∃ name, o.namePlace? p = some name ∧ e.name = t.text name.node
  topLevel : config.preferTopLevel = true → ∀ q ∈ p.ancestors, o.isDefinition q.node = false

theorem isListed_iff :
    o.isListed config p = true ↔ (config.preferTopLevel = true → ∀ q ∈ p.ancestors, o.isDefinition q.node = false) := by
  rw [isListed]
  cases config.preferTopLevel <;> simp

/-- The entries of an outline are those that list a definition. -/
theorem mem_outline_iff : e ∈ (o.outline t config).1 ↔ ∃ p, o.Lists t config p e := by
  rw [outline, List.flatMap_map, List.mem_flatMap]
  refine exists_congr fun p => ?_
  constructor
  · rintro ⟨hplace, he⟩
    rw [entryOf] at he
    cases hrule : o.ruleFor? p.node.type with
    | none => simp [hrule] at he
    | some rule =>
      simp only [hrule] at he
      split at he
      next hlisted =>
        cases hname : p.childByField rule.nameField with
        | none => simp [hname] at he
        | some name =>
          simp only [hname, List.mem_singleton] at he
          subst he
          refine ⟨hplace, ⟨rfl, rfl⟩, ⟨rule, hrule, rfl⟩, ⟨name, ?_, rfl⟩, isListed_iff.1 hlisted⟩
          rw [namePlace?, hrule]
          exact hname
      next => cases he
  · rintro ⟨hplace, ⟨hstart, hstop⟩, ⟨rule, hrule, hcategory⟩, ⟨name, hname, htext⟩, htop⟩
    refine ⟨hplace, ?_⟩
    rw [namePlace?, hrule] at hname
    replace hname : p.childByField rule.nameField = some name := hname
    simp only [entryOf, hrule, isListed_iff.2 htop, hname, if_true, List.mem_singleton]
    obtain ⟨_, _, _, _⟩ := e
    simp only at hstart hstop hcategory htext
    rw [hstart, hstop, hcategory, htext]

theorem isDefinition_of_lists (h : o.Lists t config p e) : o.isDefinition p.node = true := by
  obtain ⟨rule, hrule, -⟩ := h.category
  rw [isDefinition, hrule]
  rfl

end OutlineRules

/-! ## Sessions -/

namespace Session

variable {s : Session} {pos : Int} {p d : Place}

/-- A definition at a position is listed under the name that it has. -/
theorem lists_of_definitionAt? {name : String} (hpos : s.tree.root.contains pos = true) (hd : s.definitionAt? pos = some d)
    (hname : s.definitionName? d = some name) :
    ∃ category, s.language.outline.Lists s.tree s.config d ⟨name, d.node.start, d.node.stop, category⟩ := by
  obtain ⟨haround, -⟩ := OutlineRules.around_of_definitionAt? hpos hd
  obtain ⟨place, hplace, rfl⟩ := Option.map_eq_some_iff.1 hname
  obtain ⟨rule, hrule⟩ := Option.isSome_iff_exists.1 haround.2.1
  refine ⟨rule.category, haround.1, ⟨rfl, rfl⟩, ⟨rule, hrule, rfl⟩, ⟨place, hplace, rfl⟩, fun htop => ?_⟩
  rw [definitionAt?, htop] at hd
  exact OutlineRules.not_isDefinition_above hpos hd

/-- At a position in a listed definition there is a definition at or below it, and no other if the top level is preferred. -/
theorem definitionAt?_of_lists {e : OutlineEntry} (h : s.language.outline.Lists s.tree s.config p e)
    (hp : p.node.contains pos = true) :
    ∃ d, s.definitionAt? pos = some d ∧ s.language.outline.isDefinition d.node = true ∧ p.Reaches d ∧
      (s.config.preferTopLevel = true → d = p) := by
  have hpos := Place.contains_of_reaches (Place.mem_subtree_iff.1 h.place) s.tree.valid hp
  have haround : s.language.outline.Around s.tree pos p := ⟨h.place, OutlineRules.isDefinition_of_lists h, hp⟩
  cases hd : s.definitionAt? pos with
  | none => exact absurd haround ((OutlineRules.definitionAt?_eq_none_iff hpos).1 hd p)
  | some d =>
    obtain ⟨hdaround, hothers⟩ := OutlineRules.around_of_definitionAt? hpos hd
    have hsame : s.config.preferTopLevel = true → d = p := by
      intro htop
      rcases hothers p haround with heq | hbelow
      · exact heq.symm
      · rw [if_pos htop] at hbelow
        have := h.topLevel htop d hbelow
        rw [hdaround.2.1] at this
        cases this
    refine ⟨d, rfl, hdaround.2.1, ?_, hsame⟩
    by_cases htop : s.config.preferTopLevel = true
    · rw [hsame htop]
      exact .refl p
    · rcases hothers p haround with rfl | habove
      · exact .refl p
      · rw [if_neg htop] at habove
        exact OutlineRules.reaches_of_mem_ancestors hdaround.1 habove

/-- The definition at a position in the range of the root is, of all definitions around the position, the innermost one, or the
outermost one if the top level is preferred; if it has a name, the outline lists it with its range. At a position in a definition
that the outline lists there is that definition or one below it, and that definition itself if the top level is preferred. -/
theorem definitionAt_outline (s : Session) (pos : Int) :
    (s.tree.root.contains pos = true →
      (s.definitionAt? pos = none ↔ ∀ p, ¬s.language.outline.Around s.tree pos p) ∧
      ∀ d, s.definitionAt? pos = some d → s.language.outline.Around s.tree pos d ∧
        (∀ p, s.language.outline.Around s.tree pos p → if s.config.preferTopLevel then d.Reaches p else p.Reaches d) ∧
        ∀ name, s.definitionName? d = some name → ∃ category, ⟨name, d.node.start, d.node.stop, category⟩ ∈ s.outline.1) ∧
    (∀ e, e ∈ s.outline.1 ↔ ∃ p, s.language.outline.Lists s.tree s.config p e) ∧
    ∀ p e, s.language.outline.Lists s.tree s.config p e → p.node.contains pos = true →
      ∃ d, s.definitionAt? pos = some d ∧ s.language.outline.isDefinition d.node = true ∧ p.Reaches d ∧
        (s.config.preferTopLevel = true → d = p) := by
  refine ⟨fun hpos => ⟨OutlineRules.definitionAt?_eq_none_iff hpos, fun d hd => ?_⟩, fun e => OutlineRules.mem_outline_iff,
    fun p e => definitionAt?_of_lists⟩
  obtain ⟨haround, hothers⟩ := OutlineRules.around_of_definitionAt? hpos hd
  refine ⟨haround, fun p hp => ?_, fun name hname => ?_⟩
  · rcases hothers p hp with rfl | hother
    · split <;> exact .refl p
    · split at hother
      next htop =>
        rw [if_pos htop]
        exact OutlineRules.reaches_of_mem_ancestors hp.1 hother
      next htop =>
        rw [if_neg htop]
        exact OutlineRules.reaches_of_mem_ancestors haround.1 hother
  · obtain ⟨category, hlists⟩ := lists_of_definitionAt? hpos hd hname
    exact ⟨category, OutlineRules.mem_outline_iff.2 ⟨d, hlists⟩⟩

/-! ### A function in a function -/

/-- A function in another one, both with names. -/
def functionTree : Node :=
  .mk { type := "program", start := 0, stop := 7 }
    [.mk { type := "func_def", start := 0, stop := 7 }
      [.mk { type := "identifier", start := 0, stop := 1, field := some "name" } [],
        .mk { type := "func_def", start := 2, stop := 6 }
          [.mk { type := "identifier", start := 2, stop := 3, field := some "name" } []]]]

theorem valid_functionTree : functionTree.Valid (Source.ofString "f{g{}}\n").size := by
  simp only [functionTree, Node.Valid, Node.ValidAll, Node.Laid]
  decide

/-- A session over them. -/
def functionInFunction : Session where
  tree := ⟨functionTree, .ofString "f{g{}}\n", valid_functionTree⟩
  config := settings
  language := ⟨"awk", ⟨[]⟩, ⟨[⟨"left", .catchAll, .columnZero, 0⟩], rfl⟩, ⟨Awk.outlineRules⟩, []⟩
  counted := by decide

/-- At a byte of the inner function the definition is the inner function, and the outline lists it. -/
theorem definitionAt_outline_inner :
    functionInFunction.tree.root.contains 4 = true ∧
      ∃ d category, functionInFunction.definitionAt? 4 = some d ∧ d.path = [0, 1] ∧
        ⟨"g", 2, 6, category⟩ ∈ functionInFunction.outline.1 := by
  have hpos : functionInFunction.tree.root.contains 4 = true := by decide
  obtain ⟨d, hd, hpath, hrange, hname⟩ : ∃ d, functionInFunction.definitionAt? 4 = some d ∧ d.path = [0, 1] ∧
      (d.node.start, d.node.stop) = (2, 6) ∧ functionInFunction.definitionName? d = some "g" := ⟨_, rfl, rfl, rfl, by decide⟩
  obtain ⟨hstart, hstop⟩ := Prod.mk.inj hrange
  obtain ⟨-, -, hlisted⟩ := ((functionInFunction.definitionAt_outline 4).1 hpos).2 d hd
  obtain ⟨category, hlisted⟩ := hlisted "g" hname
  rw [hstart, hstop] at hlisted
  exact ⟨hpos, d, category, hd, hpath, hlisted⟩

end Session

end AwkEdit
