import AwkEdit.Proofs.Highlight.Says
import AwkEdit.Proofs.Pattern.Calm

/-!
# Rules that recolor what is below a child

A composite action recolors when it gives a classification to all nodes of a type in the subtree that it sweeps, but for those with
some texts. A rule that does so for the children under a field says the classification of those nodes and of no others
(`HighlightRule.says_iff_of_recolors?`), however deep they are: the tests of its patterns never fail, so neither the search at a node
nor the sweep of a subtree is given up.
-/

namespace AwkEdit

/-! ## Patterns whose tests never fail -/

namespace Enumeration

variable {ε α β : Type}

/-- Without a failure enumerations one after another find what each of them finds. -/
theorem found_join {f : α → Enumeration ε β} {as : List α} (h : ∀ a ∈ as, (f a).failure = Option.none) :
    (join f as).found = as.flatMap fun a => (f a).found := by
  induction as with
  | nil => rfl
  | cons a as ih =>
    rw [List.forall_mem_cons] at h
    simp only [join, append, h.1, Option.isSome_none, Bool.false_eq_true, if_false, ih h.2, List.flatMap_cons]

end Enumeration

namespace CompiledPattern

variable {source : Source} {pattern : CompiledPattern} {p : Place} {captured : Capture}

/-- Whether no test of the pattern fails, whatever the text. -/
def Total (pattern : CompiledPattern) : Prop := ∀ q ∈ pattern.predicates, ∀ text, ∃ b, q.test.holds text = .ok b

/-- Such a pattern does not fail at a place. -/
theorem Total.failure_matchesAt (h : pattern.Total) (source : Source) (p : Place) :
    (pattern.matchesAt source p).failure = none := by
  obtain ⟨ds, -, -, -, hfailure, -⟩ := pattern.matchesAt_derivations source p
  exact hfailure fun _ _ _ q hq _ _ _ => h q hq _

/-- It binds what one of its derivations binds that its predicates keep. -/
theorem Total.binds_iff (h : pattern.Total) :
    pattern.Binds source p captured ↔ ∃ d cs, pattern.root.Derives p d cs ∧ pattern.Keeps source cs ∧ captured ∈ cs := by
  obtain ⟨ds, hds, -, -, -, hfound⟩ := pattern.matchesAt_derivations source p
  have hfailure := h.failure_matchesAt source p
  simp only [Binds, Enumeration.all_eq_ok_iff, hfailure, true_and, exists_eq_left', hfound hfailure, List.mem_map,
    List.mem_filter, decide_eq_true_iff]
  constructor
  · rintro ⟨m, ⟨⟨d, cs⟩, ⟨hd, hkeeps⟩, rfl⟩, hcaptured⟩
    exact ⟨d, cs, (hds d cs).1 hd, hkeeps, hcaptured⟩
  · rintro ⟨d, cs, hd, hkeeps, hcaptured⟩
    exact ⟨⟨p, cs⟩, ⟨(d, cs), ⟨(hds d cs).2 hd, hkeeps⟩, rfl⟩, hcaptured⟩

/-- A composite action whose secondary pattern is such a pattern binds below a place what the pattern binds anywhere there. -/
theorem Total.composite_binds_iff {c : Composite} (h : c.secondary.Total) :
    c.Binds source p captured ↔ ∃ q, p.Reaches q ∧ c.secondary.Binds source q captured := by
  have hfailures : ∀ q ∈ p.subtree, (c.secondary.matchesAt source q).failure = none :=
    fun q _ => h.failure_matchesAt source q
  have hfailure : (c.secondary.sweep source p).failure = none := Enumeration.failure_join hfailures
  have hfound : (c.secondary.sweep source p).found = _ := Enumeration.found_join hfailures
  simp only [Composite.Binds, Binds, Enumeration.all_eq_ok_iff, hfailure, true_and, exists_eq_left', hfound, List.mem_flatMap,
    Place.mem_subtree_iff, h.failure_matchesAt source]
  constructor
  · rintro ⟨m, ⟨q, hq, hm⟩, hcaptured⟩
    exact ⟨q, hq, m, hm, hcaptured⟩
  · rintro ⟨q, hq, m, hm, hcaptured⟩
    exact ⟨m, ⟨q, hq, hm⟩, hcaptured⟩

end CompiledPattern

/-! ## Patterns for a node and one of its children -/

namespace Pattern

variable {head inner : Head} {field : Option String} {names : List String} {p : Place} {d : Derivation} {cs : List Capture}

/-- A pattern for a node alone is matched by the node, when its head accepts the type. -/
theorem derives_bare_iff :
    Derives (.node head [] names) p d cs ↔ head.accepts p.node.type = true ∧ d = .node [] ∧ cs = names.map (⟨·, p⟩) := by
  constructor
  · rintro ⟨haccepts, -, ⟨⟩⟩
    exact ⟨haccepts, rfl, List.append_nil _⟩
  · rintro ⟨haccepts, rfl, rfl⟩
    have hderives : Derives (.node head [] names) p (.node []) (names.map (⟨·, p⟩) ++ []) := .node haccepts .nil .nil
    rwa [List.append_nil] at hderives

/-- A pattern for a node and a child is matched by the node and each of its children under the field, when the heads accept the
types. -/
theorem exists_derives_child_iff :
    (∃ d, Derives (.node head [(field, .node inner [] names)] []) p d cs) ↔
      head.accepts p.node.type = true ∧ ∃ child ∈ p.children, underField field child = true ∧
        inner.accepts child.node.type = true ∧ cs = names.map (⟨·, child⟩) := by
  constructor
  · rintro ⟨d, haccepts, -, hbelow⟩
    cases hbelow with
    | cons hchild hfield hfirst hrest =>
      cases hrest
      obtain ⟨hinner, -, rfl⟩ := derives_bare_iff.1 hfirst
      exact ⟨haccepts, _, List.mem_of_getElem? hchild, underField_iff.2 hfield, hinner, by simp⟩
  · rintro ⟨haccepts, child, hchild, hfield, hinner, rfl⟩
    obtain ⟨i, hi⟩ := List.getElem?_of_mem hchild
    have hinner : Derives (.node inner [] names) child (.node []) (names.map (⟨·, child⟩)) := derives_bare_iff.2 ⟨hinner, rfl, rfl⟩
    have hbelow : DerivesBelow [(field, .node inner [] names)] p.children [(i, .node [])] (names.map (⟨·, child⟩) ++ []) :=
      .cons hi (underField_iff.1 hfield) hinner .nil
    have hderives : Derives (.node head [(field, .node inner [] names)] []) p (.node [(i, .node [])])
        ([] ++ (names.map (⟨·, child⟩) ++ [])) := .node haccepts (List.pairwise_singleton _ _) hbelow
    rw [List.nil_append, List.append_nil] at hderives
    exact ⟨_, hderives⟩

end Pattern

namespace CompiledPattern

variable {source : Source} {head inner : Head} {field : Option String} {name : String} {spared : List String} {label : Option String}
  {p : Place} {captured : Capture}

/-- Whether a text is among some texts is always decided. -/
theorem total_spared (root : Pattern) (name : String) (spared : List String) (label : Option String) :
    Total ⟨root, [⟨.notAmong spared, name⟩], label⟩ := by
  intro q hq text
  obtain rfl := List.mem_singleton.1 hq
  exact ⟨_, rfl⟩

/-- A pattern for a node alone whose text is not among some texts binds the node where its type and its text are as asked for. -/
theorem binds_spared_iff :
    Binds source ⟨.node head [] [name], [⟨.notAmong spared, name⟩], label⟩ p captured ↔
      head.accepts p.node.type = true ∧ source.text p.node.start p.node.stop ∉ spared ∧ captured = ⟨name, p⟩ := by
  simp only [(total_spared _ _ _ _).binds_iff, Pattern.derives_bare_iff, List.map_singleton]
  constructor
  · rintro ⟨_, _, ⟨haccepts, rfl, rfl⟩, hkeeps, hcaptured⟩
    have hpassed := hkeeps _ (List.mem_singleton.2 rfl) _ (List.mem_singleton.2 rfl) rfl
    refine ⟨haccepts, ?_, List.mem_singleton.1 hcaptured⟩
    simpa [Predicate.onNode, TextTest.holds] using hpassed
  · rintro ⟨haccepts, htext, rfl⟩
    refine ⟨_, _, ⟨haccepts, rfl, rfl⟩, ?_, List.mem_singleton.2 rfl⟩
    intro q hq c hc _
    obtain rfl := List.mem_singleton.1 hq
    obtain rfl := List.mem_singleton.1 hc
    simpa [Predicate.onNode, TextTest.holds] using htext

/-- A pattern for a node and a child, without tests, binds each child under the field where the heads accept the types. -/
theorem binds_child_iff :
    Binds source ⟨.node head [(field, .node inner [] [name])] [], [], label⟩ p captured ↔
      head.accepts p.node.type = true ∧ ∃ child ∈ p.children, underField field child = true ∧
        inner.accepts child.node.type = true ∧ captured = ⟨name, child⟩ := by
  have htotal : Total ⟨.node head [(field, .node inner [] [name])] [], [], label⟩ := nofun
  rw [htotal.binds_iff]
  constructor
  · rintro ⟨d, cs, hderives, -, hcaptured⟩
    obtain ⟨haccepts, child, hchild, hfield, hinner, rfl⟩ := Pattern.exists_derives_child_iff.1 ⟨d, hderives⟩
    exact ⟨haccepts, child, hchild, hfield, hinner, List.mem_singleton.1 hcaptured⟩
  · rintro ⟨haccepts, child, hchild, hfield, hinner, rfl⟩
    obtain ⟨d, hderives⟩ := Pattern.exists_derives_child_iff.2 ⟨haccepts, child, hchild, hfield, hinner, rfl⟩
    exact ⟨d, _, hderives, nofun, List.mem_singleton.2 rfl⟩

end CompiledPattern

/-! ## Recoloring -/

/-- What a composite action, by its name, recolors in a subtree: the nodes of a type, but for those with the texts that are spared,
and the classification that it gives them. -/
structure Recoloring where
  action : String
  type : String
  spared : List String
  classification : Classification
  deriving DecidableEq

/-- Whether a node is recolored where the action sweeps. -/
def Recoloring.Applies (source : Source) (recoloring : Recoloring) (q : Place) : Prop :=
  q.node.type = recoloring.type ∧ source.text q.node.start q.node.stop ∉ recoloring.spared

/-- What the action recolors, if that is all it does. -/
def Composite.recolors? (c : Composite) : Option Recoloring :=
  match c.secondary.root, c.secondary.predicates, c.emits, c.classification with
  | .node (.type type) [] [name], [⟨.notAmong spared, tested⟩], [(emitted, cls)], none =>
    if tested = name ∧ emitted = name then some ⟨c.name, type, spared, cls⟩ else none
  | _, _, _, _ => none

/-- The type, the field and the recoloring of a rule that recolors what is at or below the children under the field of nodes of the
type, and does nothing else. -/
def HighlightRule.recolors? (r : HighlightRule) : Option (String × String × Recoloring) :=
  match r.pattern.root, r.pattern.predicates, r.actions with
  | .node (.type type) [(some field, .node .any [] [name])] [], [], [(other, .composite c)] =>
    if other = name then c.recolors?.map (type, field, ·) else none
  | _, _, _ => none

variable {source : Source} {recoloring : Recoloring}

/-- What an action that recolors is made of. -/
theorem Composite.eq_of_recolors? {c : Composite} (h : c.recolors? = some recoloring) :
    ∃ name label, c = ⟨recoloring.action, ⟨.node (.type recoloring.type) [] [name], [⟨.notAmong recoloring.spared, name⟩], label⟩,
      [(name, recoloring.classification)], none⟩ := by
  obtain ⟨action, ⟨root, predicates, label⟩, emits, classification⟩ := c
  unfold recolors? at h
  split at h
  next type name spared tested emitted cls hroot hpredicates hemits hnone =>
    split at h
    next hnames =>
      obtain ⟨rfl, rfl⟩ := hnames
      obtain rfl := Option.some.inj h
      dsimp only at hroot hpredicates hemits hnone
      subst hroot hpredicates hemits hnone
      exact ⟨_, label, rfl⟩
    next => cases h
  next => cases h

/-- An action that recolors gives the classification to the nodes at or below the place that it is to recolor. -/
theorem Composite.binds_iff_of_recolors? {c : Composite} (h : c.recolors? = some recoloring) {p q : Place} {cls : Classification} :
    (∃ inner, c.Binds source p inner ∧ c.emits.lookup inner.name = some cls ∧ inner.place = q) ↔
      p.Reaches q ∧ recoloring.Applies source q ∧ cls = recoloring.classification := by
  obtain ⟨name, label, hc⟩ := c.eq_of_recolors? h
  have htotal : c.secondary.Total := by
    rw [hc]
    exact CompiledPattern.total_spared _ _ _ _
  have hlookup : c.emits.lookup name = some recoloring.classification := by rw [hc, List.lookup_cons, BEq.rfl]
  have hsecondary : c.secondary = _ := congrArg Composite.secondary hc
  simp only [htotal.composite_binds_iff, hsecondary, CompiledPattern.binds_spared_iff, Head.accepts, beq_iff_eq]
  constructor
  · rintro ⟨inner, ⟨r, hreaches, htype, htext, rfl⟩, hcls, rfl⟩
    rw [hlookup] at hcls
    exact ⟨hreaches, ⟨htype, htext⟩, (Option.some.inj hcls).symm⟩
  · rintro ⟨hreaches, ⟨htype, htext⟩, rfl⟩
    exact ⟨⟨name, q⟩, ⟨q, hreaches, htype, htext, rfl⟩, hlookup, rfl⟩

namespace HighlightRule

variable {r : HighlightRule} {type field : String}

/-- What a rule that recolors is made of. -/
theorem exists_of_recolors? (h : r.recolors? = some (type, field, recoloring)) :
    ∃ name label c, r.pattern = ⟨.node (.type type) [(some field, .node .any [] [name])] [], [], label⟩ ∧
      r.actions = [(name, .composite c)] ∧ c.recolors? = some recoloring := by
  unfold recolors? at h
  split at h
  next type' field' name other c hroot hpredicates hactions =>
    split at h
    next hname =>
      subst hname
      obtain ⟨t, hc, heq⟩ := Option.map_eq_some_iff.1 h
      cases heq
      refine ⟨_, r.pattern.label, c, ?_, hactions, hc⟩
      rw [← hroot, ← hpredicates]
    next => cases h
  next => cases h

/-- What a rule that recolors says: of the nodes at or below the children under the field of a node of the type, as far as the action
is to recolor them, the classification that the action gives. -/
theorem says_iff_of_recolors? (h : r.recolors? = some (type, field, recoloring)) {p q : Place} {tag : Tag} :
    r.Says source p q tag ↔
      p.node.type = type ∧ (∃ child ∈ p.children, child.node.field = some field ∧ child.Reaches q) ∧ recoloring.Applies source q ∧
        tag = ⟨recoloring.classification, r.feature, r.label ++ "/" ++ recoloring.action⟩ := by
  obtain ⟨name, label, c, hpattern, hactions, hc⟩ := exists_of_recolors? h
  have hlookup : r.actions.lookup name = some (.composite c) := by rw [hactions, List.lookup_cons, BEq.rfl]
  have hbelow {p q : Place} {cls : Classification} :
      (∃ inner, c.Binds source p inner ∧ c.emits.lookup inner.name = some cls ∧ inner.place = q) ↔
        p.Reaches q ∧ recoloring.Applies source q ∧ cls = recoloring.classification := c.binds_iff_of_recolors? hc
  have hmade : c.name = recoloring.action ∧ c.classification = none := by
    obtain ⟨_, _, rfl⟩ := c.eq_of_recolors? hc
    exact ⟨rfl, rfl⟩
  have hbinds (captured : Capture) : r.pattern.Binds source p captured ↔
      p.node.type = type ∧ ∃ child ∈ p.children, child.node.field = some field ∧ captured = ⟨name, child⟩ := by
    rw [hpattern, CompiledPattern.binds_child_iff]
    simp [Head.accepts, underField]
  rw [← hmade.1]
  constructor
  · rintro ⟨captured, hcaptured, hsays⟩
    obtain ⟨htype, child, hchild, hfield, rfl⟩ := (hbinds _).1 hcaptured
    cases hsays with
    | emit haction =>
      rw [hlookup] at haction
      cases haction
    | composite haction hcls =>
      rw [hlookup] at haction
      cases haction
      rw [hmade.2] at hcls
      cases hcls
    | secondary haction hinner hcls =>
      rw [hlookup] at haction
      cases haction
      obtain ⟨hreaches, happlies, rfl⟩ := hbelow.1 ⟨_, hinner, hcls, rfl⟩
      exact ⟨htype, ⟨child, hchild, hfield, hreaches⟩, happlies, rfl⟩
  · rintro ⟨htype, ⟨child, hchild, hfield, hreaches⟩, happlies, rfl⟩
    obtain ⟨inner, hinner, hcls, rfl⟩ := hbelow.2 ⟨hreaches, happlies, rfl⟩
    exact ⟨⟨name, child⟩, (hbinds _).2 ⟨htype, child, hchild, hfield, rfl⟩, .secondary hlookup hinner hcls⟩

end HighlightRule

end AwkEdit
