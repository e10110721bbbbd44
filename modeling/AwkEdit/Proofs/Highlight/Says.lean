import AwkEdit.Proofs.Highlight.Pruning

/-!
# What rules say of nodes

A rule says something of a node that one of its captures binds: the classification of the capture, or that of a composite action,
or what the secondary pattern of the action says of a node below. Only the matches of an enumeration that comes to its end count.
The claims of a pass are what the active rules say of nodes, and nothing else (`Exhaustive.mem_claims_iff`).
-/

namespace AwkEdit

/-- Whether a match of a pattern at a place binds the capture, where the matches there are enumerated without a failure. -/
def CompiledPattern.Binds (source : Source) (pattern : CompiledPattern) (p : Place) (captured : Capture) : Prop :=
  ∃ ms, (pattern.matchesAt source p).all = .ok ms ∧ ∃ m ∈ ms, captured ∈ m.captures

/-- Whether the secondary pattern of a composite action at a place binds the capture, where the subtree is swept without a
failure. -/
def Composite.Binds (source : Source) (c : Composite) (p : Place) (captured : Capture) : Prop :=
  ∃ ms, (c.secondary.sweep source p).all = .ok ms ∧ ∃ m ∈ ms, captured ∈ m.captures

/-- A pattern for a node alone, without predicates, binds the node wherever its head accepts the type. -/
theorem CompiledPattern.binds_bare_iff {source : Source} {head : Head} {names : List String} {label : Option String} {p : Place}
    {captured : Capture} :
    CompiledPattern.Binds source ⟨.node head [] names, [], label⟩ p captured ↔
      head.accepts p.node.type = true ∧ captured.place = p ∧ captured.name ∈ names := by
  have hall : (CompiledPattern.matchesAt ⟨.node head [] names, [], label⟩ source p).all =
      .ok (if head.accepts p.node.type then [⟨p, names.map (⟨·, p⟩)⟩] else []) := by
    rw [matchesAt_eq_bareMatches, bareMatches, Pattern.bindings, Pattern.bindingsBelow]
    split <;> simp [Enumeration.keep, Enumeration.map, Enumeration.all, Enumeration.none, admits, Predicate.allHold]
  constructor
  · rintro ⟨ms, hms, m, hm, hcaptured⟩
    rw [hall] at hms
    obtain rfl := Except.ok.inj hms
    split at hm
    next haccepts =>
      obtain rfl := List.mem_singleton.1 hm
      obtain ⟨name, hname, rfl⟩ := List.mem_map.1 hcaptured
      exact ⟨haccepts, rfl, hname⟩
    next => cases hm
  · rintro ⟨haccepts, rfl, hname⟩
    refine ⟨_, hall, ⟨captured.place, names.map (⟨·, captured.place⟩)⟩, ?_, List.mem_map.2 ⟨captured.name, hname, rfl⟩⟩
    rw [if_pos haccepts]
    exact List.mem_singleton.2 rfl

namespace HighlightRule

/-- What a rule says of which nodes because of a capture: of the captured node the classification of the capture or that of a
composite action, and of nodes below it the classifications of the captures of the action's secondary pattern. -/
inductive SaysBy (source : Source) (r : HighlightRule) (captured : Capture) : Place → Tag → Prop
  | emit {cls : Classification} : r.actions.lookup captured.name = some (.emit cls) →
      SaysBy source r captured captured.place ⟨cls, r.feature, r.label⟩
  | composite {c : Composite} {cls : Classification} : r.actions.lookup captured.name = some (.composite c) →
      c.classification = some cls → SaysBy source r captured captured.place ⟨cls, r.feature, r.label ++ "/" ++ c.name⟩
  | secondary {c : Composite} {inner : Capture} {cls : Classification} :
      r.actions.lookup captured.name = some (.composite c) → c.Binds source captured.place inner →
        c.emits.lookup inner.name = some cls → SaysBy source r captured inner.place ⟨cls, r.feature, r.label ++ "/" ++ c.name⟩

/-- What a rule that is tried at a place says of which nodes. -/
def Says (source : Source) (r : HighlightRule) (p q : Place) (tag : Tag) : Prop :=
  ∃ captured, r.pattern.Binds source p captured ∧ r.SaysBy source captured q tag

/-- The claim of a node for a rule, with what is said of it. -/
def claim (r : HighlightRule) (q : Place) (tag : Tag) : Claim := ⟨q.node.start, q.node.stop, tag, r.override⟩

variable {source : Source} {r : HighlightRule} {p q : Place} {captured : Capture} {tag : Tag}

/-- What an enumeration that does not fail gives was found. -/
theorem mem_found_of_all {α : Type} {e : Enumeration TestFailure α} {as : List α} {a : α} (h : e.all = .ok as) (ha : a ∈ as) :
    a ∈ e.found := by
  unfold Enumeration.all at h
  split at h
  · cases h
  · cases h
    exact ha

/-- Because of a capture a rule speaks of nodes at or below the captured one. -/
theorem SaysBy.reaches (h : r.SaysBy source captured q tag) : captured.place.Reaches q := by
  cases h with
  | emit _ => exact .refl _
  | composite _ _ => exact .refl _
  | secondary _ hinner _ =>
    obtain ⟨ms, hms, m, hm, hinner⟩ := hinner
    exact CompiledPattern.reaches_of_mem_sweep (mem_found_of_all hms hm) hinner

/-- A rule that is tried at a place speaks of nodes at or below it. -/
theorem Says.reaches (h : r.Says source p q tag) : p.Reaches q := by
  obtain ⟨captured, ⟨ms, hms, m, hm, hcaptured⟩, hsays⟩ := h
  exact (CompiledPattern.reaches_of_mem_matchesAt (mem_found_of_all hms hm) hcaptured).trans hsays.reaches

/-! ## What a rule can say -/

/-- The classifications that a rule can give to nodes. -/
def sayable (r : HighlightRule) : List Classification :=
  r.actions.flatMap fun action =>
    match action.2 with
    | .emit cls => [cls]
    | .composite c => c.classification.toList ++ c.emits.map (·.2)

theorem mem_of_lookup {α : Type} {name : String} {a : α} {entries : List (String × α)} (h : entries.lookup name = some a) :
    (name, a) ∈ entries := by
  obtain ⟨before, after, rfl, -⟩ := List.lookup_eq_some_iff.1 h
  exact List.mem_append_right _ List.mem_cons_self

/-- A rule says only what it can say. -/
theorem Says.mem_sayable (h : r.Says source p q tag) : tag.classification ∈ r.sayable := by
  obtain ⟨captured, -, hsays⟩ := h
  rw [sayable, List.mem_flatMap]
  cases hsays with
  | emit haction => exact ⟨_, mem_of_lookup haction, List.mem_cons_self⟩
  | composite haction hcls =>
    refine ⟨_, mem_of_lookup haction, List.mem_append_left _ ?_⟩
    rw [hcls]
    exact List.mem_cons_self
  | secondary haction _ hcls =>
    exact ⟨_, mem_of_lookup haction, List.mem_append_right _ (List.mem_map_of_mem (mem_of_lookup hcls))⟩

/-- The type and the classification of a rule that gives the classification to the nodes of the type, whatever their text and their
children are, and does nothing else. -/
def mark? (r : HighlightRule) : Option (String × Classification) :=
  match r.pattern.root, r.pattern.predicates, r.actions with
  | .node (.type type) [] [name], [], [(other, .emit cls)] => if name = other then some (type, cls) else none
  | _, _, _ => none

/-- What such a rule says. -/
theorem says_iff_of_mark? {type : String} {cls : Classification} (h : r.mark? = some (type, cls)) :
    r.Says source p q tag ↔ q = p ∧ p.node.type = type ∧ tag = ⟨cls, r.feature, r.label⟩ := by
  obtain ⟨name, label, hpattern, hactions⟩ :
      ∃ name label, r.pattern = ⟨.node (.type type) [] [name], [], label⟩ ∧ r.actions = [(name, .emit cls)] := by
    unfold mark? at h
    split at h
    next type' name other cls' hroot hpredicates hactions =>
      split at h
      next hsame =>
        obtain ⟨rfl, rfl⟩ := Prod.mk.inj (Option.some.inj h)
        subst hsame
        refine ⟨name, r.pattern.label, ?_, hactions⟩
        rw [← hroot, ← hpredicates]
      next => cases h
    next => cases h
  have hlookup : r.actions.lookup name = some (.emit cls) := by rw [hactions, List.lookup_cons, BEq.rfl]
  have hbinds (captured : Capture) :
      r.pattern.Binds source p captured ↔ p.node.type = type ∧ captured.place = p ∧ captured.name = name := by
    rw [hpattern, CompiledPattern.binds_bare_iff, Head.accepts, beq_iff_eq, List.mem_singleton]
  constructor
  · rintro ⟨captured, hcaptured, hsays⟩
    obtain ⟨htype, hplace, hname⟩ := (hbinds captured).1 hcaptured
    cases hsays with
    | emit haction =>
      rw [hname, hlookup] at haction
      cases haction
      exact ⟨hplace, htype, rfl⟩
    | composite haction _ =>
      rw [hname, hlookup] at haction
      cases haction
    | secondary haction _ _ =>
      rw [hname, hlookup] at haction
      cases haction
  · rintro ⟨rfl, htype, rfl⟩
    exact ⟨⟨name, q⟩, (hbinds _).2 ⟨htype, rfl, rfl⟩, .emit hlookup⟩

end HighlightRule

namespace Exhaustive

variable {source : Source} {r : HighlightRule} {p : Place} {claim : Claim}

theorem mem_found_iff {α : Type} {e : Enumeration TestFailure α} {a : α} : a ∈ found e ↔ ∃ as, e.all = .ok as ∧ a ∈ as := by
  unfold found
  cases e.all with
  | error failure => simp
  | ok as => simp

/-- What is claimed for a composite action: its own classification of the place, and those of what its secondary pattern binds. -/
theorem mem_claimsOfComposite_iff {c : Composite} :
    claim ∈ claimsOfComposite source r c p ↔
      (∃ cls, c.classification = some cls ∧ claim = r.claim p ⟨cls, r.feature, r.label ++ "/" ++ c.name⟩) ∨
      ∃ inner cls, c.Binds source p inner ∧ c.emits.lookup inner.name = some cls ∧
        claim = r.claim inner.place ⟨cls, r.feature, r.label ++ "/" ++ c.name⟩ := by
  rw [claimsOfComposite, List.mem_append, ← sweep_eq_secondary]
  refine or_congr ?_ ?_
  · rw [Option.mem_toList, Option.map_eq_some_iff]
    exact exists_congr fun cls => and_congr_right fun _ => eq_comm
  · constructor
    · intro h
      obtain ⟨m, hm, h⟩ := List.mem_flatMap.1 h
      obtain ⟨inner, hinner, h⟩ := List.mem_flatMap.1 h
      obtain ⟨cls, hcls, rfl⟩ := Option.map_eq_some_iff.1 (Option.mem_toList.1 h)
      obtain ⟨ms, hms, hm⟩ := mem_found_iff.1 hm
      exact ⟨inner, cls, ⟨ms, hms, m, hm, hinner⟩, hcls, rfl⟩
    · rintro ⟨inner, cls, ⟨ms, hms, m, hm, hinner⟩, hcls, rfl⟩
      refine List.mem_flatMap.2 ⟨m, mem_found_iff.2 ⟨ms, hms, hm⟩, List.mem_flatMap.2 ⟨inner, hinner, ?_⟩⟩
      rw [hcls]
      exact List.mem_singleton.2 rfl

/-- The claims of a capture are what the rule says because of it. -/
theorem mem_claimsOfCapture_iff {captured : Capture} :
    claim ∈ claimsOfCapture source r captured ↔ ∃ q tag, r.SaysBy source captured q tag ∧ claim = r.claim q tag := by
  rw [claimsOfCapture]
  constructor
  · intro h
    split at h
    next => cases h
    next cls haction => exact ⟨_, _, .emit haction, List.mem_singleton.1 h⟩
    next c haction =>
      rcases mem_claimsOfComposite_iff.1 h with ⟨cls, hcls, rfl⟩ | ⟨inner, cls, hinner, hcls, rfl⟩
      · exact ⟨_, _, .composite haction hcls, rfl⟩
      · exact ⟨_, _, .secondary haction hinner hcls, rfl⟩
  · rintro ⟨q, tag, hsays, rfl⟩
    cases hsays with
    | emit haction =>
      rw [haction]
      exact List.mem_singleton.2 rfl
    | composite haction hcls =>
      rw [haction]
      exact mem_claimsOfComposite_iff.2 (.inl ⟨_, hcls, rfl⟩)
    | secondary haction hinner hcls =>
      rw [haction]
      exact mem_claimsOfComposite_iff.2 (.inr ⟨_, _, hinner, hcls, rfl⟩)

/-- What the exhaustive pass finds for a rule at a place binds what the rule's pattern binds there. -/
theorem exists_mem_found_iff {captured : Capture} :
    (∃ m ∈ found (attempt source r p), captured ∈ m.captures) ↔ r.pattern.Binds source p captured := by
  rw [attempt, ← CompiledPattern.matchesAt_eq_bareMatches]
  simp only [mem_found_iff]
  constructor
  · rintro ⟨m, ⟨ms, hms, hm⟩, hcaptured⟩
    exact ⟨ms, hms, m, hm, hcaptured⟩
  · rintro ⟨ms, hms, m, hm, hcaptured⟩
    exact ⟨m, ⟨ms, hms, hm⟩, hcaptured⟩

/-- The claims of a feature at a node are what its rules say. -/
theorem mem_claimsAt_iff {g : FeatureGroup} :
    claim ∈ claimsAt source g p ↔ ∃ r ∈ g.rules, ∃ q tag, r.Says source p q tag ∧ claim = r.claim q tag := by
  rw [claimsAt, List.mem_flatMap]
  refine exists_congr fun r => and_congr_right fun _ => ?_
  constructor
  · intro h
    obtain ⟨m, hm, h⟩ := List.mem_flatMap.1 h
    obtain ⟨captured, hcaptured, h⟩ := List.mem_flatMap.1 h
    obtain ⟨q, tag, hsays, rfl⟩ := mem_claimsOfCapture_iff.1 h
    exact ⟨q, tag, ⟨captured, exists_mem_found_iff.1 ⟨m, hm, hcaptured⟩, hsays⟩, rfl⟩
  · rintro ⟨q, tag, ⟨captured, hbinds, hsays⟩, rfl⟩
    obtain ⟨m, hm, hcaptured⟩ := exists_mem_found_iff.2 hbinds
    refine List.mem_flatMap.2 ⟨m, hm, List.mem_flatMap.2 ⟨captured, hcaptured, ?_⟩⟩
    exact mem_claimsOfCapture_iff.2 ⟨q, tag, hsays, rfl⟩

/-- The claims of a pass are what the rules of its features say at the nodes that it comes to. -/
theorem mem_claims_iff {groups : List FeatureGroup} {places : List Place} :
    claim ∈ claims source groups places ↔
      ∃ g ∈ groups, ∃ p ∈ places, ∃ r ∈ g.rules, ∃ q tag, r.Says source p q tag ∧ claim = r.claim q tag := by
  simp only [claims_eq, List.mem_flatMap, mem_claimsAt_iff]

end Exhaustive

end AwkEdit
