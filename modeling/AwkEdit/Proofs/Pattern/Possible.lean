import AwkEdit.Highlight.Rules
import AwkEdit.Proofs.Pattern.Bindings
import AwkEdit.Proofs.Pattern.Compiled
import AwkEdit.Proofs.Pattern.Dispatch
import AwkEdit.Proofs.Pattern.RootTypes
import AwkEdit.Proofs.Tree.Descendants
import Mathlib.Data.Fintype.EquivFin

/-!
# Patterns that can match

A pattern can match at a node of every type that it lists when no set of types and no choice in it is empty: the node gets a
child for each of its patterns, under the field that is asked for, and so on down, and all of them are empty and stand at the
start of the text, where such a tree makes sense (`Possible.exists_sample`). What compiles is possible in this sense, so the types
that a compiled pattern lists are neither too few nor too many (`compile_acceptsType`).
-/

namespace AwkEdit

/-- Empty nodes at the start of a text make a tree there. -/
theorem Node.valid_of_empty {l : Label} {cs : List Node} (hl : l.start = 0 ∧ l.stop = 0)
    (hcs : ∀ c ∈ cs, (c.start = 0 ∧ c.stop = 0) ∧ c.Valid 0) : (Node.mk l cs).Valid 0 := by
  have hinside : ∀ c ∈ cs, l.start ≤ c.start ∧ c.stop ≤ l.stop := fun c hc => by
    have := (hcs c hc).1
    omega
  have hapart : cs.Pairwise fun a b => a.stop ≤ b.start := List.pairwise_of_forall_mem_list fun a ha b hb => by
    have := (hcs a ha).1
    have := (hcs b hb).1
    omega
  refine ⟨by omega, by omega, ?_, validAll_of_forall fun c hc => (hcs c hc).2⟩
  exact laid_of_pairwise hinside (fun c hc => (hinside c hc).1) hapart

namespace Pattern

/-- No set of types and no choice in the pattern is empty. -/
inductive Possible : Pattern → Prop
  | node {head : Head} {children : List (Option String × Pattern)} {captures : List String} :
      head.types ≠ some [] → (∀ c ∈ children, Possible c.2) → Possible (.node head children captures)
  | choice {alternatives : List Pattern} {captures : List String} :
      alternatives ≠ [] → (∀ p ∈ alternatives, Possible p) → Possible (.choice alternatives captures)

/-! ## Nodes to match at -/

/-- Patterns list a type when one of them does. -/
theorem rootTypesOf_all_iff {ps : List Pattern} {type : String} :
    (rootTypesOf ps).all (·.contains type) = true ↔ ∃ p ∈ ps, p.rootTypes.all (·.contains type) = true := by
  induction ps with
  | nil => simp [rootTypesOf]
  | cons p ps ih => rw [rootTypesOf_cons_all, Bool.or_eq_true, ih, List.exists_mem_cons_iff]

/-- Patterns bind something at a place when one of them does. -/
theorem bindingsOf_ne_nil {ps : List Pattern} {p : Pattern} {place : Place} (hp : p ∈ ps) (h : p.bindings place ≠ []) :
    bindingsOf ps place ≠ [] := by
  induction ps with
  | nil => cases hp
  | cons q ps ih =>
    rw [bindingsOf, Ne, List.append_eq_nil_iff, not_and_or]
    rcases List.mem_cons.1 hp with rfl | hp
    · exact .inl h
    · exact .inr (ih hp)

/-- Patterns bind something at places of which the first is one for the first pattern and the others are ones for the rest. -/
theorem bindingsBelow_cons_ne_nil {field : Option String} {pattern : Pattern} {rest : List (Option String × Pattern)}
    {c : Place} {after : List Place} (hfield : c.node.field = field) (hfirst : pattern.bindings c ≠ [])
    (hrest : bindingsBelow rest after ≠ []) : bindingsBelow ((field, pattern) :: rest) (c :: after) ≠ [] := by
  obtain ⟨first, hfirst⟩ := List.exists_mem_of_ne_nil _ hfirst
  obtain ⟨below, hbelow⟩ := List.exists_mem_of_ne_nil _ hrest
  have hunder : underField field c = true := by simp [underField, hfield]
  have hbound : first ++ below ∈ bindingsBelow ((field, pattern) :: rest) (c :: after) :=
    mem_bindingsBelow_cons.2 ⟨c, after, List.mem_cons_self, hunder, first, hfirst, below, hbelow, rfl⟩
  exact List.ne_nil_of_mem hbound

/-- The node is of the type and under the field, is empty and stands at the start of the text, as all below it, and the pattern
matches at it wherever it is put. -/
structure Sample (p : Pattern) (type : String) (field : Option String) (n : Node) : Prop where
  type_eq : n.type = type
  field_eq : n.field = field
  empty : n.start = 0 ∧ n.stop = 0
  valid : n.Valid 0
  matched : ∀ place : Place, place.node = n → p.bindings place ≠ []

/-- When there is a node for each of some patterns, there are children at which they match. -/
theorem exists_children {children : List (Option String × Pattern)} (h : ∀ c ∈ children, ∃ type n, Sample c.2 type c.1 n) :
    ∃ cs : List Node, (∀ c ∈ cs, (c.start = 0 ∧ c.stop = 0) ∧ c.Valid 0) ∧
      ∀ places : List Place, places.map (·.node) = cs → bindingsBelow children places ≠ [] := by
  induction children with
  | nil =>
    refine ⟨[], by simp, fun places _ => ?_⟩
    rw [bindingsBelow]
    exact List.cons_ne_nil _ _
  | cons child children ih =>
    rw [List.forall_mem_cons] at h
    obtain ⟨⟨type, n, hn⟩, hrest⟩ := h
    obtain ⟨cs, hcs, hmatched⟩ := ih hrest
    refine ⟨n :: cs, List.forall_mem_cons.2 ⟨⟨hn.empty, hn.valid⟩, hcs⟩, fun places hplaces => ?_⟩
    obtain ⟨place, after, rfl, hplace, hafter⟩ := List.map_eq_cons_iff.1 hplaces
    refine bindingsBelow_cons_ne_nil ?_ (hn.matched place hplace) (hmatched after hafter)
    rw [hplace]
    exact hn.field_eq

/-- A possible pattern lists a type. -/
theorem Possible.exists_type {p : Pattern} (h : p.Possible) : ∃ type, p.rootTypes.all (·.contains type) = true := by
  induction h with
  | @node head children captures hhead _ _ =>
    rw [rootTypes]
    cases htypes : head.types with
    | none => exact ⟨"", rfl⟩
    | some types =>
      obtain ⟨type, htype⟩ := List.exists_mem_of_ne_nil types fun hnil => hhead (hnil ▸ htypes)
      exact ⟨type, by simpa using htype⟩
  | @choice alternatives captures hne _ ih =>
    obtain ⟨p, hp⟩ := List.exists_mem_of_ne_nil alternatives hne
    obtain ⟨type, htype⟩ := ih p hp
    exact ⟨type, rootTypesOf_all_iff.2 ⟨p, hp, htype⟩⟩

/-- For every type that a possible pattern lists there is a node of that type, under any field, at which it matches. -/
theorem Possible.exists_sample {p : Pattern} (h : p.Possible) (type : String) (htype : p.rootTypes.all (·.contains type) = true)
    (field : Option String) : ∃ n, Sample p type field n := by
  induction h generalizing type field with
  | @node head children captures _ hchildren ih =>
    rw [rootTypes, ← Head.accepts_eq] at htype
    have hsamples : ∀ c ∈ children, ∃ type n, Sample c.2 type c.1 n := by
      intro c hc
      obtain ⟨other, hother⟩ := (hchildren c hc).exists_type
      exact ⟨other, ih c hc other hother c.1⟩
    obtain ⟨cs, hcs, hmatched⟩ := exists_children hsamples
    refine ⟨.mk { type := type, start := 0, stop := 0, field := field } cs, rfl, rfl, ⟨rfl, rfl⟩,
      Node.valid_of_empty ⟨rfl, rfl⟩ hcs, fun place hplace => ?_⟩
    have haccepts : head.accepts place.node.type = true := by
      rw [hplace]
      exact htype
    rw [bindings, if_pos haccepts, Ne, List.map_eq_nil_iff]
    refine hmatched place.children ?_
    rw [Place.map_node_children, hplace, Node.children_mk]
  | @choice alternatives captures _ _ ih =>
    obtain ⟨p, hp, hlists⟩ := rootTypesOf_all_iff.1 htype
    obtain ⟨n, hn⟩ := ih p hp type hlists field
    refine ⟨n, hn.type_eq, hn.field_eq, hn.empty, hn.valid, fun place hplace => ?_⟩
    rw [bindings, Ne, List.map_eq_nil_iff]
    exact bindingsOf_ne_nil hp (hn.matched place hplace)

/-! ## What compiles is possible -/

section reading

variable {name : String} {p : Pattern} {found : List Pattern} {children : List (Option String × Pattern)}

/-- One more capture leaves a pattern possible. -/
theorem Possible.capture (h : p.Possible) (name : String) : (p.capture name).Possible := by
  cases h with
  | node hhead hchildren => exact .node hhead hchildren
  | choice hne halternatives => exact .choice hne halternatives

theorem possible_captureLast (h : ∀ p ∈ found, p.Possible) (name : String) : ∀ p ∈ captureLast name found, p.Possible := by
  obtain rfl | ⟨init, last, rfl⟩ := List.eq_nil_or_concat' found
  · nofun
  rw [List.forall_mem_append, List.forall_mem_singleton] at h
  rw [captureLast, List.getLast?_concat, List.dropLast_concat, List.forall_mem_append, List.forall_mem_singleton]
  exact ⟨h.1, h.2.capture name⟩

theorem possible_captureLastChild (h : ∀ c ∈ children, c.2.Possible) (name : String) :
    ∀ c ∈ captureLastChild name children, c.2.Possible := by
  obtain rfl | ⟨init, last, rfl⟩ := List.eq_nil_or_concat' children
  · nofun
  rw [List.forall_mem_append, List.forall_mem_singleton] at h
  rw [captureLastChild, List.getLast?_concat, List.dropLast_concat, List.forall_mem_append, List.forall_mem_singleton]
  exact ⟨h.1, h.2.capture name⟩

theorem memberNames_ne_nil {member : Literal} {members : List Literal} {names : List String}
    (h : memberNames (member :: members) = .ok names) : names ≠ [] := by
  cases member with
  | text value =>
    rw [memberNames] at h
    split at h
    · cases h
    · obtain ⟨rest, -, hnames⟩ := bind_eq_ok_iff.1 h
      obtain rfl := Except.ok.inj hnames
      exact List.cons_ne_nil _ _
  | _ => cases h

/-- A head that is read lists a type, or none because it accepts every type. -/
theorem types_of_head {l : Literal} {h : Head} (hread : head l = .ok h) : h.types ≠ some [] := by
  cases l with
  | text value =>
    rw [head, headOfText] at hread
    split at hread
    · cases hread
    · split at hread
      · cases hread
      · obtain rfl := Except.ok.inj hread
        split <;> simp [Head.types]
  | set members =>
    cases members with
    | nil => cases hread
    | cons member members =>
      obtain ⟨names, hnames, hread⟩ := bind_eq_ok_iff.1 hread
      obtain rfl := Except.ok.inj hread
      exact fun hnil => memberNames_ne_nil hnames (Option.some.inj hnil)
  | _ => cases hread

/-- A choice is possible if its items are, as far as they are patterns. -/
theorem possible_choiceItems {items : List Literal} {predicates more : List Predicate}
    (hitems : ∀ item ∈ items, ∀ pattern more, ofLiteral item = .ok (pattern, more) → pattern.Possible)
    (hfound : ∀ p ∈ found, p.Possible) (h : choiceItems found predicates items = .ok (p, more)) : p.Possible := by
  induction items generalizing found predicates with
  | nil =>
    rw [choiceItems] at h
    split at h
    next => cases h
    next hne =>
      obtain ⟨rfl, -⟩ := Prod.mk.inj (Except.ok.inj h)
      exact .choice (by simpa using hne) hfound
  | cons item items ih =>
    rw [List.forall_mem_cons] at hitems
    rcases choiceItems_cons_ok h with ⟨name, -, -, -, hrest⟩ | ⟨_, _, _, -, -, hrest⟩ | ⟨alternative, _, hread, hrest⟩
    · exact ih hitems.2 (possible_captureLast hfound name) hrest
    · exact ih hitems.2 hfound hrest
    · refine ih hitems.2 ?_ hrest
      rw [List.forall_mem_append, List.forall_mem_singleton]
      exact ⟨hfound, hitems.1 _ _ hread⟩

/-- A node pattern is possible if its head lists a type and its items are possible, as far as they are patterns. -/
theorem possible_nodeItems {items : List Literal} {h : Head} {captures : List String} {predicates more : List Predicate}
    {field : Option String} (hhead : h.types ≠ some [])
    (hitems : ∀ item ∈ items, ∀ pattern more, ofLiteral item = .ok (pattern, more) → pattern.Possible)
    (hchildren : ∀ c ∈ children, c.2.Possible) (hread : nodeItems h captures children predicates field items = .ok (p, more)) :
    p.Possible := by
  induction items generalizing captures children predicates field with
  | nil =>
    cases field with
    | some name => cases hread
    | none =>
      obtain ⟨rfl, -⟩ := Prod.mk.inj (Except.ok.inj hread)
      exact .node hhead hchildren
  | cons item items ih =>
    rw [List.forall_mem_cons] at hitems
    rcases nodeItems_cons_ok hread with ⟨name, -, -, -, hrest⟩ | ⟨_, -, -, -, hrest⟩ | ⟨_, _, _, -, -, -, hrest⟩ |
      ⟨child, _, hchild, hrest⟩
    · exact ih hitems.2 (possible_captureLastChild hchildren name) hrest
    · exact ih hitems.2 hchildren hrest
    · exact ih hitems.2 hchildren hrest
    · refine ih hitems.2 ?_ hrest
      rw [List.forall_mem_append, List.forall_mem_singleton]
      exact ⟨hchildren, hitems.1 _ _ hchild⟩

/-- What is read from a literal is possible. -/
theorem possible_ofLiteral (l : Literal) {more : List Predicate} (h : ofLiteral l = .ok (p, more)) : p.Possible := by
  induction l using Literal.elements_induction generalizing p more with | step l ih
  cases l with
  | text value =>
    obtain ⟨first, hfirst, h⟩ := bind_eq_ok_iff.1 h
    obtain ⟨rfl, -⟩ := Prod.mk.inj (Except.ok.inj h)
    exact .node (types_of_head (l := .text value) hfirst) (List.forall_mem_nil _)
  | set members =>
    obtain ⟨first, hfirst, h⟩ := bind_eq_ok_iff.1 h
    obtain ⟨rfl, -⟩ := Prod.mk.inj (Except.ok.inj h)
    exact .node (types_of_head hfirst) (List.forall_mem_nil _)
  | list items =>
    rw [ofLiteral] at h
    exact possible_choiceItems (fun item hitem _ _ => ih item hitem) (List.forall_mem_nil _) h
  | tuple items =>
    obtain ⟨-, first, rest, head, rfl, hhead, hrest⟩ := ofLiteral_tuple_eq_ok_iff.1 h
    exact possible_nodeItems (types_of_head hhead) (fun item hitem _ _ => ih item (List.mem_cons_of_mem first hitem))
      (List.forall_mem_nil _) hrest
  | _ => simp [ofLiteral] at h

end reading

end Pattern

/-! ## The types of a compiled pattern -/

namespace CompiledPattern

/-- A pattern accepts every type exactly when it lists none: no list of types has them all. -/
theorem rootTypes_eq_none_iff {p : CompiledPattern} : p.rootTypes = none ↔ ∀ type, p.acceptsType type = true := by
  simp only [acceptsType_eq]
  cases p.rootTypes with
  | none => simp
  | some types =>
    obtain ⟨type, htype⟩ := Infinite.exists_notMem_finset types.toFinset
    refine iff_of_false nofun fun hall => htype ?_
    simpa using hall type

end CompiledPattern

namespace FeatureGroup

/-- A rule that is no candidate for a type does not list the type. -/
theorem not_acceptsType_of_not_mem_candidates {g : FeatureGroup} {r : HighlightRule} (hr : r ∈ g.rules) {type : String}
    (h : r ∉ g.dispatch.candidates type) : ¬r.pattern.acceptsType type = true := by
  rw [g.dispatch_eq, Dispatch.candidates_ofItems, List.mem_filter, not_and] at h
  rw [CompiledPattern.acceptsType_eq]
  exact h hr

end FeatureGroup

namespace Pattern

/-- A compiled pattern matches only at nodes of the types that it accepts, predicates or not, so that neither asking the type
first nor trying the candidates for the type alone loses a match; for every type that it accepts there is a tree with a root of that
type at which it matches; and it lists no types exactly when it accepts them all. -/
theorem compile_acceptsType {label : Option String} {l : Literal} {p : CompiledPattern} (h : compile label l = .ok p) :
    (∀ place : Place, p.root.bindings place ≠ [] → p.acceptsType place.node.type = true) ∧
    (∀ source place, p.matchesAt source place = p.bareMatches source place) ∧
    (∀ (g : FeatureGroup) (r : HighlightRule) (place : Place), r ∈ g.rules → r.pattern = p →
      r ∉ g.dispatch.candidates place.node.type → p.root.bindings place = []) ∧
    (∀ type, p.acceptsType type = true → ∃ t : Snapshot, t.root.type = type ∧ p.root.bindings t.rootPlace ≠ []) ∧
    (p.rootTypes = none ↔ ∀ type, p.acceptsType type = true) := by
  have hsound : ∀ place : Place, p.root.bindings place ≠ [] → p.acceptsType place.node.type = true := by
    intro place hplace
    rw [CompiledPattern.acceptsType_eq]
    exact rootTypes_of_bindings p.root place hplace
  refine ⟨hsound, fun source place => p.matchesAt_eq_bareMatches source place, ?_, ?_, CompiledPattern.rootTypes_eq_none_iff⟩
  · rintro g r place hr rfl hcandidate
    by_contra hplace
    exact FeatureGroup.not_acceptsType_of_not_mem_candidates hr hcandidate (hsound place hplace)
  · intro type htype
    rw [CompiledPattern.acceptsType_eq] at htype
    obtain ⟨n, hn⟩ := (possible_ofLiteral l (ofLiteral_of_compile h).1).exists_sample type htype none
    exact ⟨⟨n, .ofBytes [], hn.valid⟩, hn.type_eq, hn.matched _ rfl⟩

/-- Calls with a child under the field of the name, whatever its type, and words. -/
def callOrWord : Literal :=
  .list [.tuple [.text "call", .text "name:", .list [.text "identifier", .tuple [.text "_", .text "@other"]]], .text "word"]

/-- The pattern matches at some call but at no identifier. -/
theorem compile_acceptsType_call :
    ∃ p, compile none callOrWord = .ok p ∧ p.acceptsType "call" = true ∧
      (∃ t : Snapshot, t.root.type = "call" ∧ p.root.bindings t.rootPlace ≠ []) ∧
      ∀ place : Place, place.node.type = "identifier" → p.root.bindings place = [] := by
  obtain ⟨p, hp, hcall, hidentifier⟩ : ∃ p, compile none callOrWord = .ok p ∧ p.acceptsType "call" = true ∧
      p.acceptsType "identifier" = false := ⟨_, rfl, by decide, by decide⟩
  obtain ⟨hsound, -, -, htight, -⟩ := compile_acceptsType hp
  refine ⟨p, hp, hcall, htight "call" hcall, fun place htype => ?_⟩
  by_contra hplace
  have haccepts := hsound place hplace
  rw [htype, hidentifier] at haccepts
  cases haccepts

end Pattern

end AwkEdit
