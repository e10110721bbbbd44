import AwkEdit.Proofs.Pattern.Compiled
import AwkEdit.Proofs.Pattern.RootTypes
import AwkEdit.Proofs.Pattern.Trails

/-!
# Patterns written in other ways

A set of types in a head says what alternatives with one type each say, an alternation inside another one says what its alternatives
say in its place, and an alternation of one pattern says what the pattern says. Patterns may be rewritten in these ways anywhere
inside a pattern, but what is captured as a whole only if the rewriting leaves the captures in their order. Rewritten patterns
compile or fail together, and match the same with the same captures and the same failures (`Pattern.compile_equivalent`).
-/

namespace AwkEdit

/-! ## Predicates -/

namespace Predicate

variable {source : Source} {cs : List Capture}

/-- Of two runs of predicates the second is asked where the first holds. -/
theorem allHold_append (source : Source) (cs : List Capture) (ps qs : List Predicate) :
    allHold source cs (ps ++ qs) =
      allHold source cs ps >>= fun held => if held then allHold source cs qs else .ok false := by
  induction ps with
  | nil => rfl
  | cons p ps ih =>
    rw [List.cons_append, allHold, allHold, ih]
    rcases p.holds source cs with e | _ | _ <;> rfl

/-- Predicates that are asked again decide as before. -/
theorem allHold_append_self {ps qs : List Predicate} (h : allHold source cs qs = allHold source cs ps) :
    allHold source cs (ps ++ qs) = allHold source cs ps := by
  rw [allHold_append, h]
  rcases allHold source cs ps with e | _ | _ <;> rfl

theorem allHold_flatMap {α : Type} {ps : List Predicate} {as : List α} (h : as ≠ []) :
    allHold source cs (as.flatMap fun _ => ps) = allHold source cs ps := by
  induction as with
  | nil => exact absurd rfl h
  | cons a as ih =>
    rw [List.flatMap_cons]
    cases as with
    | nil => rw [List.flatMap_nil, List.append_nil]
    | cons b as => exact allHold_append_self (ih (List.cons_ne_nil _ _))

end Predicate

namespace Pattern

open Literal

/-! ## What alternatives bind -/

theorem bindingsOf_append (ps qs : List Pattern) (place : Place) :
    bindingsOf (ps ++ qs) place = bindingsOf ps place ++ bindingsOf qs place := by
  induction ps with
  | nil => rfl
  | cons p ps ih => rw [List.cons_append, bindingsOf, bindingsOf, ih, List.append_assoc]

/-- A choice without captures binds what its alternatives bind. -/
theorem bindings_choice (ps : List Pattern) (place : Place) : (choice ps []).bindings place = bindingsOf ps place := by
  rw [bindings]
  simp

/-- Of alternatives for one type each, only that for the type of the node binds anything. -/
theorem bindingsOf_types {types : List String} (hnodup : types.Nodup) (children : List (Option String × Pattern))
    (captures : List String) (place : Place) :
    bindingsOf (types.map fun t => .node (.type t) children captures) place =
      if place.node.type ∈ types then (Pattern.node .any children captures).bindings place else [] := by
  induction types with
  | nil => rfl
  | cons t types ih =>
    rw [List.nodup_cons] at hnodup
    rw [List.map_cons, bindingsOf, ih hnodup.2]
    by_cases ht : place.node.type = t
    · subst ht
      simp [bindings, Head.accepts, hnodup.1]
    · simp [bindings, Head.accepts, ht]

/-! ## Heads -/

/-- The members of a set are read as the names that they are. -/
theorem mem_memberNames_iff {members : List Literal} {names : List String} (h : memberNames members = .ok names) (name : String) :
    name ∈ names ↔ Literal.text name ∈ members := by
  induction members generalizing names with
  | nil =>
    obtain rfl := Except.ok.inj h
    simp
  | cons member members ih =>
    cases member with
    | text value =>
      rw [memberNames] at h
      split at h
      next => cases h
      next =>
        obtain ⟨rest, hrest, hnames⟩ := bind_eq_ok_iff.1 h
        obtain rfl := Except.ok.inj hnames
        rw [List.mem_cons, List.mem_cons, ih hrest, Literal.text.injEq]
    | _ => cases h

/-- A name that is a head and not the wildcard is read as a type. -/
theorem head_text {type : String} (h : IsHead (.text type)) (hplain : type ≠ wildcard) : head (.text type) = .ok (.type type) := by
  obtain ⟨hcapture, hfield, -⟩ := (isPattern_text_iff.2 h).forms
  rw [head, headOfText, if_neg (by simpa using (isHead_text_iff.1 h).1), if_neg (by simp [hcapture, hfield]), if_neg hplain]

/-- Whether a tuple is written like a predicate is decided by what it starts with. -/
theorem predicateShaped_cons_iff {first : Literal} {items others : List Literal} :
    PredicateShaped (.tuple (first :: items)) ↔ PredicateShaped (.tuple (first :: others)) := by
  have hcons : ∀ {items others : List Literal},
      PredicateShaped (.tuple (first :: items)) → PredicateShaped (.tuple (first :: others)) := by
    rintro items others ⟨name, operands, hne, htuple⟩
    obtain ⟨rfl, -⟩ := List.cons.inj (Literal.tuple.inj htuple)
    exact ⟨name, others, hne, rfl⟩
  exact ⟨hcons, hcons⟩

/-- A head stands alone in a node pattern unless it would make a predicate of it. -/
theorem isHead_of_isPattern {first : Literal} (h : IsPattern (.tuple [first])) (items : List Literal) :
    first.IsHead ∧ ¬PredicateShaped (.tuple (first :: items)) := by
  obtain ⟨hshape, first', rest, hfirst, hhead, -⟩ := isPattern_tuple_iff.1 h
  obtain ⟨rfl, -⟩ := List.cons.inj hfirst
  exact ⟨hhead, mt predicateShaped_cons_iff.1 hshape⟩

/-! ## Alike -/

/-- What is read of two literals is alike: the patterns bind the same, if `captured` with any further captures, and the predicates
decide the same. -/
structure Alike (captured : Bool) (r s : Pattern × List Predicate) : Prop where
  bindings : ∀ names, (captured = false → names = []) → ∀ place,
    (r.1.captureAll names).bindings place = (s.1.captureAll names).bindings place
  holds : ∀ source cs, Predicate.allHold source cs r.2 = Predicate.allHold source cs s.2

/-- Trails of items are alike: they have the same captures, and their patterns bind the same, below a node where there are fields
and as alternatives where there are none. -/
structure Trail.Alike (fields : Bool) (t u : Trail) : Prop where
  names : t.names = u.names
  nil : t.patterns = [] ↔ u.patterns = []
  below : fields = true → ∀ places, bindingsBelow t.patterns places = bindingsBelow u.patterns places
  anyOf : fields = false → ∀ place, bindingsOf (t.patterns.map (·.2)) place = bindingsOf (u.patterns.map (·.2)) place
  holds : ∀ source cs, Predicate.allHold source cs t.predicates = Predicate.allHold source cs u.predicates

theorem Alike.refl (captured : Bool) (r : Pattern × List Predicate) : Alike captured r r := ⟨fun _ _ _ => rfl, fun _ _ => rfl⟩

namespace Trail.Alike

variable {fields : Bool} {t u : Trail}

theorem refl (fields : Bool) (t : Trail) : t.Alike fields t := ⟨rfl, Iff.rfl, fun _ _ => rfl, fun _ _ => rfl, fun _ _ => rfl⟩

theorem symm (h : t.Alike fields u) : u.Alike fields t :=
  ⟨h.names.symm, h.nil.symm, fun hfields places => (h.below hfields places).symm,
    fun hfields place => (h.anyOf hfields place).symm, fun source cs => (h.holds source cs).symm⟩

theorem capture (h : t.Alike fields u) (name : String) : (t.capture name).Alike fields (u.capture name) :=
  ⟨congrArg (name :: ·) h.names, h.nil, h.below, h.anyOf, h.holds⟩

theorem test (h : t.Alike fields u) (p : Predicate) : (t.test p).Alike fields (u.test p) := by
  refine ⟨h.names, h.nil, h.below, h.anyOf, fun source cs => ?_⟩
  have hsplit : ∀ t : Trail, (t.test p).predicates = [p] ++ t.predicates := fun _ => rfl
  rw [hsplit, hsplit, Predicate.allHold_append, Predicate.allHold_append, h.holds]

/-- Patterns that are read alike leave trails alike, if the captures that they take allow it. -/
theorem pattern (h : t.Alike fields u) {captured : Bool} {r s : Pattern × List Predicate} (hr : Pattern.Alike captured r s)
    (hnames : captured = false → t.names = []) (field : Option String) :
    (t.pattern field r).Alike fields (u.pattern field s) := by
  have hbindings := hr.bindings t.names hnames
  refine ⟨rfl, by simp [Trail.pattern], fun hfields places => ?_, fun hfields place => ?_, fun source cs => ?_⟩
  · simp only [Trail.pattern, bindingsBelow, ← h.names, hbindings, h.below hfields]
  · simp only [Trail.pattern, List.map_cons, bindingsOf, ← h.names, hbindings, h.anyOf hfields]
  · simp only [Trail.pattern, Predicate.allHold_append, hr.holds, h.holds]

end Trail.Alike

/-- Items whose trails are alike leave trails alike after the same items. -/
theorem Trail.Of.exists_alike {fields : Bool} {rest others : List Literal}
    (h : ∀ field t, (fields = false → field = none) → Trail.Of fields field rest t →
      ∃ u, Trail.Of fields field others u ∧ t.Alike fields u)
    {before : List Literal} {field : Option String} {t : Trail} (hfield : fields = false → field = none)
    (ht : Trail.Of fields field (before ++ rest) t) : ∃ u, Trail.Of fields field (before ++ others) u ∧ t.Alike fields u := by
  induction before generalizing field t with
  | nil => exact h field t hfield ht
  | cons item before ih =>
    cases ht with
    | capture isCapture nonempty ht =>
      obtain ⟨u, hu, halike⟩ := ih (fun _ => rfl) ht
      exact ⟨_, .capture isCapture nonempty hu, halike.capture _⟩
    | field allowed notCapture isField ht =>
      obtain ⟨u, hu, halike⟩ := ih (fun hfields => nomatch allowed.symm.trans hfields) ht
      exact ⟨u, .field allowed notCapture isField hu, halike⟩
    | test written read ht =>
      obtain ⟨u, hu, halike⟩ := ih (fun _ => rfl) ht
      exact ⟨_, .test written read hu, halike.test _⟩
    | pattern read ht =>
      obtain ⟨u, hu, halike⟩ := ih (fun _ => rfl) ht
      exact ⟨_, .pattern read hu, halike.pattern (.refl true _) nofun _⟩

/-! ## Literals read alike -/

/-- If one literal is read, so is another, and alike. -/
def Reads (captured : Bool) (a b : Literal) : Prop := ∀ r, ofLiteral a = .ok r → ∃ s, ofLiteral b = .ok s ∧ Alike captured r s

namespace Reads

variable {captured : Bool} {a b c : Literal}

theorem refl (captured : Bool) (a : Literal) : Reads captured a a := fun r hr => ⟨r, hr, .refl captured r⟩

theorem trans (h : Reads captured a b) (h' : Reads captured b c) : Reads captured a c := by
  intro r hr
  obtain ⟨s, hs, halike⟩ := h r hr
  obtain ⟨u, hu, halike'⟩ := h' s hs
  exact ⟨u, hu, fun names hnames place => (halike.bindings names hnames place).trans (halike'.bindings names hnames place),
    fun source cs => (halike.holds source cs).trans (halike'.holds source cs)⟩

/-- What is alike with any further captures is alike without any. -/
theorem loosen (h : Reads true a b) : Reads false a b := by
  intro r hr
  obtain ⟨s, hs, halike⟩ := h r hr
  exact ⟨s, hs, fun names _ => halike.bindings names nofun, halike.holds⟩

/-- A pattern is read as one. -/
theorem isPattern (h : Reads captured a b) (ha : a.IsPattern) : b.IsPattern := by
  obtain ⟨r, hr⟩ := (ofLiteral_eq_ok_iff a).2 ha
  obtain ⟨s, hs, -⟩ := h r hr
  exact (ofLiteral_eq_ok_iff b).1 ⟨s, hs⟩

/-- Among items, a pattern may be replaced by one that is read alike, if it is not captured or may be. -/
theorem trail {fields : Bool} {after : List Literal} (h : Reads captured a b) (ha : a.IsPattern)
    (hafter : captured = true ∨ Uncaptured after) {field : Option String} {t : Trail} (ht : Trail.Of fields field (a :: after) t) :
    ∃ u, Trail.Of fields field (b :: after) u ∧ t.Alike fields u := by
  obtain ⟨r, v, read, hv, rfl⟩ := ht.exists_pattern ha
  obtain ⟨s, hs, halike⟩ := h r read
  refine ⟨_, .pattern hs hv, (Trail.Alike.refl fields v).pattern halike (fun hcaptured => ?_) field⟩
  exact hv.names_of_uncaptured (hafter.resolve_left (by simp [hcaptured]))

/-- Lists of items with trails that are alike are read alike. -/
theorem list {items others : List Literal}
    (h : ∀ t, Trail.Of false none items t → ∃ u, Trail.Of false none others u ∧ t.Alike false u) :
    Reads captured (.list items) (.list others) := by
  intro r hr
  obtain ⟨t, ht, hnames, hnil, rfl⟩ := ofLiteral_list_iff_trail.1 hr
  obtain ⟨u, hu, halike⟩ := h t ht
  refine ⟨_, ofLiteral_list_iff_trail.2 ⟨u, hu, halike.names ▸ hnames, halike.nil.not.1 hnil, rfl⟩, fun names _ place => ?_,
    halike.holds⟩
  simp only [captureAll, bindings, halike.anyOf rfl]

/-- Tuples of items with trails that are alike are read alike after the same head. -/
theorem tuple {first : Literal} {items others : List Literal}
    (h : ∀ t, Trail.Of true none items t → ∃ u, Trail.Of true none others u ∧ t.Alike true u) :
    Reads captured (.tuple (first :: items)) (.tuple (first :: others)) := by
  intro r hr
  have hshape : ¬PredicateShaped (.tuple (first :: items)) := (ofLiteral_tuple_eq_ok_iff.1 hr).1
  have hothers : ¬PredicateShaped (.tuple (first :: others)) := mt predicateShaped_cons_iff.1 hshape
  obtain ⟨head, t, hhead, ht, rfl⟩ := (ofLiteral_tuple_iff_trail hshape).1 hr
  obtain ⟨u, hu, halike⟩ := h t ht
  refine ⟨_, (ofLiteral_tuple_iff_trail hothers).2 ⟨head, u, hhead, hu, rfl⟩, fun names _ place => ?_, halike.holds⟩
  simp only [captureAll, bindings, halike.below rfl, halike.names]

/-- Two literals are read alike if neither is read or both are, and alike. -/
theorem both
    (h : (∃ r, ofLiteral a = .ok r) ∨ (∃ s, ofLiteral b = .ok s) →
      ∃ r s, ofLiteral a = .ok r ∧ ofLiteral b = .ok s ∧ Alike captured r s) :
    Reads captured a b ∧ Reads captured b a := by
  constructor
  · intro r hr
    obtain ⟨r', s, hr', hs, halike⟩ := h (.inl ⟨r, hr⟩)
    obtain rfl := Except.ok.inj (hr.symm.trans hr')
    exact ⟨s, hs, halike⟩
  · intro s hs
    obtain ⟨r, s', hr, hs', halike⟩ := h (.inr ⟨s, hs⟩)
    obtain rfl := Except.ok.inj (hs.symm.trans hs')
    exact ⟨r, hr, fun names hnames place => (halike.bindings names hnames place).symm,
      fun source cs => (halike.holds source cs).symm⟩

end Reads

/-! ## The rules -/

section

variable {captured : Bool} {items before inner after : List Literal}

/-- Node patterns for one type each leave a trail of node patterns with the same children and captures. -/
theorem trail_types {types : List String} (hplain : ∀ t ∈ types, t ≠ wildcard ∧ IsPattern (.tuple [.text t])) {u : Trail}
    (hu : Trail.Of true none items u) :
    Trail.Of false none (types.map fun t => .tuple (.text t :: items))
      ⟨[], types.map fun t => (none, .node (.type t) u.patterns u.names), types.flatMap fun _ => u.predicates⟩ := by
  induction types with
  | nil => exact .nil
  | cons t types ih =>
    rw [List.forall_mem_cons] at hplain
    obtain ⟨⟨hwildcard, hpattern⟩, hplain⟩ := hplain
    obtain ⟨hhead, hshape⟩ := isHead_of_isPattern hpattern items
    have hread : ofLiteral (.tuple (.text t :: items)) = .ok (.node (.type t) u.patterns u.names, u.predicates) :=
      (ofLiteral_tuple_iff_trail hshape).2 ⟨_, u, head_text hhead hwildcard, hu, rfl⟩
    have hcons : Trail.Of false none _ _ := .pattern hread (ih hplain)
    rw [Trail.pattern, captureAll_nil] at hcons
    exact hcons

/-- A set of types in a head is read as an alternative for each type. -/
theorem reads_types {members : List Literal} {types : List String} (hnonempty : types ≠ []) (hnodup : types.Nodup)
    (hlisted : ∀ m, m ∈ members ↔ ∃ t ∈ types, m = .text t) (hplain : ∀ t ∈ types, t ≠ wildcard ∧ IsPattern (.tuple [.text t])) :
    Reads false (.tuple (.set members :: items)) (.list (types.map fun t => .tuple (.text t :: items))) ∧
      Reads false (.list (types.map fun t => .tuple (.text t :: items))) (.tuple (.set members :: items)) := by
  have hshape : ¬PredicateShaped (.tuple (.set members :: items)) := by
    rintro ⟨name, operands, -, htuple⟩
    cases htuple
  refine Reads.both fun h => ?_
  obtain ⟨u, hu⟩ : ∃ u, Trail.Of true none items u := by
    rcases h with ⟨r, hr⟩ | ⟨s, hs⟩
    · obtain ⟨-, u, -, hu, -⟩ := (ofLiteral_tuple_iff_trail hshape).1 hr
      exact ⟨u, hu⟩
    · obtain ⟨-, item, hmem, hpattern⟩ := isPattern_list_iff.1 ((ofLiteral_eq_ok_iff _).1 ⟨s, hs⟩)
      obtain ⟨t, ht, rfl⟩ := List.mem_map.1 hmem
      obtain ⟨r, hr⟩ := (ofLiteral_eq_ok_iff _).2 hpattern
      obtain ⟨-, u, -, hu, -⟩ := (ofLiteral_tuple_iff_trail (isHead_of_isPattern (hplain t ht).2 items).2).1 hr
      exact ⟨u, hu⟩
  obtain ⟨names, hnames, hhead⟩ : ∃ names, memberNames members = .ok names ∧ head (.set members) = .ok (.oneOf names) := by
    obtain ⟨t, ht⟩ := List.exists_mem_of_ne_nil types hnonempty
    obtain ⟨names, hnames⟩ : ∃ names, memberNames members = .ok names := by
      refine memberNames_eq_ok_iff.2 fun member hmember => ?_
      obtain ⟨t, ht, rfl⟩ := (hlisted member).1 hmember
      exact ⟨t, (isHead_text_iff.1 (isHead_of_isPattern (hplain t ht).2 items).1).1, rfl⟩
    have hmember := (hlisted (.text t)).2 ⟨t, ht, rfl⟩
    cases members with
    | nil => cases hmember
    | cons member members => exact ⟨names, hnames, bind_eq_ok_iff.2 ⟨names, hnames, rfl⟩⟩
  refine ⟨_, _, (ofLiteral_tuple_iff_trail hshape).2 ⟨_, u, hhead, hu, rfl⟩,
    ofLiteral_list_iff_trail.2 ⟨_, trail_types hplain hu, rfl, by simpa using hnonempty, rfl⟩, fun more hmore place => ?_,
    fun source cs => (Predicate.allHold_flatMap hnonempty).symm⟩
  have hlisted : place.node.type ∈ types ↔ place.node.type ∈ names := by
    rw [mem_memberNames_iff hnames, hlisted]
    simp
  rw [hmore rfl, captureAll_nil, captureAll_nil, bindings_choice, List.map_map]
  refine Eq.trans ?_ (bindingsOf_types hnodup u.patterns u.names place).symm
  simp only [bindings, Head.accepts, List.contains_iff_mem, ← hlisted, if_true]

/-- A head alone is read as the node pattern of it. -/
theorem reads_head {first : Literal} (hpattern : IsPattern (.tuple [first])) :
    Reads captured (.tuple [first]) first ∧ Reads captured first (.tuple [first]) := by
  obtain ⟨hhead, hshape⟩ := isHead_of_isPattern hpattern []
  have htuple : ofLiteral (.tuple [first]) = head first >>= fun h => .ok (.node h [] [], []) := by
    rw [ofLiteral, if_neg (mt predicateShaped_iff.2 hshape), nodeOf]
    rfl
  have hsame : ofLiteral (.tuple [first]) = ofLiteral first := by
    rw [htuple]
    cases hhead <;> rfl
  constructor
  · intro r hr
    exact ⟨r, hsame ▸ hr, .refl captured r⟩
  · intro r hr
    exact ⟨r, hsame ▸ hr, .refl captured r⟩

/-- A pattern is read as the choice of it. -/
theorem reads_single (a : Literal) : Reads false a (.list [a]) ∧ Reads false (.list [a]) a := by
  refine Reads.both fun h => ?_
  have hpattern : a.IsPattern := by
    rcases h with h | h
    · exact (ofLiteral_eq_ok_iff a).1 h
    · obtain ⟨-, item, hitem, hpattern⟩ := isPattern_list_iff.1 ((ofLiteral_eq_ok_iff _).1 h)
      rwa [List.mem_singleton.1 hitem] at hpattern
  obtain ⟨r, hr⟩ := (ofLiteral_eq_ok_iff a).2 hpattern
  have hlist : ofLiteral (.list [a]) = .ok (.choice [r.1] [], r.2) := by
    refine ofLiteral_list_iff_trail.2 ⟨_, .pattern hr .nil, rfl, List.cons_ne_nil _ _, ?_⟩
    simp [Trail.pattern, Trail.empty, captureAll_nil]
  refine ⟨r, _, hr, hlist, fun names hnames place => ?_, fun _ _ => rfl⟩
  rw [hnames rfl, captureAll_nil, captureAll_nil, bindings_choice, bindingsOf, bindingsOf, List.append_nil]

/-- A choice among the items of a choice is read as its items in its place, unless it is captured. -/
theorem reads_nested (halternation : IsPattern (.list inner)) (hafter : Uncaptured after) :
    Reads captured (.list (before ++ .list inner :: after)) (.list (before ++ (inner ++ after))) ∧
      Reads captured (.list (before ++ (inner ++ after))) (.list (before ++ .list inner :: after)) := by
  obtain ⟨r, hr⟩ := (ofLiteral_eq_ok_iff _).2 halternation
  obtain ⟨v, hv, hnames, hnil, rfl⟩ := ofLiteral_list_iff_trail.1 hr
  have halike : ∀ u : Trail, u.names = [] →
      (u.pattern none (.choice (v.patterns.map (·.2)) [], v.predicates)).Alike false (v.append u) := by
    intro u hu
    refine ⟨hnames.symm, by simp [Trail.pattern, Trail.append, hnil], nofun, fun _ place => ?_, fun _ _ => rfl⟩
    rw [Trail.pattern, Trail.append, List.map_cons, List.map_append, hu, captureAll_nil, bindingsOf, bindings_choice,
      bindingsOf_append]
  constructor
  · refine Reads.list fun t ht => Trail.Of.exists_alike (fun field t hfield ht => ?_) (fun _ => rfl) ht
    obtain rfl := hfield rfl
    obtain ⟨r', u, hr', hu, rfl⟩ := ht.exists_pattern halternation
    obtain rfl := Except.ok.inj (hr.symm.trans hr')
    have hstart := hu.names_of_uncaptured hafter
    exact ⟨_, hv.append hu hstart, halike u hstart⟩
  · refine Reads.list fun t ht => Trail.Of.exists_alike (fun field t hfield ht => ?_) (fun _ => rfl) ht
    obtain rfl := hfield rfl
    obtain ⟨u, hu⟩ := ht.exists_of_append
    have hstart := hu.names_of_uncaptured hafter
    obtain rfl := ht.unique (hv.append hu hstart)
    exact ⟨_, .pattern hr hu, (halike u hstart).symm⟩

end

/-! ## Captures and predicates -/

section

variable {items : List Literal} {part : Literal}

/-- A capture or a predicate stands in an alternation if it stands in an item of it. -/
theorem holds_list (hpart : part.capture?.isSome = true ∨ part.PredicateShaped) :
    (Literal.list items).Holds part ↔ ∃ item ∈ items, item.Holds part := by
  rw [holds_list_iff, or_iff_right]
  rintro rfl
  rcases hpart with hcapture | ⟨name, operands, -, hlist⟩
  · cases hcapture
  · cases hlist

/-- A capture or a predicate stands in a node pattern if it stands in an item after its head. -/
theorem holds_tuple (hpart : part.capture?.isSome = true ∨ part.PredicateShaped) {first : Literal}
    (hshape : ¬PredicateShaped (.tuple (first :: items))) :
    (Literal.tuple (first :: items)).Holds part ↔ ∃ item ∈ items, item.Holds part := by
  rw [holds_tuple_iff hshape, or_iff_right]
  rintro rfl
  rcases hpart with hcapture | hpredicate
  · cases hcapture
  · exact hshape hpredicate

/-- Neither a capture nor a predicate stands in a head. -/
theorem not_holds_head (hpart : part.capture?.isSome = true ∨ part.PredicateShaped) {first : Literal} (hfirst : first.IsHead) :
    ¬first.Holds part := by
  intro hholds
  have hsame : part = first := by
    cases hfirst with
    | name => exact holds_text_iff.1 hholds
    | oneOf => exact holds_set_iff.1 hholds
  subst hsame
  have hpattern : part.IsPattern := .head hfirst
  rcases hpart with hcapture | hpredicate
  · rw [hpattern.forms.1] at hcapture
    cases hcapture
  · exact hpattern.not_predicateShaped hpredicate

end

/-! ## Rewriting anywhere -/

/-- Whether two literals may be written for each other; if `captured`, also where what they match is captured as a whole. -/
inductive Equivalent : Bool → Literal → Literal → Prop where
  | refl (captured : Bool) (a : Literal) : Equivalent captured a a
  | symm {captured : Bool} {a b : Literal} (h : Equivalent captured a b) : Equivalent captured b a
  | trans {captured : Bool} {a b c : Literal} (h : Equivalent captured a b) (h' : Equivalent captured b c) : Equivalent captured a c
  | loosen {a b : Literal} (h : Equivalent true a b) : Equivalent false a b
  /-- A set of types in the head of a node pattern, and the alternatives with one type each, in any order. -/
  | types {members items : List Literal} {types : List String} (nonempty : types ≠ []) (nodup : types.Nodup)
      (listed : ∀ m, m ∈ members ↔ ∃ t ∈ types, m = .text t) (plain : ∀ t ∈ types, t ≠ wildcard ∧ IsPattern (.tuple [.text t])) :
      Equivalent false (.tuple (.set members :: items)) (.list (types.map fun t => .tuple (.text t :: items)))
  /-- A node pattern of nothing but a head, and the head. -/
  | head {first : Literal} (pattern : IsPattern (.tuple [first])) : Equivalent true (.tuple [first]) first
  /-- An alternation among alternatives, unless it is captured, and its items in its place. -/
  | nested {before inner after : List Literal} (alternation : IsPattern (.list inner)) (uncaptured : Uncaptured after) :
      Equivalent true (.list (before ++ .list inner :: after)) (.list (before ++ (inner ++ after)))
  /-- A pattern, and the alternation of it. -/
  | single (a : Literal) : Equivalent false a (.list [a])
  /-- Among the items of an alternation. -/
  | inChoice {captured : Bool} {a b : Literal} {before after : List Literal} (h : Equivalent captured a b) (pattern : a.IsPattern)
      (free : captured = true ∨ Uncaptured after) : Equivalent true (.list (before ++ a :: after)) (.list (before ++ b :: after))
  /-- Among the items of a node pattern. -/
  | inNode {captured : Bool} {a b first : Literal} {before after : List Literal} (h : Equivalent captured a b)
      (pattern : a.IsPattern) (free : captured = true ∨ Uncaptured after) (shape : ¬PredicateShaped (.tuple [first])) :
      Equivalent true (.tuple (first :: (before ++ a :: after))) (.tuple (first :: (before ++ b :: after)))

namespace Equivalent

variable {captured : Bool} {a b part : Literal}

/-- Equivalent literals are read alike. -/
theorem reads (h : Equivalent captured a b) : Reads captured a b ∧ Reads captured b a := by
  induction h with
  | refl captured a => exact ⟨.refl captured a, .refl captured a⟩
  | symm _ ih => exact ih.symm
  | trans _ _ ih ih' => exact ⟨ih.1.trans ih'.1, ih'.2.trans ih.2⟩
  | loosen _ ih => exact ⟨ih.1.loosen, ih.2.loosen⟩
  | types nonempty nodup listed plain => exact reads_types nonempty nodup listed plain
  | head pattern => exact reads_head pattern
  | nested alternation uncaptured => exact reads_nested alternation uncaptured
  | single a => exact reads_single a
  | inChoice _ pattern free ih =>
    have hother := ih.1.isPattern pattern
    exact ⟨.list fun t ht => Trail.Of.exists_alike (fun _ _ _ => ih.1.trail pattern free) (fun _ => rfl) ht,
      .list fun t ht => Trail.Of.exists_alike (fun _ _ _ => ih.2.trail hother free) (fun _ => rfl) ht⟩
  | inNode _ pattern free _ ih =>
    have hother := ih.1.isPattern pattern
    exact ⟨.tuple fun t ht => Trail.Of.exists_alike (fun _ _ _ => ih.1.trail pattern free) nofun ht,
      .tuple fun t ht => Trail.Of.exists_alike (fun _ _ _ => ih.2.trail hother free) nofun ht⟩

/-- Equivalent literals are patterns or not. -/
theorem isPattern_iff (h : Equivalent captured a b) : a.IsPattern ↔ b.IsPattern := ⟨h.reads.1.isPattern, h.reads.2.isPattern⟩

/-- The captures and predicates that stand in equivalent literals are the same. -/
theorem holds_iff (h : Equivalent captured a b) (hpart : part.capture?.isSome = true ∨ part.PredicateShaped) :
    a.Holds part ↔ b.Holds part := by
  induction h with
  | refl => rfl
  | symm _ ih => exact ih.symm
  | trans _ _ ih ih' => exact ih.trans ih'
  | loosen _ ih => exact ih
  | @types members items types nonempty _ _ plain =>
    have hshape : ¬PredicateShaped (.tuple (.set members :: items)) := by
      rintro ⟨name, operands, -, htuple⟩
      cases htuple
    have hitem : ∀ t ∈ types, ((Literal.tuple (.text t :: items)).Holds part ↔ ∃ item ∈ items, item.Holds part) :=
      fun t ht => holds_tuple hpart (isHead_of_isPattern (plain t ht).2 items).2
    obtain ⟨t, ht⟩ := List.exists_mem_of_ne_nil types nonempty
    rw [holds_tuple hpart hshape, holds_list hpart]
    constructor
    · intro h
      exact ⟨_, List.mem_map_of_mem ht, (hitem t ht).2 h⟩
    · rintro ⟨alternative, halternative, h⟩
      obtain ⟨t, ht, rfl⟩ := List.mem_map.1 halternative
      exact (hitem t ht).1 h
  | head pattern =>
    obtain ⟨hhead, hshape⟩ := isHead_of_isPattern pattern []
    rw [holds_tuple hpart hshape]
    simp [not_holds_head hpart hhead]
  | nested =>
    rw [holds_list hpart, holds_list hpart]
    simp only [List.mem_append, List.mem_cons, or_and_right, exists_or, exists_eq_left, holds_list hpart]
  | single a =>
    rw [holds_list hpart]
    simp
  | inChoice _ _ _ ih =>
    rw [holds_list hpart, holds_list hpart]
    simp only [List.mem_append, List.mem_cons, or_and_right, exists_or, exists_eq_left, ih]
  | inNode _ _ _ shape ih =>
    rw [holds_tuple hpart (mt predicateShaped_cons_iff.1 shape), holds_tuple hpart (mt predicateShaped_cons_iff.1 shape)]
    simp only [List.mem_append, List.mem_cons, or_and_right, exists_or, exists_eq_left, ih]

theorem closed_iff (h : Equivalent captured a b) : a.Closed ↔ b.Closed := by
  have hcapture : ∀ name, (Literal.text ("@" ++ name)).capture?.isSome = true := fun name => by
    rw [capture?_eq_some_iff.2 rfl]
    rfl
  unfold Closed
  refine forall₂_congr fun part name => ?_
  rw [h.holds_iff (.inl (hcapture name))]
  constructor
  · intro hclosed hpart hname
    exact hclosed ((h.holds_iff (.inr hname.predicateShaped)).2 hpart) hname
  · intro hclosed hpart hname
    exact hclosed ((h.holds_iff (.inr hname.predicateShaped)).1 hpart) hname

end Equivalent

/-- Equivalent literals compile or fail together, and match the same at every node of every text: the same matches in the same
order, with the same captures in the same order, up to the same failure. -/
theorem compile_equivalent {captured : Bool} {a b : Literal} (h : Equivalent captured a b) (label other : Option String) :
    ((∃ p, compile label a = .ok p) ↔ ∃ q, compile other b = .ok q) ∧
      ∀ p q, compile label a = .ok p → compile other b = .ok q →
        ∀ source place, p.matchesAt source place = q.matchesAt source place := by
  refine ⟨?_, fun p q hp hq source place => ?_⟩
  · rw [(compile_grammar label a).1, (compile_grammar other b).1, h.isPattern_iff, h.closed_iff]
  · obtain ⟨s, hs, halike⟩ := h.reads.1 _ (ofLiteral_of_compile hp).1
    obtain rfl := Except.ok.inj (hs.symm.trans (ofLiteral_of_compile hq).1)
    have hbindings := halike.bindings [] (fun _ => rfl) place
    have hadmits : p.admits source = q.admits source := funext fun cs => halike.holds source cs
    rw [captureAll_nil, captureAll_nil] at hbindings
    rw [CompiledPattern.matchesAt_eq_bareMatches, CompiledPattern.matchesAt_eq_bareMatches, CompiledPattern.bareMatches,
      CompiledPattern.bareMatches, hbindings, hadmits]

/-- Captured as a whole, a set of types binds the capture before those below the node, and alternatives bind it after them. -/
example :
    let place : Place := .root (.mk { type := "a", start := 0, stop := 1 } [.mk { type := "b", start := 0, stop := 1 } []])
    let bound (l : Literal) : Option (List (List String)) :=
      (compile none l).toOption.map fun p => (p.matchesAt (.ofString "x") place).found.map fun m => m.captures.map (·.name)
    bound (.list [.tuple [.set [.text "a"], .text "b", .text "@below"], .text "@whole"]) = some [["whole", "below"]] ∧
      bound (.list [.list [.tuple [.text "a", .text "b", .text "@below"]], .text "@whole"]) = some [["below", "whole"]] := by
  decide +kernel

/-! ### Two types, spelled out -/

/-- The items of a node pattern that asks a test which never answers. -/
def unanswered : List Literal := [.text "@x", .tuple [.text "#pred", .text "@x", .test fun _ => .error (.raised "no answer")]]

/-- A call, or a name or number of which a question is asked. -/
def grouped : Literal := .list [.text "call", .tuple (.set [.text "name", .text "number"] :: unanswered)]

/-- The same with an alternative for each of the three types. -/
def spelled : Literal :=
  .list [.text "call", .tuple (.text "number" :: unanswered), .tuple (.text "name" :: unanswered)]

/-- The set of two types may be written as two alternatives, which may then be written among the others. -/
theorem equivalent_spelled : Equivalent true grouped spelled := by
  have hlisted : ∀ m, m ∈ [Literal.text "name", .text "number"] ↔ ∃ t ∈ ["number", "name"], m = .text t := by
    simp [or_comm]
  have hplain : ∀ t ∈ ["number", "name"], t ≠ wildcard ∧ IsPattern (.tuple [.text t]) := by
    have hnumber : IsPattern (.tuple [.text "number"]) := (ofLiteral_eq_ok_iff _).1 ⟨_, rfl⟩
    have hname : IsPattern (.tuple [.text "name"]) := (ofLiteral_eq_ok_iff _).1 ⟨_, rfl⟩
    exact List.forall_mem_cons.2 ⟨⟨by decide, hnumber⟩, List.forall_mem_cons.2 ⟨⟨by decide, hname⟩, List.forall_mem_nil _⟩⟩
  have htypes := @Equivalent.types _ unanswered _ (by decide) (by decide) hlisted hplain
  have halternation : IsPattern (.list [.tuple (.text "number" :: unanswered), .tuple (.text "name" :: unanswered)]) :=
    (ofLiteral_eq_ok_iff _).1 ⟨_, rfl⟩
  have hinside := @Equivalent.inChoice _ _ _ [.text "call"] [] htypes (htypes.isPattern_iff.2 halternation) (.inr nofun)
  exact hinside.trans (@Equivalent.nested [.text "call"] _ [] halternation nofun)

/-- Both compile, and fail on a number with the same failure. -/
theorem compile_equivalent_spelled :
    ∃ p q, compile none grouped = .ok p ∧ compile (some "rule") spelled = .ok q ∧
      let number : Place := .root (.mk { type := "number", start := 0, stop := 1 } [])
      p.matchesAt (.ofString "7") number = q.matchesAt (.ofString "7") number ∧
        (q.matchesAt (.ofString "7") number).failure = some (.raised "no answer") := by
  obtain ⟨hcompiles, hmatches⟩ := compile_equivalent equivalent_spelled none (some "rule")
  obtain ⟨p, hp⟩ : ∃ p, compile none grouped = .ok p := ⟨_, rfl⟩
  obtain ⟨q, hq⟩ := hcompiles.1 ⟨p, hp⟩
  refine ⟨p, q, hp, hq, hmatches p q hp hq _ _, ?_⟩
  rw [← hmatches p q hp hq, ← Except.ok.inj hp]
  rfl

end Pattern

end AwkEdit
