import AwkEdit.Proofs.Pattern.Accepted

/-!
# Reading items from the right

Items are read from left to right into what was read before them: a capture goes to the last pattern. Read from the right, the items
after a pattern leave a trail that does not depend on it: the captures of that pattern, and the patterns and predicates that come
then. What is read is what was read before with the trail put after it (`nodeItems_iff_trail`, `choiceItems_iff_trail`), so an item
is read apart from what stands before and after it.
-/

namespace AwkEdit.Pattern

open Literal

/-! ## Several captures -/

/-- The pattern with more captures of the node it matches. -/
def captureAll (names : List String) : Pattern → Pattern
  | node head children captures => node head children (captures ++ names)
  | choice alternatives captures => choice alternatives (captures ++ names)

theorem captureAll_nil (p : Pattern) : p.captureAll [] = p := by
  cases p <;> simp only [captureAll, List.append_nil]

theorem captureAll_capture (p : Pattern) (name : String) (names : List String) :
    (p.capture name).captureAll names = p.captureAll (name :: names) := by
  cases p <;> simp only [captureAll, capture, List.append_assoc, List.singleton_append]

/-! ## Trails -/

/-- What items after a pattern leave: the captures of that pattern, the patterns after it, each with its field if it has one, and
the predicates. -/
structure Trail where
  names : List String
  patterns : List (Option String × Pattern)
  predicates : List Predicate

namespace Trail

variable {name : String} {field : Option String} {r : Pattern × List Predicate} {t : Trail}

/-- The trail of nothing. -/
def empty : Trail := ⟨[], [], []⟩

/-- The trail with one more capture before it. -/
def capture (name : String) (t : Trail) : Trail := ⟨name :: t.names, t.patterns, t.predicates⟩

/-- The trail with one more predicate before it. -/
def test (p : Predicate) (t : Trail) : Trail := ⟨t.names, t.patterns, p :: t.predicates⟩

/-- The trail with one more pattern before it, which takes the captures. -/
def pattern (field : Option String) (r : Pattern × List Predicate) (t : Trail) : Trail :=
  ⟨[], (field, r.1.captureAll t.names) :: t.patterns, r.2 ++ t.predicates⟩

/-- Patterns with a trail after them: the last of them takes the captures. -/
def after (patterns : List (Option String × Pattern)) (t : Trail) : List (Option String × Pattern) :=
  match patterns.getLast? with
  | some (field, last) => patterns.dropLast ++ (field, last.captureAll t.names) :: t.patterns
  | none => t.patterns

theorem after_concat (patterns : List (Option String × Pattern)) (field : Option String) (p : Pattern) (t : Trail) :
    t.after (patterns ++ [(field, p)]) = patterns ++ (field, p.captureAll t.names) :: t.patterns := by
  simp only [after, List.getLast?_concat, List.dropLast_concat]

theorem after_empty (patterns : List (Option String × Pattern)) : empty.after patterns = patterns := by
  obtain rfl | ⟨init, ⟨field, last⟩, rfl⟩ := List.eq_nil_or_concat' patterns
  · rfl
  · simp only [after_concat, empty, captureAll_nil]

theorem after_capture (patterns : List (Option String × Pattern)) :
    (t.capture name).after patterns = t.after (captureLastChild name patterns) := by
  obtain rfl | ⟨init, ⟨field, last⟩, rfl⟩ := List.eq_nil_or_concat' patterns
  · rfl
  · rw [captureLastChild, List.getLast?_concat, List.dropLast_concat, after_concat]
    simp only [after_concat, capture, captureAll_capture]

theorem after_pattern (patterns : List (Option String × Pattern)) :
    (t.pattern field r).after patterns = t.after (patterns ++ [(field, r.1)]) := by
  rw [after_concat]
  obtain rfl | ⟨init, ⟨name, last⟩, rfl⟩ := List.eq_nil_or_concat' patterns
  · rfl
  · simp only [after_concat, pattern, captureAll_nil, List.append_assoc, List.singleton_append]

/-- A node pattern with a trail after its children: before the first child the node takes the captures. -/
def onNode (head : Head) (captures : List String) (children : List (Option String × Pattern)) (predicates : List Predicate)
    (t : Trail) : Pattern × List Predicate :=
  (.node head (t.after children) (if children.isEmpty then captures ++ t.names else captures), predicates ++ t.predicates)

section

variable {head : Head} {captures : List String} {children : List (Option String × Pattern)} {predicates : List Predicate}

theorem onNode_empty : empty.onNode head captures children predicates = (.node head children captures, predicates) := by
  rw [onNode, after_empty]
  simp [empty]

theorem onNode_capture :
    (t.capture name).onNode head captures children predicates =
      t.onNode head (if children.isEmpty then captures ++ [name] else captures) (captureLastChild name children) predicates := by
  rw [onNode, onNode, after_capture]
  cases children with
  | nil => simp [capture, captureLastChild]
  | cons child children => simp [capture, captureLastChild, List.getLast?_cons]

theorem onNode_test {p : Predicate} :
    (t.test p).onNode head captures children predicates = t.onNode head captures children (predicates ++ [p]) := by
  simp [onNode, test, after]

theorem onNode_pattern :
    (t.pattern field r).onNode head captures children predicates =
      t.onNode head captures (children ++ [(field, r.1)]) (predicates ++ r.2) := by
  rw [onNode, onNode, after_pattern]
  simp [pattern]

end

/-- A choice with a trail after its alternatives. -/
def onChoice (found : List Pattern) (predicates : List Predicate) (t : Trail) : Pattern × List Predicate :=
  (.choice ((t.after (found.map (none, ·))).map (·.2)) [], predicates ++ t.predicates)

section

variable {found : List Pattern} {predicates : List Predicate}

theorem onChoice_empty : empty.onChoice found predicates = (.choice found [], predicates) := by
  rw [onChoice, after_empty, List.map_map]
  simp [empty, Function.comp_def]

theorem onChoice_capture :
    (t.capture name).onChoice found predicates = t.onChoice (captureLast name found) predicates := by
  have hlast : captureLastChild name (found.map (none, ·)) = (captureLast name found).map (none, ·) := by
    obtain rfl | ⟨init, last, rfl⟩ := List.eq_nil_or_concat' found
    · rfl
    · simp [captureLast, captureLastChild]
  rw [onChoice, onChoice, after_capture, hlast]
  rfl

theorem onChoice_test {p : Predicate} :
    (t.test p).onChoice found predicates = t.onChoice found (predicates ++ [p]) := by
  simp [onChoice, test, after]

theorem onChoice_pattern :
    (t.pattern none r).onChoice found predicates = t.onChoice (found ++ [r.1]) (predicates ++ r.2) := by
  rw [onChoice, onChoice, after_pattern, List.map_append]
  simp [pattern]

end

/-- The trail that items leave, with the field name that waits for its pattern; only in a node pattern are there fields. -/
inductive Of (fields : Bool) : Option String → List Literal → Trail → Prop where
  | nil : Of fields none [] empty
  | capture {item : Literal} {items : List Literal} {t : Trail} {name : String} (isCapture : item.capture? = some name)
      (nonempty : name ≠ "") (h : Of fields none items t) : Of fields none (item :: items) (t.capture name)
  | field {item : Literal} {items : List Literal} {t : Trail} {name : String} (allowed : fields = true)
      (notCapture : item.capture? = none) (isField : item.field? = some name) (h : Of fields (some name) items t) :
      Of fields none (item :: items) t
  | test {item : Literal} {items : List Literal} {t : Trail} {operator : String} {operands : List Literal} {p : Predicate}
      (written : item.predicate? = some (operator, operands)) (read : predicate operator operands = .ok p)
      (h : Of fields none items t) : Of fields none (item :: items) (t.test p)
  | pattern {item : Literal} {items : List Literal} {t : Trail} {field : Option String} {r : Pattern × List Predicate}
      (read : ofLiteral item = .ok r) (h : Of fields none items t) : Of fields field (item :: items) (t.pattern field r)

end Trail

/-! ## What is read -/

section

variable {predicates : List Predicate} {items : List Literal} {r : Pattern × List Predicate}

/-- The items of a node pattern are read as their trail after what was read before. -/
theorem nodeItems_iff_trail {head : Head} {captures : List String} {children : List (Option String × Pattern)}
    {field : Option String} :
    nodeItems head captures children predicates field items = .ok r ↔
      ∃ t, Trail.Of true field items t ∧ r = t.onNode head captures children predicates := by
  constructor
  · intro h
    induction items generalizing captures children predicates field with
    | nil =>
      cases field with
      | some name => cases h
      | none => exact ⟨.empty, .nil, (Except.ok.inj h).symm.trans Trail.onNode_empty.symm⟩
    | cons item items ih =>
      rcases nodeItems_cons_ok h with ⟨name, rfl, hne, rfl, hrest⟩ | ⟨name, hcapture, hfield, rfl, hrest⟩ |
        ⟨operator, operands, p, hpredicate, rfl, hp, hrest⟩ | ⟨pattern, more, hpattern, hrest⟩
      · obtain ⟨t, ht, rfl⟩ := ih hrest
        exact ⟨t.capture name, .capture (capture?_eq_some_iff.2 rfl) hne ht, Trail.onNode_capture.symm⟩
      · obtain ⟨t, ht, rfl⟩ := ih hrest
        exact ⟨t, .field rfl hcapture hfield ht, rfl⟩
      · obtain ⟨t, ht, rfl⟩ := ih hrest
        exact ⟨t.test p, .test hpredicate hp ht, Trail.onNode_test.symm⟩
      · obtain ⟨t, ht, rfl⟩ := ih hrest
        exact ⟨t.pattern field (pattern, more), .pattern hpattern ht, (Trail.onNode_pattern (r := (pattern, more))).symm⟩
  · rintro ⟨t, ht, rfl⟩
    induction ht generalizing captures children predicates with
    | nil => exact congrArg Except.ok Trail.onNode_empty.symm
    | capture isCapture nonempty _ ih =>
      rw [capture?_eq_some_iff.1 isCapture, nodeItems_capture, captureName_eq_ok nonempty, Trail.onNode_capture, ← ih]
      cases children <;> rfl
    | field _ hcapture hfield _ ih =>
      rw [nodeItems_field hcapture hfield]
      exact ih
    | test written read _ ih =>
      rw [nodeItems_predicate written, read, Trail.onNode_test, ← ih]
      rfl
    | pattern read _ ih =>
      have hforms := ((ofLiteral_eq_ok_iff _).1 ⟨_, read⟩).forms
      rw [nodeItems_pattern hforms.1 hforms.2.1 hforms.2.2, read, Trail.onNode_pattern, ← ih]
      rfl

/-- The items of a choice are read as their trail after what was read before; there has to be a pattern, and before the first one
there is nothing to capture. -/
theorem choiceItems_iff_trail {found : List Pattern} :
    choiceItems found predicates items = .ok r ↔
      ∃ t, Trail.Of false none items t ∧ (found = [] → t.names = [] ∧ t.patterns ≠ []) ∧ r = t.onChoice found predicates := by
  constructor
  · intro h
    induction items generalizing found predicates with
    | nil =>
      rw [choiceItems] at h
      split at h
      next => cases h
      next hfound =>
        refine ⟨.empty, .nil, fun hnil => ?_, (Except.ok.inj h).symm.trans Trail.onChoice_empty.symm⟩
        simp [hnil] at hfound
    | cons item items ih =>
      rcases choiceItems_cons_ok h with ⟨name, rfl, hne, hfound, hrest⟩ | ⟨operator, operands, p, hpredicate, hp, hrest⟩ |
        ⟨pattern, more, hpattern, hrest⟩
      · obtain ⟨t, ht, -, rfl⟩ := ih hrest
        exact ⟨t.capture name, .capture (capture?_eq_some_iff.2 rfl) hne ht, fun hnil => absurd hnil hfound,
          Trail.onChoice_capture.symm⟩
      · obtain ⟨t, ht, hstart, rfl⟩ := ih hrest
        exact ⟨t.test p, .test hpredicate hp ht, hstart, Trail.onChoice_test.symm⟩
      · obtain ⟨t, ht, -, rfl⟩ := ih hrest
        exact ⟨t.pattern none (pattern, more), .pattern hpattern ht, fun _ => ⟨rfl, List.cons_ne_nil _ _⟩,
          (Trail.onChoice_pattern (r := (pattern, more))).symm⟩
  · rintro ⟨t, ht, hstart, rfl⟩
    induction items generalizing found predicates t with
    | nil =>
      cases ht
      have hfound : found ≠ [] := fun hnil => (hstart hnil).2 rfl
      rw [choiceItems, if_neg (by simpa using hfound), Trail.onChoice_empty]
    | cons item items ih =>
      cases ht with
      | capture isCapture nonempty ht =>
        have hfound : found ≠ [] := fun hnil => List.cons_ne_nil _ _ (hstart hnil).1
        rw [capture?_eq_some_iff.1 isCapture, choiceItems_capture, if_neg (by simpa using hfound), captureName_eq_ok nonempty,
          Trail.onChoice_capture]
        exact ih _ ht fun hnil => absurd hnil (captureLast_ne_nil hfound _)
      | field allowed => cases allowed
      | test written read ht =>
        rw [choiceItems_predicate written, read, Trail.onChoice_test]
        exact ih _ ht hstart
      | pattern read ht =>
        have hforms := ((ofLiteral_eq_ok_iff _).1 ⟨_, read⟩).forms
        rw [choiceItems_pattern hforms.1 hforms.2.2, read, Trail.onChoice_pattern]
        exact ih _ ht fun hnil => absurd hnil (List.append_ne_nil_of_right_ne_nil _ (List.cons_ne_nil _ _))

/-- A list is read as the choice of the patterns of its trail. -/
theorem ofLiteral_list_iff_trail :
    ofLiteral (.list items) = .ok r ↔
      ∃ t, Trail.Of false none items t ∧ t.names = [] ∧ t.patterns ≠ [] ∧
        r = (.choice (t.patterns.map (·.2)) [], t.predicates) := by
  rw [ofLiteral, choiceItems_iff_trail]
  simp only [forall_const, and_assoc]
  rfl

/-- A tuple is read as its head with the trail of the other items. -/
theorem ofLiteral_tuple_iff_trail {first : Literal} (hshape : ¬PredicateShaped (.tuple (first :: items))) :
    ofLiteral (.tuple (first :: items)) = .ok r ↔
      ∃ h t, head first = .ok h ∧ Trail.Of true none items t ∧ r = (.node h t.patterns t.names, t.predicates) := by
  rw [ofLiteral_tuple_eq_ok_iff]
  simp only [nodeItems_iff_trail]
  constructor
  · rintro ⟨-, first, rest, h, hitems, hh, t, ht, rfl⟩
    obtain ⟨rfl, rfl⟩ := List.cons.inj hitems
    exact ⟨h, t, hh, ht, rfl⟩
  · rintro ⟨h, t, hh, ht, rfl⟩
    exact ⟨hshape, first, items, h, rfl, hh, t, ht, rfl⟩

end

/-! ## Trails of several items -/

/-- Whether what stands before some items is not captured: the first of them that is not a predicate is not a capture. -/
def Uncaptured (items : List Literal) : Prop :=
  ∀ item, items.find? (·.predicate?.isNone) = some item → item.capture? = none

namespace Trail

variable {fields : Bool} {field : Option String} {items : List Literal} {t u : Trail}

/-- Where there are no fields, items leave the trail that they leave where there are. -/
theorem Of.withFields (h : Of false field items t) : Of true field items t := by
  induction h with
  | nil => exact .nil
  | capture isCapture nonempty _ ih => exact .capture isCapture nonempty ih
  | field allowed => cases allowed
  | test written read _ ih => exact .test written read ih
  | pattern read _ ih => exact .pattern read ih

/-- Items leave one trail. -/
theorem Of.unique (ht : Of fields field items t) (hu : Of fields field items u) : t = u := by
  have htrue : ∀ {t}, Of fields field items t →
      nodeItems .any [] [] [] field items = .ok (.node .any t.patterns t.names, t.predicates) := by
    intro t ht
    refine nodeItems_iff_trail.2 ⟨t, ?_, rfl⟩
    cases fields with
    | true => exact ht
    | false => exact ht.withFields
  have hsame := Except.ok.inj ((htrue ht).symm.trans (htrue hu))
  simp only [Prod.mk.injEq, Pattern.node.injEq, true_and] at hsame
  obtain ⟨⟨hpatterns, hnames⟩, hpredicates⟩ := hsame
  cases t
  cases u
  simp_all

/-- A pattern among items leaves itself before the trail of those after it. -/
theorem Of.exists_pattern {item : Literal} (h : Of fields field (item :: items) t) (hitem : item.IsPattern) :
    ∃ r u, ofLiteral item = .ok r ∧ Of fields none items u ∧ t = u.pattern field r := by
  obtain ⟨hcapture, hfield, hpredicate⟩ := hitem.forms
  cases h with
  | capture isCapture => simp [hcapture] at isCapture
  | field _ _ isField => simp [hfield] at isField
  | test written => simp [hpredicate] at written
  | pattern read h => exact ⟨_, _, read, h, rfl⟩

/-- After a field comes a pattern, which takes the captures. -/
theorem Of.names_of_field {name : String} (h : Of fields (some name) items t) : t.names = [] := by
  cases h
  rfl

/-- Items that begin without a capture leave none. -/
theorem Of.names_of_uncaptured (h : Of fields none items t) (hitems : Uncaptured items) : t.names = [] := by
  induction items generalizing t with
  | nil =>
    cases h
    rfl
  | cons item items ih =>
    cases h with
    | capture isCapture =>
      have hpredicate : item.predicate? = none := by
        rw [capture?_eq_some_iff.1 isCapture]
        rfl
      have hnone := hitems item (by rw [List.find?_cons, hpredicate]; rfl)
      rw [isCapture] at hnone
      cases hnone
    | field _ _ _ h => exact h.names_of_field
    | test written _ h =>
      have hrest : Uncaptured items := by
        intro next hnext
        refine hitems next ?_
        rw [List.find?_cons, written]
        exact hnext
      exact (ih h hrest :)
    | pattern => rfl

/-- Trails one after the other, of which the second begins without a capture. -/
def append (t u : Trail) : Trail := ⟨t.names, t.patterns ++ u.patterns, t.predicates ++ u.predicates⟩

theorem pattern_append (field : Option String) (r : Pattern × List Predicate) (t u : Trail) :
    (t.pattern field r).append u = (t.append u).pattern field r := by
  simp only [pattern, append, List.cons_append, List.append_assoc]

/-- Items and then others, which begin without a capture, leave their trails one after the other. -/
theorem Of.append {others : List Literal} (ht : Of fields field items t) (hu : Of fields none others u) (hnames : u.names = []) :
    Of fields field (items ++ others) (t.append u) := by
  induction ht with
  | nil =>
    obtain ⟨names, patterns, predicates⟩ := u
    obtain rfl : names = [] := hnames
    exact hu
  | capture isCapture nonempty _ ih => exact .capture isCapture nonempty ih
  | field allowed notCapture isField _ ih => exact .field allowed notCapture isField ih
  | test written read _ ih => exact .test written read ih
  | pattern read _ ih =>
    rw [pattern_append]
    exact .pattern read ih

/-- What comes after items of a choice leaves a trail if all of it does. -/
theorem Of.exists_of_append {others : List Literal} (h : Of false none (items ++ others) t) : ∃ u, Of false none others u := by
  induction items generalizing t with
  | nil => exact ⟨t, h⟩
  | cons item items ih =>
    cases h with
    | capture _ _ h => exact ih h
    | field allowed => cases allowed
    | test _ _ h => exact ih h
    | pattern _ h => exact ih h

end Trail

end AwkEdit.Pattern
