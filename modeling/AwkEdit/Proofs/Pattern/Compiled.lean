import AwkEdit.Proofs.Pattern.Accepted

/-!
# What compiles

Reading a literal finds the captures and the predicates that stand in it. So a literal compiles if it is a pattern in which every
capture that a predicate is about stands (`Pattern.compile_grammar`).
-/

namespace AwkEdit

namespace Pattern

open Literal

/-! ## What is found stands in the literal -/

/-- Whether some names and predicates are those of the captures and predicates that stand in literals. -/
structure Written (items : List Literal) (names : List String) (predicates : List Predicate) : Prop where
  mem_names_iff : ∀ name, name ∈ names ↔ ∃ item ∈ items, item.Holds (.text ("@" ++ name))
  exists_predicate_iff : ∀ name,
    (∃ p ∈ predicates, p.capture = name) ↔ ∃ item ∈ items, ∃ part, item.Holds part ∧ part.IsPredicate name

namespace Written

variable {items more : List Literal} {names others : List String} {predicates ps : List Predicate}

theorem nil : Written [] [] [] := ⟨by simp, by simp⟩

theorem append (h : Written items names predicates) (h' : Written more others ps) :
    Written (items ++ more) (names ++ others) (predicates ++ ps) := by
  constructor
  · intro name
    simp only [List.mem_append, or_and_right, exists_or, h.mem_names_iff, h'.mem_names_iff]
  · intro name
    simp only [List.mem_append, or_and_right, exists_or, h.exists_predicate_iff, h'.exists_predicate_iff]

/-- The order in which names were found does not matter. -/
theorem congr (h : Written items names predicates) (hnames : ∀ name, name ∈ others ↔ name ∈ names) :
    Written items others predicates := ⟨fun name => (hnames name).trans (h.mem_names_iff name), h.exists_predicate_iff⟩

theorem capture (name : String) : Written [.text ("@" ++ name)] [name] [] := by
  constructor
  · intro other
    simp [holds_text_iff]
  · intro other
    simp only [List.not_mem_nil, false_and, exists_false, false_iff, List.mem_singleton, exists_eq_left, holds_text_iff]
    rintro ⟨part, rfl, h⟩

/-- What stands in the parts of a literal stands in the literal, if that is neither a capture nor a predicate itself. -/
theorem of_parts {l : Literal} (h : Written items names predicates)
    (hholds : ∀ part, l.Holds part ↔ part = l ∨ ∃ item ∈ items, item.Holds part) (hcapture : l.capture? = none)
    (hpredicate : ¬l.PredicateShaped) : Written [l] names predicates := by
  constructor
  · intro name
    have hno : Literal.text ("@" ++ name) ≠ l := by
      rintro rfl
      rw [capture?_eq_some_iff.2 rfl] at hcapture
      cases hcapture
    simp only [h.mem_names_iff, List.mem_singleton, exists_eq_left, hholds, hno, false_or]
  · intro name
    have hno : ¬l.IsPredicate name := fun hl => hpredicate hl.predicateShaped
    simp only [h.exists_predicate_iff, List.mem_singleton, exists_eq_left, hholds, or_and_right, exists_or, hno, false_or]
    constructor
    · rintro ⟨item, hitem, part, hpart, hname⟩
      exact ⟨part, ⟨item, hitem, hpart⟩, hname⟩
    · rintro ⟨part, ⟨item, hitem, hpart⟩, hname⟩
      exact ⟨item, hitem, part, hpart, hname⟩

/-- In a text that is no capture nothing stands. -/
theorem text {value : String} (h : (Literal.text value).capture? = none) : Written [.text value] [] [] := by
  refine nil.of_parts (fun part => ?_) h ?_
  · simp [holds_text_iff]
  · rintro ⟨name, operands, -, hl⟩
    cases hl

theorem predicate {item : Literal} {operator : String} {operands : List Literal} {p : Predicate}
    (h : item.predicate? = some (operator, operands)) (hp : predicate operator operands = .ok p) : Written [item] [] [p] := by
  have hholds : ∀ part, item.Holds part ↔ part = item := fun part => (predicateShaped_of_predicate? h).holds_iff
  obtain ⟨-, rfl⟩ := predicate?_eq_some_iff.1 h
  constructor
  · intro name
    simp [hholds]
  · intro name
    simp only [List.mem_singleton, exists_eq_left, hholds, ← predicate_eq_ok_iff, hp, Except.ok.injEq, exists_eq_left']

end Written

section names

variable {name other : String} {found : List Pattern} {children : List (Option String × Pattern)}

theorem captureNamesOf_append (found others : List Pattern) :
    captureNamesOf (found ++ others) = captureNamesOf found ++ captureNamesOf others := by
  induction found with
  | nil => rfl
  | cons p found ih => rw [List.cons_append, captureNamesOf, captureNamesOf, ih, List.append_assoc]

theorem captureNamesBelow_append (children others : List (Option String × Pattern)) :
    captureNamesBelow (children ++ others) = captureNamesBelow children ++ captureNamesBelow others := by
  induction children with
  | nil => rfl
  | cons child children ih => rw [List.cons_append, captureNamesBelow, captureNamesBelow, ih, List.append_assoc]

/-- A pattern with one more capture. -/
theorem mem_captureNames_capture {p : Pattern} : other ∈ (p.capture name).captureNames ↔ other ∈ p.captureNames ++ [name] := by
  cases p with
  | node head children captures =>
    simp only [Pattern.capture, captureNames, List.mem_append, List.mem_singleton]
    exact or_right_comm
  | choice alternatives captures => simp only [Pattern.capture, captureNames, List.append_assoc]

/-- Patterns with one more capture of the last. -/
theorem mem_captureNamesOf_captureLast (h : found ≠ []) :
    other ∈ captureNamesOf (captureLast name found) ↔ other ∈ captureNamesOf found ++ [name] := by
  obtain rfl | ⟨init, last, rfl⟩ := List.eq_nil_or_concat' found
  · exact absurd rfl h
  rw [captureLast, List.getLast?_concat, List.dropLast_concat]
  simp only [captureNamesOf_append, captureNamesOf, List.append_nil, List.mem_append, mem_captureNames_capture, or_assoc]

/-- Patterns for children with one more capture of the last, or of the node if there are none. -/
theorem mem_captureNamesBelow_captureLastChild {captures : List String} :
    other ∈ (if children.isEmpty then captures ++ [name] else captures) ++ captureNamesBelow (captureLastChild name children) ↔
      other ∈ captures ++ captureNamesBelow children ++ [name] := by
  obtain rfl | ⟨init, last, rfl⟩ := List.eq_nil_or_concat' children
  · simp [captureLastChild, captureNamesBelow]
  · rw [if_neg (by simp), captureLastChild, List.getLast?_concat, List.dropLast_concat]
    simp only [captureNamesBelow_append, captureNamesBelow, List.append_nil, List.mem_append, mem_captureNames_capture, or_assoc]

end names

/-- The items of a choice are read for what stands in them. -/
theorem written_choiceItems {items : List Literal}
    (hitems : ∀ item ∈ items, ∀ pattern more, ofLiteral item = .ok (pattern, more) → Written [item] pattern.captureNames more)
    {earlier : List Literal} {found : List Pattern} {predicates more : List Predicate} {pattern : Pattern}
    (hearlier : Written earlier (captureNamesOf found) predicates)
    (h : choiceItems found predicates items = .ok (pattern, more)) : Written (earlier ++ items) pattern.captureNames more := by
  induction items generalizing earlier found predicates with
  | nil =>
    rw [choiceItems] at h
    split at h
    next => cases h
    next =>
      obtain ⟨rfl, rfl⟩ := Prod.mk.inj (Except.ok.inj h)
      simpa [captureNames] using hearlier
  | cons item items ih =>
    rw [List.forall_mem_cons] at hitems
    rw [List.append_cons]
    rcases choiceItems_cons_ok h with ⟨name, rfl, hne, hsome, hrest⟩ | ⟨operator, operands, p, hpredicate, hp, hrest⟩ |
      ⟨alternative, found', hread, hrest⟩
    · refine ih hitems.2 ?_ hrest
      have hmore := hearlier.append (Written.capture name)
      rw [List.append_nil] at hmore
      exact hmore.congr fun _ => mem_captureNamesOf_captureLast hsome
    · refine ih hitems.2 ?_ hrest
      have hmore := hearlier.append (Written.predicate hpredicate hp)
      rwa [List.append_nil] at hmore
    · refine ih hitems.2 ?_ hrest
      have hmore := hearlier.append (hitems.1 _ _ hread)
      rwa [captureNamesOf_append, captureNamesOf, captureNamesOf, List.append_nil]

/-- The items of a node pattern are read for what stands in them. -/
theorem written_nodeItems {items : List Literal}
    (hitems : ∀ item ∈ items, ∀ pattern more, ofLiteral item = .ok (pattern, more) → Written [item] pattern.captureNames more)
    {head : Head} {captures : List String} {children : List (Option String × Pattern)} {predicates more : List Predicate}
    {field : Option String} {earlier : List Literal} {pattern : Pattern}
    (hearlier : Written earlier (captures ++ captureNamesBelow children) predicates)
    (h : nodeItems head captures children predicates field items = .ok (pattern, more)) :
    Written (earlier ++ items) pattern.captureNames more := by
  induction items generalizing earlier captures children predicates field with
  | nil =>
    cases field with
    | some name => cases h
    | none =>
      obtain ⟨rfl, rfl⟩ := Prod.mk.inj (Except.ok.inj h)
      simpa [captureNames] using hearlier
  | cons item items ih =>
    rw [List.forall_mem_cons] at hitems
    rw [List.append_cons]
    rcases nodeItems_cons_ok h with ⟨name, rfl, hne, rfl, hrest⟩ | ⟨name, hcapture, hfield, rfl, hrest⟩ |
      ⟨operator, operands, p, hpredicate, rfl, hp, hrest⟩ | ⟨child, below, hread, hrest⟩
    · refine ih hitems.2 ?_ hrest
      have hmore := hearlier.append (Written.capture name)
      rw [List.append_nil] at hmore
      exact hmore.congr fun _ => mem_captureNamesBelow_captureLastChild
    · refine ih hitems.2 ?_ hrest
      obtain ⟨-, rfl⟩ := field?_eq_some_iff.1 hfield
      have hmore := hearlier.append (Written.text hcapture)
      rwa [List.append_nil, List.append_nil] at hmore
    · refine ih hitems.2 ?_ hrest
      have hmore := hearlier.append (Written.predicate hpredicate hp)
      rwa [List.append_nil] at hmore
    · refine ih hitems.2 ?_ hrest
      have hmore := hearlier.append (hitems.1 _ _ hread)
      rwa [captureNamesBelow_append, captureNamesBelow, captureNamesBelow, List.append_nil, ← List.append_assoc]

/-- A literal is read for what stands in it. -/
theorem written_ofLiteral (l : Literal) {pattern : Pattern} {more : List Predicate} (h : ofLiteral l = .ok (pattern, more)) :
    Written [l] pattern.captureNames more := by
  induction l using Literal.elements_induction generalizing pattern more with | step l ih
  have hpattern : l.IsPattern := (ofLiteral_eq_ok_iff l).1 ⟨_, h⟩
  have hparts : ∀ {items : List Literal}, Written items pattern.captureNames more →
      (∀ part, l.Holds part ↔ part = l ∨ ∃ item ∈ items, item.Holds part) → Written [l] pattern.captureNames more :=
    fun hitems hholds => hitems.of_parts hholds hpattern.forms.1 hpattern.not_predicateShaped
  cases l with
  | text value =>
    rw [ofLiteral, bind_eq_ok_iff] at h
    obtain ⟨head, -, h⟩ := h
    obtain ⟨rfl, rfl⟩ := Prod.mk.inj (Except.ok.inj h)
    exact hparts Written.nil (by simp [holds_text_iff])
  | set members =>
    rw [ofLiteral, bind_eq_ok_iff] at h
    obtain ⟨head, -, h⟩ := h
    obtain ⟨rfl, rfl⟩ := Prod.mk.inj (Except.ok.inj h)
    exact hparts Written.nil (by simp [holds_set_iff])
  | list items =>
    rw [ofLiteral] at h
    exact hparts (written_choiceItems (fun item hitem _ _ => ih item hitem) Written.nil h) fun _ => holds_list_iff
  | tuple items =>
    obtain ⟨hshape, first, rest, head, rfl, -, hrest⟩ := ofLiteral_tuple_eq_ok_iff.1 h
    have hitems := fun item hitem pattern more => @ih item (List.mem_cons_of_mem first hitem) pattern more
    exact hparts (written_nodeItems hitems Written.nil hrest) fun _ => holds_tuple_iff hshape
  | _ => simp [ofLiteral] at h

/-! ## Compiling -/

/-- No predicate is stray if every capture that one is about is among the names. -/
theorem strayPredicate?_eq_none_iff {names : List String} {predicates : List Predicate} :
    strayPredicate? names predicates = none ↔ ∀ name, (∃ p ∈ predicates, p.capture = name) → name ∈ names := by
  rw [strayPredicate?, List.find?_eq_none]
  constructor
  · rintro h name ⟨p, hp, rfl⟩
    simpa using h p hp
  · intro h p hp
    simpa using h p.capture ⟨p, hp, rfl⟩

/-- Every capture that a predicate is about stands in the literal if it is among the names that were found. -/
theorem Written.closed_iff {l : Literal} {names : List String} {predicates : List Predicate} (h : Written [l] names predicates) :
    strayPredicate? names predicates = none ↔ l.Closed := by
  rw [strayPredicate?_eq_none_iff]
  simp only [h.exists_predicate_iff, h.mem_names_iff, List.mem_singleton, exists_eq_left]
  constructor
  · intro hnames part name hpart hname
    exact hnames name ⟨part, hpart, hname⟩
  · rintro hclosed name ⟨part, hpart, hname⟩
    exact hclosed part name hpart hname

/-- A literal compiles if it is a pattern in which every capture that a predicate is about stands. Any other is refused under the
label, unless a predicate in it asks for a regular expression that is refused, though not for its form, or an integer in it has more
digits than are written. -/
theorem compile_grammar (label : Option String) (l : Literal) :
    ((∃ p, compile label l = .ok p) ↔ l.IsPattern ∧ l.Closed) ∧
      ∀ e, compile label l = .error e → e.label = label ∧ (e.fault.isBare = true → l.Beyond) := by
  rw [← ofLiteral_eq_ok_iff, compile]
  cases hread : ofLiteral l with
  | error fault =>
    refine ⟨⟨?_, ?_⟩, ?_⟩
    · rintro ⟨p, hp⟩
      cases hp
    · rintro ⟨⟨r, hr⟩, -⟩
      cases hr
    · intro e he
      obtain rfl := Except.error.inj he
      exact ⟨rfl, fun hbare => beyond_of_ofLiteral l hbare hread⟩
  | ok r =>
    obtain ⟨root, predicates⟩ := r
    have hclosed := (written_ofLiteral l hread).closed_iff
    cases hstray : strayPredicate? root.captureNames predicates with
    | some p =>
      simp only [hstray]
      refine ⟨⟨?_, ?_⟩, ?_⟩
      · rintro ⟨compiled, hcompiled⟩
        cases hcompiled
      · rintro ⟨-, hl⟩
        rw [hclosed.2 hl] at hstray
        cases hstray
      · intro e he
        obtain rfl := Except.error.inj he
        exact ⟨rfl, fun hbare => by cases hbare⟩
    | none =>
      simp only [hstray]
      refine ⟨⟨fun _ => ⟨⟨_, rfl⟩, hclosed.1 hstray⟩, fun _ => ⟨_, rfl⟩⟩, ?_⟩
      intro e he
      cases he

/-- What compiles is what was read from the literal. -/
theorem ofLiteral_of_compile {label : Option String} {l : Literal} {p : CompiledPattern} (h : compile label l = .ok p) :
    ofLiteral l = .ok (p.root, p.predicates) ∧ p.label = label := by
  rw [compile] at h
  split at h
  next => cases h
  next root predicates hread =>
    split at h
    next => cases h
    next =>
      obtain rfl := Except.ok.inj h
      exact ⟨hread, rfl⟩

/-- The captures of a compiled pattern are those that stand in the literal. -/
theorem mem_captureNames_of_compile {label : Option String} {l : Literal} {p : CompiledPattern} (h : compile label l = .ok p)
    (name : String) : name ∈ p.captureNames ↔ l.Holds (.text ("@" ++ name)) := by
  rw [CompiledPattern.captureNames, mem_sortedNames, (written_ofLiteral l (ofLiteral_of_compile h).1).mem_names_iff name]
  simp only [List.mem_singleton, exists_eq_left]

/-! ### An expression of too many rounds -/

/-- A pattern whose predicate asks for an expression of more rounds than there can be. -/
def tooOften : Literal :=
  .tuple [.text "a", .text "@x", .tuple [.text "#match", .text "@x", .text "a\x7b4294967295\x7d"]]

theorem ofLiteral_tooOften : ofLiteral tooOften = .error (.regexLimit .tooManyRounds) := by
  rfl

/-- The expression is refused, but not for its form. -/
theorem compile_grammar_tooOften :
    ∃ e, compile (some "rule") tooOften = .error e ∧ e.label = some "rule" ∧ tooOften.Beyond := by
  have hread : compile (some "rule") tooOften = .error ⟨some "rule", .regexLimit .tooManyRounds⟩ := by
    rw [compile, ofLiteral_tooOften]
  obtain ⟨hlabel, hbeyond⟩ := (compile_grammar (some "rule") tooOften).2 _ hread
  exact ⟨_, hread, hlabel, hbeyond rfl⟩

/-- So what is no pattern may be refused with the fault of the expression alone. -/
theorem not_isPattern_tooOften : ¬tooOften.IsPattern ∧ ∃ e, compile none tooOften = .error e ∧ e.fault.isBare = true := by
  constructor
  · intro h
    obtain ⟨r, hr⟩ := (ofLiteral_eq_ok_iff tooOften).2 h
    rw [ofLiteral_tooOften] at hr
    cases hr
  · refine ⟨⟨none, .regexLimit .tooManyRounds⟩, ?_, rfl⟩
    rw [compile, ofLiteral_tooOften]

/-! ### An integer of too many digits -/

/-- A pattern whose predicate has an integer among the names. -/
def numbered (value : Int) : Literal :=
  .tuple [.text "a", .text "@x", .tuple [.text "#in", .text "@x", .list [.integer value]]]

/-- An integer of too many digits is refused with the fault of the integer alone, as a literal and as a name. -/
theorem compile_oversized {value : Int} (h : IntegerText.isWritable value = false) (label : Option String) :
    compile label (.integer value) = .error ⟨label, .oversizedInteger⟩ ∧
      compile label (numbered value) = .error ⟨label, .oversizedInteger⟩ := by
  have hshown : (Literal.integer value).shown? = none := (shown?_eq_none_iff _).2 (.integer h)
  have hname : (Literal.integer value).asName? = none := asName?_eq_none_iff.2 (.integer h)
  have hread : ofLiteral (.integer value) = .error .oversizedInteger := by
    change Except.error (PatternFault.ofShown .badElement (.integer value)) = _
    rw [PatternFault.ofShown, hshown, Option.elim_none]
  have hnames : namesOf [.integer value] = .error .oversizedInteger := by
    rw [namesOf, mapM_eq_none_iff.2 ⟨_, List.mem_singleton_self _, hname⟩, Option.elim_none]
  have hpredicate : predicate "#in" [.text "@x", .list [.integer value]] = .error .oversizedInteger := by
    change (textTest "#in" (.list [.integer value]) >>= _) = _
    rw [textTest, hnames]
    rfl
  have hread' : ofLiteral (numbered value) = .error .oversizedInteger := by
    change nodeItems (.type "a") ["x"] [] [] none [.tuple [.text "#in", .text "@x", .list [.integer value]]] = _
    rw [nodeItems_predicate rfl, hpredicate]
    rfl
  rw [compile, compile, hread, hread']
  exact ⟨rfl, rfl⟩

/-- The least integer of too many digits. -/
theorem compile_oversized_least (label : Option String) :
    compile label (.integer (Nat.pow 10 IntegerText.longest)) = .error ⟨label, .oversizedInteger⟩ := by
  have hleast : IntegerText.isWritable (Nat.pow 10 IntegerText.longest) = false := by
    rw [Bool.eq_false_iff, Ne, IntegerText.isWritable_iff, Int.natAbs_natCast]
    exact Nat.lt_irrefl _
  exact (compile_oversized hleast label).1

end Pattern

end AwkEdit
