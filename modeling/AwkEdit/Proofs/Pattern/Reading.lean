import AwkEdit.Proofs.Pattern.Grammar
import AwkEdit.Proofs.Results
import Mathlib.Data.List.Basic

/-!
# Reading the forms

What the functions that read a literal do with one part of it: heads and predicates are read if they are such, and each item of a
list or tuple is read as what it is. The only faults that are told without the label of the rule are that of a regular expression which
is refused for another reason than its form and that of an integer which has too many digits.
-/

namespace AwkEdit

theorem mapM_eq_none_iff {α β : Type} {f : α → Option β} {as : List α} : as.mapM f = none ↔ ∃ a ∈ as, f a = none := by
  induction as with
  | nil => exact iff_of_false nofun nofun
  | cons a as ih =>
    rw [List.exists_mem_cons_iff, ← ih, List.mapM_cons]
    cases f a <;> cases as.mapM f <;> simp

/-! ## Literals that cannot be shown -/

theorem IntegerText.written?_eq_none_iff {value : Int} : written? value = none ↔ isWritable value = false := by
  rw [written?]
  split
  next h => exact iff_of_false nofun (by rw [h]; nofun)
  next h => exact iff_of_true rfl (Bool.eq_false_iff.2 h)

namespace Literal

variable {items : List Literal}

theorem oversized_integer_iff {value : Int} : Oversized (.integer value) ↔ IntegerText.isWritable value = false := by
  constructor
  · intro h
    cases h with
    | integer h => exact h
  · exact .integer

theorem oversized_list_iff : Oversized (.list items) ↔ ∃ item ∈ items, item.Oversized := by
  constructor
  · intro h
    cases h with
    | list mem h => exact ⟨_, mem, h⟩
  · rintro ⟨item, mem, h⟩
    exact .list mem h

theorem oversized_tuple_iff : Oversized (.tuple items) ↔ ∃ item ∈ items, item.Oversized := by
  constructor
  · intro h
    cases h with
    | tuple mem h => exact ⟨_, mem, h⟩
  · rintro ⟨item, mem, h⟩
    exact .tuple mem h

theorem oversized_set_iff : Oversized (.set items) ↔ ∃ item ∈ items, item.Oversized := by
  constructor
  · intro h
    cases h with
    | set mem h => exact ⟨_, mem, h⟩
  · rintro ⟨item, mem, h⟩
    exact .set mem h

theorem oversized_dictionary_iff {entries : List (String × Literal)} :
    Oversized (.dictionary entries) ↔ ∃ entry ∈ entries, entry.2.Oversized := by
  constructor
  · intro h
    cases h with
    | dictionary mem h => exact ⟨_, mem, h⟩
  · rintro ⟨entry, mem, h⟩
    exact .dictionary mem h

mutual

/-- A literal cannot be shown exactly when an integer of too many digits is in it. -/
theorem shown?_eq_none_iff : (l : Literal) → (l.shown? = none ↔ l.Oversized)
  | .integer value => by rw [shown?, IntegerText.written?_eq_none_iff, oversized_integer_iff]
  | .list items => by rw [shown?, Option.map_eq_none_iff, shownAll?_eq_none_iff items, oversized_list_iff]
  | .tuple items => by rw [shown?, Option.map_eq_none_iff, shownAll?_eq_none_iff items, oversized_tuple_iff]
  | .set items => by rw [shown?, Option.map_eq_none_iff, shownAll?_eq_none_iff items, oversized_set_iff]
  | .dictionary entries => by rw [shown?, Option.map_eq_none_iff, shownEntries?_eq_none_iff entries, oversized_dictionary_iff]
  | .text _ | .regex _ | .test _ | .nothing | .truth _ | .decimal _ => iff_of_false nofun nofun

theorem shownAll?_eq_none_iff : (items : List Literal) → (shownAll? items = none ↔ ∃ item ∈ items, item.Oversized)
  | [] => iff_of_false nofun nofun
  | item :: items => by
    rw [List.exists_mem_cons_iff, ← shown?_eq_none_iff item, ← shownAll?_eq_none_iff items, shownAll?]
    cases item.shown? <;> cases shownAll? items <;> simp

theorem shownEntries?_eq_none_iff : (entries : List (String × Literal)) →
    (shownEntries? entries = none ↔ ∃ entry ∈ entries, entry.2.Oversized)
  | [] => iff_of_false nofun nofun
  | (name, l) :: entries => by
    rw [List.exists_mem_cons_iff, ← shown?_eq_none_iff l, ← shownEntries?_eq_none_iff entries, shownEntries?]
    cases l.shown? <;> cases shownEntries? entries <;> simp

end

/-- A literal is no name exactly when it cannot be shown. -/
theorem asName?_eq_none_iff {l : Literal} : l.asName? = none ↔ l.Oversized := by
  cases l with
  | text value => exact iff_of_false nofun nofun
  | _ => exact shown?_eq_none_iff _

end Literal

/-- A fault that shows a literal is told without a label only if the literal cannot be shown. -/
theorem PatternFault.oversized_of_ofShown {fault : String → PatternFault} (hfault : ∀ shown, (fault shown).isBare = false)
    {l : Literal} (h : (ofShown fault l).isBare = true) : l.Oversized := by
  cases hshown : l.shown? with
  | some shown =>
    rw [ofShown, hshown, Option.elim_some, hfault] at h
    cases h
  | none => exact (Literal.shown?_eq_none_iff l).1 hshown

namespace Pattern

open Literal

/-! ## Heads and predicates -/

/-- A text is read as a head if it is one. -/
theorem headOfText_eq_ok_iff {value : String} : (∃ h, headOfText value = .ok h) ↔ IsHead (.text value) := by
  have hother : ((Literal.text value).capture?.isSome || (Literal.text value).field?.isSome) = true ↔
      (∃ name, value = "@" ++ name) ∨ ∃ name, name ≠ "" ∧ value = name ++ ":" := by
    simp only [Bool.or_eq_true, Option.isSome_iff_exists, capture?_eq_some_iff, field?_eq_some_iff, Literal.text.injEq]
  rw [isHead_text_iff, headOfText]
  by_cases hempty : value = ""
  · subst hempty
    constructor
    · rintro ⟨h, heq⟩
      cases heq
    · rintro ⟨hne, -⟩
      exact absurd rfl hne
  · rw [if_neg (by simpa using hempty)]
    split
    next htaken =>
      constructor
      · rintro ⟨h, heq⟩
        cases heq
      · rintro ⟨-, notCapture, notField⟩
        rcases hother.1 htaken with ⟨name, hname⟩ | ⟨name, hne, hname⟩
        · exact absurd hname (notCapture name)
        · exact absurd hname (notField name hne)
    next hfree =>
      rw [hother, not_or, not_exists, not_exists] at hfree
      constructor
      · rintro -
        exact ⟨hempty, hfree.1, fun name hne hname => hfree.2 name ⟨hne, hname⟩⟩
      · rintro -
        exact ⟨_, rfl⟩

/-- The members of a set are read if they are names that are not empty. -/
theorem memberNames_eq_ok_iff {members : List Literal} :
    (∃ names, memberNames members = .ok names) ↔ ∀ member ∈ members, ∃ value, value ≠ "" ∧ member = .text value := by
  induction members with
  | nil => exact ⟨fun _ _ h => absurd h List.not_mem_nil, fun _ => ⟨[], rfl⟩⟩
  | cons member members ih =>
    rw [List.forall_mem_cons, ← ih]
    constructor
    · rintro ⟨names, hnames⟩
      cases member with
      | text value =>
        by_cases hempty : value = ""
        · subst hempty
          cases hnames
        · rw [memberNames, if_neg (by simpa using hempty), bind_eq_ok_iff] at hnames
          obtain ⟨rest, hrest, -⟩ := hnames
          exact ⟨⟨value, hempty, rfl⟩, rest, hrest⟩
      | _ => cases hnames
    · rintro ⟨⟨value, hne, rfl⟩, rest, hrest⟩
      rw [memberNames, if_neg (by simpa using hne), hrest]
      exact ⟨_, rfl⟩

/-- A head is read if it is one. -/
theorem head_eq_ok_iff {l : Literal} : (∃ h, head l = .ok h) ↔ l.IsHead := by
  cases l with
  | text value => exact headOfText_eq_ok_iff
  | set members =>
    rw [isHead_set_iff, ← memberNames_eq_ok_iff]
    cases members with
    | nil => exact ⟨nofun, fun ⟨hne, _⟩ => absurd rfl hne⟩
    | cons member members =>
      constructor
      · rintro ⟨h, heq⟩
        obtain ⟨names, hnames, -⟩ := bind_eq_ok_iff.1 heq
        exact ⟨List.cons_ne_nil _ _, names, hnames⟩
      · rintro ⟨-, names, hnames⟩
        exact ⟨.oneOf names, bind_eq_ok_iff.2 ⟨names, hnames, rfl⟩⟩
  | _ =>
    constructor
    · rintro ⟨h, heq⟩
      cases heq
    · rintro ⟨⟩

/-- Values are names if each of them can be written. -/
theorem namesOf_eq_ok_iff {values : List Literal} :
    (∃ names, namesOf values = .ok names) ↔ ∀ value ∈ values, ¬value.Oversized := by
  simp only [← asName?_eq_none_iff]
  rw [namesOf]
  cases hnames : values.mapM Literal.asName? with
  | some names =>
    refine iff_of_true ⟨names, rfl⟩ fun value hvalue hnone => ?_
    rw [mapM_eq_none_iff.2 ⟨value, hvalue, hnone⟩] at hnames
    cases hnames
  | none =>
    obtain ⟨value, hvalue, hnone⟩ := mapM_eq_none_iff.1 hnames
    exact iff_of_false nofun fun h => h value hvalue hnone

/-- What is done with the names of values is done if each of them can be written. -/
theorem namesOf_bind_eq_ok_iff {values : List Literal} {test : List String → TextTest} :
    (∃ t, (namesOf values >>= fun names => pure (test names)) = .ok t) ↔ ∀ value ∈ values, ¬value.Oversized := by
  simp only [← namesOf_eq_ok_iff, bind_eq_ok_iff]
  constructor
  · rintro ⟨t, names, hnames, -⟩
    exact ⟨names, hnames⟩
  · rintro ⟨names, hnames⟩
    exact ⟨test names, names, hnames, rfl⟩

/-- An operator is read with an argument that it needs, and with no other. -/
theorem textTest_eq_ok_iff {operator : String} {argument : Literal} :
    (∃ test, textTest operator argument = .ok test) ↔ Suits operator argument := by
  constructor
  · intro h
    obtain ⟨test, htest⟩ := id h
    unfold textTest at h htest
    split at htest
    case h_1 | h_5 => exact .list (by decide) (namesOf_bind_eq_ok_iff.1 h)
    case h_2 | h_6 => exact .tuple (by decide) (namesOf_bind_eq_ok_iff.1 h)
    case h_3 | h_7 => exact .set (by decide) (namesOf_bind_eq_ok_iff.1 h)
    case h_4 | h_8 => exact .dictionary (by decide) _
    case h_9 pattern =>
      cases hregex : Regex.parse pattern with
      | ok regex => exact .search hregex
      | error fault =>
        rw [hregex] at htest
        cases fault <;> cases htest
    case h_10 => exact .compiled _
    case h_11 => exact .equals _
    case h_12 => exact .passes _
    all_goals cases htest
  · intro h
    cases h with
    | list h written | tuple h written | set h written =>
      rw [List.mem_cons, List.mem_singleton] at h
      rcases h with rfl | rfl
      · exact namesOf_bind_eq_ok_iff.2 written
      · exact namesOf_bind_eq_ok_iff.2 written
    | dictionary h =>
      rw [List.mem_cons, List.mem_singleton] at h
      rcases h with rfl | rfl
      · exact ⟨_, rfl⟩
      · exact ⟨_, rfl⟩
    | search h =>
      simp only [textTest, h]
      exact ⟨_, rfl⟩
    | compiled | equals | passes => exact ⟨_, rfl⟩

/-- If nothing is done with the names of values, one of them cannot be written. -/
theorem exists_oversized_of_namesOf {values : List Literal} {fault : PatternFault} {test : List String → TextTest}
    (h : (namesOf values >>= fun names => pure (test names)) = .error fault) : ∃ value ∈ values, value.Oversized := by
  by_contra hnone
  simp only [not_exists, not_and] at hnone
  obtain ⟨t, ht⟩ := namesOf_bind_eq_ok_iff.2 hnone
  rw [ht] at h
  cases h

/-- What an operator is refused with is told without a label only where a well-formed regular expression cannot be had, or a name
cannot be written. -/
theorem beyond_of_textTest {operator : String} {argument : Literal} {fault : PatternFault}
    (h : textTest operator argument = .error fault) (hbare : fault.isBare = true) :
    (operator = "#match" ∧ ∃ pattern limit, argument = .text pattern ∧ Regex.parse pattern = .error limit ∧ limit ≠ .malformed) ∨
      argument.Oversized := by
  unfold textTest at h
  split at h
  case h_1 | h_5 => exact .inr (oversized_list_iff.2 (exists_oversized_of_namesOf h))
  case h_2 | h_6 => exact .inr (oversized_tuple_iff.2 (exists_oversized_of_namesOf h))
  case h_3 | h_7 => exact .inr (oversized_set_iff.2 (exists_oversized_of_namesOf h))
  case h_9 pattern =>
    cases hregex : Regex.parse pattern with
    | ok regex =>
      rw [hregex] at h
      cases h
    | error limit =>
      refine .inl ⟨rfl, pattern, limit, rfl, hregex, ?_⟩
      rintro rfl
      rw [hregex] at h
      obtain rfl := Except.error.inj h
      cases hbare
  all_goals first
    | (obtain rfl := Except.error.inj h; cases hbare)
    | cases h

/-- What is written like a predicate is read as one about a capture if it is one. -/
theorem predicate_eq_ok_iff {operator name : String} {operands : List Literal} :
    (∃ p, predicate operator operands = .ok p ∧ p.capture = name) ↔ IsPredicate name (.tuple (.text operator :: operands)) := by
  rw [isPredicate_iff]
  constructor
  · rintro ⟨p, hp, rfl⟩
    unfold predicate at hp
    split at hp
    next =>
      split at hp
      next captured argument =>
        split at hp
        next name hname =>
          split at hp
          next => cases hp
          next hne =>
            obtain ⟨test, htest, hp⟩ := bind_eq_ok_iff.1 hp
            obtain rfl := Except.ok.inj hp
            refine ⟨by simpa using hne, operator, argument, textTest_eq_ok_iff.1 ⟨test, htest⟩, ?_⟩
            rw [capture?_eq_some_iff.1 hname]
        next => cases hp
      next => cases hp
    next => cases hp
  · rintro ⟨hne, operator, argument, suits, htuple⟩
    obtain ⟨hoperator, rfl⟩ := List.cons.inj (Literal.tuple.inj htuple)
    obtain rfl := Literal.text.inj hoperator
    obtain ⟨test, htest⟩ := textTest_eq_ok_iff.2 suits
    refine ⟨⟨test, name⟩, ?_, rfl⟩
    have hname : (Literal.text ("@" ++ name)).capture? = some name := capture?_eq_some_iff.2 rfl
    rw [predicate, if_pos (List.contains_iff_mem.2 suits.mem_operators)]
    simp only [hname]
    rw [if_neg (by simpa using hne), htest]
    rfl

/-- What is read as a predicate is one. -/
theorem isPredicate_of_read {item : Literal} {operator : String} {operands : List Literal} {p : Predicate}
    (hpredicate : item.predicate? = some (operator, operands)) (hp : predicate operator operands = .ok p) :
    item.IsPredicate p.capture := by
  rw [(predicate?_eq_some_iff.1 hpredicate).2]
  exact predicate_eq_ok_iff.1 ⟨p, hp, rfl⟩

/-- A predicate is read as one. -/
theorem exists_read_of_isPredicate {item : Literal} {name : String} (h : item.IsPredicate name) :
    ∃ operator operands p, item.predicate? = some (operator, operands) ∧ predicate operator operands = .ok p := by
  obtain ⟨⟨operator, operands⟩, hpredicate⟩ := Option.isSome_iff_exists.1 (predicateShaped_iff.1 h.predicateShaped)
  rw [(predicate?_eq_some_iff.1 hpredicate).2] at h
  obtain ⟨p, hp, -⟩ := predicate_eq_ok_iff.2 h
  exact ⟨operator, operands, p, hpredicate, hp⟩

/-- What is written like a predicate is refused without a label only where a well-formed regular expression cannot be had, or a name
cannot be written. -/
theorem beyond_of_predicate {item : Literal} {operator : String} {operands : List Literal} {fault : PatternFault}
    (hpredicate : item.predicate? = some (operator, operands)) (h : predicate operator operands = .error fault)
    (hbare : fault.isBare = true) : item.Beyond := by
  obtain ⟨-, rfl⟩ := predicate?_eq_some_iff.1 hpredicate
  unfold predicate at h
  split at h
  next =>
    split at h
    next captured argument =>
      split at h
      next name hname =>
        split at h
        next =>
          obtain rfl := Except.error.inj h
          cases hbare
        next =>
          rcases bind_eq_error_iff.1 h with htest | ⟨test, -, htest⟩
          · rcases beyond_of_textTest htest hbare with ⟨rfl, pattern, limit, rfl, hlimit⟩ | hargument
            · exact AsksBeyond.beyond ⟨name, pattern, limit, by rw [capture?_eq_some_iff.1 hname], hlimit⟩
            · exact Oversized.beyond (.tuple (by simp) hargument)
          · cases htest
      next =>
        obtain rfl := Except.error.inj h
        cases hbare
    next =>
      obtain rfl := Except.error.inj h
      cases hbare
  next =>
    obtain rfl := Except.error.inj h
    cases hbare

/-! ## One item of a choice -/

section choice

variable {found : List Pattern} {predicates : List Predicate} {item : Literal} {items : List Literal}
  {r : Pattern × List Predicate}

theorem captureName_eq_ok {name : String} (hne : name ≠ "") : captureName name = .ok name := by
  rw [captureName, if_neg (by simpa using hne)]

theorem choiceItems_capture (name : String) :
    choiceItems found predicates (.text ("@" ++ name) :: items) =
      if found.isEmpty then .error (.nothingToCapture ("@" ++ name))
      else captureName name >>= fun name => choiceItems (captureLast name found) predicates items := by
  have hname : (Literal.text ("@" ++ name)).capture? = some name := capture?_eq_some_iff.2 rfl
  rw [choiceItems, hname]

theorem choiceItems_predicate {operator : String} {operands : List Literal} (h : item.predicate? = some (operator, operands)) :
    choiceItems found predicates (item :: items) =
      predicate operator operands >>= fun p => choiceItems found (predicates ++ [p]) items := by
  rw [choiceItems, (capture?_of_predicate? h).1, h]

theorem choiceItems_pattern (hcapture : item.capture? = none) (hpredicate : item.predicate? = none) :
    choiceItems found predicates (item :: items) =
      ofLiteral item >>= fun r => choiceItems (found ++ [r.1]) (predicates ++ r.2) items := by
  rw [choiceItems, hcapture, hpredicate]

/-- How an item of a choice was read: as a capture of the last pattern found, as a predicate, or as another pattern. -/
theorem choiceItems_cons_ok (h : choiceItems found predicates (item :: items) = .ok r) :
    (∃ name, item = .text ("@" ++ name) ∧ name ≠ "" ∧ found ≠ [] ∧ choiceItems (captureLast name found) predicates items = .ok r) ∨
    (∃ operator operands p, item.predicate? = some (operator, operands) ∧ predicate operator operands = .ok p ∧
      choiceItems found (predicates ++ [p]) items = .ok r) ∨
    ∃ pattern more, ofLiteral item = .ok (pattern, more) ∧ choiceItems (found ++ [pattern]) (predicates ++ more) items = .ok r := by
  cases hcapture : item.capture? with
  | some name =>
    obtain rfl := capture?_eq_some_iff.1 hcapture
    rw [choiceItems_capture] at h
    split at h
    next => cases h
    next hfound =>
      by_cases hne : name = ""
      · rw [hne] at h
        cases h
      · rw [captureName_eq_ok hne] at h
        exact .inl ⟨name, rfl, hne, by simpa using hfound, h⟩
  | none =>
    cases hpredicate : item.predicate? with
    | some written =>
      obtain ⟨operator, operands⟩ := written
      rw [choiceItems_predicate hpredicate, bind_eq_ok_iff] at h
      obtain ⟨p, hp, h⟩ := h
      exact .inr (.inl ⟨operator, operands, p, rfl, hp, h⟩)
    | none =>
      rw [choiceItems_pattern hcapture hpredicate, bind_eq_ok_iff] at h
      obtain ⟨⟨pattern, more⟩, hpattern, h⟩ := h
      exact .inr (.inr ⟨pattern, more, hpattern, h⟩)

end choice

/-! ## One item of a node pattern -/

section node

variable {head : Head} {captures : List String} {children : List (Option String × Pattern)} {predicates : List Predicate}
  {field : Option String} {item : Literal} {items : List Literal} {r : Pattern × List Predicate}

theorem nodeItems_capture (name : String) :
    nodeItems head captures children predicates none (.text ("@" ++ name) :: items) =
      captureName name >>= fun name =>
        if children.isEmpty then nodeItems head (captures ++ [name]) children predicates none items
        else nodeItems head captures (captureLastChild name children) predicates none items := by
  have hname : (Literal.text ("@" ++ name)).capture? = some name := capture?_eq_some_iff.2 rfl
  rw [nodeItems.eq_def]
  simp only [hname]

theorem nodeItems_field {name : String} (hcapture : item.capture? = none) (hfield : item.field? = some name) :
    nodeItems head captures children predicates none (item :: items) =
      nodeItems head captures children predicates (some name) items := by
  rw [nodeItems.eq_def]
  simp only [hcapture, hfield]

theorem nodeItems_predicate {operator : String} {operands : List Literal} (h : item.predicate? = some (operator, operands)) :
    nodeItems head captures children predicates none (item :: items) =
      predicate operator operands >>= fun p => nodeItems head captures children (predicates ++ [p]) none items := by
  rw [nodeItems.eq_def]
  simp only [capture?_of_predicate? h, h]

theorem nodeItems_pattern (hcapture : item.capture? = none) (hfield : item.field? = none) (hpredicate : item.predicate? = none) :
    nodeItems head captures children predicates field (item :: items) =
      ofLiteral item >>= fun r => nodeItems head captures (children ++ [(field, r.1)]) (predicates ++ r.2) none items := by
  rw [nodeItems.eq_def]
  simp only [hcapture, hfield, hpredicate]

/-- While a field waits for its pattern, only a pattern is read. -/
theorem nodeItems_waiting {name : String} {result : Except PatternFault (Pattern × List Predicate)}
    (h : nodeItems head captures children predicates (some name) (item :: items) = result)
    (hread : ∀ fault, result = .error fault → fault.isBare = true) :
    item.capture? = none ∧ item.field? = none ∧ item.predicate? = none := by
  rw [nodeItems.eq_def] at h
  cases hcapture : item.capture? with
  | some capture =>
    simp only [hcapture] at h
    cases hread _ h.symm
  | none =>
    cases hfield : item.field? with
    | some next =>
      simp only [hcapture, hfield] at h
      cases hread _ h.symm
    | none =>
      cases hpredicate : item.predicate? with
      | some written =>
        simp only [hcapture, hfield, hpredicate] at h
        cases hread _ h.symm
      | none => exact ⟨rfl, rfl, rfl⟩

/-- How an item of a node pattern was read: as a capture of the last child or of the node, as the field of the next child, as a
predicate, or as another child. -/
theorem nodeItems_cons_ok (h : nodeItems head captures children predicates field (item :: items) = .ok r) :
    (∃ name, item = .text ("@" ++ name) ∧ name ≠ "" ∧ field = none ∧
      nodeItems head (if children.isEmpty then captures ++ [name] else captures) (captureLastChild name children) predicates none
        items = .ok r) ∨
    (∃ name, item.capture? = none ∧ item.field? = some name ∧ field = none ∧
      nodeItems head captures children predicates (some name) items = .ok r) ∨
    (∃ operator operands p, item.predicate? = some (operator, operands) ∧ field = none ∧ predicate operator operands = .ok p ∧
      nodeItems head captures children (predicates ++ [p]) none items = .ok r) ∨
    ∃ pattern more, ofLiteral item = .ok (pattern, more) ∧
      nodeItems head captures (children ++ [(field, pattern)]) (predicates ++ more) none items = .ok r := by
  by_cases hpattern : item.capture? = none ∧ item.field? = none ∧ item.predicate? = none
  · rw [nodeItems_pattern hpattern.1 hpattern.2.1 hpattern.2.2, bind_eq_ok_iff] at h
    obtain ⟨⟨pattern, more⟩, hitem, h⟩ := h
    exact .inr (.inr (.inr ⟨pattern, more, hitem, h⟩))
  · cases field with
    | some name => exact absurd (nodeItems_waiting h nofun) hpattern
    | none =>
      cases hcapture : item.capture? with
      | some name =>
        obtain rfl := capture?_eq_some_iff.1 hcapture
        rw [nodeItems_capture] at h
        by_cases hne : name = ""
        · rw [hne] at h
          cases h
        · rw [captureName_eq_ok hne] at h
          refine .inl ⟨name, rfl, hne, rfl, ?_⟩
          cases children with
          | nil => exact h
          | cons child children => exact h
      | none =>
        cases hfield : item.field? with
        | some name =>
          rw [nodeItems_field hcapture hfield] at h
          exact .inr (.inl ⟨name, rfl, rfl, rfl, h⟩)
        | none =>
          cases hpredicate : item.predicate? with
          | some written =>
            obtain ⟨operator, operands⟩ := written
            rw [nodeItems_predicate hpredicate, bind_eq_ok_iff] at h
            obtain ⟨p, hp, h⟩ := h
            exact .inr (.inr (.inl ⟨operator, operands, p, rfl, rfl, hp, h⟩))
          | none => exact absurd ⟨hcapture, hfield, hpredicate⟩ hpattern

end node

end Pattern

end AwkEdit
