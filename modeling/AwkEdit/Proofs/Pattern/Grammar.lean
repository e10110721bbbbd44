import AwkEdit.Pattern.Compile

/-!
# The grammar of pattern literals

Which literals are patterns, said without reading them from left to right: what heads and predicates are, which items the lists and
tuples of a pattern may have and where (`Literal.IsPattern`), and which captures and predicates stand in a literal
(`Literal.Holds`). Every item is at most one of a pattern, a predicate and a text for a capture or a field. `Literal.Beyond` says that
a literal may be refused for another reason than its form.
-/

namespace AwkEdit

namespace Literal

/-! ## The forms -/

/-- Whether a literal is written like a predicate: a tuple that starts with a text of a number sign and more. -/
def PredicateShaped (l : Literal) : Prop :=
  ∃ name operands, name ≠ "" ∧ l = .tuple (.text ("#" ++ name) :: operands)

/-- Whether a literal is a head: a name that is not empty and neither a capture nor a field, or a set of names that are not empty,
with at least one. -/
inductive IsHead : Literal → Prop where
  | name {value : String} (nonempty : value ≠ "") (notCapture : ∀ name, value ≠ "@" ++ name)
      (notField : ∀ name, name ≠ "" → value ≠ name ++ ":") : IsHead (.text value)
  | oneOf {members : List Literal} (nonempty : members ≠ [])
      (names : ∀ member ∈ members, ∃ value, value ≠ "" ∧ member = .text value) : IsHead (.set members)

/-- Whether an integer with more digits than are written is in a literal. -/
inductive Oversized : Literal → Prop where
  | integer {value : Int} (h : IntegerText.isWritable value = false) : Oversized (.integer value)
  | list {items : List Literal} {item : Literal} (mem : item ∈ items) (h : Oversized item) : Oversized (.list items)
  | tuple {items : List Literal} {item : Literal} (mem : item ∈ items) (h : Oversized item) : Oversized (.tuple items)
  | set {items : List Literal} {item : Literal} (mem : item ∈ items) (h : Oversized item) : Oversized (.set items)
  | dictionary {entries : List (String × Literal)} {entry : String × Literal} (mem : entry ∈ entries) (h : Oversized entry.2) :
      Oversized (.dictionary entries)

/-- Whether an argument is of the kind that an operator needs: a collection of names that can be written, a regular expression or the
text of one, a text, or a test. -/
inductive Suits : String → Literal → Prop where
  | list {operator : String} (h : operator ∈ ["#in", "#not-in"]) {names : List Literal}
      (written : ∀ name ∈ names, ¬name.Oversized) : Suits operator (.list names)
  | tuple {operator : String} (h : operator ∈ ["#in", "#not-in"]) {names : List Literal}
      (written : ∀ name ∈ names, ¬name.Oversized) : Suits operator (.tuple names)
  | set {operator : String} (h : operator ∈ ["#in", "#not-in"]) {names : List Literal}
      (written : ∀ name ∈ names, ¬name.Oversized) : Suits operator (.set names)
  | dictionary {operator : String} (h : operator ∈ ["#in", "#not-in"]) (entries : List (String × Literal)) :
      Suits operator (.dictionary entries)
  | search {pattern : String} {regex : CompiledRegex} (h : Regex.parse pattern = .ok regex) : Suits "#match" (.text pattern)
  | compiled (regex : CompiledRegex) : Suits "#match" (.regex regex)
  | equals (value : String) : Suits "#eq" (.text value)
  | passes (run : String → Except TestFailure Bool) : Suits "#pred" (.test run)

/-- Whether a literal is a predicate about a capture. -/
inductive IsPredicate (name : String) : Literal → Prop where
  | intro {operator : String} {argument : Literal} (nonempty : name ≠ "") (suits : Suits operator argument) :
      IsPredicate name (.tuple [.text operator, .text ("@" ++ name), argument])

mutual

/-- Whether a literal is a pattern. -/
inductive IsPattern : Literal → Prop where
  | head {l : Literal} (h : l.IsHead) : IsPattern l
  | choice {items : List Literal} {alternative : Literal}
      (elements : ∀ before item after, items = before ++ item :: after → IsChoiceElement before item)
      (mem : alternative ∈ items) (pattern : IsPattern alternative) : IsPattern (.list items)
  | node {first : Literal} {items : List Literal} (shape : ¬PredicateShaped (.tuple (first :: items))) (head : first.IsHead)
      (elements : ∀ before item after, items = before ++ item :: after → IsNodeElement item after) :
      IsPattern (.tuple (first :: items))

/-- Whether an item may stand in a choice after others: a capture needs a pattern among those. -/
inductive IsChoiceElement : List Literal → Literal → Prop where
  | pattern {before : List Literal} {item : Literal} (h : IsPattern item) : IsChoiceElement before item
  | predicate {before : List Literal} {item : Literal} {name : String} (h : item.IsPredicate name) : IsChoiceElement before item
  | capture {before : List Literal} {earlier : Literal} {name : String} (nonempty : name ≠ "") (mem : earlier ∈ before)
      (pattern : IsPattern earlier) : IsChoiceElement before (.text ("@" ++ name))

/-- Whether an item may stand in a node pattern before others: a field needs a pattern right after it. -/
inductive IsNodeElement : Literal → List Literal → Prop where
  | pattern {item : Literal} {after : List Literal} (h : IsPattern item) : IsNodeElement item after
  | predicate {item : Literal} {after : List Literal} {name : String} (h : item.IsPredicate name) : IsNodeElement item after
  | capture {after : List Literal} {name : String} (nonempty : name ≠ "") : IsNodeElement (.text ("@" ++ name)) after
  | field {next : Literal} {after : List Literal} {name : String} (nonempty : name ≠ "") (pattern : IsPattern next) :
      IsNodeElement (.text (name ++ ":")) (next :: after)

end

/-- Whether a part stands in a literal: it is the literal, or stands in an item of a choice or after the head of a node pattern. -/
inductive Holds : Literal → Literal → Prop where
  | self (l : Literal) : Holds l l
  | choice {items : List Literal} {item part : Literal} (mem : item ∈ items) (h : Holds item part) : Holds (.list items) part
  | node {first : Literal} {items : List Literal} {item part : Literal} (shape : ¬PredicateShaped (.tuple (first :: items)))
      (mem : item ∈ items) (h : Holds item part) : Holds (.tuple (first :: items)) part

/-- Whether every capture that a predicate is about stands in the literal. -/
def Closed (l : Literal) : Prop :=
  ∀ part name, l.Holds part → part.IsPredicate name → l.Holds (.text ("@" ++ name))

/-- Whether a predicate asks for a regular expression that is refused, though not for its form. -/
def AsksBeyond (l : Literal) : Prop :=
  ∃ name pattern fault, l = .tuple [.text "#match", .text ("@" ++ name), .text pattern] ∧ Regex.parse pattern = .error fault ∧
    fault ≠ .malformed

/-- Whether a part that stands in a literal asks for such a regular expression, or has an integer in it that cannot be written. -/
def Beyond (l : Literal) : Prop := ∃ part, l.Holds part ∧ (part.AsksBeyond ∨ part.Oversized)

/-! ## Captures, fields and predicates -/

theorem eq_append_of_toList {value : String} {c : Char} {cs : List Char} (h : value.toList = c :: cs) :
    value = String.singleton c ++ String.ofList cs := by
  apply String.toList_inj.1
  simp [h]

/-- A capture is a text after the sign of captures. -/
theorem capture?_eq_some_iff {l : Literal} {name : String} : l.capture? = some name ↔ l = .text ("@" ++ name) := by
  constructor
  · intro h
    unfold capture? at h
    split at h
    next value =>
      split at h
      next cs hvalue =>
        obtain rfl := Option.some.inj h
        rw [eq_append_of_toList hvalue]
        rfl
      next => cases h
    next => cases h
  · rintro rfl
    simp [capture?]

/-- A field is a text that is not empty before the sign of fields. -/
theorem field?_eq_some_iff {l : Literal} {name : String} : l.field? = some name ↔ name ≠ "" ∧ l = .text (name ++ ":") := by
  constructor
  · intro h
    unfold field? at h
    split at h
    next value =>
      split at h
      next c cs hvalue =>
        obtain rfl := Option.some.inj h
        have hvalue : value.toList = (c :: cs).reverse ++ [':'] := by
          rw [← List.reverse_inj, hvalue]
          simp
        refine ⟨?_, congrArg _ (String.toList_inj.1 ?_)⟩
        · intro hempty
          have := congrArg String.toList hempty
          simp at this
        · simp [hvalue]
      next => cases h
    next => cases h
  · rintro ⟨hne, rfl⟩
    have hlast : name.toList.reverse ≠ [] := by simpa using hne
    obtain ⟨c, cs, hname⟩ := List.exists_cons_of_ne_nil hlast
    have hvalue : (name ++ ":").toList.reverse = ':' :: c :: cs := by simp [hname]
    have hback : name = String.ofList (c :: cs).reverse := by
      apply String.toList_inj.1
      rw [← hname]
      simp
    simp only [field?, hvalue]
    rw [hback]

/-- A predicate starts with an operator. -/
theorem predicate?_eq_some_iff {l : Literal} {operator : String} {operands : List Literal} :
    l.predicate? = some (operator, operands) ↔
      (∃ name, name ≠ "" ∧ operator = "#" ++ name) ∧ l = .tuple (.text operator :: operands) := by
  constructor
  · intro h
    unfold predicate? at h
    split at h
    next op rest =>
      split at h
      next c cs hop =>
        obtain ⟨rfl, rfl⟩ := Prod.mk.inj (Option.some.inj h)
        refine ⟨⟨String.ofList (c :: cs), ?_, eq_append_of_toList hop⟩, rfl⟩
        intro hempty
        have := congrArg String.toList hempty
        simp at this
      next => cases h
    next => cases h
  · rintro ⟨⟨name, hne, rfl⟩, rfl⟩
    have hlist : name.toList ≠ [] := by simpa using hne
    obtain ⟨c, cs, hname⟩ := List.exists_cons_of_ne_nil hlist
    have hvalue : ("#" ++ name).toList = '#' :: c :: cs := by simp [hname]
    simp only [predicate?, hvalue]

theorem predicateShaped_of_predicate? {l : Literal} {operator : String} {operands : List Literal}
    (h : l.predicate? = some (operator, operands)) : l.PredicateShaped := by
  obtain ⟨⟨name, hne, rfl⟩, rfl⟩ := predicate?_eq_some_iff.1 h
  exact ⟨name, operands, hne, rfl⟩

/-- A literal is written like a predicate if it has an operator. -/
theorem predicateShaped_iff {l : Literal} : l.PredicateShaped ↔ l.predicate?.isSome := by
  rw [Option.isSome_iff_exists]
  constructor
  · rintro ⟨name, operands, hne, rfl⟩
    exact ⟨_, predicate?_eq_some_iff.2 ⟨⟨name, hne, rfl⟩, rfl⟩⟩
  · rintro ⟨⟨operator, operands⟩, h⟩
    exact predicateShaped_of_predicate? h

/-! ## The forms apart -/

theorem Suits.mem_operators {operator : String} {argument : Literal} (h : Suits operator argument) :
    operator ∈ Pattern.operators := by
  have hmember : ["#in", "#not-in"] ⊆ Pattern.operators := by decide
  cases h with
  | list h | tuple h | set h | dictionary h => exact hmember h
  | search | compiled | equals | passes => decide

/-- Predicates are written like predicates. -/
theorem IsPredicate.predicateShaped {l : Literal} {name : String} (h : l.IsPredicate name) : l.PredicateShaped := by
  obtain ⟨-, suits⟩ := h
  have hshape : ∀ operator ∈ Pattern.operators,
      operator = "#" ++ (operator.drop 1).copy ∧ (operator.drop 1).copy ≠ "" := by decide
  obtain ⟨hoperator, hne⟩ := hshape _ suits.mem_operators
  exact ⟨_, _, hne, by rw [← hoperator]⟩

/-- Whether a tuple is a predicate about a capture. -/
theorem isPredicate_iff {name : String} {l : Literal} :
    l.IsPredicate name ↔
      name ≠ "" ∧ ∃ operator argument, Suits operator argument ∧ l = .tuple [.text operator, .text ("@" ++ name), argument] := by
  constructor
  · rintro ⟨nonempty, suits⟩
    exact ⟨nonempty, _, _, suits, rfl⟩
  · rintro ⟨nonempty, operator, argument, suits, rfl⟩
    exact ⟨nonempty, suits⟩

/-- Whether a text is a head. -/
theorem isHead_text_iff {value : String} :
    IsHead (.text value) ↔
      value ≠ "" ∧ (∀ name, value ≠ "@" ++ name) ∧ ∀ name, name ≠ "" → value ≠ name ++ ":" := by
  constructor
  · rintro ⟨nonempty, notCapture, notField⟩
    exact ⟨nonempty, notCapture, notField⟩
  · rintro ⟨nonempty, notCapture, notField⟩
    exact .name nonempty notCapture notField

/-- Whether a set is a head. -/
theorem isHead_set_iff {members : List Literal} :
    IsHead (.set members) ↔ members ≠ [] ∧ ∀ member ∈ members, ∃ value, value ≠ "" ∧ member = .text value := by
  constructor
  · rintro (_ | ⟨nonempty, names⟩)
    exact ⟨nonempty, names⟩
  · rintro ⟨nonempty, names⟩
    exact .oneOf nonempty names

theorem isPattern_text_iff {value : String} : IsPattern (.text value) ↔ IsHead (.text value) := by
  constructor
  · intro h
    cases h with
    | head h => exact h
  · exact .head

theorem isPattern_set_iff {members : List Literal} : IsPattern (.set members) ↔ IsHead (.set members) := by
  constructor
  · intro h
    cases h with
    | head h => exact h
  · exact .head

theorem isPattern_list_iff {items : List Literal} :
    IsPattern (.list items) ↔
      (∀ before item after, items = before ++ item :: after → IsChoiceElement before item) ∧ ∃ item ∈ items, item.IsPattern := by
  constructor
  · intro h
    cases h with
    | head h => cases h
    | choice elements mem pattern => exact ⟨elements, _, mem, pattern⟩
  · rintro ⟨elements, alternative, mem, pattern⟩
    exact .choice elements mem pattern

theorem isPattern_tuple_iff {items : List Literal} :
    IsPattern (.tuple items) ↔
      ¬PredicateShaped (.tuple items) ∧ ∃ first rest, items = first :: rest ∧ first.IsHead ∧
        ∀ before item after, rest = before ++ item :: after → IsNodeElement item after := by
  constructor
  · intro h
    cases h with
    | head h => cases h
    | node shape head elements => exact ⟨shape, _, _, rfl, head, elements⟩
  · rintro ⟨shape, first, rest, rfl, head, elements⟩
    exact .node shape head elements

/-- Captures are not patterns. -/
theorem not_isPattern_capture (name : String) : ¬IsPattern (.text ("@" ++ name)) := by
  rw [isPattern_text_iff, isHead_text_iff]
  rintro ⟨-, notCapture, -⟩
  exact notCapture name rfl

/-- Fields are not patterns. -/
theorem not_isPattern_field {name : String} (hne : name ≠ "") : ¬IsPattern (.text (name ++ ":")) := by
  rw [isPattern_text_iff, isHead_text_iff]
  rintro ⟨-, -, notField⟩
  exact notField name hne rfl

/-- What is written like a predicate is not a pattern. -/
theorem IsPattern.not_predicateShaped {l : Literal} (h : l.IsPattern) : ¬l.PredicateShaped := by
  rintro ⟨name, operands, hne, rfl⟩
  cases h with
  | head h => cases h
  | node shape => exact shape ⟨name, operands, hne, rfl⟩

/-- What may stand in a choice. -/
theorem isChoiceElement_iff {before : List Literal} {item : Literal} :
    IsChoiceElement before item ↔
      item.IsPattern ∨ (∃ name, item.IsPredicate name) ∨
        ∃ name, name ≠ "" ∧ item = .text ("@" ++ name) ∧ ∃ earlier ∈ before, earlier.IsPattern := by
  constructor
  · intro h
    cases h with
    | pattern h => exact .inl h
    | predicate h => exact .inr (.inl ⟨_, h⟩)
    | capture nonempty mem pattern => exact .inr (.inr ⟨_, nonempty, rfl, _, mem, pattern⟩)
  · rintro (h | ⟨name, h⟩ | ⟨name, nonempty, rfl, earlier, mem, pattern⟩)
    · exact .pattern h
    · exact .predicate h
    · exact .capture nonempty mem pattern

/-- What may stand in a node pattern. -/
theorem isNodeElement_iff {item : Literal} {after : List Literal} :
    IsNodeElement item after ↔
      item.IsPattern ∨ (∃ name, item.IsPredicate name) ∨ (∃ name, name ≠ "" ∧ item = .text ("@" ++ name)) ∨
        ∃ name next rest, name ≠ "" ∧ item = .text (name ++ ":") ∧ after = next :: rest ∧ next.IsPattern := by
  constructor
  · intro h
    cases h with
    | pattern h => exact .inl h
    | predicate h => exact .inr (.inl ⟨_, h⟩)
    | capture nonempty => exact .inr (.inr (.inl ⟨_, nonempty, rfl⟩))
    | field nonempty pattern => exact .inr (.inr (.inr ⟨_, _, _, nonempty, rfl, rfl, pattern⟩))
  · rintro (h | ⟨name, h⟩ | ⟨name, nonempty, rfl⟩ | ⟨name, next, rest, nonempty, rfl, rfl, pattern⟩)
    · exact .pattern h
    · exact .predicate h
    · exact .capture nonempty
    · exact .field nonempty pattern

/-! ## What stands in a literal -/

theorem holds_text_iff {value : String} {part : Literal} : Holds (.text value) part ↔ part = .text value := by
  constructor
  · intro h
    cases h
    rfl
  · rintro rfl
    exact .self _

theorem holds_set_iff {members : List Literal} {part : Literal} : Holds (.set members) part ↔ part = .set members := by
  constructor
  · intro h
    cases h
    rfl
  · rintro rfl
    exact .self _

theorem holds_list_iff {items : List Literal} {part : Literal} :
    Holds (.list items) part ↔ part = .list items ∨ ∃ item ∈ items, item.Holds part := by
  constructor
  · intro h
    cases h with
    | self => exact .inl rfl
    | choice mem h => exact .inr ⟨_, mem, h⟩
  · rintro (rfl | ⟨item, mem, h⟩)
    · exact .self _
    · exact .choice mem h

theorem holds_tuple_iff {first : Literal} {items : List Literal} (shape : ¬PredicateShaped (.tuple (first :: items)))
    {part : Literal} :
    Holds (.tuple (first :: items)) part ↔ part = .tuple (first :: items) ∨ ∃ item ∈ items, item.Holds part := by
  constructor
  · intro h
    cases h with
    | self => exact .inl rfl
    | node _ mem h => exact .inr ⟨_, mem, h⟩
  · rintro (rfl | ⟨item, mem, h⟩)
    · exact .self _
    · exact .node shape mem h

/-- Nothing stands in what is written like a predicate. -/
theorem PredicateShaped.holds_iff {l part : Literal} (h : l.PredicateShaped) : l.Holds part ↔ part = l := by
  constructor
  · intro hholds
    cases hholds with
    | self => rfl
    | choice => obtain ⟨name, operands, -, hl⟩ := h; cases hl
    | node shape => exact absurd h shape
  · rintro rfl
    exact .self _

theorem Oversized.beyond {l : Literal} (h : l.Oversized) : l.Beyond := ⟨l, .self l, .inr h⟩

theorem AsksBeyond.beyond {l : Literal} (h : l.AsksBeyond) : l.Beyond := ⟨l, .self l, .inl h⟩

/-- What is beyond in an item of a choice is beyond in the choice. -/
theorem Beyond.choice {items : List Literal} {item : Literal} (mem : item ∈ items) (h : item.Beyond) : Beyond (.list items) := by
  obtain ⟨part, hpart, hbeyond⟩ := h
  exact ⟨part, .choice mem hpart, hbeyond⟩

/-- What is beyond in an item after the head of a node pattern is beyond in the node pattern. -/
theorem Beyond.node {first : Literal} {items : List Literal} {item : Literal} (shape : ¬PredicateShaped (.tuple (first :: items)))
    (mem : item ∈ items) (h : item.Beyond) : Beyond (.tuple (first :: items)) := by
  obtain ⟨part, hpart, hbeyond⟩ := h
  exact ⟨part, .node shape mem hpart, hbeyond⟩

/-! ## Items with what stands around them -/

/-- What holds of every item of a list with what stands before and after it holds of the first and of the others. -/
theorem forall_split_cons {α : Type} {motive : List α → α → List α → Prop} {x : α} {xs : List α} :
    (∀ before item after, x :: xs = before ++ item :: after → motive before item after) ↔
      motive [] x xs ∧ ∀ before item after, xs = before ++ item :: after → motive (x :: before) item after := by
  constructor
  · intro h
    exact ⟨h [] x xs rfl, fun before item after hxs => h (x :: before) item after (by rw [hxs, List.cons_append])⟩
  · rintro ⟨hfirst, hrest⟩ before item after hxs
    cases before with
    | nil =>
      obtain ⟨rfl, rfl⟩ := List.cons.inj hxs
      exact hfirst
    | cons y before =>
      obtain ⟨rfl, hrests⟩ := List.cons.inj hxs
      exact hrest before item after hrests

/-- Whether all items may stand in a choice, after others. -/
def ChoiceElements (earlier items : List Literal) : Prop :=
  ∀ before item after, items = before ++ item :: after → IsChoiceElement (earlier ++ before) item

/-- Whether all items may stand in a node pattern. -/
def NodeElements (items : List Literal) : Prop :=
  ∀ before item after, items = before ++ item :: after → IsNodeElement item after

theorem choiceElements_nil (earlier : List Literal) : ChoiceElements earlier [] := by
  intro before item after h
  simp at h

theorem choiceElements_cons_iff {earlier items : List Literal} {item : Literal} :
    ChoiceElements earlier (item :: items) ↔ IsChoiceElement earlier item ∧ ChoiceElements (earlier ++ [item]) items := by
  unfold ChoiceElements
  rw [forall_split_cons, List.append_nil]
  simp only [List.append_assoc, List.singleton_append]

theorem nodeElements_nil : NodeElements [] := by
  intro before item after h
  simp at h

theorem nodeElements_cons_iff {items : List Literal} {item : Literal} :
    NodeElements (item :: items) ↔ IsNodeElement item items ∧ NodeElements items := forall_split_cons

/-- The items of a list or tuple. -/
def elements : Literal → List Literal
  | list items | tuple items => items
  | _ => []

/-- What holds of a literal if it holds of the items of it holds of every literal. -/
@[elab_as_elim]
theorem elements_induction {motive : Literal → Prop} (step : ∀ l : Literal, (∀ item ∈ l.elements, motive item) → motive l)
    (l : Literal) : motive l :=
  step l fun item _ => elements_induction step item
termination_by sizeOf l
decreasing_by
  rename_i h
  cases l with
  | list items | tuple items =>
    have hlt : sizeOf item < sizeOf items := List.sizeOf_lt_of_mem h
    simp only [list.sizeOf_spec, tuple.sizeOf_spec]
    omega
  | _ => cases h

/-- Patterns are neither captures nor fields nor predicates. -/
theorem IsPattern.forms {l : Literal} (h : l.IsPattern) : l.capture? = none ∧ l.field? = none ∧ l.predicate? = none := by
  refine ⟨?_, ?_, ?_⟩
  · rw [Option.eq_none_iff_forall_ne_some]
    intro name hname
    rw [capture?_eq_some_iff.1 hname] at h
    exact not_isPattern_capture name h
  · rw [Option.eq_none_iff_forall_ne_some]
    intro name hname
    obtain ⟨hne, rfl⟩ := field?_eq_some_iff.1 hname
    exact not_isPattern_field hne h
  · rw [Option.eq_none_iff_forall_ne_some]
    rintro ⟨operator, operands⟩ hl
    exact h.not_predicateShaped (predicateShaped_of_predicate? hl)

/-- Predicates are not patterns. -/
theorem IsPredicate.not_isPattern {l : Literal} {name : String} (h : l.IsPredicate name) : ¬l.IsPattern :=
  fun hpattern => hpattern.not_predicateShaped h.predicateShaped

theorem capture?_of_predicate? {l : Literal} {operator : String} {operands : List Literal}
    (h : l.predicate? = some (operator, operands)) : l.capture? = none ∧ l.field? = none := by
  obtain ⟨-, rfl⟩ := predicate?_eq_some_iff.1 h
  exact ⟨rfl, rfl⟩

/-- A text that could be read as a field has a name if it is read as a capture. -/
theorem name_ne_of_field {name field : String} (hne : field ≠ "") (h : "@" ++ name = field ++ ":") : name ≠ "" := by
  rintro rfl
  obtain ⟨c, cs, hfield⟩ := List.exists_cons_of_ne_nil (l := field.toList) (by simpa using hne)
  have hlist := congrArg String.toList h
  simp [hfield] at hlist

end Literal

end AwkEdit
