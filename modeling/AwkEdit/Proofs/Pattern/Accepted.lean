import AwkEdit.Proofs.Pattern.Reading
import Mathlib.Data.List.Basic

/-!
# What is read is a pattern

The items of a list or tuple are read one after the other. Reading succeeds on the patterns of the grammar and on nothing else
(`Pattern.ofLiteral_eq_ok_iff`), and what it refuses without a label holds a predicate that asks for a regular expression that is
refused for another reason than its form, or an integer of too many digits (`Pattern.beyond_of_ofLiteral`).
-/

namespace AwkEdit

namespace Pattern

open Literal

/-! ## What is read is a pattern, and patterns are read -/

/-- A capture takes no pattern away. -/
theorem captureLast_ne_nil {found : List Pattern} (h : found ≠ []) (name : String) : captureLast name found ≠ [] := by
  rw [captureLast, List.getLast?_eq_some_getLast h]
  exact List.append_ne_nil_of_right_ne_nil _ (List.cons_ne_nil _ _)

/-- Whether patterns have been found just if there are patterns among the items that were read. -/
def Found (earlier : List Literal) (found : List Pattern) : Prop := found ≠ [] ↔ ∃ item ∈ earlier, item.IsPattern

namespace Found

variable {earlier : List Literal} {found : List Pattern} {item : Literal}

theorem nil : Found [] [] := by simp [Found]

/-- An item that is no pattern adds none. -/
theorem skip (h : Found earlier found) (hitem : ¬item.IsPattern) : Found (earlier ++ [item]) found := by
  refine h.trans ?_
  simp [or_and_right, exists_or, hitem]

/-- A pattern adds one. -/
theorem more (hitem : item.IsPattern) (pattern : Pattern) : Found (earlier ++ [item]) (found ++ [pattern]) :=
  ⟨fun _ => ⟨item, by simp, hitem⟩, fun _ => by simp⟩

/-- A capture changes the last one. -/
theorem capture (h : Found earlier found) (hsome : found ≠ []) (name : String) :
    Found (earlier ++ [.text ("@" ++ name)]) (captureLast name found) := by
  have hskip : Found (earlier ++ [.text ("@" ++ name)]) found := h.skip (not_isPattern_capture name)
  exact ⟨fun _ => hskip.1 hsome, fun _ => captureLast_ne_nil hsome name⟩

end Found

/-- The items of a choice are read, after others, if they may stand there and there is a pattern. -/
theorem choiceItems_eq_ok_iff {items : List Literal}
    (hitems : ∀ item ∈ items, (∃ r, ofLiteral item = .ok r) ↔ item.IsPattern) {earlier : List Literal} {found : List Pattern}
    {predicates : List Predicate} (hfound : Found earlier found) :
    (∃ r, choiceItems found predicates items = .ok r) ↔
      ChoiceElements earlier items ∧ ∃ item ∈ earlier ++ items, item.IsPattern := by
  induction items generalizing earlier found predicates with
  | nil =>
    have hsome : found ≠ [] ↔ ∃ item ∈ earlier, item.IsPattern := hfound
    rw [List.append_nil, ← hsome]
    constructor
    · rintro ⟨r, hread⟩
      rw [choiceItems] at hread
      split at hread
      next => cases hread
      next hsome => exact ⟨choiceElements_nil earlier, by simpa using hsome⟩
    · rintro ⟨-, hsome⟩
      rw [choiceItems, if_neg (by simpa using hsome)]
      exact ⟨_, rfl⟩
  | cons item items ih =>
    rw [List.forall_mem_cons] at hitems
    obtain ⟨hitem, hitems⟩ := hitems
    have hsplit : earlier ++ item :: items = earlier ++ [item] ++ items := List.append_cons earlier item items
    rw [hsplit, choiceElements_cons_iff]
    constructor
    · rintro ⟨r, hread⟩
      rcases choiceItems_cons_ok hread with ⟨name, rfl, hne, hsome, hrest⟩ | ⟨operator, operands, p, hpredicate, hp, hrest⟩ |
        ⟨pattern, more, hpattern, hrest⟩
      · obtain ⟨before, hbefore, hpattern⟩ := hfound.1 hsome
        obtain ⟨hrest, hsomewhere⟩ := (ih hitems (hfound.capture hsome name)).1 ⟨r, hrest⟩
        exact ⟨⟨.capture hne hbefore hpattern, hrest⟩, hsomewhere⟩
      · have hwritten := isPredicate_of_read hpredicate hp
        obtain ⟨hrest, hsomewhere⟩ := (ih hitems (hfound.skip hwritten.not_isPattern)).1 ⟨r, hrest⟩
        exact ⟨⟨.predicate hwritten, hrest⟩, hsomewhere⟩
      · have hpattern := hitem.1 ⟨_, hpattern⟩
        obtain ⟨hrest, hsomewhere⟩ := (ih hitems (.more hpattern pattern)).1 ⟨r, hrest⟩
        exact ⟨⟨.pattern hpattern, hrest⟩, hsomewhere⟩
    · rintro ⟨⟨helement, hrest⟩, hsomewhere⟩
      rcases isChoiceElement_iff.1 helement with hpattern | ⟨name, hwritten⟩ | ⟨name, hne, rfl, before, hbefore, hpattern⟩
      · obtain ⟨⟨pattern, more⟩, hread⟩ := hitem.2 hpattern
        rw [choiceItems_pattern hpattern.forms.1 hpattern.forms.2.2, hread]
        exact (ih hitems (.more hpattern pattern)).2 ⟨hrest, hsomewhere⟩
      · obtain ⟨operator, operands, p, hpredicate, hp⟩ := exists_read_of_isPredicate hwritten
        rw [choiceItems_predicate hpredicate, hp]
        exact (ih hitems (hfound.skip hwritten.not_isPattern)).2 ⟨hrest, hsomewhere⟩
      · have hsome := hfound.2 ⟨before, hbefore, hpattern⟩
        rw [choiceItems_capture, if_neg (by simpa using hsome), captureName_eq_ok hne]
        exact (ih hitems (hfound.capture hsome name)).2 ⟨hrest, hsomewhere⟩

/-- After a capture of its node or of its last child a node pattern is read as before. -/
theorem exists_nodeItems_capture {head : Head} {captures : List String} {children : List (Option String × Pattern)}
    {predicates : List Predicate} {items : List Literal} {name : String} (hne : name ≠ "")
    (h : ∀ captures children, ∃ r, nodeItems head captures children predicates none items = .ok r) :
    ∃ r, nodeItems head captures children predicates none (.text ("@" ++ name) :: items) = .ok r := by
  rw [nodeItems_capture, captureName_eq_ok hne]
  change ∃ r, (if children.isEmpty then _ else _) = _
  split
  next => exact h _ _
  next => exact h _ _

/-- The items of a node pattern are read, after a field or not, if they may stand there and a pattern comes first after a field. -/
theorem nodeItems_eq_ok_iff {items : List Literal}
    (hitems : ∀ item ∈ items, (∃ r, ofLiteral item = .ok r) ↔ item.IsPattern) {head : Head} {captures : List String}
    {children : List (Option String × Pattern)} {predicates : List Predicate} {field : Option String} :
    (∃ r, nodeItems head captures children predicates field items = .ok r) ↔
      (field.isSome → ∃ next rest, items = next :: rest ∧ next.IsPattern) ∧ NodeElements items := by
  induction items generalizing captures children predicates field with
  | nil =>
    cases field with
    | none => exact ⟨fun _ => ⟨nofun, nodeElements_nil⟩, fun _ => ⟨_, rfl⟩⟩
    | some name =>
      constructor
      · rintro ⟨r, hread⟩
        cases hread
      · rintro ⟨hnext, -⟩
        obtain ⟨next, rest, hrest, -⟩ := hnext rfl
        cases hrest
  | cons item items ih =>
    rw [List.forall_mem_cons] at hitems
    obtain ⟨hitem, hitems⟩ := hitems
    rw [nodeElements_cons_iff]
    constructor
    · rintro ⟨r, hread⟩
      rcases nodeItems_cons_ok hread with ⟨name, rfl, hne, rfl, hrest⟩ | ⟨name, -, hfield, rfl, hrest⟩ |
        ⟨operator, operands, p, hpredicate, rfl, hp, hrest⟩ | ⟨pattern, more, hpattern, hrest⟩
      · obtain ⟨-, hrest⟩ := (ih hitems).1 ⟨r, hrest⟩
        exact ⟨nofun, .capture hne, hrest⟩
      · obtain ⟨hnext, hrest⟩ := (ih hitems).1 ⟨r, hrest⟩
        obtain ⟨next, rest, rfl, hpattern⟩ := hnext rfl
        obtain ⟨hne, rfl⟩ := field?_eq_some_iff.1 hfield
        exact ⟨nofun, .field hne hpattern, hrest⟩
      · obtain ⟨-, hrest⟩ := (ih hitems).1 ⟨r, hrest⟩
        exact ⟨nofun, .predicate (isPredicate_of_read hpredicate hp), hrest⟩
      · obtain ⟨-, hrest⟩ := (ih hitems).1 ⟨r, hrest⟩
        have hpattern := hitem.1 ⟨_, hpattern⟩
        exact ⟨fun _ => ⟨item, items, rfl, hpattern⟩, .pattern hpattern, hrest⟩
    · rintro ⟨hnext, helement, hrest⟩
      -- What is no pattern may only come when no field waits for one.
      have hnone : ¬item.IsPattern → field = none := by
        intro hno
        cases field with
        | none => rfl
        | some name =>
          obtain ⟨next, rest, hsame, hpattern⟩ := hnext rfl
          obtain ⟨rfl, -⟩ := List.cons.inj hsame
          exact absurd hpattern hno
      rcases isNodeElement_iff.1 helement with hpattern | ⟨name, hwritten⟩ | ⟨name, hne, rfl⟩ |
        ⟨name, next, rest, hne, rfl, rfl, hpattern⟩
      · obtain ⟨⟨pattern, more⟩, hread⟩ := hitem.2 hpattern
        rw [nodeItems_pattern hpattern.forms.1 hpattern.forms.2.1 hpattern.forms.2.2, hread]
        exact (ih hitems).2 ⟨nofun, hrest⟩
      · obtain rfl := hnone hwritten.not_isPattern
        obtain ⟨operator, operands, p, hpredicate, hp⟩ := exists_read_of_isPredicate hwritten
        rw [nodeItems_predicate hpredicate, hp]
        exact (ih hitems).2 ⟨nofun, hrest⟩
      · obtain rfl := hnone (not_isPattern_capture name)
        exact exists_nodeItems_capture hne fun _ _ => (ih hitems).2 ⟨nofun, hrest⟩
      · obtain rfl := hnone (not_isPattern_field hne)
        cases hcapture : (Literal.text (name ++ ":")).capture? with
        | none =>
          rw [nodeItems_field hcapture (field?_eq_some_iff.2 ⟨hne, rfl⟩)]
          exact (ih hitems).2 ⟨fun _ => ⟨next, rest, rfl, hpattern⟩, hrest⟩
        | some captured =>
          -- The text of a field may also be read as a capture.
          have hboth := capture?_eq_some_iff.1 hcapture
          rw [hboth]
          exact exists_nodeItems_capture (name_ne_of_field hne (Literal.text.inj hboth).symm) fun _ _ =>
            (ih hitems).2 ⟨nofun, hrest⟩

/-- A tuple is read as a node pattern: its head first, and then the items after it. -/
theorem ofLiteral_tuple_eq_ok_iff {items : List Literal} {r : Pattern × List Predicate} :
    ofLiteral (.tuple items) = .ok r ↔
      ¬PredicateShaped (.tuple items) ∧ ∃ first rest h, items = first :: rest ∧ head first = .ok h ∧
        nodeItems h [] [] [] none rest = .ok r := by
  rw [predicateShaped_iff, ofLiteral]
  split
  next hshape => exact ⟨nofun, fun ⟨hno, _⟩ => absurd hshape hno⟩
  next hshape =>
    cases items with
    | nil => exact ⟨nofun, fun ⟨_, _, _, _, hitems, _⟩ => nomatch hitems⟩
    | cons first rest =>
      rw [nodeOf, bind_eq_ok_iff]
      constructor
      · rintro ⟨h, hh, hrest⟩
        exact ⟨hshape, first, rest, h, rfl, hh, hrest⟩
      · rintro ⟨-, first', rest', h, hitems, hh, hrest⟩
        obtain ⟨rfl, rfl⟩ := List.cons.inj hitems
        exact ⟨h, hh, hrest⟩

/-- A literal is read if it is a pattern. -/
theorem ofLiteral_eq_ok_iff (l : Literal) : (∃ r, ofLiteral l = .ok r) ↔ l.IsPattern := by
  induction l using Literal.elements_induction with | step l ih
  cases l with
  | text value =>
    rw [isPattern_text_iff, ← headOfText_eq_ok_iff, ofLiteral]
    simp only [bind_eq_ok_iff]
    constructor
    · rintro ⟨r, h, hh, -⟩
      exact ⟨h, hh⟩
    · rintro ⟨h, hh⟩
      exact ⟨_, h, hh, rfl⟩
  | set members =>
    rw [isPattern_set_iff, ← head_eq_ok_iff, ofLiteral]
    simp only [bind_eq_ok_iff]
    constructor
    · rintro ⟨r, h, hh, -⟩
      exact ⟨h, hh⟩
    · rintro ⟨h, hh⟩
      exact ⟨_, h, hh, rfl⟩
  | list items =>
    have hitems : ∀ item ∈ items, (∃ r, ofLiteral item = .ok r) ↔ item.IsPattern := ih
    rw [ofLiteral, choiceItems_eq_ok_iff hitems .nil, isPattern_list_iff]
    rfl
  | tuple items =>
    rw [isPattern_tuple_iff]
    simp only [ofLiteral_tuple_eq_ok_iff]
    constructor
    · rintro ⟨r, hshape, first, rest, h, rfl, hh, hrest⟩
      have hitems := fun item hitem => ih item (List.mem_cons_of_mem first hitem)
      exact ⟨hshape, first, rest, rfl, head_eq_ok_iff.1 ⟨h, hh⟩, ((nodeItems_eq_ok_iff hitems).1 ⟨r, hrest⟩).2⟩
    · rintro ⟨hshape, first, rest, rfl, hhead, elements⟩
      have hitems := fun item hitem => ih item (List.mem_cons_of_mem first hitem)
      obtain ⟨h, hh⟩ := head_eq_ok_iff.2 hhead
      obtain ⟨r, hrest⟩ : ∃ r, nodeItems h [] [] [] none rest = .ok r := (nodeItems_eq_ok_iff hitems).2 ⟨nofun, elements⟩
      exact ⟨r, hshape, first, rest, h, rfl, hh, hrest⟩
  | _ =>
    constructor
    · rintro ⟨r, hread⟩
      simp [ofLiteral] at hread
    · intro h
      cases h with
      | head h => cases h

/-! ## What is refused without a label -/

theorem oversized_of_memberNames {members : List Literal} {fault : PatternFault} (h : memberNames members = .error fault)
    (hbare : fault.isBare = true) : ∃ member ∈ members, member.Oversized := by
  induction members with
  | nil => cases h
  | cons member members ih =>
    rw [List.exists_mem_cons_iff]
    cases member with
    | text value =>
      rw [memberNames] at h
      split at h
      next =>
        obtain rfl := Except.error.inj h
        cases hbare
      next =>
        rcases bind_eq_error_iff.1 h with h | ⟨names, -, h⟩
        · exact .inr (ih h)
        · cases h
    | _ =>
      obtain rfl := Except.error.inj h
      exact .inl (PatternFault.oversized_of_ofShown (fun _ => rfl) hbare)

/-- Heads are refused with a label, unless they cannot be shown. -/
theorem oversized_of_head {l : Literal} {fault : PatternFault} (h : head l = .error fault) (hbare : fault.isBare = true) :
    l.Oversized := by
  cases l with
  | text value =>
    rw [head, headOfText] at h
    split at h
    next =>
      obtain rfl := Except.error.inj h
      cases hbare
    next =>
      split at h
      next =>
        obtain rfl := Except.error.inj h
        cases hbare
      next => cases h
  | set members =>
    cases members with
    | nil =>
      obtain rfl := Except.error.inj h
      cases hbare
    | cons member members =>
      rcases bind_eq_error_iff.1 h with h | ⟨names, -, h⟩
      · exact oversized_set_iff.2 (oversized_of_memberNames h hbare)
      · cases h
  | _ =>
    obtain rfl := Except.error.inj h
    exact PatternFault.oversized_of_ofShown (fun _ => rfl) hbare

theorem isBare_of_captureName {name : String} {fault : PatternFault} (h : captureName name = .error fault) :
    fault.isBare = false := by
  unfold captureName at h
  split at h
  next =>
    obtain rfl := Except.error.inj h
    rfl
  next => cases h

/-- What is refused without a label among the items of a choice is refused so in one of them. -/
theorem exists_beyond_of_choiceItems {items : List Literal} {fault : PatternFault} (hbare : fault.isBare = true)
    (hitems : ∀ item ∈ items, ofLiteral item = .error fault → item.Beyond) {found : List Pattern} {predicates : List Predicate}
    (h : choiceItems found predicates items = .error fault) : ∃ item ∈ items, item.Beyond := by
  induction items generalizing found predicates with
  | nil =>
    rw [choiceItems] at h
    split at h
    next =>
      obtain rfl := Except.error.inj h
      cases hbare
    next => cases h
  | cons item items ih =>
    rw [List.forall_mem_cons] at hitems
    rw [List.exists_mem_cons_iff]
    cases hcapture : item.capture? with
    | some name =>
      obtain rfl := capture?_eq_some_iff.1 hcapture
      rw [choiceItems_capture] at h
      split at h
      next =>
        obtain rfl := Except.error.inj h
        cases hbare
      next =>
        rcases bind_eq_error_iff.1 h with h | ⟨name, -, h⟩
        · rw [isBare_of_captureName h] at hbare
          cases hbare
        · exact .inr (ih hitems.2 h)
    | none =>
      cases hpredicate : item.predicate? with
      | some written =>
        obtain ⟨operator, operands⟩ := written
        rw [choiceItems_predicate hpredicate, bind_eq_error_iff] at h
        rcases h with h | ⟨p, -, h⟩
        · exact .inl (beyond_of_predicate hpredicate h hbare)
        · exact .inr (ih hitems.2 h)
      | none =>
        rw [choiceItems_pattern hcapture hpredicate, bind_eq_error_iff] at h
        rcases h with h | ⟨r, -, h⟩
        · exact .inl (hitems.1 h)
        · exact .inr (ih hitems.2 h)

/-- What is refused without a label among the items of a node pattern is refused so in one of them. -/
theorem exists_beyond_of_nodeItems {items : List Literal} {fault : PatternFault} (hbare : fault.isBare = true)
    (hitems : ∀ item ∈ items, ofLiteral item = .error fault → item.Beyond) {head : Head} {captures : List String}
    {children : List (Option String × Pattern)} {predicates : List Predicate} {field : Option String}
    (h : nodeItems head captures children predicates field items = .error fault) : ∃ item ∈ items, item.Beyond := by
  induction items generalizing captures children predicates field with
  | nil =>
    cases field with
    | some name =>
      obtain rfl := Except.error.inj h
      cases hbare
    | none => cases h
  | cons item items ih =>
    rw [List.forall_mem_cons] at hitems
    rw [List.exists_mem_cons_iff]
    by_cases hpattern : item.capture? = none ∧ item.field? = none ∧ item.predicate? = none
    · rw [nodeItems_pattern hpattern.1 hpattern.2.1 hpattern.2.2, bind_eq_error_iff] at h
      rcases h with h | ⟨r, -, h⟩
      · exact .inl (hitems.1 h)
      · exact .inr (ih hitems.2 h)
    · cases field with
      | some name => exact absurd (nodeItems_waiting h fun other hother => Except.error.inj hother ▸ hbare) hpattern
      | none =>
        cases hcapture : item.capture? with
        | some name =>
          obtain rfl := capture?_eq_some_iff.1 hcapture
          rw [nodeItems_capture] at h
          rcases bind_eq_error_iff.1 h with h | ⟨name, -, h⟩
          · rw [isBare_of_captureName h] at hbare
            cases hbare
          · split at h
            next => exact .inr (ih hitems.2 h)
            next => exact .inr (ih hitems.2 h)
        | none =>
          cases hfield : item.field? with
          | some name =>
            rw [nodeItems_field hcapture hfield] at h
            exact .inr (ih hitems.2 h)
          | none =>
            cases hpredicate : item.predicate? with
            | some written =>
              obtain ⟨operator, operands⟩ := written
              rw [nodeItems_predicate hpredicate, bind_eq_error_iff] at h
              rcases h with h | ⟨p, -, h⟩
              · exact .inl (beyond_of_predicate hpredicate h hbare)
              · exact .inr (ih hitems.2 h)
            | none => exact absurd ⟨hcapture, hfield, hpredicate⟩ hpattern

/-- A literal is refused without a label only for an expression that a predicate in it asks for, or for an integer in it that cannot be
written. -/
theorem beyond_of_ofLiteral (l : Literal) {fault : PatternFault} (hbare : fault.isBare = true) (h : ofLiteral l = .error fault) :
    l.Beyond := by
  induction l using Literal.elements_induction with | step l ih
  have hlabelled : ∀ {other : PatternFault}, other.isBare = false → fault ≠ other := by
    rintro other hother rfl
    rw [hother] at hbare
    cases hbare
  cases l with
  | text value =>
    rw [ofLiteral, bind_eq_error_iff] at h
    rcases h with h | ⟨head, -, h⟩
    · exact (oversized_of_head (l := .text value) h hbare).beyond
    · cases h
  | set members =>
    rw [ofLiteral, bind_eq_error_iff] at h
    rcases h with h | ⟨head, -, h⟩
    · exact (oversized_of_head h hbare).beyond
    · cases h
  | list items =>
    rw [ofLiteral] at h
    obtain ⟨item, hitem, hbeyond⟩ := exists_beyond_of_choiceItems hbare ih h
    exact hbeyond.choice hitem
  | tuple items =>
    rw [ofLiteral] at h
    split at h
    next => exact absurd (Except.error.inj h).symm (hlabelled rfl)
    next hshape =>
      rw [← predicateShaped_iff] at hshape
      cases items with
      | nil => exact absurd (Except.error.inj h).symm (hlabelled rfl)
      | cons first rest =>
        rcases bind_eq_error_iff.1 h with h | ⟨head, -, h⟩
        · exact (Oversized.tuple List.mem_cons_self (oversized_of_head h hbare)).beyond
        · have hitems := fun item hitem => ih item (List.mem_cons_of_mem first hitem)
          obtain ⟨item, hitem, hbeyond⟩ := exists_beyond_of_nodeItems hbare hitems h
          exact hbeyond.node hshape hitem
  | _ =>
    obtain rfl := Except.error.inj h
    exact (PatternFault.oversized_of_ofShown (fun _ => rfl) hbare).beyond

end Pattern

end AwkEdit
