import AwkEdit.Proofs.Pattern.Derivation

/-!
# Patterns whose tests never fail

A test may fail on some texts. Calmed, it gives some answer there instead, and the same answers as before everywhere else. So a
calmed pattern never fails, and wherever the pattern itself does not fail either, both find the same matches. Where the pattern
does fail, the calmed one shows what it would have found had its tests answered.
-/

namespace AwkEdit

/-- What tests answer to the texts that they fail on. -/
abbrev Answers : Type := TextTest → String → Bool

/-- The test that answers where this one fails. -/
def TextTest.calmed (answers : Answers) (t : TextTest) : TextTest :=
  .passes fun text =>
    match t.holds text with
    | .ok answer => .ok answer
    | .error _ => .ok (answers t text)

/-- The predicate with its test calmed. -/
def Predicate.calmed (answers : Answers) (p : Predicate) : Predicate := { p with test := p.test.calmed answers }

/-- The pattern with all its tests calmed. -/
def CompiledPattern.calmed (answers : Answers) (p : CompiledPattern) : CompiledPattern :=
  { p with predicates := p.predicates.map (·.calmed answers) }

variable {answers : Answers} {source : Source}

/-! ## Tests -/

namespace TextTest

/-- A calmed test always answers. -/
theorem exists_holds_calmed (answers : Answers) (t : TextTest) (text : String) : ∃ b, (t.calmed answers).holds text = .ok b := by
  rw [calmed, holds]
  split
  · exact ⟨_, rfl⟩
  · exact ⟨_, rfl⟩

/-- It gives the answers of the test. -/
theorem holds_calmed {t : TextTest} {text : String} {b : Bool} (h : t.holds text = .ok b) :
    (t.calmed answers).holds text = .ok b := by
  rw [calmed, holds, h]

end TextTest

/-! ## Predicates -/

namespace Predicate

variable {cs : List Capture} {b : Bool}

/-- A calmed predicate always decides. -/
theorem exists_holds_calmed (answers : Answers) (source : Source) (p : Predicate) (cs : List Capture) :
    ∃ b, (p.calmed answers).holds source cs = .ok b :=
  exists_holds fun _ _ _ => p.test.exists_holds_calmed answers _

/-- It decides as the predicate does. -/
theorem holds_calmed {p : Predicate} (h : p.holds source cs = .ok b) : (p.calmed answers).holds source cs = .ok b := by
  induction cs with
  | nil => exact h
  | cons c cs ih =>
    rw [holds] at h ⊢
    by_cases hname : c.name = p.capture
    · rw [if_pos hname] at h
      rw [if_pos (show c.name = (p.calmed answers).capture from hname)]
      cases htest : p.test.holds (source.text c.place.node.start c.place.node.stop) with
      | error e =>
        rw [htest] at h
        cases h
      | ok passed =>
        have hcalm : (p.calmed answers).test.holds (source.text c.place.node.start c.place.node.stop) = .ok passed :=
          TextTest.holds_calmed htest
        rw [htest] at h
        rw [hcalm]
        cases passed with
        | true => exact ih h
        | false => exact h
    · rw [if_neg hname] at h
      rw [if_neg (show ¬c.name = (p.calmed answers).capture from hname)]
      exact ih h

/-- Several calmed predicates decide as the predicates do. -/
theorem allHold_calmed {ps : List Predicate} (h : allHold source cs ps = .ok b) :
    allHold source cs (ps.map (·.calmed answers)) = .ok b := by
  induction ps with
  | nil => exact h
  | cons p ps ih =>
    rw [allHold] at h
    rw [List.map_cons, allHold]
    cases hfirst : p.holds source cs with
    | error e =>
      rw [hfirst] at h
      cases h
    | ok held =>
      rw [hfirst] at h
      rw [holds_calmed hfirst]
      cases held with
      | true => exact ih h
      | false => exact h

end Predicate

/-! ## Enumerations -/

namespace Enumeration

variable {ε α β : Type}

/-- Tests that agree wherever the first one does not fail keep the same, as long as it does not fail on the way. -/
theorem keep_congr {test other : α → Except ε Bool} (hagree : ∀ a b, test a = .ok b → other a = .ok b) {as : List α}
    (h : (keep test as).failure = Option.none) : keep other as = keep test as := by
  induction as with
  | nil => rfl
  | cons a as ih =>
    rw [keep] at h ⊢
    rw [keep]
    cases htest : test a with
    | error e =>
      rw [htest] at h
      cases h
    | ok b =>
      rw [htest] at h
      rw [hagree a b htest]
      cases b with
      | true =>
        have hrest := ih h
        simp only [hrest]
      | false => exact ih h

/-- Enumerations one after another do not fail when none of them does. -/
theorem failure_join {f : α → Enumeration ε β} {as : List α} (h : ∀ a ∈ as, (f a).failure = Option.none) :
    (join f as).failure = Option.none := by
  induction as with
  | nil => rfl
  | cons a as ih =>
    rw [List.forall_mem_cons] at h
    simp only [join, append, h.1, Option.isSome_none, Bool.false_eq_true, if_false]
    exact ih h.2

/-- Enumerations that are the same wherever the first ones do not fail are the same one after another, as long as none of the
first ones fails. -/
theorem join_congr {f g : α → Enumeration ε β} (hagree : ∀ a, (f a).failure = Option.none → g a = f a) {as : List α}
    (h : (join f as).failure = Option.none) : join g as = join f as := by
  induction as with
  | nil => rfl
  | cons a as ih =>
    cases hfirst : (f a).failure with
    | some e =>
      simp only [join, hfirst, Option.isSome_some, if_true] at h
      cases h
    | none =>
      simp only [join, append, hfirst, Option.isSome_none, Bool.false_eq_true, if_false] at h
      have hrest := ih h
      simp only [join, hagree a hfirst, hrest]

end Enumeration

/-! ## Patterns -/

namespace CompiledPattern

variable {p : CompiledPattern} {place : Place}

/-- A calmed pattern does not fail at a place. -/
theorem failure_matchesAt_calmed (answers : Answers) (source : Source) (p : CompiledPattern) (place : Place) :
    ((p.calmed answers).matchesAt source place).failure = none := by
  rw [matchesAt_eq_bareMatches, bareMatches, Enumeration.failure_map]
  refine Enumeration.failure_keep fun cs _ => Predicate.exists_allHold fun q hq => ?_
  obtain ⟨q, -, rfl⟩ := List.mem_map.1 hq
  exact q.exists_holds_calmed answers source cs

/-- Where a pattern does not fail it finds what it finds calmed. -/
theorem matchesAt_calmed (answers : Answers) (h : (p.matchesAt source place).failure = none) :
    (p.calmed answers).matchesAt source place = p.matchesAt source place := by
  rw [matchesAt_eq_bareMatches, bareMatches, Enumeration.failure_map] at h
  rw [matchesAt_eq_bareMatches, matchesAt_eq_bareMatches, bareMatches, bareMatches]
  have hagree : ∀ cs b, p.admits source cs = .ok b → (p.calmed answers).admits source cs = .ok b :=
    fun _ _ hadmits => Predicate.allHold_calmed hadmits
  have hkeep := Enumeration.keep_congr hagree h
  change (Enumeration.keep ((p.calmed answers).admits source) (p.root.bindings place)).map _ = _
  rw [hkeep]

/-- A calmed pattern does not fail in a subtree. -/
theorem failure_sweep_calmed (answers : Answers) (source : Source) (p : CompiledPattern) (place : Place) :
    ((p.calmed answers).sweep source place).failure = none :=
  Enumeration.failure_join fun q _ => failure_matchesAt_calmed answers source p q

/-- Where a pattern does not fail in a subtree it finds there what it finds calmed. -/
theorem sweep_calmed (answers : Answers) (h : (p.sweep source place).failure = none) :
    (p.calmed answers).sweep source place = p.sweep source place :=
  Enumeration.join_congr (fun _ hplace => matchesAt_calmed answers hplace) h

end CompiledPattern

end AwkEdit
