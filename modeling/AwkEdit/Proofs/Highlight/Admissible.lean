import AwkEdit.Proofs.Highlight.Says
import AwkEdit.Proofs.Pattern.Compiled
import Mathlib.Data.List.Nodup

/-!
# Specifications that rules are built from

Composite actions are compiled one after another, then the rules of the features, numbered through. What each step comes to is said
by one kind of statement: it accepts what it should and makes something good of it, and what it refuses is refused with a fault of
its own, unless a pattern asks for a regular expression that cannot be had or has an integer of too many digits in it
(`HighlightRules.Outcome`). The outcomes of steps one after another add up, so rules are built from the admissible specifications and
from no others (`HighlightRules.build_outcome`).
-/

namespace AwkEdit

/-! ## Outcomes -/

/-- Whether a refusal is reported as it is, without the label of a rule: a regular expression cannot be had, or an integer has too many
digits. -/
def HighlightError.isBare : HighlightError → Bool
  | .pattern e => e.fault.isBare
  | _ => false

namespace HighlightRules

/-- What a step of building comes to: what it accepts is what should be accepted, and it makes something good of it; what it
refuses should not be accepted, and it has a fault of its own unless something in it is beyond reach. -/
inductive Outcome {α : Type} (accepted beyond : Prop) (good : α → Prop) : Except HighlightError α → Prop
  | ok {a : α} : accepted → good a → Outcome accepted beyond good (.ok a)
  | error {e : HighlightError} : ¬accepted → (e.isBare = true → beyond) → Outcome accepted beyond good (.error e)

namespace Outcome

variable {α β : Type} {accepted accepted' beyond beyond' : Prop} {good : α → Prop} {good' : β → Prop} {x : Except HighlightError α}

/-- The same said in other words. -/
theorem imp (h : Outcome accepted beyond good x) (haccepted : accepted ↔ accepted') (hbeyond : beyond → beyond') :
    Outcome accepted' beyond' good x := by
  cases h with
  | ok h ha => exact .ok (haccepted.1 h) ha
  | error h he => exact .error (mt haccepted.2 h) (hbeyond ∘ he)

theorem map {f : α → β} (h : Outcome accepted beyond good x) (hf : ∀ a, good a → good' (f a)) :
    Outcome accepted beyond good' (x.map f) := by
  cases h with
  | ok h ha => exact .ok h (hf _ ha)
  | error h he => exact .error h he

/-- Steps one after another. -/
theorem bind {f : α → Except HighlightError β} (h : Outcome accepted beyond good x)
    (hf : ∀ a, good a → Outcome accepted' beyond' good' (f a)) :
    Outcome (accepted ∧ accepted') (beyond ∨ beyond') good' (x.bind f) := by
  cases h with
  | ok h ha => exact (hf _ ha).imp (by rw [and_iff_right h]) .inr
  | error h he => exact .error (fun hboth => h hboth.1) (.inl ∘ he)

/-- Of what a step makes it may be said that the step makes it. -/
theorem self (h : Outcome accepted beyond good x) : Outcome accepted beyond (fun a => x = .ok a ∧ good a) x := by
  cases h with
  | ok h ha => exact .ok h ⟨rfl, ha⟩
  | error h he => exact .error h he

/-- A step accepts what it should, what it refuses it refuses with a fault of its own unless something is beyond reach, and what
it makes is good. -/
theorem spec (h : Outcome accepted beyond good x) :
    ((∃ a, x = .ok a) ↔ accepted) ∧ (∀ e, x = .error e → e.isBare = true → beyond) ∧ ∀ a, x = .ok a → good a := by
  cases h with
  | ok h ha =>
    refine ⟨iff_of_true ⟨_, rfl⟩ h, nofun, fun a hx => ?_⟩
    obtain rfl := Except.ok.inj hx
    exact ha
  | error h he =>
    refine ⟨iff_of_false (fun hx => ?_) h, fun e hx => ?_, nofun⟩
    · obtain ⟨a, hx⟩ := hx
      cases hx
    · obtain rfl := Except.error.inj hx
      exact he

end Outcome

/-! ## What captures stand for -/

section captures

variable {α : Type} (emit : Classification → α) (resolve : String → Except PatternFault α)

/-- What a capture stands for. -/
def meaning (capture : String) : Except PatternFault α :=
  match Classification.ofName? capture with
  | some c => .ok (emit c)
  | none => resolve capture

variable {emit resolve}

theorem resolveAll_cons (capture : String) (captures : List String) :
    resolveAll emit resolve (capture :: captures) =
      if isPrivate capture then resolveAll emit resolve captures
      else (meaning emit resolve capture).bind fun a => (resolveAll emit resolve captures).map ((capture, a) :: ·) := by
  rw [resolveAll, meaning]
  cases Classification.ofName? capture <;> rfl

/-- Captures are resolved to what they stand for, those apart that are for matching only, or one of them stands for nothing. -/
theorem resolveAll_cases (captures : List String) :
    (∃ actions, resolveAll emit resolve captures = .ok actions ∧ actions.map (·.1) = captures.filter (!isPrivate ·) ∧
      ∀ entry ∈ actions, meaning emit resolve entry.1 = .ok entry.2) ∨
    ∃ fault, resolveAll emit resolve captures = .error fault ∧
      ∃ capture ∈ captures, isPrivate capture = false ∧ meaning emit resolve capture = .error fault := by
  induction captures with
  | nil => exact .inl ⟨[], rfl, rfl, List.forall_mem_nil _⟩
  | cons capture captures ih =>
    rw [resolveAll_cons]
    cases hprivate : isPrivate capture with
    | true =>
      rw [if_pos rfl, List.filter_cons_of_neg (by rw [hprivate]; decide)]
      refine ih.imp_right ?_
      rintro ⟨fault, hfault, other, hother, h⟩
      exact ⟨fault, hfault, other, List.mem_cons_of_mem _ hother, h⟩
    | false =>
      rw [if_neg Bool.false_ne_true, List.filter_cons_of_pos (by rw [hprivate]; rfl)]
      cases hmeaning : meaning emit resolve capture with
      | error fault => exact .inr ⟨fault, rfl, capture, List.mem_cons_self, hprivate, hmeaning⟩
      | ok a =>
        rcases ih with ⟨actions, hactions, hnames, hmeans⟩ | ⟨fault, hfault, other, hother, h⟩
        · refine .inl ⟨(capture, a) :: actions, ?_, ?_, List.forall_mem_cons.2 ⟨hmeaning, hmeans⟩⟩
          · rw [hactions]
            rfl
          · rw [List.map_cons, hnames]
        · refine .inr ⟨fault, ?_, other, List.mem_cons_of_mem _ hother, h⟩
          rw [hfault]
          rfl

/-- The actions of a pattern: there is one at least, the captures that are not for matching only have them, and they are what the
captures stand for. -/
structure Settled (emit : Classification → α) (resolve : String → Except PatternFault α) (pattern : CompiledPattern)
    (actions : List (String × α)) : Prop where
  some : actions ≠ []
  named : actions.map (·.1) = pattern.captureNames.filter (!isPrivate ·)
  means : ∀ entry ∈ actions, meaning emit resolve entry.1 = .ok entry.2

/-- Every capture is for matching only or has an action, which is what it stands for. -/
theorem Settled.lookup {pattern : CompiledPattern} {actions : List (String × α)} (h : Settled emit resolve pattern actions)
    {capture : String} (hcapture : capture ∈ pattern.captureNames) :
    isPrivate capture = true ∨ ∃ a, actions.lookup capture = Option.some a ∧ meaning emit resolve capture = .ok a := by
  cases hprivate : isPrivate capture with
  | true => exact .inl rfl
  | false =>
    have hnamed : capture ∈ actions.map (·.1) := by
      rw [h.named, List.mem_filter, hprivate]
      exact ⟨hcapture, rfl⟩
    obtain ⟨entry, hentry, rfl⟩ := List.mem_map.1 hnamed
    obtain ⟨a, ha⟩ := Option.isSome_iff_exists.1 (List.lookup_isSome_iff.2 ⟨entry, hentry, BEq.rfl⟩)
    exact .inr ⟨a, ha, h.means _ (HighlightRule.mem_of_lookup ha)⟩

/-- The captures stand for something, where `more` names what is no classification, and one of them is not for matching only. -/
structure Answered (more : List String) (captures : String → Prop) : Prop where
  known : ∀ capture, captures capture → isPrivate capture = true ∨ (Classification.ofName? capture).isSome ∨ capture ∈ more
  some : ∃ capture, captures capture ∧ isPrivate capture = false

/-- What is known to name something besides the classifications. -/
structure Knows (resolve : String → Except PatternFault α) (more : List String) : Prop where
  exists_iff : ∀ capture, Classification.ofName? capture = none → ((∃ a, resolve capture = .ok a) ↔ capture ∈ more)
  labelled : ∀ capture fault, resolve capture = .error fault → fault.isBare = false

theorem Knows.exists_meaning_iff {more : List String} (h : Knows resolve more) {capture : String} :
    (∃ a, meaning emit resolve capture = .ok a) ↔ (Classification.ofName? capture).isSome ∨ capture ∈ more := by
  rw [meaning]
  cases hname : Classification.ofName? capture with
  | some c => simp
  | none => simpa using h.exists_iff capture hname

theorem Knows.isBare_of_meaning {more : List String} (h : Knows resolve more) {capture : String} {fault : PatternFault}
    (hfault : meaning emit resolve capture = .error fault) : fault.isBare = false := by
  rw [meaning] at hfault
  split at hfault
  next => cases hfault
  next => exact h.labelled capture fault hfault

/-- Actions of a pattern's captures. -/
theorem resolveActions_outcome {more : List String} (h : Knows resolve more) (pattern : CompiledPattern) :
    Outcome (Answered more (· ∈ pattern.captureNames)) False (Settled emit resolve pattern)
      ((resolveActions emit resolve pattern).mapError .pattern) := by
  unfold resolveActions
  rcases resolveAll_cases pattern.captureNames with
    ⟨actions, hactions, hnames, hmeans⟩ | ⟨fault, hfault, capture, hcapture, hprivate, hmeaning⟩
  · rw [hactions]
    cases actions with
    -- All captures are for matching only.
    | nil =>
      refine .error ?_ nofun
      rintro ⟨-, capture, hcapture, hprivate⟩
      rw [List.map_nil, eq_comm, List.filter_eq_nil_iff] at hnames
      have := hnames capture hcapture
      rw [hprivate] at this
      exact this rfl
    | cons first rest =>
      have hsettled : Settled emit resolve pattern (first :: rest) := ⟨List.cons_ne_nil _ _, hnames, hmeans⟩
      refine .ok ⟨fun capture hcapture => ?_, first.1, ?_⟩ hsettled
      · refine (hsettled.lookup hcapture).imp_right ?_
        rintro ⟨a, -, ha⟩
        exact h.exists_meaning_iff.1 ⟨a, ha⟩
      · have hfirst : first.1 ∈ pattern.captureNames.filter (!isPrivate ·) := by
          rw [← hnames]
          exact List.mem_cons_self
        simpa using hfirst
  · rw [hfault]
    refine .error ?_ fun hbare => ?_
    · rintro ⟨hknown, -⟩
      rcases hknown capture hcapture with h' | h'
      · rw [hprivate] at h'
        cases h'
      · obtain ⟨a, ha⟩ : ∃ a, meaning emit resolve capture = .ok a := h.exists_meaning_iff.2 h'
        rw [hmeaning] at ha
        cases ha
    · have hlabelled : (HighlightError.pattern ⟨pattern.label, fault⟩).isBare = false := h.isBare_of_meaning hmeaning
      rw [hlabelled] at hbare
      cases hbare

/-! ## Literals -/

/-- A literal is a pattern whose captures stand for something, where `more` names what is no classification, and one of them is not
for matching only. -/
structure Usable (more : List String) (l : Literal) : Prop where
  pattern : l.IsPattern
  closed : l.Closed
  answered : Answered more fun name => l.Holds (.text ("@" ++ name))

/-- The pattern of a literal and the actions of its captures. -/
def understand (emit : Classification → α) (resolve : String → Except PatternFault α) (label : String) (l : Literal) :
    Except HighlightError (CompiledPattern × List (String × α)) :=
  ((Pattern.compile (Option.some label) l).mapError HighlightError.pattern).bind fun pattern =>
    ((resolveActions emit resolve pattern).mapError HighlightError.pattern).map (pattern, ·)

theorem understand_bind {β : Type} (label : String) (l : Literal)
    (f : CompiledPattern × List (String × α) → Except HighlightError β) :
    (understand emit resolve label l).bind f =
      ((Pattern.compile (Option.some label) l).mapError HighlightError.pattern).bind fun pattern =>
        ((resolveActions emit resolve pattern).mapError HighlightError.pattern).bind fun actions => f (pattern, actions) := by
  rw [understand]
  cases (Pattern.compile (Option.some label) l).mapError HighlightError.pattern with
  | error e => rfl
  | ok pattern =>
    dsimp only [Except.bind]
    cases (resolveActions emit resolve pattern).mapError HighlightError.pattern <;> rfl

/-- A literal compiles if it is a pattern. -/
theorem compile_outcome (label : Option String) (l : Literal) :
    Outcome (l.IsPattern ∧ l.Closed) l.Beyond (fun p => ∀ name, name ∈ p.captureNames ↔ l.Holds (.text ("@" ++ name)))
      ((Pattern.compile label l).mapError .pattern) := by
  obtain ⟨haccepted, hrefused⟩ := Pattern.compile_grammar label l
  cases hcompile : Pattern.compile label l with
  | ok p => exact .ok (haccepted.1 ⟨p, hcompile⟩) (Pattern.mem_captureNames_of_compile hcompile)
  | error e =>
    refine .error (fun h => ?_) (hrefused e hcompile).2
    obtain ⟨p, hp⟩ := haccepted.2 h
    rw [hcompile] at hp
    cases hp

/-- A literal is understood if it is usable. -/
theorem understand_outcome {more : List String} (h : Knows resolve more) (label : String) (l : Literal) :
    Outcome (Usable more l) l.Beyond (fun r => Settled emit resolve r.1 r.2) (understand emit resolve label l) := by
  have hactions (p : CompiledPattern) (hp : ∀ name, name ∈ p.captureNames ↔ l.Holds (.text ("@" ++ name))) :
      Outcome (Answered more fun name => l.Holds (.text ("@" ++ name))) False (fun r => Settled emit resolve r.1 r.2)
        (((resolveActions emit resolve p).mapError HighlightError.pattern).map (p, ·)) := by
    have hcaptures : (· ∈ p.captureNames) = fun name => l.Holds (.text ("@" ++ name)) := funext fun name => propext (hp name)
    rw [← hcaptures]
    exact (resolveActions_outcome h p).map fun _ ha => ha
  refine ((compile_outcome _ l).bind hactions).imp ?_ (Or.elim · id False.elim)
  constructor
  · rintro ⟨⟨hpattern, hclosed⟩, hanswered⟩
    exact ⟨hpattern, hclosed, hanswered⟩
  · rintro ⟨hpattern, hclosed, hanswered⟩
    exact ⟨⟨hpattern, hclosed⟩, hanswered⟩

end captures

/-! ## Composite actions -/

/-- The captures of the secondary pattern are for matching only or emit the classification of their name. -/
structure Plain (c : Composite) : Prop where
  emits : ∀ name ∈ c.secondary.captureNames, isPrivate name = true ∨ ∃ cls, c.emits.lookup name = some cls
  classified : ∀ entry ∈ c.emits, Classification.ofName? entry.1 = some entry.2

/-- What a capture of a secondary pattern stands for if it is no classification: nothing. -/
def resolveNested (declared : List String) (capture : String) : Except PatternFault Classification :=
  .error (if declared.contains capture then .nestedComposite capture else .unclassified capture)

theorem knows_nested (declared : List String) : Knows (resolveNested declared) [] where
  exists_iff capture _ := by simp [resolveNested]
  labelled capture fault h := by
    obtain rfl := Except.error.inj h
    split <;> rfl

theorem plain_of_settled {declared : List String} {c : Composite}
    (h : Settled id (resolveNested declared) c.secondary c.emits) : Plain c where
  emits name hname := by
    refine (h.lookup hname).imp_right ?_
    rintro ⟨cls, hcls, -⟩
    exact ⟨cls, hcls⟩
  classified entry hentry := by
    have hmeaning := h.means entry hentry
    rw [meaning] at hmeaning
    split at hmeaning
    next cls hcls => rw [hcls, ← Except.ok.inj hmeaning, id]
    next => cases hmeaning

theorem compileComposites_cons (declared : List String) (done : List Composite) (spec : CompositeSpec)
    (specs : List CompositeSpec) :
    compileComposites declared done (spec :: specs) =
      if done.any (·.name == spec.name) then .error (.duplicateComposite spec.name)
      else if (Classification.ofName? spec.name).isSome then .error (.shadowingComposite spec.name)
      else (understand id (resolveNested declared) (compositeLabel spec.name) spec.secondary).bind fun r =>
        compileComposites declared (done ++ [⟨spec.name, r.1, r.2, spec.classification⟩]) specs := by
  rw [understand_bind, compileComposites]
  split
  · rfl
  · split <;> rfl

/-- Composite actions may be compiled after others of the names in `done`. -/
structure Composable (done : List String) (specs : List CompositeSpec) : Prop where
  distinct : (done ++ specs.map (·.name)).Nodup
  unclassified : ∀ spec ∈ specs, Classification.ofName? spec.name = none
  usable : ∀ spec ∈ specs, Usable [] spec.secondary

theorem composable_cons_iff {done : List String} {spec : CompositeSpec} {specs : List CompositeSpec} :
    Composable done (spec :: specs) ↔
      Classification.ofName? spec.name = none ∧ Usable [] spec.secondary ∧ Composable (done ++ [spec.name]) specs := by
  have hnames : done ++ (spec :: specs).map (·.name) = done ++ [spec.name] ++ specs.map (·.name) := by simp
  constructor
  · rintro ⟨hdistinct, hunclassified, husable⟩
    rw [List.forall_mem_cons] at hunclassified husable
    exact ⟨hunclassified.1, husable.1, hnames ▸ hdistinct, hunclassified.2, husable.2⟩
  · rintro ⟨hunclassified, husable, hdistinct, hrest, hrest'⟩
    exact ⟨hnames ▸ hdistinct, List.forall_mem_cons.2 ⟨hunclassified, hrest⟩, List.forall_mem_cons.2 ⟨husable, hrest'⟩⟩

theorem Composable.not_mem {done : List String} {name : String} {specs : List CompositeSpec}
    (h : Composable (done ++ [name]) specs) : name ∉ done := by
  have hdistinct := (List.nodup_append.1 h.distinct).1
  rw [← List.concat_eq_append, List.nodup_concat] at hdistinct
  exact hdistinct.1

/-- Composite actions are compiled if they are composable, and their captures then stand for classifications. -/
theorem compileComposites_outcome (declared : List String) (specs : List CompositeSpec) {done : List Composite}
    (hdistinct : (done.map (·.name)).Nodup) (hplain : ∀ c ∈ done, Plain c) :
    Outcome (Composable (done.map (·.name)) specs) (∃ spec ∈ specs, spec.secondary.Beyond)
      (fun cs => cs.map (·.name) = done.map (·.name) ++ specs.map (·.name) ∧ ∀ c ∈ cs, Plain c)
      (compileComposites declared done specs) := by
  induction specs generalizing done with
  | nil =>
    refine .ok ⟨?_, List.forall_mem_nil _, List.forall_mem_nil _⟩ ⟨(List.append_nil _).symm, hplain⟩
    rwa [List.map_nil, List.append_nil]
  | cons spec specs ih =>
    rw [compileComposites_cons, composable_cons_iff]
    split
    next hduplicate =>
      refine .error (fun h => h.2.2.not_mem ?_) nofun
      simpa using hduplicate
    next hnew =>
      split
      next hshadows =>
        refine .error (fun h => ?_) nofun
        rw [h.1] at hshadows
        cases hshadows
      next hname =>
        have hrest (r : CompiledPattern × List (String × Classification))
            (hr : Settled id (resolveNested declared) r.1 r.2) :
            Outcome (Composable (done.map (·.name) ++ [spec.name]) specs) (∃ spec ∈ specs, spec.secondary.Beyond)
              (fun cs => cs.map (·.name) = done.map (·.name) ++ spec.name :: specs.map (·.name) ∧ ∀ c ∈ cs, Plain c)
              (compileComposites declared (done ++ [⟨spec.name, r.1, r.2, spec.classification⟩]) specs) := by
          have hdistinct' : ((done ++ [(⟨spec.name, r.1, r.2, spec.classification⟩ : Composite)]).map (·.name)).Nodup := by
            rw [List.map_append, List.map_singleton, ← List.concat_eq_append, List.nodup_concat]
            exact ⟨by simpa using hnew, hdistinct⟩
          have h := ih hdistinct' (List.forall_mem_append.2 ⟨hplain, List.forall_mem_singleton.2 (plain_of_settled hr)⟩)
          simpa using h
        refine ((understand_outcome (knows_nested declared) _ _).bind hrest).imp ?_ ?_
        · rw [Option.not_isSome_iff_eq_none] at hname
          rw [and_iff_right hname]
        · rw [List.exists_mem_cons_iff]
          exact id

/-! ## Rules -/

/-- What a capture of a rule stands for if it is no classification: the composite action of its name. -/
def resolveComposite (composites : List Composite) (capture : String) : Except PatternFault Action :=
  match composites.find? (·.name == capture) with
  | some c => .ok (.composite c)
  | none => .error (.unclassified capture)

theorem knows_composites (composites : List Composite) : Knows (resolveComposite composites) (composites.map (·.name)) where
  exists_iff capture _ := by
    rw [resolveComposite]
    split
    next c hc =>
      refine iff_of_true ⟨_, rfl⟩ (List.mem_map.2 ⟨c, List.mem_of_find?_eq_some hc, ?_⟩)
      simpa using List.find?_some hc
    next hnone => simpa using hnone
  labelled capture fault h := by
    rw [resolveComposite] at h
    split at h
    next => cases h
    next =>
      obtain rfl := Except.error.inj h
      rfl

theorem compileRule_eq (composites : List Composite) (feature : FeatureSpec) (name : String) (order : Nat) (spec : RuleSpec) :
    compileRule composites feature name order spec =
      (understand .emit (resolveComposite composites) (ruleLabel name order) spec.pattern).bind fun r =>
        .ok ⟨r.1, r.2, order, name, spec.override.getD feature.override⟩ := by
  rw [understand_bind]
  rfl

/-- A rule is compiled if its pattern is usable. -/
theorem compileRule_outcome (composites : List Composite) (feature : FeatureSpec) (name : String) (order : Nat)
    (spec : RuleSpec) :
    Outcome (Usable (composites.map (·.name)) spec.pattern) spec.pattern.Beyond
      (fun r => r.order = order ∧ r.override = spec.override.getD feature.override ∧ r.feature = name ∧
        Settled .emit (resolveComposite composites) r.pattern r.actions)
      (compileRule composites feature name order spec) := by
  rw [compileRule_eq]
  refine ((understand_outcome (knows_composites composites) _ _).bind fun r hr => ?_).imp (and_iff_left trivial)
    (Or.elim · id False.elim)
  exact .ok trivial ⟨rfl, rfl, rfl, hr⟩

theorem compileRules_cons (composites : List Composite) (known : Option (List String)) (feature : FeatureSpec) (name : String)
    (order : Nat) (spec : RuleSpec) (specs : List RuleSpec) :
    (compileRules composites known feature name order (spec :: specs)).2 =
      (compileRule composites feature name order spec).bind fun rule =>
        (compileRules composites known feature name (order + 1) specs).2.map (rule :: ·) := by
  rw [compileRules]
  cases compileRule composites feature name order spec <;> rfl

/-- Rules of a feature: they are numbered from `order` on and override as their specifications or the feature say, and each has the
actions of its captures. -/
structure Numbered (composites : List Composite) (feature : FeatureSpec) (name : String) (order : Nat) (specs : List RuleSpec)
    (rules : List HighlightRule) : Prop where
  orders : rules.map (·.order) = List.range' order specs.length
  overrides : rules.map (·.override) = specs.map fun spec => spec.override.getD feature.override
  named : ∀ r ∈ rules, r.feature = name
  settled : ∀ r ∈ rules, Settled .emit (resolveComposite composites) r.pattern r.actions

/-- The rules of a feature are compiled if their patterns are usable. -/
theorem compileRules_outcome (composites : List Composite) (known : Option (List String)) (feature : FeatureSpec) (name : String)
    (order : Nat) (specs : List RuleSpec) :
    Outcome (∀ spec ∈ specs, Usable (composites.map (·.name)) spec.pattern) (∃ spec ∈ specs, spec.pattern.Beyond)
      (Numbered composites feature name order specs) (compileRules composites known feature name order specs).2 := by
  induction specs generalizing order with
  | nil => exact .ok (List.forall_mem_nil _) ⟨rfl, rfl, List.forall_mem_nil _, List.forall_mem_nil _⟩
  | cons spec specs ih =>
    rw [compileRules_cons, List.forall_mem_cons, List.exists_mem_cons_iff]
    refine (compileRule_outcome composites feature name order spec).bind fun rule hrule => ?_
    obtain ⟨horder, hoverride, hnamed, hsettled⟩ := hrule
    refine (ih (order + 1)).map fun rules hrules => ⟨?_, ?_, ?_, ?_⟩
    · rw [List.map_cons, horder, hrules.orders, List.length_cons, List.range'_succ]
    · rw [List.map_cons, hoverride, hrules.overrides, List.map_cons]
    · exact List.forall_mem_cons.2 ⟨hnamed, hrules.named⟩
    · exact List.forall_mem_cons.2 ⟨hsettled, hrules.settled⟩

/-! ## Features -/

theorem compileFeatures_cons (composites : List Composite) (known : Option (List String)) (seen : List String) (order : Nat)
    (spec : FeatureSpec) (specs : List FeatureSpec) :
    (compileFeatures composites known seen order (spec :: specs)).2 =
      match featureFault? seen spec with
      | some e => .error e
      | none =>
        (compileRules composites known spec (Text.trimBlank spec.name) order spec.rules).2.bind fun rules =>
          (compileFeatures composites known (seen ++ [Text.trimBlank spec.name]) (order + rules.length) specs).2.map
            (groupOf (Text.trimBlank spec.name) spec.level rules :: ·) := by
  rw [compileFeatures]
  cases featureFault? seen spec with
  | some e => rfl
  | none =>
    dsimp only
    generalize compileRules composites known spec (Text.trimBlank spec.name) order spec.rules = built
    obtain ⟨events, rules⟩ := built
    cases rules <;> rfl

/-- A feature may be compiled, where `names` are those of the composite actions. -/
structure FeatureOk (names : List String) (spec : FeatureSpec) : Prop where
  named : Text.trimBlank spec.name ≠ ""
  level : 1 ≤ spec.level
  rules : spec.rules ≠ []
  usable : ∀ rule ∈ spec.rules, Usable names rule.pattern

/-- Nothing is wrong with a feature as a whole if it has a name that no feature before it has, a level and rules. -/
theorem featureFault?_cases (seen : List String) (spec : FeatureSpec) :
    (featureFault? seen spec = none ∧ Text.trimBlank spec.name ≠ "" ∧ Text.trimBlank spec.name ∉ seen ∧ 1 ≤ spec.level ∧
      spec.rules ≠ []) ∨
    ∃ e, featureFault? seen spec = some e ∧ e.isBare = false ∧
      (Text.trimBlank spec.name ≠ "" → Text.trimBlank spec.name ∉ seen → 1 ≤ spec.level → spec.rules = []) := by
  rw [featureFault?]
  split
  next hblank => exact .inr ⟨_, rfl, rfl, fun hnamed => absurd (String.isEmpty_iff.1 hblank) hnamed⟩
  next hnamed =>
    split
    next hseen => exact .inr ⟨_, rfl, rfl, fun _ hnew => absurd (List.contains_iff_mem.1 hseen) hnew⟩
    next hnew =>
      split
      next hlow => exact .inr ⟨_, rfl, rfl, fun _ _ hlevel => absurd hlow (Int.not_lt.2 hlevel)⟩
      next hlevel =>
        split
        next hempty => exact .inr ⟨_, rfl, rfl, fun _ _ _ => List.isEmpty_iff.1 hempty⟩
        next hrules =>
          refine .inl ⟨rfl, fun h => hnamed (String.isEmpty_iff.2 h), fun h => hnew (List.contains_iff_mem.2 h),
            Int.not_lt.1 hlevel, fun h => hrules (List.isEmpty_iff.2 h)⟩

/-- A group is what a feature says: its name without blanks at the ends, its level, and a rule for each of its rules, which
overrides as the rule or else the feature says and has the actions of its captures. -/
structure Realizes (composites : List Composite) (spec : FeatureSpec) (g : FeatureGroup) : Prop where
  name : g.name = Text.trimBlank spec.name
  level : g.level = spec.level
  overrides : g.rules.map (·.override) = spec.rules.map fun rule => rule.override.getD spec.override
  named : ∀ r ∈ g.rules, r.feature = g.name
  settled : ∀ r ∈ g.rules, Settled .emit (resolveComposite composites) r.pattern r.actions

/-- Features are compiled if they may be and their names differ. -/
theorem compileFeatures_outcome (composites : List Composite) (known : Option (List String)) (specs : List FeatureSpec)
    {seen : List String} (hseen : seen.Nodup) (order : Nat) :
    Outcome
      ((seen ++ specs.map fun spec => Text.trimBlank spec.name).Nodup ∧
        ∀ spec ∈ specs, FeatureOk (composites.map (·.name)) spec)
      (∃ spec ∈ specs, ∃ rule ∈ spec.rules, rule.pattern.Beyond)
      (fun groups => List.Forall₂ (Realizes composites) specs groups ∧
        (groups.flatMap (·.rules)).map (·.order) = List.range' order (groups.flatMap (·.rules)).length)
      (compileFeatures composites known seen order specs).2 := by
  induction specs generalizing seen order with
  | nil =>
    refine .ok ⟨?_, List.forall_mem_nil _⟩ ⟨.nil, rfl⟩
    rwa [List.map_nil, List.append_nil]
  | cons spec specs ih =>
    have hnames : seen ++ (spec :: specs).map (fun spec => Text.trimBlank spec.name) =
        seen ++ [Text.trimBlank spec.name] ++ specs.map fun spec => Text.trimBlank spec.name := by simp
    rw [compileFeatures_cons, hnames, List.forall_mem_cons, List.exists_mem_cons_iff]
    rcases featureFault?_cases seen spec with ⟨hfault, hnamed, hnew, hlevel, hrules⟩ | ⟨e, hfault, hbare, hwrong⟩
    · rw [hfault]
      have hseen' : (seen ++ [Text.trimBlank spec.name]).Nodup := by
        rw [← List.concat_eq_append, List.nodup_concat]
        exact ⟨hnew, hseen⟩
      refine ((compileRules_outcome composites known spec _ order spec.rules).bind fun rules h =>
        (ih hseen' (order + rules.length)).map fun groups hgroups => ?_).imp ?_ id
      -- The numbers go on after as many rules as the feature has.
      · obtain ⟨hrealized, horders⟩ := hgroups
        have hlength : rules.length = spec.rules.length := by
          rw [← List.length_map (·.override), h.overrides, List.length_map]
        refine ⟨.cons ⟨rfl, rfl, h.overrides, h.named, h.settled⟩ hrealized, ?_⟩
        rw [List.flatMap_cons, List.map_append, horders, List.length_append]
        change rules.map (·.order) ++ _ = List.range' order (rules.length + _)
        rw [h.orders, ← hlength, List.range'_append_1]
      · constructor
        · rintro ⟨husable, hdistinct, hok⟩
          exact ⟨hdistinct, ⟨hnamed, hlevel, hrules, husable⟩, hok⟩
        · rintro ⟨hdistinct, hfeature, hok⟩
          exact ⟨hfeature.usable, hdistinct, hok⟩
    · rw [hfault]
      refine .error ?_ fun h => ?_
      · rintro ⟨hdistinct, hok, -⟩
        have hseen' := (List.nodup_append.1 hdistinct).1
        rw [← List.concat_eq_append, List.nodup_concat] at hseen'
        exact hok.rules (hwrong hok.named hseen'.1 hok.level)
      · rw [hbare] at h
        cases h

/-! ## All together -/

/-- The rules of all features, in order. -/
def rules (r : HighlightRules) : List HighlightRule := r.groups.flatMap (·.rules)

/-- Specifications from which rules can be built. -/
structure Admissible (features : List FeatureSpec) (composites : List CompositeSpec) : Prop where
  composable : Composable [] composites
  distinct : (features.map fun spec => Text.trimBlank spec.name).Nodup
  features : ∀ spec ∈ features, FeatureOk (composites.map (·.name)) spec

/-- Whether some pattern of the specifications asks for a regular expression that cannot be had, or has an integer of too many digits
in it. -/
def SomeBeyond (features : List FeatureSpec) (composites : List CompositeSpec) : Prop :=
  (∃ spec ∈ composites, spec.secondary.Beyond) ∨ ∃ spec ∈ features, ∃ rule ∈ spec.rules, rule.pattern.Beyond

theorem build_eq (features : List FeatureSpec) (composites : List CompositeSpec) (known : Option (List String)) :
    (build features composites known).2 =
      (compileComposites (composites.map (·.name)) [] composites).bind fun compiled =>
        (compileFeatures compiled known [] 0 features).2.map (⟨·⟩) := by
  rw [build]
  cases compileComposites (composites.map (·.name)) [] composites <;> rfl

/-- Rules as they are put together: the composite actions are compiled, the groups are what the features say with these actions,
and the rules are numbered through. -/
structure Assembled (features : List FeatureSpec) (composites : List CompositeSpec) (compiled : List Composite)
    (r : HighlightRules) : Prop where
  compiles : compileComposites (composites.map (·.name)) [] composites = .ok compiled
  plain : ∀ c ∈ compiled, Plain c
  realized : List.Forall₂ (Realizes compiled) features r.groups
  orders : r.rules.map (·.order) = List.range r.rules.length

/-- Rules are built from admissible specifications. -/
theorem build_outcome (features : List FeatureSpec) (composites : List CompositeSpec) (known : Option (List String)) :
    Outcome (Admissible features composites) (SomeBeyond features composites)
      (fun r => ∃ compiled, Assembled features composites compiled r) (build features composites known).2 := by
  have hcomposites := @compileComposites_outcome (composites.map (·.name)) composites [] List.nodup_nil (List.forall_mem_nil _)
  have hfeatures (compiled : List Composite)
      (h : compileComposites (composites.map (·.name)) [] composites = .ok compiled ∧
        compiled.map (·.name) = composites.map (·.name) ∧ ∀ c ∈ compiled, Plain c) :
      Outcome
        ((features.map fun spec => Text.trimBlank spec.name).Nodup ∧
          ∀ spec ∈ features, FeatureOk (composites.map (·.name)) spec)
        (∃ spec ∈ features, ∃ rule ∈ spec.rules, rule.pattern.Beyond)
        (fun r => ∃ compiled, Assembled features composites compiled r)
        ((compileFeatures compiled known [] 0 features).2.map HighlightRules.mk) := by
    obtain ⟨hcompiled, hnames, hplain⟩ := h
    rw [← hnames]
    refine (compileFeatures_outcome compiled known features List.nodup_nil 0).map fun groups hgroups => ?_
    refine ⟨compiled, hcompiled, hplain, hgroups.1, ?_⟩
    rw [List.range_eq_range']
    exact hgroups.2
  rw [build_eq]
  refine (hcomposites.self.bind hfeatures).imp ?_ id
  constructor
  · rintro ⟨hcomposable, hdistinct, hok⟩
    exact ⟨hcomposable, hdistinct, hok⟩
  · rintro ⟨hcomposable, hdistinct, hok⟩
    exact ⟨hcomposable, hdistinct, hok⟩

end HighlightRules

end AwkEdit
