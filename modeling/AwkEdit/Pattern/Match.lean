import AwkEdit.Pattern.Basic
import AwkEdit.Source
import AwkEdit.Tree.Basic

/-!
# Matching patterns

`Pattern.bindings` lists the ways in which a pattern matches at a place, each as what it binds; predicates then keep or drop a
way, or fail. An enumeration is the list of what is found before the end or the first failure. Whether a pattern matches at all is
decided by the first thing found, whatever fails after it. There may be very many ways, so they are run through one by one by
`Pattern.foldBindings`, which is the same as a fold over the list.
-/

namespace AwkEdit

/-- A place bound to a capture name. -/
structure Capture where
  name : String
  place : Place

/-- A match: the place it is anchored at and what it binds, in the order in which it was bound. -/
structure Match where
  place : Place
  captures : List Capture

/-- The places that a match binds to a name. -/
def Match.places (m : Match) (name : String) : List Place := (m.captures.filter (·.name == name)).map (·.place)

/-! ## Structural matching -/

/-- The ways to split a list at one of its elements: the element and what comes after it. -/
def picks {α : Type} : List α → List (α × List α)
  | [] => []
  | a :: as => (a, as) :: picks as

/-- Whether a place is under the field asked for, if one is. -/
def underField (field : Option String) (p : Place) : Bool := field.isNone || p.node.field == field

namespace Pattern

mutual

/-- What each match of a pattern at a place binds. The captures of a node pattern come before those of its children, in the order
of the children; the captures of a choice come after those of the alternative. -/
def bindings : Pattern → Place → List (List Capture)
  | node head children captures, p =>
    if head.accepts p.node.type then
      (bindingsBelow children p.children).map (captures.map (⟨·, p⟩) ++ ·)
    else []
  | choice alternatives captures, p => (bindingsOf alternatives p).map (· ++ captures.map (⟨·, p⟩))

/-- What each match of several patterns binds at children of one node, one child for each pattern, in order. -/
def bindingsBelow : List (Option String × Pattern) → List Place → List (List Capture)
  | [], _ => [[]]
  | (field, pattern) :: rest, children =>
    (picks children).flatMap fun (child, after) =>
      if underField field child then
        (pattern.bindings child).flatMap fun first => (bindingsBelow rest after).map (first ++ ·)
      else []

/-- What each match of one of the patterns at a place binds, pattern by pattern. -/
def bindingsOf : List Pattern → Place → List (List Capture)
  | [], _ => []
  | pattern :: rest, p => pattern.bindings p ++ bindingsOf rest p

end

/-! ### Running through what matches bind -/

mutual

/-- Runs a step through what each match of a pattern at a place binds, in the order of `bindings`, up to a step that stops. Nothing
is looked for after that. -/
def foldBindings {ε σ : Type} (f : σ → List Capture → Except ε σ) : Pattern → Place → σ → Except ε σ
  | node head children captures, p, s =>
    if head.accepts p.node.type then foldBelow (fun s below => f s (captures.map (⟨·, p⟩) ++ below)) children p.children s
    else .ok s
  | choice alternatives captures, p, s => foldOf (fun s inner => f s (inner ++ captures.map (⟨·, p⟩))) alternatives p s

/-- Runs a step through what each match of several patterns binds at children of one node. -/
def foldBelow {ε σ : Type} (f : σ → List Capture → Except ε σ) :
    List (Option String × Pattern) → List Place → σ → Except ε σ
  | [], _, s => f s []
  | (field, pattern) :: rest, children, s =>
    (picks children).foldlM (fun s pick =>
      if underField field pick.1 then
        foldBindings (fun s first => foldBelow (fun s below => f s (first ++ below)) rest pick.2 s) pattern pick.1 s
      else .ok s) s

/-- Runs a step through what each match of one of the patterns at a place binds. -/
def foldOf {ε σ : Type} (f : σ → List Capture → Except ε σ) : List Pattern → Place → σ → Except ε σ
  | [], _, s => .ok s
  | pattern :: rest, p, s => do foldOf f rest p (← foldBindings f pattern p s)

end

/-- Running a step through lists put together is running it through each of them. -/
theorem foldlM_flatMap {α β ε σ : Type} (f : σ → β → Except ε σ) (g : α → List β) (as : List α) (s : σ) :
    (as.flatMap g).foldlM f s = as.foldlM (fun s a => (g a).foldlM f s) s := by
  induction as generalizing s with
  | nil => rfl
  | cons a as ih => simp [ih]

mutual

/-- Running through what matches bind is running through their list. -/
theorem foldBindings_eq {ε σ : Type} (f : σ → List Capture → Except ε σ) :
    ∀ (pattern : Pattern) (p : Place) (s : σ), foldBindings f pattern p s = (bindings pattern p).foldlM f s
  | node head children captures, p, s => by
    unfold foldBindings bindings
    split
    · rw [foldBelow_eq, List.foldlM_map]
    · rfl
  | choice alternatives captures, p, s => by
    unfold foldBindings bindings
    rw [foldOf_eq, List.foldlM_map]

/-- Running through what matches at children bind is running through their list. -/
theorem foldBelow_eq {ε σ : Type} (f : σ → List Capture → Except ε σ) :
    ∀ (patterns : List (Option String × Pattern)) (children : List Place) (s : σ),
      foldBelow f patterns children s = (bindingsBelow patterns children).foldlM f s
  | [], _, s => by simp [foldBelow, bindingsBelow]
  | (field, pattern) :: rest, children, s => by
    unfold foldBelow bindingsBelow
    rw [foldlM_flatMap]
    congr 1
    funext s ⟨child, after⟩
    by_cases h : underField field child = true
    · simp only [h, if_true]
      rw [foldBindings_eq, foldlM_flatMap]
      congr 1
      funext s first
      rw [foldBelow_eq, List.foldlM_map]
    · simp only [h]
      rfl

/-- Running through what matches of alternatives bind is running through their list. -/
theorem foldOf_eq {ε σ : Type} (f : σ → List Capture → Except ε σ) :
    ∀ (patterns : List Pattern) (p : Place) (s : σ), foldOf f patterns p s = (bindingsOf patterns p).foldlM f s
  | [], _, s => rfl
  | pattern :: rest, p, s => by
    unfold foldOf bindingsOf
    rw [foldBindings_eq, List.foldlM_append]
    congr 1
    funext s
    exact foldOf_eq f rest p s

end

end Pattern

/-! ## Enumerations that may fail -/

/-- What is found before the end, or before the failure that ends it. -/
structure Enumeration (ε α : Type) where
  found : List α
  failure : Option ε

namespace Enumeration

/-- An enumeration that finds nothing. -/
def none {ε α : Type} : Enumeration ε α := ⟨[], Option.none⟩

/-- One enumeration and, unless it fails, another. -/
def append {ε α : Type} (a b : Enumeration ε α) : Enumeration ε α :=
  match a.failure with
  | some _ => a
  | Option.none => ⟨a.found ++ b.found, b.failure⟩

/-- The elements of a list that pass a test, up to the first on which the test fails. -/
def keep {ε α : Type} (test : α → Except ε Bool) : List α → Enumeration ε α
  | [] => none
  | a :: as =>
    match test a with
    | .error e => ⟨[], some e⟩
    | .ok true => ⟨a :: (keep test as).found, (keep test as).failure⟩
    | .ok false => keep test as

/-- One step of an enumeration: what passes is put before what was found so far, the last first, and a failure stops with all of it. -/
def gather {ε α : Type} (test : α → Except ε Bool) (found : List α) (a : α) : Except (Enumeration ε α) (List α) :=
  match test a with
  | .error e => .error ⟨found.reverse, some e⟩
  | .ok true => .ok (a :: found)
  | .ok false => .ok found

/-- What was gathered, whether a failure stopped it or not. -/
def gathered {ε α : Type} : Except (Enumeration ε α) (List α) → Enumeration ε α
  | .error stopped => stopped
  | .ok found => ⟨found.reverse, Option.none⟩

/-- Gathering step by step is keeping what passes, after what was found so far. -/
theorem gathered_foldlM {ε α : Type} (test : α → Except ε Bool) (as found : List α) :
    gathered (as.foldlM (gather test) found) = ⟨found.reverse ++ (keep test as).found, (keep test as).failure⟩ := by
  induction as generalizing found with
  | nil => simp [gathered, keep, none, pure, Except.pure]
  | cons a as ih =>
    rw [List.foldlM_cons, keep, gather]
    rcases test a with e | b
    · simp [gathered, bind, Except.bind]
    · cases b
      · exact ih found
      · exact (ih (a :: found)).trans (by simp)

/-- Enumerations one after another, up to the first failure, after which nothing is enumerated. -/
def join {ε α β : Type} (f : α → Enumeration ε β) : List α → Enumeration ε β
  | [] => none
  | a :: as =>
    let first := f a
    if first.failure.isSome then first else append first (join f as)

/-- The same things found, changed one by one. -/
def map {ε α β : Type} (f : α → β) (a : Enumeration ε α) : Enumeration ε β := ⟨a.found.map f, a.failure⟩

/-- Everything, unless the enumeration fails. -/
def all {ε α : Type} (a : Enumeration ε α) : Except ε (List α) :=
  match a.failure with
  | some e => .error e
  | Option.none => .ok a.found

/-- Whether there is anything: what is found before a failure counts. -/
def any {ε α : Type} (a : Enumeration ε α) : Except ε Bool :=
  match a.found, a.failure with
  | _ :: _, _ => .ok true
  | [], some e => .error e
  | [], Option.none => .ok false

/-- One step of asking whether there is anything: it stops at the first element that passes and at the first failure. -/
def seek {ε α : Type} (test : α → Except ε Bool) (_ : Unit) (a : α) : Except (Except ε Bool) Unit :=
  match test a with
  | .error e => .error (.error e)
  | .ok true => .error (.ok true)
  | .ok false => .ok ()

/-- The answer of asking whether there is anything. -/
def sought {ε : Type} : Except (Except ε Bool) Unit → Except ε Bool
  | .error answer => answer
  | .ok () => .ok false

/-- Asking step by step is asking whether anything is kept. -/
theorem sought_foldlM {ε α : Type} (test : α → Except ε Bool) (as : List α) :
    sought (as.foldlM (seek test) ()) = (keep test as).any := by
  induction as with
  | nil => rfl
  | cons a as ih =>
    rw [List.foldlM_cons, keep, seek]
    rcases test a with e | b
    · rfl
    · cases b
      · exact ih
      · rfl

end Enumeration

/-! ## Compiled patterns -/

namespace Predicate

/-- Whether the predicate holds of what is bound: the text of every node bound to its capture passes the test. -/
def holds (source : Source) (p : Predicate) : List Capture → Except TestFailure Bool
  | [] => .ok true
  | c :: captures =>
    if c.name = p.capture then
      match p.test.holds (source.text c.place.node.start c.place.node.stop) with
      | .ok true => p.holds source captures
      | other => other
    else p.holds source captures

/-- Whether several predicates hold, asked in order up to the first that does not. -/
def allHold (source : Source) (captures : List Capture) : List Predicate → Except TestFailure Bool
  | [] => .ok true
  | p :: ps =>
    match p.holds source captures with
    | .ok true => allHold source captures ps
    | other => other

end Predicate

namespace CompiledPattern

/-- Whether the predicates hold of what a match binds. -/
def admits (p : CompiledPattern) (source : Source) (captures : List Capture) : Except TestFailure Bool :=
  Predicate.allHold source captures p.predicates

/-- The matches anchored at a place. -/
def matchesAt (p : CompiledPattern) (source : Source) (place : Place) : Enumeration TestFailure Match :=
  if p.acceptsType place.node.type then
    (Enumeration.gathered (p.root.foldBindings (Enumeration.gather (p.admits source)) place [])).map (⟨place, ·⟩)
  else .none

/-- Whether some match is anchored at a place. No match after the first one is looked for. -/
def hasMatchAt (p : CompiledPattern) (source : Source) (place : Place) : Except TestFailure Bool :=
  if p.acceptsType place.node.type then Enumeration.sought (p.root.foldBindings (Enumeration.seek (p.admits source)) place ())
  else .ok false

/-- The matches at a place are what the root binds there, as far as the predicates keep it. -/
theorem matchesAt_eq (p : CompiledPattern) (source : Source) (place : Place) :
    p.matchesAt source place =
      if p.acceptsType place.node.type then (Enumeration.keep (p.admits source) (p.root.bindings place)).map (⟨place, ·⟩)
      else .none := by
  unfold matchesAt
  rw [Pattern.foldBindings_eq, Enumeration.gathered_foldlM]
  rfl

/-- There is a match at a place if something is found before a failure. -/
theorem hasMatchAt_eq (p : CompiledPattern) (source : Source) (place : Place) :
    p.hasMatchAt source place = (p.matchesAt source place).any := by
  rw [matchesAt_eq]
  unfold hasMatchAt
  rw [Pattern.foldBindings_eq, Enumeration.sought_foldlM]
  split
  · rcases Enumeration.keep (p.admits source) (p.root.bindings place) with ⟨_ | ⟨_, _⟩, _ | _⟩ <;> rfl
  · rfl

/-- The matches anchored anywhere in a subtree, in pre-order. -/
def sweep (p : CompiledPattern) (source : Source) (place : Place) : Enumeration TestFailure Match :=
  Enumeration.join (p.matchesAt source) place.subtree

end CompiledPattern

end AwkEdit
