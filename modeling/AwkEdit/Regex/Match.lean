import AwkEdit.Regex.Basic

/-!
# Matching regular expressions

An expression is matched from a position of a text on, and what comes after it is a continuation: `Regex.run` tries the ways to match
in order, each with the continuation, and answers whether one succeeds. Beside the position, matching takes notes: the marks that
groups have left, and the latest position that was taken up. What fails leaves its notes behind. A choice or a repetition of one
character that goes on to its next way takes back the marks that were not there before; the marks that were there before and have
been moved are put back only inside a repetition of more than one character.

A possessive repetition, and an atomic group, goes on from the latest position that was taken up. After a round that has failed, that
is where the failure was noticed, which may lie before or behind the end of the last round that succeeded. So groups may even stop
before they start. A round of a repetition that ends where the round before it has ended is the last one.
-/

namespace AwkEdit

/-- What matching notes beside the position: the latest position that was taken up, and the marks of groups, of which the one at `2 * i`
is the start and the one at `2 * i + 1` the end of the group with the number `i + 1`. -/
structure Notes where
  latest : Nat := 0
  marks : List (Option Nat) := []
  deriving DecidableEq, Repr

namespace Notes

/-- The notes after a position was taken up. -/
def taken (s : Notes) (pos : Nat) : Notes := { s with latest := pos }

/-- The notes after a mark was left at a position. -/
def marked (s : Notes) (mark pos : Nat) : Notes :=
  if mark < s.marks.length then { s with marks := s.marks.set mark (some pos) }
  else { s with marks := s.marks ++ List.replicate (mark - s.marks.length) none ++ [some pos] }

/-- The notes `t` of a way that has failed, for the next way from where the notes were `s`: marks that are new are taken back, and inside
of a repetition all of them are as before. -/
def restored (s t : Notes) (inside : Bool) : Notes :=
  { t with marks := if inside then s.marks else t.marks.take s.marks.length }

/-- Where a group starts and stops, if it has done both. -/
def ends? (s : Notes) (group : Nat) : Option (Nat × Nat) :=
  match s.marks[2 * (group - 1)]?, s.marks[2 * (group - 1) + 1]? with
  | some (some start), some (some stop) => some (start, stop)
  | _, _ => none

/-- What a group has matched: where it starts and where it stops, which is not before. -/
def span? (s : Notes) (group : Nat) : Option (Nat × Nat) := (s.ends? group).filter fun ends => ends.1 ≤ ends.2

/-- Whether a group stops before it starts. -/
def isTorn (s : Notes) : Bool :=
  (List.range s.marks.length).any fun i => (s.ends? (i + 1)).any fun ends => ends.2 < ends.1

end Notes

/-- What has come of a match: whether it succeeded, and the notes at the end. -/
structure Attempt where
  found : Bool
  notes : Notes
  deriving DecidableEq, Repr

namespace Attempt

/-- A failure. -/
def failed (s : Notes) : Attempt := ⟨false, s⟩

/-- A match that ends at a position. -/
def done (pos : Nat) (s : Notes) : Attempt := ⟨true, s.taken pos⟩

/-- An attempt and, if it fails, another one, given the notes. -/
@[inline] def orElse (a : Attempt) (other : Notes → Attempt) : Attempt := if a.found then a else other a.notes

/-- An attempt of which a failure is noticed at a position. -/
def noticedAt (pos : Nat) (a : Attempt) : Attempt := if a.found then a else failed (a.notes.taken pos)

end Attempt

/-- What is tried after a match: from a position on, with the notes so far. -/
abbrev Continuation := Nat → Notes → Attempt

namespace Regex

open Attempt

/-! ## Repetitions of one character -/

/-- Where characters that pass a test end, from a position on, of so many characters. -/
def reach (text : Array Char) (test : CharTest) : Nat → Nat → Nat
  | 0, pos => pos
  | n + 1, pos => if text[pos]?.any test.passes then reach text test n (pos + 1) else pos

/-- The notes after characters from one position to another were counted. -/
def counted (test : CharTest) (pos stop : Nat) (s : Notes) : Notes := s.taken (if test.isStepwise then stop else pos)

/-- The continuation at a position, if the character there is the one that has to follow. -/
def tried (text : Array Char) (inside : Bool) (next : Option Nat) (k : Continuation) (pos : Nat) (s : Notes) : Attempt :=
  if next.all fun n => text[pos]?.any (·.toNat == n) then
    (k pos (s.taken pos)).orElse fun t => failed (s.restored t inside)
  else failed s

/-- The continuation at the positions that follow a position by so many characters at most, the last one first. -/
def descending (text : Array Char) (inside : Bool) (next : Option Nat) (k : Continuation) (pos : Nat) : Nat → Notes → Attempt
  | 0, s => tried text inside next k pos s
  | n + 1, s => (tried text inside next k (pos + n + 1) s).orElse fun s => descending text inside next k pos n s

/-- The continuation at a position and at those that follow it by so many characters at most, as long as characters pass a test. -/
def ascending (text : Array Char) (inside : Bool) (test : CharTest) (k : Continuation) : Nat → Continuation
  | n, pos, s =>
    (tried text inside none k pos s).orElse fun t =>
      if text[pos]?.any test.passes then
        let t := counted test pos (pos + 1) (t.taken pos)
        match n with
        | 0 => failed t
        | n + 1 => ascending text inside test k n (pos + 1) t
      else failed (t.taken pos)

/-- As many characters as a repetition may have from a position on, if that is the manner, or the least number. -/
def firstReach (text : Array Char) (test : CharTest) (least : Nat) (most : Option Nat) (manner : Manner) (pos : Nat) : Nat :=
  let all := text.size - pos
  reach text test (if manner = .lazy then least else (most.getD all).min all) pos

/-- A repetition of one character and then the continuation. -/
def repeatedTest (text : Array Char) (inside : Bool) (next : Option Nat) (test : CharTest) (least : Nat) (most : Option Nat)
    (manner : Manner) (k : Continuation) (pos : Nat) (s : Notes) : Attempt :=
  if text.size < pos + least then failed s
  else
    let stop := firstReach text test least most manner pos
    let s := counted test pos stop s
    if stop < pos + least then failed s
    else
      match manner with
      | .greedy => descending text inside next k (pos + least) (stop - (pos + least)) s
      | .lazy => ascending text inside test k ((most.getD text.size) - least) stop s
      | .possessive => k stop s

/-! ## Repetitions of more than one character -/

/-- A number of rounds and then the continuation. -/
def due (round : Continuation → Continuation) (k : Continuation) : Nat → Continuation
  | 0, pos, s => k pos s
  | n + 1, pos, s => (round (due round k n) pos (s.taken pos)).noticedAt pos

/-- At most so many rounds, of which many are tried first, and then the continuation. The position `last` is where the round before this
one has started. -/
def greedily (round : Continuation → Continuation) (k : Continuation) : Nat → Option Nat → Continuation
  | 0, _, pos, s => (k pos (s.taken pos)).noticedAt pos
  | n + 1, last, pos, s =>
    if last = some pos then (k pos (s.taken pos)).noticedAt pos
    else
      (round (greedily round k n (some pos)) pos (s.taken pos)).orElse fun t =>
        (k pos (s.restored (t.taken pos) true)).noticedAt pos

/-- At most so many rounds, of which few are tried first, and then the continuation. -/
def lazily (inside : Bool) (round : Continuation → Continuation) (k : Continuation) : Nat → Option Nat → Continuation
  | n, last, pos, s =>
    (k pos (s.taken pos)).orElse fun t =>
      let t := (s.restored t inside).taken pos
      match n with
      | 0 => failed t
      | n + 1 => if last = some pos then failed t else (round (lazily inside round k n (some pos)) pos t).noticedAt pos

/-- A number of rounds, each matched in its first way. -/
def duePossessively (round : Continuation → Continuation) : Nat → Notes → Attempt
  | 0, s => ⟨true, s⟩
  | n + 1, s =>
    let a := round done s.latest s
    if a.found then duePossessively round n a.notes else a

/-- The notes after at most so many rounds, each matched in its first way. -/
def settled (round : Continuation → Continuation) : Nat → Option Nat → Notes → Notes
  | 0, _, s => s
  | n + 1, last, s =>
    if last = some s.latest then s
    else
      let a := round done s.latest s
      if a.found then settled round n (some s.latest) a.notes else s.restored a.notes true

/-- How many rounds after the least ones are worth trying. Positions may go back, but no round is tried twice. -/
def spare (size least : Nat) (most : Option Nat) : Nat :=
  let all := (size + 2) * (size + 2)
  match most with
  | none => all
  | some most => min (most - least) all

/-- A repetition of rounds and then the continuation. -/
def repeatedRounds (size : Nat) (inside : Bool) (round : Continuation → Continuation) (least : Nat) (most : Option Nat)
    (manner : Manner) (k : Continuation) (pos : Nat) (s : Notes) : Attempt :=
  match manner with
  | .greedy => due round (greedily round k (spare size least most) none) least pos s
  | .lazy => due round (lazily inside round k (spare size least most) none) least pos s
  | .possessive =>
    let a := (duePossessively round least (s.taken pos)).noticedAt pos
    if a.found then
      let t := settled round (spare size least most) none a.notes
      k t.latest t
    else a

/-! ## Tests of a position -/

/-- Whether a position lies between a word character and something else. -/
def atEdge (text : Array Char) (ascii : Bool) (pos : Nat) : Bool :=
  let before := 0 < pos && text[pos - 1]?.any (CharKind.word.has ascii ·)
  before != text[pos]?.any (CharKind.word.has ascii ·)

/-- Whether so many characters from one position on are the same as those from another. -/
def sameFrom (text : Array Char) (rule : CaseRule) (a b : Nat) : Nat → Bool
  | 0 => true
  | n + 1 =>
    match text[a]?, text[b]? with
    | some x, some y => rule.same x y && sameFrom text rule (a + 1) (b + 1) n
    | _, _ => false

/-- The continuation at a position that passes a test. -/
def only (holds : Bool) (k : Continuation) (pos : Nat) (s : Notes) : Attempt := if holds then k pos s else failed s

/-- The continuation after something was looked for from a distance before a position on. What is found keeps its marks. -/
def looked (inside : Bool) (look : Continuation) (distance : Nat) (wanted : Bool) (k : Continuation) (pos : Nat) (s : Notes) : Attempt :=
  if pos < distance then only (!wanted) k pos s
  else
    let a := look (pos - distance) (s.taken (pos - distance))
    if wanted then if a.found then k pos a.notes else a
    else if a.found then failed a.notes
    else k pos (s.restored a.notes inside)

/-! ## Matching -/

/-- Whether the character at a position rules out what starts with a test of it. -/
def isRuledOut (text : Array Char) (pos : Nat) (r : Regex) : Bool :=
  r.leading?.any fun test => test.isOutright && !text[pos]?.any test.passes

/-- Matches an expression from a position on and then the continuation. The flag says whether that is inside of a repetition of more than
one character, and the code is that of the character that has to follow, if that is noticed. The one position of an empty text is
neither at the edge of a word nor away from it. -/
def run (text : Array Char) : Regex → Bool → Option Nat → Continuation → Continuation
  | empty, _, _, k, pos, s => k pos s
  | seq a b, inside, next, k, pos, s =>
    run text a inside (if b.isSilent then next else b.leading?.bind (·.only?)) (run text b inside next k) pos s
  | nothing, _, _, _, _, s => failed s
  | alt a others, inside, next, k, pos, s =>
    if isRuledOut text pos a then run text others inside next k pos s
    else
      (run text a inside none k pos (s.taken pos)).orElse fun t => run text others inside next k pos (s.restored t inside)
  | one test, _, _, k, pos, s => if text[pos]?.any test.passes then k (pos + 1) s else failed s
  | repeated r least most manner, inside, next, k, pos, s =>
    match r.single? with
    | some test => repeatedTest text inside next test least most manner k pos s
    | none => repeatedRounds text.size inside (run text r (inside || manner ≠ .possessive) none) least most manner k pos s
  | group index r, inside, _, k, pos, s =>
    run text r inside none (fun pos s => k pos (s.marked (2 * (index - 1) + 1) pos)) pos (s.marked (2 * (index - 1)) pos)
  | flagged r, inside, next, k, pos, s => run text r inside next k pos s
  | atomic r, inside, _, k, pos, s =>
    let a := (run text r inside none done pos (s.taken pos)).noticedAt pos
    if a.found then k a.notes.latest a.notes else a
  | again index rule, _, _, k, pos, s =>
    match s.span? index with
    | some (start, stop) =>
      let length := stop - start
      only (sameFrom text rule start pos length) (fun pos s => k (pos + length) s) pos s
    | none => failed s
  | given index yes no, inside, next, k, pos, s =>
    if (s.span? index).isSome then run text yes inside (if no = empty then next else none) k pos s
    else run text no inside next k pos s
  | ahead r wanted, inside, _, k, pos, s => looked inside (run text r inside none done) 0 wanted k pos s
  | behind distance r wanted, inside, _, k, pos, s => looked inside (run text r inside none done) distance wanted k pos s
  | textStart, _, _, k, pos, s => only (pos == 0) k pos s
  | textEnd, _, _, k, pos, s => only (pos == text.size) k pos s
  | lineStart everyLine, _, _, k, pos, s => only (pos == 0 || (everyLine && text[pos - 1]? == some '\n')) k pos s
  | lineEnd everyLine, _, _, k, pos, s =>
    only (pos == text.size || ((everyLine || pos + 1 == text.size) && text[pos]? == some '\n')) k pos s
  | wordEdge ascii inside, _, _, k, pos, s => only (atEdge text ascii pos != inside && !text.isEmpty) k pos s

/-- The notes of the first match in a text, if there is one. -/
def search (r : Regex) (text : List Char) : Option Notes :=
  let chars := text.toArray
  (List.range (chars.size + 1)).findSome? fun pos =>
    let a := run chars r false none done pos ⟨pos, []⟩
    if a.found then some a.notes else none

end Regex

end AwkEdit
