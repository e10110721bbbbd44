import AwkEdit.Regex.Escape
import AwkEdit.Text.Identifier

/-!
# Reading regular expressions

A pattern is read from left to right with a stack of open groups. `Regex.parse` refuses what has no reading, and names the faults
that are not about the form of the pattern: a repetition with a bound that is too large, flags that exclude each other, and a look
behind that goes back too far. Some faults of the form are noticed only when the whole pattern was read; flags that exclude each other
come before those, and looks behind that go back too far after them. A group that neither captures nor changes flags leaves its
elements to the sequence around it.
-/

namespace AwkEdit

/-- Why a pattern is refused. -/
inductive RegexFault where
  | malformed
  | tooManyRounds
  | oversizedBound (digits : Nat)
  | conflictingFlags
  | oversizedWidth
  deriving DecidableEq, Repr

/-- The wording of a refusal that is not about the form of a pattern. -/
def RegexFault.message : RegexFault → String
  | malformed => "Invalid regex"
  | tooManyRounds => "the repetition number is too large"
  | oversizedBound digits => IntegerText.oversizedMessage digits
  | conflictingFlags => "ASCII and UNICODE flags are incompatible"
  | oversizedWidth => "invalid SRE code"

namespace Regex

/-- What was read, where nothing but the form of the pattern can be wrong. -/
def sound {α : Type} : Option α → Except RegexFault α
  | some a => .ok a
  | none => .error .malformed

/-! ## Where reading stands -/

/-- What the last element of a sequence is, as far as a repetition of it is concerned; a bundle has come from a group. -/
inductive Element where
  | plain (r : Regex)
  | bundle (rs : List Regex)
  | test (r : Regex)
  | repetition (r : Regex)

/-- The expressions of an element. -/
def Element.parts : Element → List Regex
  | .plain r | .test r | .repetition r => [r]
  | .bundle rs => rs

/-- What a group is. A look behind is outermost if it lies in no other. -/
inductive Opening where
  | plain
  | flagged
  | capture (index : Nat)
  | atomic
  | ahead (wanted : Bool)
  | behind (wanted outermost : Bool)
  | given (group : Nat)

/-- An open group: its flags, the alternatives before the last bar, and the elements since, the last ones first. -/
structure Frame where
  opening : Opening
  flags : RegexFlags
  before : List (List Regex) := []
  elements : List Element := []

/-- Where reading stands: the flags of the whole expression, how many groups were opened, the whole expression among them, the widths of
those that were closed, the names of groups, how many there were before the outermost look behind, the greatest number that a condition
asks for, how far looks behind go back at most, whether no fault was put off, and the open groups. -/
structure Progress where
  flags : RegexFlags := {}
  groups : Nat := 1
  widths : List (Nat × Width) := []
  names : List (String × Nat) := []
  behind : Option Nat := none
  asked : Nat := 0
  farthest : Nat := 0
  sound : Bool := true
  frame : Frame := ⟨.plain, {}, [], []⟩
  outer : List Frame := []

/-- What is read, and the text after it. -/
abbrev Step := Except RegexFault (Progress × List Char)

/-- The elements since the last bar of a group. -/
def Frame.last (f : Frame) : List Regex := (f.elements.reverse.map Element.parts).flatten

/-- What a group matches: a choice if it has bars. -/
def Frame.inner (f : Frame) : List Regex :=
  match f.before.reverse with
  | [] => f.last
  | first :: others => choice f.flags.caseRule first (others ++ [f.last])

namespace Progress

/-- Another element of the innermost group. -/
def push (p : Progress) (e : Element) : Progress := { p with frame := { p.frame with elements := e :: p.frame.elements } }

/-- One more test of a character. -/
def pushOne (p : Progress) (test : CharTest) : Progress := p.push (.plain (.one test))

/-- One more character of a code. -/
def pushCode (p : Progress) (n : Nat) : Progress := p.pushOne (.ofCode true n p.frame.flags.caseRule)

/-- Whether a group can be referred to: it was closed, and if a look behind is open, before that. -/
def canRefer (p : Progress) (group : Nat) : Bool := (p.widths.lookup group).isSome && p.behind.all (group < ·)

/-- One more group inside the innermost one. -/
def enter (p : Progress) (opening : Opening) (flags : RegexFlags) : Progress :=
  { p with outer := p.frame :: p.outer, frame := { opening := opening, flags := flags } }

/-- One more group of a kind that keeps the flags. -/
def enterPlain (p : Progress) (opening : Opening) : Progress := p.enter opening p.frame.flags

/-- One more numbered group. -/
def enterCapture (p : Progress) : Progress := { p.enterPlain (.capture p.groups) with groups := p.groups + 1 }

/-! ## Repetitions -/

/-- The element that a repetition repeats, and the elements before it. Tests of a position and repetitions cannot be repeated. -/
def repeatable (p : Progress) : Option (Regex × List Element) :=
  match p.frame.elements with
  | .plain r :: elements => some (sequence [r], elements)
  | .bundle rs :: elements => some (sequence rs, elements)
  | _ => none

/-- A repetition of the last element, read past the mark for its manner. -/
def times (p : Progress) (least : Nat) (most : Option Nat) (rest : List Char) : Step := do
  let (r, elements) ← Regex.sound p.repeatable
  let (manner, rest) := match rest with
    | '?' :: rest => (Manner.lazy, rest)
    | '+' :: rest => (.possessive, rest)
    | rest => (.greedy, rest)
  let element := Element.repetition (.repeated r least most manner)
  return ({ p with sound := p.sound && !p.flags.template, frame := { p.frame with elements := element :: elements } }, rest)

end Progress

/-- The first number of rounds that is too large. -/
def roundsLimit : Nat := 4294967295

/-- A bound of a repetition. -/
def bound (digits : List Char) : Except RegexFault Nat :=
  if IntegerText.longest < digits.length then .error (.oversizedBound digits.length)
  else if roundsLimit ≤ IntegerText.number digits then .error .tooManyRounds
  else .ok (IntegerText.number digits)

/-- The digits of the bounds between braces, after the opening brace. Without a comma both bounds are one. -/
def boundDigits (cs : List Char) : Option (List Char × List Char × List Char) :=
  let low := cs.takeWhile Char.isDigit
  match cs.drop low.length with
  | '\x7d' :: rest => if low.isEmpty then none else some (low, low, rest)
  | ',' :: after =>
    let high := after.takeWhile Char.isDigit
    match after.drop high.length with
    | '\x7d' :: rest => some (low, high, rest)
    | _ => none
  | _ => none

/-- A repetition with bounds, or a brace that stands for itself. A backslash that ends the text after the closing brace is noticed
before bounds that are too large. -/
def braces (p : Progress) (cs : List Char) : Step :=
  match boundDigits cs with
  | none => .ok (p.pushCode 0x7b, cs)
  | some (_, _, ['\\']) => .error .malformed
  | some (low, high, rest) => do
    let least ← bound low
    if high.isEmpty then p.times least none rest
    else
      let most ← bound high
      if most < least then .error .malformed else p.times least (some most) rest

/-! ## Groups -/

/-- The flag of a letter. -/
def flag? (c : Char) : Option RegexFlags :=
  [('i', ({ ignoreCase := true } : RegexFlags)), ('m', { multiline := true }), ('s', { dotAll := true }), ('x', { verbose := true }),
    ('a', { ascii := true }), ('t', { template := true }), ('u', { unicode := true })].lookup c

/-- The flags of letters after those of letters before, and the character that ends them. Only one script can be chosen. -/
def flagLetters (flags : RegexFlags) : List Char → Option (RegexFlags × Char × List Char)
  | [] => none
  | c :: rest =>
    match flag? c with
    | none => some (flags, c, rest)
    | some more => if (flags.union more).ascii && (flags.union more).unicode then none else flagLetters (flags.union more) rest

/-- Flags after a question mark: those of the whole expression, which can only stand at its start, or those of a group. -/
def flagGroup (p : Progress) (cs : List Char) : Option (Progress × List Char) :=
  match flagLetters {} cs with
  | some (on, ')', rest) =>
    if on = {} ∨ !p.outer.isEmpty ∨ !p.frame.before.isEmpty ∨ !p.frame.elements.isEmpty then none
    else some ({ p with flags := p.flags.union on, frame := { p.frame with flags := p.frame.flags.union on } }, rest)
  | some (on, ':', rest) => if on = {} ∨ on.template then none else some (p.enter .flagged (p.frame.flags.changed on {}), rest)
  | some (on, '-', rest) =>
    match flagLetters {} rest with
    | some (off, ':', rest) =>
      if on.template ∨ off = {} ∨ off.template ∨ off.ascii ∨ off.unicode ∨ on.common off ≠ {} then none
      else some (p.enter .flagged (p.frame.flags.changed on off), rest)
    | _ => none
  | _ => none

/-- A name up to a mark, and the text after the mark. -/
def nameUpTo (mark : Char) (cs : List Char) : Option (List Char × List Char) :=
  let name := cs.takeWhile (· ≠ mark)
  match cs.drop name.length with
  | _ :: rest => some (name, rest)
  | [] => none

/-- A group with a name that no other group has. -/
def namedGroup (p : Progress) (cs : List Char) : Option (Progress × List Char) := do
  let (name, rest) ← nameUpTo '>' cs
  if !Text.isIdentifier name ∨ (p.names.lookup (String.ofList name)).isSome then none
  else some ({ p.enterCapture with names := (String.ofList name, p.groups) :: p.names }, rest)

/-- A reference to a group. -/
def reference (p : Progress) (group : Nat) : Option Progress :=
  if p.canRefer group then some (p.push (.plain (.again group p.frame.flags.caseRule))) else none

/-- A reference to a group by its name. -/
def namedReference (p : Progress) (cs : List Char) : Option (Progress × List Char) := do
  let (name, rest) ← nameUpTo ')' cs
  return (← reference p (← p.names.lookup (String.ofList name)), rest)

/-- The value of a decimal digit of any script. -/
def digitValue? (c : Char) : Option Nat :=
  (Text.digitRanges.find? fun r => r.1 ≤ c.toNat && c.toNat ≤ r.2).map fun r => (c.toNat - r.1) % 10

/-- The number that digits write after a number and before the end; between two digits there may be one underscore. -/
def digitsFrom? (n : Nat) : List Char → Option Nat
  | [] => some n
  | '_' :: c :: rest | c :: rest => (digitValue? c).bind fun d => digitsFrom? (n * 10 + d) rest

/-- The number that a text writes, apart from blanks around it and a plus sign. -/
def groupNumber? (name : List Char) : Option Nat :=
  let digits := match Text.trimChars Text.isBlank name with
    | '+' :: rest => rest
    | rest => rest
  match digits with
  | [] => none
  | c :: rest => if (digits.filter (· ≠ '_')).length ≤ IntegerText.longest then (digitValue? c).bind (digitsFrom? · rest) else none

/-- The first number of a group that is too large. -/
def groupsLimit : Nat := 1073741823

/-- The condition that a group has matched, which is named or numbered; a number may be that of a group to come. -/
def condition (p : Progress) (cs : List Char) : Option (Progress × List Char) := do
  let (name, rest) ← nameUpTo ')' cs
  let group ← if Text.isIdentifier name then p.names.lookup (String.ofList name) else groupNumber? name
  if group = 0 ∨ groupsLimit ≤ group ∨ (p.behind.isSome ∧ !p.canRefer group) then none
  else some ({ p.enterPlain (.given group) with asked := if Text.isIdentifier name then p.asked else max p.asked group }, rest)

/-- The text after a comment of a group, in which a backslash takes the next character with it. -/
def afterComment : List Char → Option (List Char)
  | [] | ['\\'] => none
  | '\\' :: _ :: rest => afterComment rest
  | c :: rest => if c = ')' then some rest else afterComment rest

/-- What follows an opening bracket and a question mark. -/
def extension (p : Progress) (cs : List Char) : Option (Progress × List Char) :=
  match cs with
  | 'P' :: '<' :: rest => namedGroup p rest
  | 'P' :: '=' :: rest => namedReference p rest
  | ':' :: rest => some (p.enterPlain .plain, rest)
  | '#' :: rest => (afterComment rest).map (p, ·)
  | '=' :: rest => some (p.enterPlain (.ahead true), rest)
  | '!' :: rest => some (p.enterPlain (.ahead false), rest)
  | '<' :: c :: rest =>
    if c = '=' ∨ c = '!' then
      some ({ p.enterPlain (.behind (c = '=') p.behind.isNone) with behind := some (p.behind.getD p.groups) }, rest)
    else none
  | '(' :: rest => condition p rest
  | '>' :: rest => some (p.enterPlain .atomic, rest)
  | _ => flagGroup p cs

/-- A bar, of which a group with a condition has one at most. -/
def bar (p : Progress) : Option Progress :=
  let next := { p with frame := { p.frame with before := p.frame.last :: p.frame.before, elements := [] } }
  match p.frame.opening with
  | .given _ => if p.frame.before.isEmpty then some next else none
  | _ => some next

/-- The end of the innermost of the open groups, inside another one. A look behind has to be of one width, which is put off. -/
def close (p : Progress) (next : Frame) (outer : List Frame) : Progress :=
  let inner := p.frame.inner
  let body := sequence inner
  let width := body.width p.widths
  let after := { p with frame := next, outer := outer }
  match p.frame.opening with
  | .plain => after.push (.bundle inner)
  | .flagged => after.push (.plain (.flagged body))
  | .capture index => { after with widths := (index, width) :: p.widths }.push (.plain (.group index body))
  | .atomic => after.push (.plain (.atomic body))
  | .ahead wanted => after.push (.plain (.ahead body wanted))
  | .behind wanted outermost =>
    let fixed := width.most = some width.least ∧ width.least < roundsLimit
    { after with
      behind := if outermost then none else p.behind
      farthest := max p.farthest width.least
      sound := p.sound && fixed }.push (.plain (.behind width.least body wanted))
  | .given index =>
    match p.frame.before with
    | [] => after.push (.plain (.given index (sequence p.frame.last) .empty))
    | yes :: _ => after.push (.plain (.given index (sequence yes) (sequence p.frame.last)))

/-! ## Patterns -/

/-- Where reading stands after an escape. -/
def afterEscape (p : Progress) (cs : List Char) : Option (Progress × List Char) := do
  match ← escape p.frame.flags.ascii cs with
  | (.item (.code n), rest) => return (p.pushCode n, rest)
  | (.item i, rest) => return (p.pushOne (.ofItems true [i] p.frame.flags.caseRule), rest)
  | (.test r, rest) => return (p.push (.test r), rest)
  | (.again index, rest) => return (← reference p index, rest)

/-- The text after a comment up to the end of the line, in which a backslash takes the next character with it. -/
def afterLine : List Char → Option (List Char)
  | [] => some []
  | ['\\'] => none
  | '\\' :: _ :: rest => afterLine rest
  | c :: rest => if c = '\n' then some rest else afterLine rest

/-- Where reading stands after the character `c` and what belongs to it. -/
def step (p : Progress) (c : Char) (rest : List Char) : Step :=
  let flags := p.frame.flags
  if flags.verbose && CharKind.isAsciiBlank c then .ok (p, rest)
  else if flags.verbose && c = '#' then (sound (afterLine rest)).map (p, ·)
  else
    match c with
    | '\\' => sound (afterEscape p rest)
    | '[' => sound ((charClass flags.ascii flags.caseRule rest).map fun (test, rest) => (p.pushOne test, rest))
    | '.' => .ok (p.pushOne (.any flags.dotAll), rest)
    | '^' => .ok (p.push (.test (.lineStart flags.multiline)), rest)
    | '$' => .ok (p.push (.test (.lineEnd flags.multiline)), rest)
    | '(' =>
      match rest with
      | '?' :: rest => sound (extension p rest)
      | rest => .ok (p.enterCapture, rest)
    | '|' => sound ((bar p).map (·, rest))
    | '*' => p.times 0 none rest
    | '+' => p.times 1 none rest
    | '?' => p.times 0 (some 1) rest
    | '\x7b' => braces p rest
    | c => .ok (p.pushCode c.toNat, rest)

/-- Reads a text of no more than `fuel` characters. A closing bracket too many ends the reading, and its fault is put off. -/
def readWithin : Nat → Progress → List Char → Except RegexFault Progress
  | 0, _, _ => .error .malformed
  | _, p, [] => if p.outer.isEmpty then .ok p else .error .malformed
  | fuel + 1, p, c :: rest =>
    if c = ')' then
      match p.outer with
      | [] => .ok { p with sound := false }
      | next :: outer => readWithin fuel (close p next outer) rest
    else do
      let (p, rest) ← step p c rest
      readWithin fuel p rest

/-- The first number of characters that a look behind cannot go back. -/
def distanceLimit : Nat := 2147483648

/-- The expression that a pattern writes. -/
def parse (pattern : String) : Except RegexFault CompiledRegex := do
  let p ← readWithin (pattern.length + 1) {} pattern.toList
  if p.flags.ascii && p.flags.unicode then .error .conflictingFlags
  else if !p.sound || p.groups ≤ p.asked then .error .malformed
  else if distanceLimit ≤ p.farthest then .error .oversizedWidth
  else return ⟨pattern, p.flags, sequence p.frame.inner⟩

end Regex

end AwkEdit
