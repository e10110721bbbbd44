import AwkEdit.Text.Blank
import AwkEdit.Text.Lower
import AwkEdit.Text.Word

/-!
# Tests of one character

A regular expression tests single characters: for being any, for being a certain one, or for being in a class. If case does not
matter, the lower cases of characters are compared, which all belong together that are lower cases of one letter. That is not quite so
for the characters of a class that lie beyond the first 65536: one of those stands for itself only, although the lower case is asked
for it, and a range of those is asked for the lower case and for the upper case of that.
-/

namespace AwkEdit

/-- Which letters are the same in either case: none, those from A to Z, or all. -/
inductive CaseRule where
  | exact
  | ascii
  | everyLetter
  deriving DecidableEq, Repr

namespace CaseRule

/-- The lower case of a character. -/
def lower (n : Nat) : CaseRule → Nat
  | exact => n
  | ascii => Text.lowerAscii n
  | everyLetter => Text.lowerCode n

/-- The lower-case characters that are not told apart from one of them, itself among them. -/
def kin (n : Nat) : CaseRule → List Nat
  | everyLetter => Text.kin n
  | _ => [n]

/-- The characters whose lower case is not told apart from a lower-case one. -/
def raised (n : Nat) : CaseRule → List Nat
  | exact => [n]
  | ascii => if Text.isAsciiLetter n then [n, n - 0x20] else [n]
  | everyLetter => (Text.kin n).flatMap Text.raised

/-- Whether a character from `first` to `last` has two cases. -/
def anyCased (first last : Nat) : CaseRule → Bool
  | exact => false
  | ascii => Text.runMeets first last 0x41 0x5a 1 || Text.runMeets first last 0x61 0x7a 1
  | everyLetter => Text.anyCased first last

/-- Whether two characters have one lower case. -/
def same (a b : Char) (rule : CaseRule) : Bool := rule.lower a.toNat = rule.lower b.toNat

end CaseRule

/-! ## Kinds of characters -/

/-- A kind of characters that has a letter. -/
inductive CharKind where
  | digit
  | blank
  | word
  deriving DecidableEq, Repr

namespace CharKind

/-- Whether a character is white space in ASCII. -/
def isAsciiBlank (c : Char) : Bool := c = ' ' || (0x9 ≤ c.toNat && c.toNat ≤ 0xd)

/-- Whether a character is of a kind, among those of ASCII or of every script. -/
def has (ascii : Bool) (c : Char) : CharKind → Bool
  | digit => if ascii then c.isDigit else Text.isDigitChar c
  | blank => if ascii then isAsciiBlank c else Text.isBlank c
  | word => if ascii then c.isAlphanum || c = '_' else Text.isWordChar c

end CharKind

/-! ## Classes -/

/-- What a class lists: a character, a range, or all of a kind, or all that are not. -/
inductive CharItem where
  | code (n : Nat)
  | range (low high : Nat)
  | kind (k : CharKind) (ascii wanted : Bool)
  deriving DecidableEq, Repr

/-- The first code after those for which lower cases are looked up as a whole. -/
def firstFar : Nat := 0x10000

namespace CharItem

/-- Whether case matters for an item: it has a character with two cases, or one that is far. -/
def isCased (rule : CaseRule) : CharItem → Bool
  | code n => firstFar ≤ n || rule.anyCased n n
  | range low high => firstFar ≤ high || rule.anyCased low high
  | kind .. => false

/-- Whether an item has a character. -/
def has (rule : CaseRule) (c : Char) : CharItem → Bool
  | code n =>
    if n < firstFar then (rule.kin (rule.lower n)).contains (rule.lower c.toNat) else rule.lower c.toNat = n
  | range low high =>
    let within (n : Nat) : Bool := low ≤ n && n ≤ high
    let small := rule.lower c.toNat
    if rule = .exact then within small
    else
      (rule.raised small).any (fun n => within n && n < firstFar) ||
        (firstFar ≤ high && (within small || within (Text.upperCode small)))
  | kind k ascii wanted => k.has ascii c == wanted

end CharItem

/-! ## Tests -/

/-- A test of one character; a test that is not wanted is passed by all others. -/
inductive CharTest where
  | any (newline : Bool)
  | char (wanted : Bool) (n : Nat) (rule : CaseRule)
  | cls (wanted : Bool) (items : List CharItem) (rule : CaseRule)
  deriving DecidableEq, Repr

namespace CharTest

/-- The test for a character, where a rule applies to it only if it has two cases. -/
def ofCode (wanted : Bool) (n : Nat) (rule : CaseRule) : CharTest :=
  .char wanted n (if rule.anyCased n n then rule else .exact)

/-- The test for a class, where a rule applies to it only if case matters for an item. -/
def ofItems (wanted : Bool) (items : List CharItem) (rule : CaseRule) : CharTest :=
  .cls wanted items (if rule ≠ .exact && items.any (·.isCased rule) then rule else .exact)

/-- Whether a character passes. -/
def passes (c : Char) : CharTest → Bool
  | any newline => newline || c ≠ '\n'
  | char wanted n rule => (rule.kin (rule.lower n)).contains (rule.lower c.toNat) == wanted
  | cls wanted items rule => items.any (·.has rule c) == wanted

/-- The only character that passes, if case matters. -/
def only? : CharTest → Option Nat
  | char true n .exact => some n
  | _ => none

/-- Whether it is told by looking at a character whether more can be matched: the test is for one character or a class, and case
matters. -/
def isOutright : CharTest → Bool
  | char true _ .exact | cls _ _ .exact => true
  | _ => false

/-- Whether characters that pass are counted one by one, each of them taken up: case does not matter, and several lower-case
characters pass. -/
def isStepwise : CharTest → Bool
  | char _ n rule => 1 < (rule.kin (rule.lower n)).length
  | cls _ _ rule => rule ≠ .exact
  | any _ => false

end CharTest

end AwkEdit
