import AwkEdit.IntegerText
import AwkEdit.Regex.Basic
import AwkEdit.Text.CharNames.Lookup

/-!
# Escapes and classes

The parts of a pattern that stand for characters: what follows a backslash, and a class between square brackets. A reader takes what
it reads from the front of a text and leaves the rest; it refuses a text that does not start with what it reads.
-/

namespace AwkEdit.Regex

/-- What an escape stands for: a character or a kind of characters, a test of the position, or what a group has matched. -/
inductive Escape where
  | item (i : CharItem)
  | test (r : Regex)
  | again (group : Nat)

/-- The escape of the character of a code. -/
def Escape.code (n : Nat) : Escape := .item (.code n)

/-- The code that the first `width` digits of a text write in hexadecimal. -/
def hexCode (width : Nat) (cs : List Char) : Option (Escape × List Char) := do
  let digits ← (cs.take width).mapM Quoted.hexValue?
  let n := digits.foldl (fun n d => n * 16 + d) 0
  if digits.length = width ∧ n ≤ 0x10FFFF then some (.code n, cs.drop width) else none

/-- An octal digit. -/
def isOctal (c : Char) : Bool := '0' ≤ c && c ≤ '7'

/-- The code that octal digits write, if it is below 256. -/
def octalCode (digits rest : List Char) : Option (Escape × List Char) :=
  let n := digits.foldl (fun n d => n * 8 + (d.toNat - 0x30)) 0
  if n < 0x100 then some (.code n, rest) else none

/-- The octal digits at the front of a text, three of them at most. -/
def octalDigits (cs : List Char) : List Char := (cs.take 3).takeWhile isOctal

/-- The control characters that have a letter of their own. -/
def controlLetters : List (Char × Nat) := [('a', 7), ('f', 12), ('n', 10), ('r', 13), ('t', 9), ('v', 11)]

/-- The kind of characters that a letter stands for; a capital letter stands for all others. -/
def letterKind? (ascii : Bool) (c : Char) : Option CharItem :=
  ([('d', CharKind.digit), ('s', .blank), ('w', .word)].lookup c.toLower).map fun k => .kind k ascii c.isLower

/-- The test of a position that a letter stands for. -/
def letterTest? (ascii : Bool) (c : Char) : Option Regex :=
  [('A', Regex.textStart), ('Z', .textEnd), ('b', .wordEdge ascii false), ('B', .wordEdge ascii true)].lookup c

/-- The code of the character whose name stands between braces. -/
def namedCode (cs : List Char) : Option (Escape × List Char) :=
  match cs with
  | '\x7b' :: rest => do
    let name := rest.takeWhile (· ≠ '\x7d')
    match rest.drop name.length with
    | [] => none
    | _ :: rest => (Text.codeOfName? name).map fun n => (.code n, rest)
  | _ => none

/-- What the letters stand for that escapes have in common inside a class and outside. -/
def commonEscape (ascii : Bool) (c : Char) (rest : List Char) : Option (Escape × List Char) :=
  match controlLetters.lookup c, letterKind? ascii c with
  | some control, _ => some (.code control, rest)
  | _, some kind => some (.item kind, rest)
  | none, none =>
    if c = 'N' then namedCode rest
    else if c = 'x' then hexCode 2 rest
    else if c = 'u' then hexCode 4 rest
    else if c = 'U' then hexCode 8 rest
    else if c.isAlphanum then none
    else some (.code c.toNat, rest)

/-- What the characters after a backslash stand for inside a class. -/
def classEscape (ascii : Bool) : List Char → Option (Escape × List Char)
  | [] => none
  | c :: rest =>
    if c = 'b' then some (.code 8, rest)
    else if isOctal c then
      let digits := octalDigits (c :: rest)
      octalCode digits ((c :: rest).drop digits.length)
    else commonEscape ascii c rest

/-- What digits after a backslash stand for outside of a class: a zero starts a code, and so do three octal digits; any other one or
two digits are the number of a group. -/
def digitEscape (c : Char) (rest : List Char) : Option (Escape × List Char) :=
  let digits := octalDigits (c :: rest)
  let number := (c :: rest.take 1).takeWhile Char.isDigit
  if c = '0' ∨ digits.length = 3 then octalCode digits ((c :: rest).drop digits.length)
  else some (.again (IntegerText.number number), (c :: rest).drop number.length)

/-- What the characters after a backslash stand for outside of a class. -/
def escape (ascii : Bool) : List Char → Option (Escape × List Char)
  | [] => none
  | c :: rest =>
    match letterTest? ascii c with
    | some test => some (.test test, rest)
    | none => if c.isDigit then digitEscape c rest else commonEscape ascii c rest

/-! ## Classes -/

/-- A character or a kind of characters of a class. -/
def classAtom (ascii : Bool) : List Char → Option (CharItem × List Char)
  | '\\' :: rest =>
    match classEscape ascii rest with
    | some (.item i, rest) => some (i, rest)
    | _ => none
  | c :: rest => some (.code c.toNat, rest)
  | [] => none

/-- The items of a class after those found so far, the last ones first, up to its closing bracket, which is an item itself if it comes
first. There are no more than `fuel` of them. -/
def classItems (ascii : Bool) : Nat → List CharItem → List Char → Option (List CharItem × List Char)
  | 0, _, _ => none
  | fuel + 1, found, cs =>
    if cs.head? = some ']' ∧ !found.isEmpty then some (found.reverse, cs.drop 1)
    else
      match classAtom ascii cs with
      | none => none
      | some (low, '-' :: ']' :: rest) => some ((.code 0x2d :: low :: found).reverse, rest)
      | some (low, '-' :: after) =>
        match low, classAtom ascii after with
        | .code a, some (.code b, rest) => if a ≤ b then classItems ascii fuel (.range a b :: found) rest else none
        | _, _ => none
      | some (low, rest) => classItems ascii fuel (low :: found) rest

/-- The test that a class is: a class of one character is that character. -/
def classTest (wanted : Bool) (rule : CaseRule) (items : List CharItem) : CharTest :=
  match items.eraseDups with
  | [.code n] => .ofCode wanted n rule
  | items => .ofItems wanted items rule

/-- The test of a class after its opening bracket. -/
def charClass (ascii : Bool) (rule : CaseRule) (cs : List Char) : Option (CharTest × List Char) :=
  let wanted := cs.head? ≠ some '^'
  (classItems ascii (cs.length + 1) [] (if wanted then cs else cs.drop 1)).map fun (items, rest) => (classTest wanted rule items, rest)

end AwkEdit.Regex
