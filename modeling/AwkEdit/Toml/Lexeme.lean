import AwkEdit.IntegerText
import AwkEdit.Settings.Value
import AwkEdit.Text.Quoted

/-!
# The lexemes of TOML

Readers of comments, keys, strings, numbers and dates. A reader takes what it reads from the front of a text and leaves the rest;
it refuses a text that does not start with what it reads. Lines end with a newline.
-/

namespace AwkEdit.Toml

/-- What reads a value from the front of a text. -/
abbrev Reader (α : Type) := List Char → Option (α × List Char)

/-- Why a text is refused: it is not well formed, or it has an integer of too many digits. -/
inductive Fault where
  | malformed
  | oversized (digits : Nat)
  deriving DecidableEq, Repr

/-- What is read, where nothing but the form of the text can be wrong. -/
def sound {α : Type} : Option α → Except Fault α
  | some a => .ok a
  | none => .error .malformed

/-- A character put before what is read. -/
def push (c : Char) (read : List Char × List Char) : List Char × List Char := (c :: read.1, read.2)

/-! ## Blanks and comments -/

/-- A space or a tab. -/
def isBlank (c : Char) : Bool := c = ' ' || c = '\t'

/-- The text after its blanks. -/
def skipBlanks (cs : List Char) : List Char := cs.dropWhile isBlank

/-- A control character. -/
def isControl (c : Char) : Bool := c.toNat < 0x20 || c.toNat = 0x7f

/-- A character that a comment or a string on one line may hold. -/
def isPlain (c : Char) : Bool := c = '\t' || !isControl c

/-- The text after the end of a line, before which there may be blanks and a comment. -/
def endLine (cs : List Char) : Option (List Char) :=
  let after :=
    match skipBlanks cs with
    | '#' :: rest => rest.dropWhile isPlain
    | rest => rest
  match after with
  | [] => some []
  | '\n' :: rest => some rest
  | _ => none

/-- The text after blanks, newlines and comments, from outside a comment or inside one. -/
def skipFill : Bool → List Char → Option (List Char)
  | _, [] => some []
  | false, c :: rest =>
    if isBlank c || c = '\n' then skipFill false rest else if c = '#' then skipFill true rest else some (c :: rest)
  | true, c :: rest => if c = '\n' then skipFill false rest else if isPlain c then skipFill true rest else none

/-! ## Strings -/

/-- The character that a letter after a backslash stands for. -/
def escaped? (c : Char) : Option Char :=
  if c = 'b' then some '\x08'
  else if c = 't' then some '\t'
  else if c = 'n' then some '\n'
  else if c = 'f' then some '\x0c'
  else if c = 'r' then some '\r'
  else if c = '\x22' ∨ c = '\\' then some c
  else none

/-- The character of a code, if there is one. -/
def charOf? (code : Nat) : Option Char := if code.isValidChar then some (Char.ofNat code) else none

/-- Where reading stands inside a string: before a character, after a backslash, inside a code with `left` digits to come after the
next one, or in the white space that a backslash at the end of a line removes, before the newline or after it. -/
inductive Gap where
  | plain
  | backslash
  | code (left value : Nat)
  | removed (after : Bool)
  deriving DecidableEq, Repr

/-- Where reading stands after the letter of an escape that takes digits. -/
def codeGap? (c : Char) : Option Gap := if c = 'u' then some (.code 3 0) else if c = 'U' then some (.code 7 0) else none

/-- The rest of a string on one line, after its opening quote. -/
def basic : Gap → Reader (List Char)
  | _, [] => none
  | .plain, c :: rest =>
    if c = '\x22' then some ([], rest)
    else if c = '\\' then basic .backslash rest
    else if isPlain c then (basic .plain rest).map (push c)
    else none
  | .backslash, c :: rest =>
    match codeGap? c, escaped? c with
    | some gap, _ => basic gap rest
    | none, some e => (basic .plain rest).map (push e)
    | none, none => none
  | .code left value, c :: rest =>
    match Quoted.hexValue? c, left with
    | none, _ => none
    | some d, 0 =>
      match charOf? (value * 16 + d) with
      | some e => (basic .plain rest).map (push e)
      | none => none
    | some d, left + 1 => basic (.code left (value * 16 + d)) rest
  | .removed _, _ => none

/-- The end of a string on several lines, after three quotes: up to two more belong to the string. -/
def closing (quote : Char) : List Char → List Char × List Char
  | a :: b :: rest =>
    if a = quote then if b = quote then ([a, b], rest) else ([a], b :: rest) else ([], a :: b :: rest)
  | [a] => if a = quote then ([a], []) else ([], [a])
  | [] => ([], [])

/-- Whether a text starts with two quotes. -/
def twoQuotes (quote : Char) : List Char → Bool
  | a :: b :: _ => a = quote && b = quote
  | _ => false

/-- The rest of a string on several lines, after its opening quotes. -/
def basicLines : Gap → Reader (List Char)
  | _, [] => none
  | .backslash, c :: rest =>
    if isBlank c then basicLines (.removed false) rest
    else if c = '\n' then basicLines (.removed true) rest
    else
      match codeGap? c, escaped? c with
      | some gap, _ => basicLines gap rest
      | none, some e => (basicLines .plain rest).map (push e)
      | none, none => none
  | .code left value, c :: rest =>
    match Quoted.hexValue? c, left with
    | none, _ => none
    | some d, 0 =>
      match charOf? (value * 16 + d) with
      | some e => (basicLines .plain rest).map (push e)
      | none => none
    | some d, left + 1 => basicLines (.code left (value * 16 + d)) rest
  | .removed false, c :: rest =>
    if isBlank c then basicLines (.removed false) rest else if c = '\n' then basicLines (.removed true) rest else none
  | gap, c :: rest =>
    if gap = .removed true ∧ (isBlank c ∨ c = '\n') then basicLines gap rest
    else if c = '\x22' then
      if twoQuotes c rest then some (closing c (rest.drop 2)) else (basicLines .plain rest).map (push c)
    else if c = '\\' then basicLines .backslash rest
    else if isPlain c ∨ c = '\n' then (basicLines .plain rest).map (push c)
    else none

/-- The rest of a string on one line without escapes, after its opening quote. -/
def literal : Reader (List Char)
  | [] => none
  | c :: rest => if c = '\x27' then some ([], rest) else if isPlain c then (literal rest).map (push c) else none

/-- The rest of a string on several lines without escapes, after its opening quotes. -/
def literalLines : Reader (List Char)
  | [] => none
  | c :: rest =>
    if c = '\x27' ∧ twoQuotes c rest then some (closing c (rest.drop 2))
    else if isPlain c ∨ c = '\n' then (literalLines rest).map (push c)
    else none

/-- The text after one newline, if it starts with one. -/
def skipNewline : List Char → List Char
  | '\n' :: rest => rest
  | cs => cs

/-- A string after its first quote, which is one of a pair or of two times three. -/
def stringAfter (quote : Char) (line lines : Reader (List Char)) (cs : List Char) : Option (Setting × List Char) :=
  (if twoQuotes quote cs then lines (skipNewline (cs.drop 2)) else line cs).map fun (text, rest) =>
    (.text (String.ofList text), rest)

/-! ## Keys -/

/-- A character of a key without quotes. -/
def isBare (c : Char) : Bool := c.isAlphanum || c = '-' || c = '_'

/-- One part of a key. -/
def keyPart : Reader String
  | [] => none
  | c :: rest =>
    if c = '\x22' then (basic .plain rest).map fun (text, rest) => (String.ofList text, rest)
    else if c = '\x27' then (literal rest).map fun (text, rest) => (String.ofList text, rest)
    else if isBare c then some (String.ofList (c :: rest.takeWhile isBare), rest.dropWhile isBare)
    else none

/-- A key, which has no more parts than `fuel`, with the blanks after it. -/
def keyWithin : Nat → Reader (List String)
  | 0, _ => none
  | fuel + 1, cs =>
    match keyPart cs with
    | none => none
    | some (part, rest) =>
      match skipBlanks rest with
      | '.' :: after => (keyWithin fuel (skipBlanks after)).map fun (parts, rest) => (part :: parts, rest)
      | after => some ([part], after)

/-- A key, with the blanks after it. -/
def key (cs : List Char) : Option (List String × List Char) := keyWithin cs.length cs

/-! ## Numbers -/

/-- Digits of a kind, between which there may be single underscores, and the text after them. -/
def digits (isDigit : Char → Bool) : List Char → List Char × List Char
  | '_' :: c :: rest => if isDigit c then digits isDigit (c :: rest) else ([], '_' :: c :: rest)
  | c :: rest => if isDigit c then push c (digits isDigit rest) else ([], c :: rest)
  | [] => ([], [])

/-- Digits of a kind, of which there is at least one. -/
def someDigits (isDigit : Char → Bool) : Reader (List Char)
  | [] => none
  | c :: rest => if isDigit c then some (digits isDigit (c :: rest)) else none

/-- The number that digits write in a base. -/
def valueOf (base : Nat) (ds : List Char) : Nat := ds.foldl (fun n c => n * base + (Quoted.hexValue? c).getD 0) 0

/-- An integer in a base that a letter after a zero names. -/
def basedInteger (base : Nat) (cs : List Char) : Option (Setting × List Char) :=
  (someDigits (fun c => (Quoted.hexValue? c).any (· < base)) cs).map fun (ds, rest) => (.integer (valueOf base ds), rest)

/-- A sign, if there is one: whether it is a minus. -/
def sign : List Char → Bool × List Char
  | '-' :: rest => (true, rest)
  | '+' :: rest => (false, rest)
  | cs => (false, cs)

/-- The integer part of a number: no zero comes first but the only digit. -/
def integerPart : Reader (List Char)
  | '0' :: rest => some (['0'], rest)
  | cs => someDigits Char.isDigit cs

/-- The fraction of a number; without a point there is none. -/
def fractionPart : List Char → List Char × List Char
  | '.' :: rest => (someDigits Char.isDigit rest).getD ([], '.' :: rest)
  | cs => ([], cs)

/-- The exponent of a number, if there is one. -/
def exponentPart (cs : List Char) : Option Int × List Char :=
  match cs with
  | c :: rest =>
    if c = 'e' ∨ c = 'E' then
      match someDigits Char.isDigit (sign rest).2 with
      | some (ds, after) => (some (if (sign rest).1 then -(valueOf 10 ds : Int) else valueOf 10 ds), after)
      | none => (none, cs)
    else (none, cs)
  | [] => (none, cs)

/-- A number in base ten after its sign: an integer, or a decimal if it has a fraction or an exponent. An integer of too many digits
is refused as such. -/
def unsigned (negative : Bool) (cs : List Char) : Except Fault (Setting × List Char) := do
  let (whole, rest) ← sound (integerPart cs)
  let (fraction, rest) := fractionPart rest
  let (exponent, rest) := exponentPart rest
  let n := valueOf 10 (whole ++ fraction)
  if !fraction.isEmpty || exponent.isSome then
    return (.decimal (.finite negative n (exponent.getD 0 - fraction.length)), rest)
  else if IntegerText.longest < whole.length then .error (.oversized whole.length)
  else return (.integer (if negative then -n else n), rest)

/-- A number, or the name of a value beyond numbers. -/
def number (cs : List Char) : Except Fault (Setting × List Char) :=
  match cs with
  | '0' :: 'x' :: rest => sound (basedInteger 16 rest)
  | '0' :: 'o' :: rest => sound (basedInteger 8 rest)
  | '0' :: 'b' :: rest => sound (basedInteger 2 rest)
  | _ =>
    match sign cs with
    | (negative, 'i' :: 'n' :: 'f' :: rest) => .ok (.decimal (.infinite negative), rest)
    | (_, 'n' :: 'a' :: 'n' :: rest) => .ok (.decimal .undefined, rest)
    | (negative, rest) => unsigned negative rest

/-! ## Dates and times -/

/-- Two digits of a number within bounds. -/
def pair (low high : Nat) : Reader Nat
  | a :: b :: rest =>
    let n := valueOf 10 [a, b]
    if a.isDigit && b.isDigit && low ≤ n && n ≤ high then some (n, rest) else none
  | _ => none

/-- One character. -/
def mark (c : Char) : List Char → Option (List Char)
  | a :: rest => if a = c then some rest else none
  | [] => none

/-- How many days a month has. -/
def daysIn (year month : Nat) : Nat :=
  if month = 2 then if year % 4 = 0 ∧ (year % 100 ≠ 0 ∨ year % 400 = 0) then 29 else 28
  else if month ∈ [4, 6, 9, 11] then 30 else 31

/-- The text after a time. -/
def afterTime (cs : List Char) : Option (List Char) := do
  let (_, rest) ← pair 0 23 cs
  let (_, rest) ← pair 0 59 (← mark ':' rest)
  let (_, rest) ← pair 0 59 (← mark ':' rest)
  match rest with
  | '.' :: d :: after => return if d.isDigit then after.dropWhile Char.isDigit else rest
  | _ => return rest

/-- The text after an offset from universal time, if there is one. -/
def afterOffset (cs : List Char) : List Char :=
  match cs with
  | c :: rest =>
    if c = 'Z' ∨ c = 'z' then rest
    else if c = '+' ∨ c = '-' then
      (do let (_, rest) ← pair 0 23 rest
          let (_, rest) ← pair 0 59 (← mark ':' rest)
          return rest).getD cs
    else cs
  | [] => cs

/-- The text after a date, and whether there is such a day. -/
def afterDate (cs : List Char) : Option (Bool × List Char) := do
  let (century, rest) ← pair 0 99 cs
  let (year, rest) ← pair 0 99 rest
  let (month, rest) ← pair 1 12 (← mark '-' rest)
  let (day, rest) ← pair 1 31 (← mark '-' rest)
  return (0 < century * 100 + year ∧ day ≤ daysIn (century * 100 + year) month, rest)

/-- The text after a date and, if there is one, its time, and whether there is such a day. -/
def afterMoment (cs : List Char) : Option (Bool × List Char) := do
  let (real, rest) ← afterDate cs
  match rest with
  | c :: time =>
    if c = 'T' ∨ c = 't' ∨ c = ' ' then return (real, ((afterTime time).map afterOffset).getD rest) else return (real, rest)
  | [] => return (real, rest)

/-- A date with or without a time, or a time; a text that starts like one is not read as anything else. -/
def moment (cs : List Char) : Option (Option (Setting × List Char)) :=
  let written (rest : List Char) : Setting := .moment (String.ofList (cs.take (cs.length - rest.length)))
  match afterMoment cs, afterTime cs with
  | some (true, rest), _ => some (some (written rest, rest))
  | some (false, _), _ => some none
  | none, some rest => some (some (written rest, rest))
  | none, none => none

end AwkEdit.Toml
