import AwkEdit.Text.CharNames.Aliases
import AwkEdit.Text.CharNames.Alphabets
import AwkEdit.Text.CharNames.AncientScripts
import AwkEdit.Text.CharNames.LaterScripts
import AwkEdit.Text.CharNames.Pictographs
import AwkEdit.Text.CharNames.RareScripts
import AwkEdit.Text.CharNames.Scripts
import AwkEdit.Text.CharNames.Symbols

/-!
# Characters by name

`codeOfName?` finds the character of a name of Unicode 14. Most names stand in tables. Entries of a table end with a semicolon or
with the line. An entry is the next character's name: it starts with a small letter, which says how many words the name has in common
with the one before it (`a` for none), and the other words follow; a plus sign between two parts of a word is not part of it. An entry
after a `>` is the hexadecimal code of the next character instead. Hangul syllables and some ideographs have names that follow a rule.
-/

namespace AwkEdit.Text

/-! ## Names in tables -/

/-- The tables of names. -/
def nameTables : List String :=
  [alphabetsNames, scriptsNames, symbolsNames, laterScriptsNames, ancientScriptsNames, rareScriptsNames, pictographsNames, aliasNames]

/-- The value of a hexadecimal digit. -/
def hexDigit? (c : Char) : Option Nat :=
  if c.isDigit then some (c.toNat - 0x30) else if 'A' ≤ c ∧ c ≤ 'F' then some (c.toNat - 0x37) else none

/-- The number that hexadecimal digits write. -/
def hexNumber? (digits : List Char) : Option Nat := digits.foldlM (fun n c => (hexDigit? c).map (n * 16 + ·)) 0

/-- The words of a text; there are none if it is empty. -/
def wordsOf (cs : List Char) : List (List Char) := if cs.isEmpty then [] else cs.splitOn ' '

/-- Where reading a table stands: the code of the next character, the words of the last name, and the code that was looked for, once it
was found. -/
structure NameReading where
  next : Nat := 0
  words : List (List Char) := []
  found : Option Nat := none

/-- Where reading stands after an entry, when the name of some words is looked for. -/
def NameReading.after (wanted : List (List Char)) (r : NameReading) (entry : List Char) : NameReading :=
  match entry with
  | [] => r
  | '>' :: code => { r with next := (hexNumber? code).getD r.next }
  | shared :: rest =>
    let words := r.words.take (shared.toNat - 0x61) ++ wordsOf (rest.filter (· ≠ '+'))
    ⟨r.next + 1, words, if words = wanted then some r.next else r.found⟩

/-- The code of the character that a table gives the name of some words. -/
def codeInTable? (wanted : List (List Char)) (table : String) : Option Nat :=
  ((table.toList.splitBy fun a _ => a ≠ ';' && a ≠ '\n').foldl
    (fun r entry => NameReading.after wanted r (entry.filter fun c => c ≠ ';' && c ≠ '\n')) {}).found

/-! ## Names that follow a rule -/

/-- Names that end in the hexadecimal code of the character: what comes before it, and the characters that have such a name. -/
def numberedNames : List (String × List (Nat × Nat)) :=
  [("CJK COMPATIBILITY IDEOGRAPH-", [(0xf900, 0xfa6d), (0xfa70, 0xfad9), (0x2f800, 0x2fa1d)]),
    ("KHITAN SMALL SCRIPT CHARACTER-", [(0x18b00, 0x18cd5)]), ("NUSHU CHARACTER-", [(0x1b170, 0x1b2fb)])]

/-- The unified ideographs. -/
def ideographRanges : List (Nat × Nat) :=
  [(0x3400, 0x4dbf), (0x4e00, 0x9fff), (0x20000, 0x2a6df), (0x2a700, 0x2b738), (0x2b740, 0x2b81d), (0x2b820, 0x2cea1),
    (0x2ceb0, 0x2ebe0), (0x30000, 0x3134a)]

/-- Whether a code lies in one of the ranges. -/
def isWithin (ranges : List (Nat × Nat)) (n : Nat) : Bool := ranges.any fun r => r.1 ≤ n && n ≤ r.2

/-- What follows a text at the front of another one. -/
def afterFront? (front : String) (cs : List Char) : Option (List Char) :=
  if front.toList.isPrefixOf cs then some (cs.drop front.length) else none

/-- The code of the character with a numbered name. -/
def numberedCode? (cs : List Char) : Option Nat :=
  numberedNames.findSome? fun (front, ranges) => do
    let n ← hexNumber? (← afterFront? front cs)
    if isWithin ranges n ∧ front.toList ++ (Nat.toDigits 16 n).map Char.toUpper = cs then some n else none

/-- The code of the unified ideograph whose name ends in four or five digits. -/
def ideographCode? (digits : List Char) : Option Nat := do
  let n ← hexNumber? digits
  if (digits.length = 4 ∨ digits.length = 5) ∧ isWithin ideographRanges n then some n else none

/-- How the first parts of Hangul syllables are written. -/
def hangulFirsts : List String :=
  ["G", "GG", "N", "D", "DD", "R", "M", "B", "BB", "S", "SS", "", "J", "JJ", "C", "K", "T", "P", "H"]

/-- How the vowels of Hangul syllables are written. -/
def hangulVowels : List String :=
  ["A", "AE", "YA", "YAE", "EO", "E", "YEO", "YE", "O", "WA", "WAE", "OE", "YO", "U", "WEO", "WE", "WI", "YU", "EU", "YI", "I"]

/-- How the last parts of Hangul syllables are written. -/
def hangulLasts : List String :=
  ["", "G", "GG", "GS", "N", "NJ", "NH", "D", "L", "LG", "LM", "LB", "LS", "LT", "LP", "LH", "M", "B", "BS", "S", "SS", "NG", "J",
    "C", "K", "T", "P", "H"]

/-- The longest of some parts at the front of a text: its number, and what follows it. -/
def longestPart? (parts : List String) (cs : List Char) : Option (Nat × List Char) :=
  parts.zipIdx.foldl (fun best (part, i) =>
    match afterFront? part cs with
    | none => best
    | some rest => if best.all fun b => rest.length < b.2.length then some (i, rest) else best) none

/-- The code of a Hangul syllable from the parts that its name writes. -/
def hangulCode? (cs : List Char) : Option Nat := do
  let (first, cs) ← longestPart? hangulFirsts cs
  let (vowel, cs) ← longestPart? hangulVowels cs
  let (last, cs) ← longestPart? hangulLasts cs
  if cs.isEmpty then some (0xac00 + (first * 21 + vowel) * 28 + last) else none

/-! ## All names -/

/-- The code of the character of a name. Capital and small letters are the same, but not in the names of Hangul syllables and of
unified ideographs. -/
def codeOfName? (name : List Char) : Option Nat :=
  match afterFront? "HANGUL SYLLABLE " name, afterFront? "CJK UNIFIED IDEOGRAPH-" name with
  | some parts, _ => hangulCode? parts
  | _, some digits => ideographCode? digits
  | none, none =>
    let shouted := name.map Char.toUpper
    (numberedCode? shouted).or (nameTables.findSome? (codeInTable? (wordsOf shouted)))

end AwkEdit.Text
