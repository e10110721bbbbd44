import AwkEdit.Text.Printable

/-!
# Values as messages show them

A text is shown between single quotes, or between double quotes when it holds a single quote and no double one. The backslash and
the quote in use are escaped, a newline, a return and a tab have escapes of their own, and a character that is not printable is
shown by its code point in two, four or eight hexadecimal digits. Sequences are shown as their elements between brackets, set
off by a comma and a space; a sequence of one element in round brackets keeps its comma.
-/

namespace AwkEdit.Quoted

/-- The lower-case hexadecimal digit of a number below 16. -/
def hexDigit (n : Nat) : Char := Char.ofNat (if n < 10 then 0x30 + n else 0x57 + n)

/-- The last `width` hexadecimal digits of a number, the most significant first. -/
def hexDigits : Nat → Nat → List Char
  | 0, _ => []
  | width + 1, n => hexDigits width (n / 16) ++ [hexDigit (n % 16)]

/-- The value of a hexadecimal digit. -/
def hexValue? (c : Char) : Option Nat :=
  if c.isDigit then some (c.toNat - 0x30)
  else if 'a' ≤ c ∧ c ≤ 'f' then some (c.toNat - 0x57)
  else if 'A' ≤ c ∧ c ≤ 'F' then some (c.toNat - 0x37)
  else none

/-- A backslash, a mark that tells the width, and the code point of a character in hexadecimal digits. -/
def escapeCode (c : Char) : List Char :=
  let n := c.toNat
  if n < 0x100 then '\\' :: 'x' :: hexDigits 2 n
  else if n < 0x10000 then '\\' :: 'u' :: hexDigits 4 n
  else '\\' :: 'U' :: hexDigits 8 n

/-- A character as a text between `mark`s shows it. -/
def showChar (mark c : Char) : List Char :=
  if c = mark ∨ c = '\\' then ['\\', c]
  else if c = '\n' then ['\\', 'n']
  else if c = '\r' then ['\\', 'r']
  else if c = '\t' then ['\\', 't']
  else if Text.isPrintable c then [c]
  else escapeCode c

/-- The quote that a text is shown between. -/
def mark (chars : List Char) : Char := if chars.contains '\x27' && !chars.contains '\x22' then '\x22' else '\x27'

/-- A text as a message shows it. -/
def quote (text : String) : String :=
  let m := mark text.toList
  String.ofList (m :: text.toList.flatMap (showChar m) ++ [m])

/-- Elements set off by a comma and a space. -/
def commas (items : List String) : String := String.intercalate ", " items

/-- A list of shown elements. -/
def square (items : List String) : String := "[" ++ commas items ++ "]"

/-- A tuple of shown elements. -/
def round : List String → String
  | [item] => "(" ++ item ++ ",)"
  | items => "(" ++ commas items ++ ")"

/-- A frozen set of shown elements. -/
def frozen : List String → String
  | [] => "frozenset()"
  | items => "frozenset(\x7b" ++ commas items ++ "\x7d)"

/-- A byte range. -/
def range (start stop : Int) : String := round [toString start, toString stop]

/-- The words for absence and the two truth values. -/
def nothing : String := "None"

/-- A truth value. -/
def truth (b : Bool) : String := if b then "True" else "False"

end AwkEdit.Quoted
