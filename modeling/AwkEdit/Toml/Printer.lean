import AwkEdit.IntegerText
import AwkEdit.Text.Quoted

/-!
# Writing TOML

A document is written line by line. Strings are written between double quotes on one line, with escapes for quotes, backslashes and
control characters. A document with a number of too many digits in it is not written.
-/

namespace AwkEdit.Toml

/-- A character of a string as it is written between quotes. -/
def writtenChar (c : Char) : List Char :=
  if c = '\x22' then ['\\', '\x22']
  else if c = '\\' then ['\\', '\\']
  else if c = '\x08' then ['\\', 'b']
  else if c = '\t' then ['\\', 't']
  else if c = '\n' then ['\\', 'n']
  else if c = '\x0c' then ['\\', 'f']
  else if c = '\r' then ['\\', 'r']
  else if c.toNat < 0x20 ∨ c.toNat = 0x7f then '\\' :: 'u' :: Quoted.hexDigits 4 c.toNat
  else [c]

/-- A string as it is written. -/
def writtenText (text : String) : List Char := '\x22' :: text.toList.flatMap writtenChar ++ ['\x22']

/-- A value that is written on one line. -/
inductive Plain where
  | text (value : String)
  | number (value : Nat)
  | truth (value : Bool)
  | texts (values : List String)
  deriving DecidableEq, Repr

/-- A value as it is written. -/
def Plain.chars : Plain → List Char
  | text value => writtenText value
  | number value => Nat.toDigits 10 value
  | truth value => if value then ['t', 'r', 'u', 'e'] else ['f', 'a', 'l', 's', 'e']
  | texts values => '[' :: [',', ' '].intercalate (values.map writtenText) ++ [']']

/-- Whether a value has no more digits than are written. -/
def Plain.isWritable : Plain → Bool
  | number value => IntegerText.isWritable value
  | _ => true

/-- A line of a document. -/
inductive Line where
  | blank
  | comment (text : String)
  | header (name : String)
  | entry (name : String) (value : Plain)
  deriving DecidableEq, Repr

/-- A line as it is written, without its end. -/
def Line.chars : Line → List Char
  | blank => []
  | comment text => '#' :: ' ' :: text.toList
  | header name => '[' :: name.toList ++ [']']
  | entry name value => name.toList ++ [' ', '=', ' '] ++ value.chars

/-- Whether the value on a line, if there is one, can be written. -/
def Line.isWritable : Line → Bool
  | entry _ value => value.isWritable
  | _ => true

/-- Lines as they are written. -/
def print (lines : List Line) : String := String.ofList (lines.flatMap fun l => l.chars ++ ['\n'])

/-- Lines as they are written, if each of them can be. -/
def print? (lines : List Line) : Option String := if lines.all Line.isWritable then some (print lines) else none

end AwkEdit.Toml
