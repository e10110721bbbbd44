import AwkEdit.Text.Blank

/-!
# Integers written as texts

A setting or an option may give an integer as a text. `IntegerText.plain` reads the plain form: an optional minus sign and digits
without a needless zero in front. A text that is not plain is tidied first: `IntegerText.tidied?` drops the white space around it,
a plus sign, leading zeros, a fraction of zeros, and single underscores inside; what is left has to be plain. Integers of too many
digits are neither read nor written.
-/

namespace AwkEdit

/-- What a text says as an integer. -/
inductive IntegerReading where
  | integer (value : Int)
  | oversized
  | unreadable
  deriving DecidableEq, Repr

namespace IntegerReading

/-- The reading of a text with one more minus sign in front. -/
def negated : IntegerReading → IntegerReading
  | integer value => integer (-value)
  | other => other

/-- The integer that is read, if there is one. -/
def value? : IntegerReading → Option Int
  | integer value => some value
  | _ => none

end IntegerReading

namespace IntegerText

/-! ## The plain form -/

/-- The number of digits of the longest integer that is read or written. -/
def longest : Nat := 4300

/-- What is said of an integer that has more digits than are read. -/
def oversizedMessage (digits : Nat) : String :=
  s!"Exceeds the limit ({longest} digits) for integer string conversion: value has {digits} digits; " ++
    "use sys.set_int_max_str_digits() to increase the limit"

/-- What is said of an integer that has more digits than are written. -/
def unwritableMessage : String :=
  s!"Exceeds the limit ({longest} digits) for integer string conversion; use sys.set_int_max_str_digits() to increase the limit"

/-- Whether an integer has no more digits than are written. -/
def isWritable (value : Int) : Bool := (Nat.toDigits 10 value.natAbs).length ≤ longest

/-- An integer is written if it is below the power of ten that has one digit more than is written. -/
theorem isWritable_iff {value : Int} : isWritable value = true ↔ value.natAbs < Nat.pow 10 longest := by
  rw [isWritable, decide_eq_true_iff, Nat.length_toDigits_le_iff (by decide) (by decide), Nat.pow_eq]

/-- An integer as it is written, if it can be. -/
def written? (value : Int) : Option String := if isWritable value then some (toString value) else none

/-- The number that decimal digits write. -/
def number (digits : List Char) : Nat := digits.foldl (fun n c => n * 10 + (c.toNat - 0x30)) 0

/-- A digit that a number may start with. -/
def isLeading (c : Char) : Bool := c.isDigit && c ≠ '0'

/-- An unsigned integer in plain form. Too many digits are noticed before what comes after them. -/
def plainUnsigned (cs : List Char) : IntegerReading :=
  let digits := cs.takeWhile Char.isDigit
  if cs = ['0'] then .integer 0
  else if !digits.head?.any isLeading then .unreadable
  else if longest < digits.length then .oversized
  else if digits.length < cs.length then .unreadable
  else .integer (number digits)

/-- An integer in plain form. -/
def plain : List Char → IntegerReading
  | '-' :: rest => (plainUnsigned rest).negated
  | cs => plainUnsigned cs

/-! ## Tidying -/

/-- What is left of a text after the zero `zero` was read, among underscores and more zeros: a number or a sign starts what is
left, a zero before a fraction is kept, and so is the last character if there is nothing else. -/
def afterZero (zero : Char) : List Char → Option (List Char)
  | [] => some [zero]
  | c :: rest =>
    if c = '0' || c = '_' then afterZero c rest
    else if isLeading c || c = '-' then some (c :: rest)
    else if c = '.' then some (zero :: c :: rest)
    else none

/-- A text that starts with a digit or a minus sign without its leading zeros. -/
def withoutLeadingZeros : List Char → Option (List Char)
  | [] => none
  | c :: rest => if c = '0' then afterZero c rest else if isLeading c || c = '-' then some (c :: rest) else none

/-- A text without its fraction, if there is one and it is of zeros only. -/
def withoutZeroFraction (cs : List Char) : List Char :=
  match cs.dropWhile (· ≠ '.') with
  | '.' :: zero :: zeros => if (zero :: zeros).all (· = '0') then cs.takeWhile (· ≠ '.') else cs
  | _ => cs

/-- A text without its underscores, if they are single ones inside. -/
def withoutUnderscores : List Char → Option (List Char)
  | [] => some []
  | ['_'] => none
  | '_' :: '_' :: _ => none
  | c :: rest => (withoutUnderscores rest).map fun tidy => if c = '_' then tidy else c :: tidy

/-- A text without what may surround an integer in plain form. -/
def tidied? (cs : List Char) : Option (List Char) :=
  let digits :=
    match Text.trimChars Text.isWhite cs with
    | '+' :: '-' :: _ => none
    | '+' :: rest => withoutLeadingZeros rest
    | '-' :: rest => (withoutLeadingZeros rest).map ('-' :: ·)
    | rest => withoutLeadingZeros rest
  match digits.map withoutZeroFraction with
  | none | some ('_' :: _) => none
  | some tidy => withoutUnderscores tidy

/-- What a text says as an integer. Only a text in plain form can be oversized. -/
def read (text : String) : IntegerReading :=
  match plain text.toList with
  | .unreadable => (((tidied? text.toList).map plain).bind (·.value?)).elim .unreadable .integer
  | other => other

end IntegerText

end AwkEdit
