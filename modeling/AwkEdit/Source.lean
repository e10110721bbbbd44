import AwkEdit.IntegerText
import AwkEdit.Text.Utf8

/-!
# Source text: bytes, lines and columns

A source is a byte string; every position is a byte offset. Lines end at newline bytes, so there is one line more than there are
newlines, and the newline belongs to the line it ends. A column is a display column: characters are counted, and a tab advances
to the next multiple of the tab width. Offsets that come from outside may be any integers: `clamp` brings a position into the
text, and `slice` counts negative bounds from the end of the text.
-/

namespace AwkEdit

/-- The byte that ends a line. -/
def newline : UInt8 := 0x0A

/-- The bytes that make no line significant: space, tab, carriage return, form feed and vertical tab. -/
def isBlankByte (b : UInt8) : Bool := b == 0x20 || b == 0x09 || b == 0x0D || b == 0x0C || b == 0x0B

/-- The offsets just after the newlines of a byte string whose first byte is at `i`. -/
def startsAfter (i : Nat) : List UInt8 → List Nat
  | [] => []
  | b :: bs => if b = newline then (i + 1) :: startsAfter (i + 1) bs else startsAfter (i + 1) bs

/-- Source text as the bytes of a file, with the offset at which each line starts. -/
structure Source where
  data : Array UInt8
  lineStarts : List Nat
  lineStarts_eq : lineStarts = 0 :: startsAfter 0 data.toList
  deriving DecidableEq, Repr

/-- A line that the text does not have: the line asked for, and the number of the last line. -/
structure LineOutOfRange where
  line : Int
  last : Nat
  deriving DecidableEq, Repr

/-- The wording of a line out of range, unless its number cannot be written. -/
def LineOutOfRange.message? (e : LineOutOfRange) : Option String :=
  (IntegerText.written? e.line).map fun line => s!"Line {line} out of range (0..{e.last})"

namespace Source

/-- The source of a byte string. -/
def ofBytes (bytes : List UInt8) : Source := ⟨bytes.toArray, 0 :: startsAfter 0 bytes, rfl⟩

/-- The source of a text. -/
def ofString (text : String) : Source := ofBytes (Utf8.encode text.toList)

/-- The bytes. -/
def bytes (s : Source) : List UInt8 := s.data.toList

@[simp] theorem bytes_ofBytes (bytes : List UInt8) : (ofBytes bytes).bytes = bytes := rfl

/-- The number of bytes. -/
def size (s : Source) : Nat := s.data.size

@[simp] theorem length_bytes (s : Source) : s.bytes.length = s.size := rfl

/-! ## Slices -/

/-- A slice bound as an offset: negative bounds count from the end, and what lies outside the text is clipped to it. -/
def bound (s : Source) (i : Int) : Nat := if i < 0 then (i + s.size).toNat else min i.toNat s.size

/-- The bytes from one offset to another; none when the offsets cross. -/
def between (s : Source) (low high : Nat) : List UInt8 := (s.data.extract low high).toList

/-- The bytes between two offsets are those before the second without those before the first. -/
theorem between_eq (s : Source) (low high : Nat) : s.between low high = (s.bytes.take high).drop low := by
  simp [between, bytes, List.extract_eq_take_drop, List.drop_take]

/-- The bytes from one bound to another; none when the bounds cross. -/
def slice (s : Source) (start stop : Int) : List UInt8 := s.between (s.bound start) (s.bound stop)

/-- The characters of a slice. -/
def chars (s : Source) (start stop : Int) : List Char := Utf8.decode (s.slice start stop)

/-- The text of a slice. -/
def text (s : Source) (start stop : Int) : String := String.ofList (s.chars start stop)

/-! ## Lines -/

/-- The number of lines. -/
def lineCount (s : Source) : Nat := s.lineStarts.length

/-- A position brought into the text. -/
def clamp (s : Source) (pos : Int) : Nat := min pos.toNat s.size

/-- The line of a position: the last one that starts at or before it. -/
def lineOf (s : Source) (pos : Int) : Nat :=
  let last := s.clamp pos
  s.lineStarts.countP (· ≤ last) - 1

/-- The offset at which a line starts. -/
def lineStart (s : Source) (line : Nat) : Nat := s.lineStarts.getD line s.size

/-- The offset of the newline that ends a line, or of the end of the text. -/
def lineEnd (s : Source) (line : Nat) : Nat :=
  match s.lineStarts[line + 1]? with
  | some next => next - 1
  | none => s.size

/-- The bytes of a line, without its newline. -/
def lineBytes (s : Source) (line : Nat) : List UInt8 := s.between (s.lineStart line) (s.lineEnd line)

/-- The offset of the first significant byte of a line; a blank line has none. -/
def firstNonblank (s : Source) (line : Nat) : Option Nat :=
  let lead := ((s.lineBytes line).takeWhile isBlankByte).length
  if lead < (s.lineBytes line).length then some (s.lineStart line + lead) else none

/-- The beginning of the line of a position: its first significant byte, or the end of a blank line. -/
def bol (s : Source) (pos : Int) : Nat := (s.firstNonblank (s.lineOf pos)).getD (s.lineEnd (s.lineOf pos))

/-- A line number given from outside, checked. -/
def line? (s : Source) (line : Int) : Except LineOutOfRange Nat :=
  if 0 ≤ line ∧ line < s.lineCount then .ok line.toNat else .error ⟨line, s.lineCount - 1⟩

/-! ## Columns -/

/-- The column after a character: a tab advances to the next multiple of the tab width, any other character by one. -/
def advance (tabWidth column : Int) (c : Char) : Int :=
  if c = '\t' then column + (tabWidth - column.fmod tabWidth) else column + 1

/-- The text that the column of a position measures: from the start of its line to the position. -/
def lead (s : Source) (pos : Int) : List Char := s.chars (s.lineStart (s.lineOf pos)) pos

/-- The display column of a position on its line. -/
def column (s : Source) (tabWidth pos : Int) : Int := (s.lead pos).foldl (advance tabWidth) 0

/-- The display column of a position, unless a tab has to be measured with tabs of no width. -/
def column? (s : Source) (tabWidth pos : Int) : Option Int :=
  if tabWidth = 0 ∧ '\t' ∈ s.lead pos then none else some (s.column tabWidth pos)

end Source

end AwkEdit
