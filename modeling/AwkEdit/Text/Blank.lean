/-!
# White space

Two sets of blank characters. `isBlank` is the wide one: every character that separates words, among them the four information
separators U+001C to U+001F. `isWhite` is the White_Space property, which leaves those four out. Trimming drops the blanks at
both ends.
-/

namespace AwkEdit.Text

/-- Whether a character lies in one of the ranges. -/
def inRanges (ranges : List (Nat × Nat)) (c : Char) : Bool := ranges.any fun r => r.1 ≤ c.toNat && c.toNat ≤ r.2

/-- The characters of the White_Space property. -/
def whiteRanges : List (Nat × Nat) :=
  [(0x9, 0xd), (0x20, 0x20), (0x85, 0x85), (0xa0, 0xa0), (0x1680, 0x1680), (0x2000, 0x200a), (0x2028, 0x2029),
    (0x202f, 0x202f), (0x205f, 0x205f), (0x3000, 0x3000)]

/-- A character of the White_Space property. -/
def isWhite (c : Char) : Bool := inRanges whiteRanges c

/-- A white space character or an information separator. -/
def isBlank (c : Char) : Bool := isWhite c || inRanges [(0x1c, 0x1f)] c

/-- A text without the characters of a class at either end. -/
def trimChars (blank : Char → Bool) (chars : List Char) : List Char :=
  ((chars.dropWhile blank).reverse.dropWhile blank).reverse

/-- A text without the white space at either end. -/
def trimWhite (text : String) : String := String.ofList (trimChars isWhite text.toList)

/-- A text without the blanks at either end. -/
def trimBlank (text : String) : String := String.ofList (trimChars isBlank text.toList)

/-- Every white character is blank. -/
theorem isBlank_of_isWhite {c : Char} (h : isWhite c = true) : isBlank c = true := by simp [isBlank, h]

end AwkEdit.Text
