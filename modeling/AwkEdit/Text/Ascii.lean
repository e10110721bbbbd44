import AwkEdit.Text.Quoted

/-!
# Texts for terminals and logs

A text between double quotes in which everything but printable ASCII is escaped, and a text without the sequences that change the
colours of a terminal.
-/

namespace AwkEdit.Text

/-- The escape of a 16-bit unit. -/
def unitEscape (unit : Nat) : List Char := '\\' :: 'u' :: Quoted.hexDigits 4 unit

/-- A character between quotes: printable ASCII but for the quote and the backslash is itself, and what does not fit into 16 bits
is escaped as two units. -/
def asciiChar (c : Char) : List Char :=
  if c = '\x22' ∨ c = '\\' then ['\\', c]
  else if c = '\n' then ['\\', 'n']
  else if c = '\r' then ['\\', 'r']
  else if c = '\t' then ['\\', 't']
  else if c = '\x08' then ['\\', 'b']
  else if c = '\x0c' then ['\\', 'f']
  else if 0x20 ≤ c.toNat ∧ c.toNat ≤ 0x7e then [c]
  else if c.toNat < 0x10000 then unitEscape c.toNat
  else
    let rest := c.toNat - 0x10000
    unitEscape (0xD800 + rest / 0x400) ++ unitEscape (0xDC00 + rest % 0x400)

/-- A text between double quotes in ASCII. -/
def asciiQuoted (text : String) : String := String.ofList ('\x22' :: text.toList.flatMap asciiChar ++ ['\x22'])

/-- A character between the start and the end of a terminal sequence. -/
def isSequenceInner (c : Char) : Bool := c.isDigit || c = ';' || c = '?'

/-- Characters without terminal sequences, where `pending` are those read of a sequence that may be one: an escape character, a
bracket, digits and separators, and a letter. -/
def dropSequences (pending : List Char) : List Char → List Char
  | [] => pending
  | c :: rest =>
    if c = '\x1b' then pending ++ dropSequences [c] rest
    else
      match pending with
      | [] => c :: dropSequences [] rest
      | [e] => if c = '[' then dropSequences [e, c] rest else e :: c :: dropSequences [] rest
      | started =>
        if isSequenceInner c then dropSequences (started ++ [c]) rest
        else if c.isAlpha then dropSequences [] rest
        else started ++ c :: dropSequences [] rest

/-- A text without terminal sequences. -/
def uncoloured (text : String) : String := String.ofList (dropSequences [] text.toList)

end AwkEdit.Text
