/-!
# Bytes read as text

UTF-8 is read one byte at a time and nothing is refused: every maximal part of a broken sequence is read as one U+FFFD. The
machine is `step`, which says what a byte completes and what is owed after it; `decode` runs it from between two characters, and
`finish` says what a text that ends inside a character leaves.
-/

namespace AwkEdit.Utf8

/-- Where reading stands between two bytes: between characters, or inside one whose value so far is `value`, which owes `owed`
bytes after the next one, and whose next byte lies in `low … high`. -/
inductive State where
  | between
  | inside (owed value : Nat) (low high : UInt8)
  deriving DecidableEq, Repr

/-- What a broken part is read as: U+FFFD. -/
def replacement : Char := '\uFFFD'

/-- A byte read between characters: an ASCII byte is a character, a lead byte opens one, and no character starts with another
byte. The second byte's range rules out overlong forms (after E0 and F0), surrogates (after ED) and values past U+10FFFF
(after F4). -/
def start (b : UInt8) : List Char × State :=
  if b < 0x80 then ([Char.ofNat b.toNat], .between)
  else if b < 0xC2 then ([replacement], .between)
  else if b < 0xE0 then ([], .inside 0 (b.toNat % 0x20) 0x80 0xBF)
  else if b < 0xF0 then
    ([], .inside 1 (b.toNat % 0x10) (if b = 0xE0 then 0xA0 else 0x80) (if b = 0xED then 0x9F else 0xBF))
  else if b < 0xF5 then
    ([], .inside 2 (b.toNat % 0x08) (if b = 0xF0 then 0x90 else 0x80) (if b = 0xF4 then 0x8F else 0xBF))
  else ([replacement], .between)

/-- One byte: the characters it completes and where reading stands after it. A byte that cannot continue the open character
breaks it, and is then read afresh. -/
def step : State → UInt8 → List Char × State
  | .between, b => start b
  | .inside owed value low high, b =>
    if low ≤ b ∧ b ≤ high then
      match owed with
      | 0 => ([Char.ofNat (value * 64 + b.toNat % 64)], .between)
      | more + 1 => ([], .inside more (value * 64 + b.toNat % 64) 0x80 0xBF)
    else (replacement :: (start b).1, (start b).2)

/-- What the end of the text leaves: a character still open is one broken part. -/
def finish : State → List Char
  | .between => []
  | .inside .. => [replacement]

/-- The characters read from a state to the end of the bytes. -/
def decodeFrom (s : State) : List UInt8 → List Char
  | [] => finish s
  | b :: bs => (step s b).1 ++ decodeFrom (step s b).2 bs

/-- The characters of a byte string. -/
def decode (bytes : List UInt8) : List Char := decodeFrom .between bytes

/-- The bytes of a text. -/
def encode (chars : List Char) : List UInt8 := chars.flatMap String.utf8EncodeChar

/-- The characters of a byte string without broken parts, which is the one that encodes what is read. -/
def read? (bytes : List UInt8) : Option (List Char) := if encode (decode bytes) = bytes then some (decode bytes) else none

@[simp] theorem decodeFrom_nil (s : State) : decodeFrom s [] = finish s := rfl

@[simp] theorem decodeFrom_cons (s : State) (b : UInt8) (bs : List UInt8) :
    decodeFrom s (b :: bs) = (step s b).1 ++ decodeFrom (step s b).2 bs := rfl

@[simp] theorem decode_nil : decode [] = [] := rfl

@[simp] theorem encode_nil : encode [] = [] := rfl

@[simp] theorem encode_append (a b : List Char) : encode (a ++ b) = encode a ++ encode b := List.flatMap_append

/-- An ASCII byte is read as the character of its value, wherever a character may start. -/
theorem start_ascii {b : UInt8} (h : b < 0x80) : start b = ([Char.ofNat b.toNat], .between) := if_pos h

end AwkEdit.Utf8
