/-!
# Digests of values

A digest is a word of 64 bits that values have which are one value. The digest of a number is its remainder by `2 ^ 61 - 1`, for which
a fraction counts as well, since halves have one there; the digest of a sequence depends on the order of its members, and that of a set
does not. The word whose bits are all set is not a digest: each kind has another one in its place.
-/

namespace AwkEdit

/-- A word that values have which are one value. -/
abbrev Digest := UInt64

namespace Digest

/-- The word that is not a digest. -/
def reserved : Digest := 0xffffffffffffffff

/-- A word, or another one if it is not a digest. -/
def allowed (word other : Digest) : Digest := if word = reserved then other else word

/-- The modulus of the digests of numbers. -/
def modulus : Nat := Nat.pow 2 61 - 1

/-- The digest of a sign and a remainder. -/
def ofRemainder (negative : Bool) (n : Nat) : Digest :=
  if negative then allowed (0 - n.toUInt64) (reserved - 1) else n.toUInt64

/-- The digest of an integer. -/
def ofInt (n : Int) : Digest := ofRemainder (n < 0) (n.natAbs % modulus)

/-- The digest of a sign and `significand * 2 ^ exponent`. Two to the power of 61 leaves the remainder one. -/
def ofBinary (negative : Bool) (significand : Nat) (exponent : Int) : Digest :=
  ofRemainder negative (significand * Nat.pow 2 (exponent % 61).toNat % modulus)

/-- The digest of a value with a sign beyond all numbers. -/
def ofInfinite (negative : Bool) : Digest := ofRemainder negative 314159

/-- A word with its first bits moved to its end. -/
def rotated (bits : UInt64) (word : Digest) : Digest := (word <<< bits) ||| (word >>> (64 - bits))

/-- What the digest of a sequence starts with. -/
def sequenceSeed : Digest := 2870177450012600261

/-- The digest of a sequence from those of its members. -/
def ofSequence (members : List Digest) : Digest :=
  let mixed := members.foldl (fun word m => rotated 31 (word + m * 14029467366897019727) * 11400714785074694791) sequenceSeed
  allowed (mixed + (members.length.toUInt64 ^^^ sequenceSeed ^^^ (3527539 : Digest))) 1546275796

/-- The digest of a member of a set with its bits moved apart. -/
def dispersed (m : Digest) : Digest := (m ^^^ (89869747 : Digest) ^^^ (m <<< 16)) * 3644798167

/-- The digest of a set from those of its members. -/
def ofSet (members : List Digest) : Digest :=
  let mixed := members.foldl (fun word m => word ^^^ dispersed m) 0 ^^^ (members.length.toUInt64 + 1) * 1927868237
  allowed ((mixed ^^^ (mixed >>> 11) ^^^ (mixed >>> 25)) * 69069 + 907133923) 590923713

end Digest

end AwkEdit
