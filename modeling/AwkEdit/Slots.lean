import AwkEdit.Digest

/-!
# Members in slots

A set keeps its members in slots, and lists them in the order of their slots. A member is looked for at the slot that the lower bits of
its digest name, and at some slots after that one; then the search goes on elsewhere, where it is led by the other bits of the digest.
There are eight slots at first. When three fifths of them are taken, the members move to a greater number of slots, in the order in
which they are listed.
-/

namespace AwkEdit

/-- Slots, each with a member and its digest or free. -/
abbrev Slots (α : Type) := Array (Option (Digest × α))

namespace Slots

variable {α : Type}

/-- So many free slots. -/
def free (size : Nat) : Slots α := Array.replicate size none

/-- The first free slot among so many from one on. -/
def freeFrom? (slots : Slots α) : Nat → Nat → Option Nat
  | 0, _ => none
  | n + 1, i => if (slots[i]?.any (·.isNone)) then some i else freeFrom? slots n (i + 1)

/-- How many slots are looked at in a row. -/
def row : Nat := 10

/-- The free slot that a search finds, `left` being what is left of the digest; it looks at no more than `fuel` rows. A row that would
reach beyond the last slot has one slot only. -/
def slotWithin? (slots : Slots α) : Nat → Digest → Nat → Option Nat
  | 0, _, _ => none
  | fuel + 1, left, i =>
    match freeFrom? slots (if i + row ≤ slots.size then row else 1) i with
    | some found => some found
    | none => slotWithin? slots fuel (left >>> 5) ((i * 5 + 1 + (left >>> 5).toNat) % slots.size)

/-- The free slot for a member with a digest. What is left of a digest is nothing after 13 rows, and then every slot is reached. -/
def slot? (slots : Slots α) (digest : Digest) : Option Nat :=
  slotWithin? slots (slots.size + 16) digest (digest.toNat % slots.size)

/-- The slots with one more member. -/
def put (slots : Slots α) (member : Digest × α) : Slots α :=
  match slots.slot? member.1 with
  | some i => slots.setIfInBounds i (some member)
  | none => slots

/-- The members with their digests, in the order of their slots. -/
def entries (slots : Slots α) : List (Digest × α) := slots.toList.filterMap id

/-- The number of slots that so many members move to. -/
def sizeFor (count : Nat) : Nat := Nat.pow 2 ((if 50000 < count then count * 2 else count * 4).log2 + 1)

/-- The slots with one more member, which are more slots if too many are taken; `others` are taken by members that are not looked at. -/
def add (others : Nat) (slots : Slots α) (member : Digest × α) : Slots α :=
  let slots := slots.put member
  let entries := slots.entries
  let taken := entries.length + others
  if taken * 5 < (slots.size - 1) * 3 then slots else entries.foldl put (free (sizeFor taken))

/-- Members, none of which is there twice, in the order in which a set with so many others lists them. -/
def listed (others : Nat) (members : List (Digest × α)) : List α := (members.foldl (add others) (free 8)).entries.map Prod.snd

end Slots

end AwkEdit
