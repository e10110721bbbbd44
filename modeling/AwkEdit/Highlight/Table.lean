import AwkEdit.Extent
import AwkEdit.Highlight.Classification
import AwkEdit.IntegerText

/-!
# The assignment table

A table covers a range of bytes and records which claim owns each of them. A claim is cut to the table's range. A plain claim is
granted only if none of its bytes is owned; an override takes all of its bytes from whoever owns them. What the table reports are
the maximal runs of bytes with one owner.
-/

namespace AwkEdit

/-- What a claim says of its bytes: the classification, and the feature and the label of the rule that claims. -/
structure Tag where
  classification : Classification
  feature : String
  rule : String
  deriving DecidableEq, Repr

/-- A claim of a range of bytes. -/
structure Claim where
  start : Int
  stop : Int
  tag : Tag
  override : Bool
  deriving DecidableEq, Repr

/-- A reported range of bytes and what is said of it. -/
structure Assignment where
  start : Int
  stop : Int
  tag : Tag
  deriving DecidableEq, Repr

/-- A table over the bytes from `base` to before `limit`: the number of the claim that owns each byte, and the tags of the granted
claims in order. -/
structure Table where
  base : Int
  limit : Int
  owners : Array (Option Nat)
  granted : Array Tag
  deriving DecidableEq, Repr

/-- A maximal run of bytes with one owner. -/
structure Run where
  start : Int
  stop : Int
  owner : Option Nat
  deriving DecidableEq, Repr

/-- Why there is no table over a range: it ends before it starts, or a table cannot extend that far. -/
inductive TableFault where
  | reversed (start stop : Int)
  | extent (fault : Extent.Fault)
  deriving DecidableEq, Repr

/-- The wording of a fault. A range that cannot be written is refused for that. -/
def TableFault.message : TableFault → String
  | reversed start stop =>
    if IntegerText.isWritable start && IntegerText.isWritable stop then s!"Invalid table range [{start}, {stop})"
    else IntegerText.unwritableMessage
  | extent fault => fault.message

namespace Table

/-- The table over a range in which nothing is owned. -/
def empty (start stop : Int) : Table := ⟨start, stop, Array.replicate (stop - start).toNat none, #[]⟩

/-- The table over a range that a table can have. -/
def blank (start stop : Int) : Except TableFault Table :=
  if stop < start then .error (.reversed start stop)
  else
    match Extent.fault? (stop - start) with
    | some fault => .error (.extent fault)
    | none => .ok (empty start stop)

/-- The owners, after `count` bytes from the one numbered `low` on went to one. -/
def assign (owner low : Nat) : Nat → Array (Option Nat) → Array (Option Nat)
  | 0, owners => owners
  | count + 1, owners => assign owner low count (owners.set! (low + count) (some owner))

/-- Who owns a byte afterwards: the new owner owns what it went to, and nothing else changes. -/
theorem getElem?_assign (owner low count : Nat) (owners : Array (Option Nat)) (i : Nat) :
    (assign owner low count owners)[i]? =
      if low ≤ i ∧ i < low + count ∧ i < owners.size then some (some owner) else owners[i]? := by
  induction count generalizing owners with
  | zero => simp [assign, show ¬(low ≤ i ∧ i < low ∧ i < owners.size) by omega]
  | succ count ih =>
    rw [assign, ih, Array.set!_eq_setIfInBounds, Array.size_setIfInBounds, Array.getElem?_setIfInBounds]
    by_cases h : low + count = i
    · subst h
      by_cases hs : low + count < owners.size <;> simp [hs]
    · simp only [h, if_false]
      congr 1
      simp only [eq_iff_iff]
      omega

/-- The table after a claim, and whether the claim was granted. -/
def claim (t : Table) (c : Claim) : Table × Bool :=
  let low := (max c.start t.base - t.base).toNat
  let high := (min c.stop t.limit - t.base).toNat
  if high ≤ low then (t, false)
  else if !c.override && t.owners.any Option.isSome low high then (t, false)
  else ({ t with owners := assign t.granted.size low (high - low) t.owners, granted := t.granted.push c.tag }, true)

/-- The table after several claims. -/
def claimAll (t : Table) (claims : List Claim) : Table := claims.foldl (fun t c => (t.claim c).1) t

/-- The number of the claim that owns a byte. -/
def owner (t : Table) (pos : Int) : Option Nat :=
  if t.base ≤ pos ∧ pos < t.limit then (t.owners[(pos - t.base).toNat]?).join else none

/-- What is said of a byte. -/
def tag (t : Table) (pos : Int) : Option Tag := (t.owner pos).bind (t.granted[·]?)

/-- The classification of a byte. -/
def classificationAt (t : Table) (pos : Int) : Option Classification := (t.tag pos).map (·.classification)

/-- The maximal runs of equal owners, the first of which is that of the byte at `pos`. -/
def runs (pos : Int) : List (Option Nat) → List Run
  | [] => []
  | o :: os =>
    match runs (pos + 1) os with
    | r :: rs => if r.owner = o then { r with start := pos } :: rs else ⟨pos, pos + 1, o⟩ :: r :: rs
    | [] => [⟨pos, pos + 1, o⟩]

/-- What the table reports: its runs of owned bytes, in order. -/
def assignments (t : Table) : List Assignment :=
  (runs t.base t.owners.toList).filterMap fun r => (r.owner.bind (t.granted[·]?)).map (⟨r.start, r.stop, ·⟩)

end Table

end AwkEdit
