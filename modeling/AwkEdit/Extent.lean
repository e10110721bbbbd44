/-!
# How far texts and tables extend

A text and a table are kept as a whole, so they extend no further than can be counted. That there is memory for whatever can be
counted is assumed.
-/

namespace AwkEdit.Extent

/-- The largest number that characters and bytes are counted with. -/
def countable : Nat := 9223372036854775807

/-- Why something cannot extend that far. -/
inductive Fault where
  | uncountable
  deriving DecidableEq, Repr

/-- The wording of a fault. -/
def Fault.message : Fault → String
  | uncountable => "More characters than can be counted"

/-- Why nothing can extend over a number of characters, unless it can. -/
def fault? (n : Int) : Option Fault := if (countable : Int) < n then some .uncountable else none

/-- Something can extend over a number of characters exactly when they can be counted. -/
theorem fault?_eq_none_iff {n : Int} : fault? n = none ↔ n ≤ countable := by
  rw [fault?]
  split
  next hmany => exact iff_of_false nofun (Int.not_le.2 hmany)
  next hfew => exact iff_of_true rfl (Int.not_lt.1 hfew)

end AwkEdit.Extent
