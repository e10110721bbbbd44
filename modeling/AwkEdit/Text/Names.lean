import AwkEdit.Sorted

/-!
# Sets of names

A set of names is a list; what is shown of it is the sorted list, in the order of code points and without repetitions.
-/

namespace AwkEdit

/-- The names of a list, each once, in the order of their code points. -/
def sortedNames (names : List String) : List String := sortBy (fun a b => !decide (b < a)) names.eraseDups

/-- The names of one list that another does not have, each once, sorted. -/
def unknownNames (names known : List String) : List String := sortedNames (names.filter (!known.contains ·))

theorem mem_sortedNames {names : List String} {x : String} : x ∈ sortedNames names ↔ x ∈ names := by
  simp [sortedNames, mem_sortBy]

end AwkEdit
