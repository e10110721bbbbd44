import AwkEdit.Sorted

/-!
# Dispatch by node type

Items that apply to nodes of certain types, or of any type, are indexed by type. The candidates of a type are the items that
apply to it, in the order in which they were given.
-/

namespace AwkEdit

/-- Items indexed by the types of nodes they apply to: those that apply to any type, and for each type that is listed, all
that apply to it. -/
structure Dispatch (α : Type) where
  agnostic : List α
  byType : List (String × List α)

namespace Dispatch

/-- Items with their number, kept when `keep` accepts the types they list. -/
def numbered {α : Type} (key : α → Option (List String)) (keep : Option (List String) → Bool) (items : List α) :
    List (α × Nat) :=
  items.zipIdx.filter (keep <| key ·.1)

/-- The index of a list of items, each of which lists its types or applies to any. -/
def ofItems {α : Type} (key : α → Option (List String)) (items : List α) : Dispatch α :=
  let agnostic := numbered key Option.isNone items
  let types := (items.flatMap fun item => (key item).getD []).eraseDups
  { agnostic := agnostic.map (·.1)
    byType := types.map fun type =>
      let entries := numbered key (·.any (·.contains type)) items
      (type, (sortBy (·.2 ≤ ·.2) (entries ++ agnostic)).map (·.1)) }

/-- The items that apply to a type, in order. -/
def candidates {α : Type} (d : Dispatch α) (type : String) : List α := (d.byType.lookup type).getD d.agnostic

/-- The types that some item lists. -/
def types {α : Type} (d : Dispatch α) : List String := d.byType.map (·.1)

/-- Whether there is anything to dispatch to. -/
def isNonempty {α : Type} (d : Dispatch α) : Bool := !d.byType.isEmpty || !d.agnostic.isEmpty

end Dispatch

end AwkEdit
