import AwkEdit.Decimal

/-!
# Setting values

What a layer of settings holds before it is checked: a value of any kind, and tables of named values. Tables are laid over one
another with `merge`: tables are merged name by name, and any other value replaces what is below it.
-/

namespace AwkEdit

/-- A value of a setting. -/
inductive Setting where
  | nothing
  | truth (value : Bool)
  | integer (value : Int)
  | decimal (value : Decimal)
  | text (value : String)
  | path (value : String)
  | moment (written : String)
  | list (items : List Setting)
  | table (entries : List (String × Setting))
  deriving Repr, Inhabited

/-- A table of named values. -/
abbrev SettingTable := List (String × Setting)

namespace Setting

/-- A table after a value was given to a name; a new name comes last. -/
def put {α : Type} (name : String) (value : α) : List (String × α) → List (String × α)
  | [] => [(name, value)]
  | (other, old) :: rest => if other = name then (name, value) :: rest else (other, old) :: put name value rest

/-- What a put name holds is what was put there, and other names hold what they held. -/
theorem lookup_put {α : Type} (name other : String) (value : α) (entries : List (String × α)) :
    (put name value entries).lookup other = if other = name then some value else entries.lookup other := by
  induction entries with
  | nil =>
    by_cases h : other = name
    · simp [put, h]
    · simp [put, h, List.lookup_cons, beq_false_of_ne h]
  | cons entry rest ih =>
    obtain ⟨first, old⟩ := entry
    unfold put
    by_cases hf : first = name
    · subst hf
      by_cases h : other = first
      · simp [h]
      · simp [h, List.lookup_cons, beq_false_of_ne h]
    · by_cases h : other = first
      · subst h
        simp [hf]
      · simp [hf, List.lookup_cons, beq_false_of_ne h, ih]

mutual

/-- A value laid over what is below it. -/
def overlay (below : Option Setting) : Setting → Setting
  | table entries =>
    match below with
    | some (table base) => table (merge base entries)
    | _ => table entries
  | value => value

/-- A table laid over another. -/
def merge (base : SettingTable) : SettingTable → SettingTable
  | [] => base
  | (name, value) :: rest => merge (put name (overlay (base.lookup name) value) base) rest

end

/-- The value under a path of names. -/
def at? : List String → Setting → Option Setting
  | [], value => some value
  | name :: names, table entries => (entries.lookup name).bind (at? names)
  | _ :: _, _ => none

end Setting

end AwkEdit
