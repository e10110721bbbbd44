import AwkEdit.Toml.Lexeme

/-!
# TOML documents

A document is a list of statements: headers of tables, headers of the next table of an array, and assignments. `Toml.statements`
reads them, and `Toml.tableOf` puts together the table they describe, or refuses them: a table is declared once, values are never
replaced, and a table that a dotted key has opened is extended by dotted keys of the same section only.
-/

namespace AwkEdit.Toml

/-! ## Items -/

/-- How a table came to be: on the way to another, under a header of its own, or through a dotted key of a section. -/
inductive Status where
  | implied
  | declared
  | dotted (sectionNumber : Nat)
  deriving DecidableEq, Repr

/-- What a name stands for while a document is put together: a value, a table, or an array of tables of which only the last is
open. -/
inductive Item where
  | value (setting : Setting)
  | table (status : Status) (entries : List (String × Item))
  | tables (done : List Setting) (last : List (String × Item))

namespace Item

mutual

/-- The value of an item. -/
def setting : Item → Setting
  | value s => s
  | table _ entries => .table (settings entries)
  | tables done last => .list (done ++ [.table (settings last)])

/-- The values of named items. -/
def settings : List (String × Item) → SettingTable
  | [] => []
  | (name, item) :: rest => (name, item.setting) :: settings rest

end

/-- Named items after a value was assigned under a dotted key of a section. Tables on the way are opened for the section. -/
def assign (sectionNumber : Nat) (value : Setting) : List String → List (String × Item) → Option (List (String × Item))
  | [], _ => none
  | [name], entries => if (entries.lookup name).isSome then none else some (Setting.put name (.value value) entries)
  | name :: path, entries =>
    match entries.lookup name with
    | none => (assign sectionNumber value path []).map fun below => Setting.put name (.table (.dotted sectionNumber) below) entries
    | some (.table status below) =>
      if status = .implied ∨ status = .dotted sectionNumber then
        (assign sectionNumber value path below).map fun below => Setting.put name (.table (.dotted sectionNumber) below) entries
      else none
    | some _ => none

/-- Named items after a change of what is under a path. Tables that are missing on the way are made, and of an array of tables the
last one is on the way. -/
def changeAt (change : Option Item → Option Item) : List String → List (String × Item) → Option (List (String × Item))
  | [], _ => none
  | [name], entries => (change (entries.lookup name)).map (Setting.put name · entries)
  | name :: path, entries =>
    match entries.lookup name with
    | none => (changeAt change path []).map fun below => Setting.put name (.table .implied below) entries
    | some (.table status below) =>
      (changeAt change path below).map fun below => Setting.put name (.table status below) entries
    | some (.tables done last) => (changeAt change path last).map fun last => Setting.put name (.tables done last) entries
    | some (.value _) => none

/-- The item under its own header: a table that was at most implied before. -/
def declare : Option Item → Option Item
  | none => some (.table .declared [])
  | some (.table .implied below) => some (.table .declared below)
  | _ => none

/-- The item under the header of the next table of an array. -/
def declareNext : Option Item → Option Item
  | none => some (.tables [] [])
  | some (.tables done last) => some (.tables (done ++ [.table (settings last)]) [])
  | _ => none

/-- The item after an assignment below its header. -/
def assignBelow (sectionNumber : Nat) (path : List String) (value : Setting) : Option Item → Option Item
  | some (.table status below) => (assign sectionNumber value path below).map (.table status)
  | some (.tables done last) => (assign sectionNumber value path last).map (.tables done)
  | _ => none

end Item

/-! ## Values -/

/-- A date, a time, a number or a truth value. -/
def scalar (cs : List Char) : Except Fault (Setting × List Char) :=
  match cs with
  | 't' :: 'r' :: 'u' :: 'e' :: rest => .ok (.truth true, rest)
  | 'f' :: 'a' :: 'l' :: 's' :: 'e' :: rest => .ok (.truth false, rest)
  | _ => ((moment cs).map sound).getD (number cs)

mutual

/-- A value whose parts are nested no deeper and are no more than `fuel`. -/
def valueWithin : Nat → List Char → Except Fault (Setting × List Char)
  | 0, _ => .error .malformed
  | fuel + 1, cs =>
    match cs with
    | [] => .error .malformed
    | c :: rest =>
      if c = '\x22' then sound (stringAfter c (basic .plain) (basicLines .plain) rest)
      else if c = '\x27' then sound (stringAfter c literal literalLines rest)
      else if c = '[' then do
        let (items, rest) ← itemsWithin fuel (← sound (skipFill false rest))
        return (.list items, rest)
      else if c = '\x7b' then
        match skipBlanks rest with
        | '\x7d' :: rest => .ok (.table [], rest)
        | rest => do
          let (entries, rest) ← pairsWithin fuel [] rest
          return (.table (Item.settings entries), rest)
      else scalar cs

/-- The items of an array up to its closing bracket. -/
def itemsWithin : Nat → List Char → Except Fault (List Setting × List Char)
  | 0, _ => .error .malformed
  | fuel + 1, cs =>
    match cs with
    | ']' :: rest => .ok ([], rest)
    | _ => do
      let (item, rest) ← valueWithin fuel cs
      match ← sound (skipFill false rest) with
      | ']' :: rest => return ([item], rest)
      | ',' :: rest =>
        let (items, rest) ← itemsWithin fuel (← sound (skipFill false rest))
        return (item :: items, rest)
      | _ => .error .malformed

/-- The entries of an inline table, after those assigned so far, up to its closing brace. -/
def pairsWithin : Nat → List (String × Item) → List Char → Except Fault (List (String × Item) × List Char)
  | 0, _, _ => .error .malformed
  | fuel + 1, entries, cs => do
    let (path, rest) ← sound (key cs)
    let (value, rest) ← valueWithin fuel (skipBlanks (← sound (mark '=' rest)))
    let entries ← sound (Item.assign 0 value path entries)
    match skipBlanks rest with
    | '\x7d' :: rest => return (entries, rest)
    | ',' :: rest => pairsWithin fuel entries (skipBlanks rest)
    | _ => .error .malformed

end

/-- A value. -/
def value (cs : List Char) : Except Fault (Setting × List Char) := valueWithin (cs.length + 1) cs

/-! ## Statements -/

/-- A statement of a document. -/
inductive Statement where
  | header (path : List String)
  | nextHeader (path : List String)
  | assign (path : List String) (value : Setting)

/-- One statement, not necessarily up to the end of its line. -/
def statement (cs : List Char) : Except Fault (Statement × List Char) :=
  match cs with
  | '[' :: '[' :: rest => do
    let (path, rest) ← sound (key (skipBlanks rest))
    return (.nextHeader path, ← sound ((mark ']' rest).bind (mark ']')))
  | '[' :: rest => do
    let (path, rest) ← sound (key (skipBlanks rest))
    return (.header path, ← sound (mark ']' rest))
  | _ => do
    let (path, rest) ← sound (key cs)
    let (value, rest) ← value (skipBlanks (← sound (mark '=' rest)))
    return (.assign path value, rest)

/-- The statements at the front of a text of no more than `fuel` lines, and the fault that ends them, if there is one. -/
def statementsWithin : Nat → List Char → List Statement × Option Fault
  | 0, _ => ([], some .malformed)
  | fuel + 1, cs =>
    match skipBlanks cs with
    | [] => ([], none)
    | '\n' :: rest => statementsWithin fuel rest
    | '#' :: rest =>
      match endLine ('#' :: rest) with
      | none => ([], some .malformed)
      | some rest => statementsWithin fuel rest
    | cs =>
      match statement cs with
      | .error fault => ([], some fault)
      | .ok (first, rest) =>
        match endLine rest with
        | none => ([first], some .malformed)
        | some rest => (first :: (statementsWithin fuel rest).1, (statementsWithin fuel rest).2)

/-- The statements at the front of a text, and the fault that ends them, if there is one. -/
def statements (cs : List Char) : List Statement × Option Fault := statementsWithin (cs.length + 1) cs

/-! ## Documents -/

/-- A document while it is put together: its items, the path of the last header, and the number of headers. -/
structure Draft where
  items : List (String × Item)
  header : List String
  sectionNumber : Nat

/-- The draft after a statement. -/
def Draft.after (d : Draft) : Statement → Option Draft
  | .header path => (Item.changeAt Item.declare path d.items).map (⟨·, path, d.sectionNumber + 1⟩)
  | .nextHeader path => (Item.changeAt Item.declareNext path d.items).map (⟨·, path, d.sectionNumber + 1⟩)
  | .assign path value =>
    if d.header.isEmpty then (Item.assign d.sectionNumber value path d.items).map ({ d with items := · })
    else (Item.changeAt (Item.assignBelow d.sectionNumber path value) d.header d.items).map ({ d with items := · })

/-- The table that statements describe. -/
def tableOf (statements : List Statement) : Option SettingTable :=
  (statements.foldlM Draft.after ⟨[], [], 0⟩).map fun d => Item.settings d.items

/-- A text in which every line that ends with a carriage return and a newline ends with a newline. -/
def unixLines : List Char → List Char
  | '\r' :: '\n' :: rest => '\n' :: unixLines rest
  | c :: rest => c :: unixLines rest
  | [] => []

/-- The table of a document. A statement that does not fit to those before it is noticed before a fault of the text after it. -/
def parse (text : String) : Except Fault SettingTable := do
  let (read, fault) := statements (unixLines text.toList)
  let table ← sound (tableOf read)
  match fault with
  | none => return table
  | some fault => .error fault

end AwkEdit.Toml
