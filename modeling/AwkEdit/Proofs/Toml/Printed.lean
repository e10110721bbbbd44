import AwkEdit.Proofs.Settings.Paths
import AwkEdit.Proofs.Toml.Tables
import AwkEdit.Proofs.Toml.Written

/-!
# Documents that are read as they were printed

Lines are printed one by one and read one by one: blank lines and comments say nothing, and each header and each entry is read as
the statement that it was (`Toml.statementsWithin_lines`). The statements then put together the table that the lines describe
(`Toml.documentOf`), if it names nothing twice. So a document is read as it was printed (`Toml.parse_print`).
-/

namespace AwkEdit.Toml

variable {name : String} {rest : List Char}

/-! ## What lines say -/

/-- A name that is written as a key without quotes. -/
def isBareKey (name : String) : Bool := !name.toList.isEmpty && name.toList.all isBare

/-- A line that is read as it was written. -/
def Line.Readable : Line → Prop
  | blank => True
  | comment text => text.toList.all isPlain = true
  | header name => isBareKey name = true
  | entry name value => isBareKey name = true ∧ value.isWritable = true

instance : DecidablePred Line.Readable
  | .blank => .isTrue trivial
  | .comment words => inferInstanceAs (Decidable (words.toList.all isPlain = true))
  | .header name => inferInstanceAs (Decidable (isBareKey name = true))
  | .entry name value => inferInstanceAs (Decidable (isBareKey name = true ∧ value.isWritable = true))

/-- The statement of a line, if it makes one. -/
def Line.statement? : Line → Option Statement
  | header name => some (.header [name])
  | entry name value => some (.assign [name] value.setting)
  | _ => none

/-- The entries of lines up to the next header. -/
def entriesOf : List Line → SettingTable
  | .header _ :: _ | [] => []
  | .entry name value :: lines => (name, value.setting) :: entriesOf lines
  | _ :: lines => entriesOf lines

/-- The tables under the headers of lines. -/
def sectionsOf : List Line → SettingTable
  | [] => []
  | .header name :: lines => (name, .table (entriesOf lines)) :: sectionsOf lines
  | _ :: lines => sectionsOf lines

/-- The table that lines describe: their first entries, and under each header those that follow it. -/
def documentOf (lines : List Line) : SettingTable := entriesOf lines ++ sectionsOf lines

/-! ## Keys -/

theorem exists_bareKey (h : isBareKey name = true) : ∃ c cs, name.toList = c :: cs ∧ isBare c = true ∧ ∀ d ∈ cs, isBare d = true := by
  rw [isBareKey, Bool.and_eq_true, List.all_eq_true] at h
  cases hname : name.toList with
  | nil =>
    rw [hname] at h
    cases h.1
  | cons c cs =>
    rw [hname] at h
    exact ⟨c, cs, rfl, List.forall_mem_cons.1 h.2⟩

theorem skipBlanks_of_isBare {c : Char} (hc : isBare c = true) (cs : List Char) : skipBlanks (c :: cs) = c :: cs := by
  have hblank : isBlank c = false := by
    rw [isBlank, Bool.or_eq_false_iff, decide_eq_false_iff_not, decide_eq_false_iff_not]
    exact ⟨ne_of_holds hc (by decide), ne_of_holds hc (by decide)⟩
  rw [skipBlanks, List.dropWhile_cons_of_neg (Bool.eq_false_iff.1 hblank)]

/-- A key without quotes is read up to what comes after the blanks after it, if that is no dot. -/
theorem key_bareKey (h : isBareKey name = true) {after : List Char} (hafter : ∀ c ∈ after.head?, isBare c = false)
    (hdot : (skipBlanks after).head? ≠ some '.') : key (name.toList ++ after) = some ([name], skipBlanks after) := by
  obtain ⟨c, cs, hname, hc, hcs⟩ := exists_bareKey h
  have hstop : after.takeWhile isBare = [] ∧ after.dropWhile isBare = after := by
    cases after with
    | nil => exact ⟨rfl, rfl⟩
    | cons d after =>
      have hd := Bool.eq_false_iff.1 (hafter d rfl)
      exact ⟨List.takeWhile_cons_of_neg hd, List.dropWhile_cons_of_neg hd⟩
  have hpart : keyPart (c :: (cs ++ after)) = some (name, after) := by
    rw [keyPart, if_neg (ne_of_holds hc (by decide)), if_neg (ne_of_holds hc (by decide)), if_pos hc,
      List.takeWhile_append_of_pos hcs, List.dropWhile_append_of_pos hcs, hstop.1, hstop.2, List.append_nil, ← hname,
      String.ofList_toList]
  rw [key, hname, List.cons_append, List.length_cons, keyWithin, hpart]
  simp only
  split
  next heq =>
    rw [heq] at hdot
    exact absurd rfl hdot
  next => rfl

/-! ## Statements -/

theorem statement_header (h : isBareKey name = true) (rest : List Char) :
    statement ('[' :: (name.toList ++ ']' :: '\n' :: rest)) = .ok (.header [name], '\n' :: rest) := by
  have hkey : key (name.toList ++ ']' :: '\n' :: rest) = some ([name], ']' :: '\n' :: rest) :=
    key_bareKey h (by simp [isBare]) (by simp [skipBlanks, isBlank])
  obtain ⟨c, cs, hname, hc, -⟩ := exists_bareKey h
  rw [hname, List.cons_append] at hkey ⊢
  unfold statement
  split
  next heq => exact absurd (List.cons.inj (List.cons.inj heq).2).1 (ne_of_holds hc (by decide))
  next heq =>
    rw [← (List.cons.inj heq).2, skipBlanks_of_isBare hc, hkey]
    rfl
  next hne => exact absurd rfl (hne _)

theorem statement_entry (h : isBareKey name = true) {v : Plain} (hv : v.isWritable = true) (rest : List Char) :
    statement (name.toList ++ ' ' :: '=' :: ' ' :: (v.chars ++ '\n' :: rest)) = .ok (.assign [name] v.setting, '\n' :: rest) := by
  have hkey : key (name.toList ++ ' ' :: '=' :: ' ' :: (v.chars ++ '\n' :: rest)) =
      some ([name], '=' :: ' ' :: (v.chars ++ '\n' :: rest)) := key_bareKey h (by simp [isBare]) (by simp [skipBlanks, isBlank])
  obtain ⟨c, cs, hname, hc, -⟩ := exists_bareKey h
  have hvalue := value_chars hv rest
  have hblank : skipBlanks (' ' :: (v.chars ++ '\n' :: rest)) = v.chars ++ '\n' :: rest := skipBlanks_chars v _
  rw [hname, List.cons_append] at hkey ⊢
  unfold statement
  split
  next heq => exact absurd (List.cons.inj heq).1 (ne_of_holds hc (by decide))
  next heq => exact absurd (List.cons.inj heq).1 (ne_of_holds hc (by decide))
  next =>
    rw [hkey]
    simp only [sound, bind, Except.bind, mark, if_pos, hblank, hvalue]
    rfl

/-- A statement that starts with neither a blank nor a newline nor a comment is read before the lines after it. -/
theorem statementsWithin_statement (fuel : Nat) {c : Char} {cs : List Char} {st : Statement} (hc : c ∉ [' ', '\t', '\n', '#'])
    (h : statement (c :: cs) = .ok (st, '\n' :: rest)) :
    statementsWithin (fuel + 1) (c :: cs) = (st :: (statementsWithin fuel rest).1, (statementsWithin fuel rest).2) := by
  simp only [List.mem_cons, List.not_mem_nil, or_false, not_or] at hc
  have hblank : skipBlanks (c :: cs) = c :: cs := List.dropWhile_cons_of_neg (by simp [isBlank, hc.1, hc.2.1])
  rw [statementsWithin, hblank]
  split
  next heq => cases heq
  next heq => exact absurd (List.cons.inj heq).1 hc.2.2.1
  next heq => exact absurd (List.cons.inj heq).1 hc.2.2.2
  next =>
    rw [h]
    rfl

/-- One line is read as its statement, and then the lines after it. -/
theorem statementsWithin_line (fuel : Nat) {l : Line} (hl : l.Readable) (rest : List Char) :
    statementsWithin (fuel + 1) (l.chars ++ '\n' :: rest) =
      (l.statement?.toList ++ (statementsWithin fuel rest).1, (statementsWithin fuel rest).2) := by
  cases l with
  | blank => rfl
  | comment words =>
    have hblank : skipBlanks ('#' :: ' ' :: (words.toList ++ '\n' :: rest)) = '#' :: ' ' :: (words.toList ++ '\n' :: rest) := rfl
    have hend : endLine ('#' :: ' ' :: (words.toList ++ '\n' :: rest)) = some rest := by
      have hplain : (' ' :: (words.toList ++ '\n' :: rest)).dropWhile isPlain = '\n' :: rest := by
        rw [List.dropWhile_cons_of_pos (by decide), List.dropWhile_append_of_pos (List.all_eq_true.1 hl),
          List.dropWhile_cons_of_neg (by decide)]
      simp only [endLine, hblank, hplain]
    rw [Line.chars, List.cons_append, List.cons_append, statementsWithin, hblank]
    simp only [hend]
    rfl
  | header name =>
    have hchars : Line.chars (.header name) ++ '\n' :: rest = '[' :: (name.toList ++ ']' :: '\n' :: rest) := by
      rw [Line.chars, List.cons_append, List.cons_append, List.append_assoc, List.singleton_append]
    rw [hchars, statementsWithin_statement fuel (by decide) (statement_header hl rest)]
    rfl
  | entry name v =>
    have hchars : Line.chars (.entry name v) ++ '\n' :: rest = name.toList ++ ' ' :: '=' :: ' ' :: (v.chars ++ '\n' :: rest) := by
      simp [Line.chars]
    have hstatement := statement_entry hl.1 hl.2 rest
    obtain ⟨c, cs, hname, hc, -⟩ := exists_bareKey hl.1
    have hstart : c ∉ [' ', '\t', '\n', '#'] := notMem_of_holds hc rfl
    rw [hname, List.cons_append] at hstatement
    rw [hchars, hname, List.cons_append, statementsWithin_statement fuel hstart hstatement]
    rfl

/-- Lines are read as their statements, if there is fuel for each of them and for the end. -/
theorem statementsWithin_lines {fuel : Nat} {lines : List Line} (hfuel : lines.length < fuel) (hlines : ∀ l ∈ lines, l.Readable) :
    statementsWithin fuel (lines.flatMap fun l => l.chars ++ ['\n']) = (lines.filterMap Line.statement?, none) := by
  induction lines generalizing fuel with
  | nil =>
    obtain ⟨fuel, rfl⟩ := Nat.exists_eq_succ_of_ne_zero (Nat.ne_zero_of_lt hfuel)
    rfl
  | cons l lines ih =>
    obtain ⟨fuel, rfl⟩ := Nat.exists_eq_succ_of_ne_zero (Nat.ne_zero_of_lt hfuel)
    obtain ⟨hl, hlines⟩ := List.forall_mem_cons.1 hlines
    rw [List.flatMap_cons, List.append_assoc, List.singleton_append, statementsWithin_line fuel hl,
      ih (Nat.lt_of_succ_lt_succ hfuel) hlines, List.filterMap_cons]
    cases l.statement? <;> rfl

/-! ## Putting the table together -/

/-- Entries of a table as they stand while a document is put together. -/
def valueItems (entries : SettingTable) : List (String × Item) := entries.map fun e => (e.1, .value e.2)

/-- The tables under the headers of lines as they stand while a document is put together. -/
def sectionItems : List Line → List (String × Item)
  | [] => []
  | .header name :: lines => (name, .table .declared (valueItems (entriesOf lines))) :: sectionItems lines
  | _ :: lines => sectionItems lines

theorem valueItems_nil : valueItems [] = [] := rfl

theorem settings_append (a b : List (String × Item)) : Item.settings (a ++ b) = Item.settings a ++ Item.settings b := by
  induction a with
  | nil => rfl
  | cons entry a ih =>
    obtain ⟨name, item⟩ := entry
    rw [List.cons_append, Item.settings, Item.settings, ih, List.cons_append]

theorem settings_valueItems (entries : SettingTable) : Item.settings (valueItems entries) = entries := by
  induction entries with
  | nil => rfl
  | cons entry entries ih =>
    obtain ⟨name, v⟩ := entry
    rw [valueItems, List.map_cons, Item.settings, Item.setting]
    exact congrArg ((name, v) :: ·) ih

theorem settings_sectionItems (lines : List Line) : Item.settings (sectionItems lines) = sectionsOf lines := by
  induction lines with
  | nil => rfl
  | cons l lines ih =>
    cases l with
    | header name => rw [sectionItems, Item.settings, Item.setting, settings_valueItems, ih, sectionsOf]
    | _ => exact ih

/-- What is put under the name of the last item takes its place. -/
theorem put_last {done : List (String × Item)} (h : name ∉ done.map (·.1)) (old new : Item) :
    Setting.put name new (done ++ [(name, old)]) = done ++ [(name, new)] := by
  induction done with
  | nil => rw [List.nil_append, Setting.put, if_pos rfl, List.nil_append]
  | cons entry done ih =>
    obtain ⟨other, item⟩ := entry
    rw [List.map_cons, List.mem_cons, not_or] at h
    rw [List.cons_append, Setting.put, if_neg (Ne.symm h.1), ih h.2, List.cons_append]

theorem lookup_of_notMem {α : Type} {entries : List (String × α)} (h : name ∉ entries.map (·.1)) : entries.lookup name = none :=
  List.lookup_eq_none_iff.2 fun _ he => bne_iff_ne.2 fun heq => h (heq ▸ List.mem_map_of_mem he)

theorem lookup_last {done : List (String × Item)} (h : name ∉ done.map (·.1)) (item : Item) :
    (done ++ [(name, item)]).lookup name = some item := by
  rw [List.lookup_append, lookup_of_notMem h, Option.none_or, List.lookup_cons_self]

/-- A header whose name is new opens a table. -/
theorem after_header {items : List (String × Item)} (h : name ∉ items.map (·.1)) (opened : List String) (k : Nat) :
    Draft.after ⟨items, opened, k⟩ (.header [name]) = some ⟨items ++ [(name, .table .declared [])], [name], k + 1⟩ := by
  rw [Draft.after, Item.changeAt, lookup_of_notMem h, Item.declare, Option.map_some, Option.map_some, Setting.put_of_notMem h]

/-- Before the first header an entry whose name is new is an item. -/
theorem after_first_entry {items : List (String × Item)} (h : name ∉ items.map (·.1)) (v : Setting) (k : Nat) :
    Draft.after ⟨items, [], k⟩ (.assign [name] v) = some ⟨items ++ [(name, .value v)], [], k⟩ := by
  rw [Draft.after, if_pos List.isEmpty_nil, Item.assign, lookup_of_notMem h, Option.isSome_none, if_neg Bool.false_ne_true,
    Option.map_some, Setting.put_of_notMem h]

/-- After a header an entry whose name is new goes into the table that the header opened. -/
theorem after_entry {done below : List (String × Item)} {opened : String} (hopened : opened ∉ done.map (·.1))
    (h : name ∉ below.map (·.1)) (v : Setting) (k : Nat) :
    Draft.after ⟨done ++ [(opened, .table .declared below)], [opened], k⟩ (.assign [name] v) =
      some ⟨done ++ [(opened, .table .declared (below ++ [(name, .value v)]))], [opened], k⟩ := by
  have hbelow : Item.assign k v [name] below = some (below ++ [(name, .value v)]) := by
    rw [Item.assign, lookup_of_notMem h, Option.isSome_none, if_neg Bool.false_ne_true, Setting.put_of_notMem h]
  rw [Draft.after, List.isEmpty_cons, if_neg Bool.false_ne_true, Item.changeAt, lookup_last hopened, Item.assignBelow, hbelow,
    Option.map_some, Option.map_some, Option.map_some, put_last hopened]

theorem statements_header (name : String) (lines : List Line) :
    (Line.header name :: lines).filterMap Line.statement? = .header [name] :: lines.filterMap Line.statement? := rfl

theorem statements_entry (name : String) (v : Plain) (lines : List Line) :
    (Line.entry name v :: lines).filterMap Line.statement? = .assign [name] v.setting :: lines.filterMap Line.statement? := rfl

theorem notMem_of_nodup_append {α : Type} {a : α} {before after : List α} (h : (before ++ a :: after).Nodup) : a ∉ before :=
  fun hmem => (List.nodup_append.1 h).2.2 a hmem a List.mem_cons_self rfl

/-- The names of items and of one more, before other names. -/
theorem names_concat_append (items : List (String × Item)) (name : String) (item : Item) (others : List String) :
    (items ++ [(name, item)]).map (·.1) ++ others = items.map (·.1) ++ name :: others := by
  rw [List.map_append, List.map_singleton, List.append_assoc, List.singleton_append]

/-- After a header, lines whose names are new fill its table and add the tables of the headers among them. -/
theorem foldlM_after_header {lines : List Line} {done below : List (String × Item)} {opened : String} (k : Nat)
    (hnames : (done.map (·.1) ++ opened :: (sectionsOf lines).map (·.1)).Nodup)
    (hbelow : (below.map (·.1) ++ (entriesOf lines).map (·.1)).Nodup) (hsections : ∀ e ∈ sectionsOf lines, e.2.Distinct) :
    ∃ d, (lines.filterMap Line.statement?).foldlM Draft.after ⟨done ++ [(opened, Item.table .declared below)], [opened], k⟩ = some d ∧
      d.items = done ++ (opened, .table .declared (below ++ valueItems (entriesOf lines))) :: sectionItems lines := by
  induction lines generalizing done below opened k with
  | nil => exact ⟨_, rfl, by simp [valueItems, entriesOf, sectionItems]⟩
  | cons l lines ih =>
    have hopened : opened ∉ done.map (·.1) := notMem_of_nodup_append hnames
    cases l with
    | header name =>
      obtain ⟨hsection, hsections⟩ := List.forall_mem_cons.1 hsections
      have hnext : ((done ++ [(opened, Item.table .declared below)]).map (·.1) ++ name :: (sectionsOf lines).map (·.1)).Nodup := by
        rw [names_concat_append]
        exact hnames
      have hname : name ∉ (done ++ [(opened, Item.table .declared below)]).map (·.1) := notMem_of_nodup_append hnext
      have hfresh : (([] : List (String × Item)).map (·.1) ++ (entriesOf lines).map (·.1)).Nodup := hsection.nodup
      obtain ⟨d, hd, hitems⟩ := ih (k + 1) hnext hfresh hsections
      refine ⟨d, ?_, ?_⟩
      · rw [statements_header, List.foldlM_cons, after_header hname]
        exact hd
      · rw [hitems, List.append_assoc, List.singleton_append, sectionItems, entriesOf, valueItems_nil, List.append_nil,
          List.nil_append]
    | entry name v =>
      have hname : name ∉ below.map (·.1) := notMem_of_nodup_append hbelow
      have hnext : ((below ++ [(name, Item.value v.setting)]).map (·.1) ++ (entriesOf lines).map (·.1)).Nodup := by
        rw [names_concat_append]
        exact hbelow
      obtain ⟨d, hd, hitems⟩ := ih k hnames hnext hsections
      refine ⟨d, ?_, ?_⟩
      · rw [statements_entry, List.foldlM_cons, after_entry hopened hname]
        exact hd
      · rw [hitems, List.append_assoc, List.singleton_append]
        rfl
    | _ => exact ih k hnames hbelow hsections

/-- Before any header, lines whose names are new add their entries and the tables of the headers among them. -/
theorem foldlM_first {lines : List Line} {items : List (String × Item)} (k : Nat)
    (hnames : (items.map (·.1) ++ (documentOf lines).map (·.1)).Nodup) (hsections : ∀ e ∈ sectionsOf lines, e.2.Distinct) :
    ∃ d, (lines.filterMap Line.statement?).foldlM Draft.after ⟨items, [], k⟩ = some d ∧
      d.items = items ++ valueItems (entriesOf lines) ++ sectionItems lines := by
  induction lines generalizing items k with
  | nil => exact ⟨_, rfl, by simp [valueItems, entriesOf, sectionItems]⟩
  | cons l lines ih =>
    cases l with
    | header name =>
      obtain ⟨hsection, hsections⟩ := List.forall_mem_cons.1 hsections
      have hname : name ∉ items.map (·.1) := notMem_of_nodup_append hnames
      have hfresh : (([] : List (String × Item)).map (·.1) ++ (entriesOf lines).map (·.1)).Nodup := hsection.nodup
      obtain ⟨d, hd, hitems⟩ := foldlM_after_header (k + 1) hnames hfresh hsections
      refine ⟨d, ?_, ?_⟩
      · rw [statements_header, List.foldlM_cons, after_header hname]
        exact hd
      · rw [hitems, sectionItems, entriesOf, valueItems_nil, List.append_nil, List.nil_append]
    | entry name v =>
      have hname : name ∉ items.map (·.1) := notMem_of_nodup_append hnames
      have hnext : ((items ++ [(name, Item.value v.setting)]).map (·.1) ++ (documentOf lines).map (·.1)).Nodup := by
        rw [names_concat_append]
        exact hnames
      obtain ⟨d, hd, hitems⟩ := ih k hnext hsections
      refine ⟨d, ?_, ?_⟩
      · rw [statements_entry, List.foldlM_cons, after_first_entry hname]
        exact hd
      · rw [hitems, List.append_assoc items, List.singleton_append]
        rfl
    | _ => exact ih k hnames hsections

/-- The statements of lines put together the table that the lines describe, if it names nothing twice. -/
theorem tableOf_statements {lines : List Line} (h : (Setting.table (documentOf lines)).Distinct) :
    tableOf (lines.filterMap Line.statement?) = some (documentOf lines) := by
  have hsections : ∀ e ∈ sectionsOf lines, e.2.Distinct := fun e he => h.of_mem (List.mem_append_right _ he)
  have hnames : (([] : List (String × Item)).map (·.1) ++ (documentOf lines).map (·.1)).Nodup := h.nodup
  obtain ⟨d, hd, hitems⟩ := foldlM_first 0 hnames hsections
  rw [tableOf, hd, Option.map_some, hitems, List.nil_append, settings_append, settings_valueItems, settings_sectionItems]
  rfl

/-! ## Documents -/

theorem hexDigit_ne_return : ∀ k < 16, Quoted.hexDigit k ≠ '\r' := by decide

theorem return_notMem_hexDigits (width n : Nat) : '\r' ∉ Quoted.hexDigits width n := by
  induction width generalizing n with
  | zero => exact List.not_mem_nil
  | succ width ih =>
    rw [Quoted.hexDigits, List.mem_append, List.mem_singleton, not_or]
    exact ⟨ih _, (hexDigit_ne_return _ (Nat.mod_lt _ (by decide))).symm⟩

/-- A return is not written as itself. -/
theorem return_notMem_writtenChar (c : Char) : '\r' ∉ writtenChar c := by
  rw [writtenChar]
  iterate 6
    split
    next => decide
  split
  next => decide
  next hreturn =>
    split
    next => simpa using return_notMem_hexDigits 4 c.toNat
    next => simpa using Ne.symm hreturn

theorem return_notMem_writtenText (text : String) : '\r' ∉ writtenText text := by
  have hchars : '\r' ∉ text.toList.flatMap writtenChar := by
    rw [List.mem_flatMap]
    rintro ⟨c, -, hc⟩
    exact return_notMem_writtenChar c hc
  simpa [writtenText] using hchars

theorem return_notMem_chars (v : Plain) : '\r' ∉ v.chars := by
  cases v with
  | text text => exact return_notMem_writtenText text
  | number n =>
    intro hmem
    have hdigit := isDigit_toDigits n _ hmem
    cases hdigit
  | truth b => cases b <;> decide
  | texts values =>
    have hwritten : '\r' ∉ [',', ' '].intercalate (values.map writtenText) := by
      induction values with
      | nil => exact List.not_mem_nil
      | cons text values ih =>
        have htext := return_notMem_writtenText text
        cases values with
        | nil => simpa [List.intercalate_singleton] using htext
        | cons next values =>
          rw [List.map_cons] at ih
          rw [List.map_cons, List.map_cons, List.intercalate_cons_cons]
          simp only [List.mem_append, not_or]
          exact ⟨⟨htext, by decide⟩, ih⟩
    simpa [Plain.chars] using hwritten

/-- No return is printed. -/
theorem return_notMem_line {l : Line} (hl : l.Readable) : '\r' ∉ l.chars ++ ['\n'] := by
  have hbare : ∀ {name : String}, isBareKey name = true → '\r' ∉ name.toList := by
    intro name hname hmem
    rw [isBareKey, Bool.and_eq_true, List.all_eq_true] at hname
    exact ne_of_holds (hname.2 _ hmem) (by decide) rfl
  cases l with
  | blank => decide
  | comment words =>
    have hwords : '\r' ∉ words.toList := fun hmem => by
      have hplain := List.all_eq_true.1 hl _ hmem
      cases hplain
    simpa [Line.chars] using hwords
  | header name => simpa [Line.chars] using hbare hl
  | entry name v => simpa [Line.chars] using ⟨hbare hl.1, return_notMem_chars v⟩

theorem unixLines_of_notMem {cs : List Char} (h : '\r' ∉ cs) : unixLines cs = cs := by
  induction cs with
  | nil => rfl
  | cons c cs ih =>
    rw [List.mem_cons, not_or] at h
    unfold unixLines
    split
    next heq => exact absurd (List.cons.inj heq).1.symm h.1
    next heq =>
      obtain ⟨rfl, rfl⟩ := List.cons.inj heq
      rw [ih h.2]
    next heq => cases heq

theorem return_notMem_print {lines : List Line} (hlines : ∀ l ∈ lines, l.Readable) : '\r' ∉ (print lines).toList := by
  rw [print, String.toList_ofList, List.mem_flatMap]
  rintro ⟨l, hl, hmem⟩
  exact return_notMem_line (hlines l hl) hmem

theorem print?_eq_some_iff {lines : List Line} {text : String} :
    print? lines = some text ↔ (∀ l ∈ lines, l.isWritable = true) ∧ print lines = text := by
  rw [print?, Option.ite_none_right_eq_some, List.all_eq_true, Option.some.injEq]

/-- Every line is printed with at least one character, its end. -/
theorem length_le_lines (lines : List Line) : lines.length ≤ (lines.flatMap fun l => l.chars ++ ['\n']).length := by
  induction lines with
  | nil => exact Nat.zero_le _
  | cons l lines ih =>
    rw [List.flatMap_cons, List.length_append, List.length_append, List.length_singleton, List.length_cons]
    omega

/-- A document that names nothing twice is read as it was printed. -/
theorem parse_print {lines : List Line} (hlines : ∀ l ∈ lines, l.Readable) (hdistinct : (Setting.table (documentOf lines)).Distinct) :
    parse (print lines) = .ok (documentOf lines) := by
  have hstatements : statements (unixLines (print lines).toList) = (lines.filterMap Line.statement?, none) := by
    rw [unixLines_of_notMem (return_notMem_print hlines), print, String.toList_ofList, statements]
    exact statementsWithin_lines (Nat.lt_succ_of_le (length_le_lines lines)) hlines
  rw [parse_eq, hstatements, tableOf_statements hdistinct]
  rfl

end AwkEdit.Toml
