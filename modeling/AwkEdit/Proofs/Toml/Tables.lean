import AwkEdit.Proofs.Results
import AwkEdit.Proofs.Settings.Paths
import AwkEdit.Toml.Document

/-!
# The table of a document names nothing twice

A statement of a document is refused when it would give a name a second value, so each of the steps that put a document together
leaves tables in which every name stands once, and so does the whole run over its statements. The same holds of inline tables, which
are put together from assignments too.
-/

namespace AwkEdit.Toml

open Setting

theorem sound_eq_ok_iff {α : Type} {x : Option α} {a : α} : sound x = .ok a ↔ x = some a := by
  cases x <;> simp [sound]

/-! ## Items -/

namespace Item

variable {entries after : List (String × Item)} {value : Setting} {path : List String} {sectionNumber : Nat}

theorem lookup_settings (entries : List (String × Item)) (name : String) :
    (settings entries).lookup name = (entries.lookup name).map setting := by
  induction entries with
  | nil => rfl
  | cons entry rest ih =>
    obtain ⟨other, item⟩ := entry
    rw [settings, List.lookup_cons, List.lookup_cons, ih]
    cases name == other <;> rfl

theorem settings_put (name : String) (item : Item) (entries : List (String × Item)) :
    settings (Setting.put name item entries) = Setting.put name item.setting (settings entries) := by
  induction entries with
  | nil => rfl
  | cons entry rest ih =>
    obtain ⟨other, old⟩ := entry
    rw [Setting.put, settings, Setting.put]
    split
    · rfl
    · rw [settings, ih]

/-- Every table of the items has each of its names once. -/
def Tidy (entries : List (String × Item)) : Prop := (Setting.table (settings entries)).Distinct

theorem tidy_iff_setting (status : Status) : Tidy entries ↔ (table status entries).setting.Distinct := by
  rw [Tidy, setting]

theorem setting_value (v : Setting) : (Item.value v).setting = v := by rw [setting]

theorem tidy_nil : Tidy [] := by
  rw [Tidy, settings]
  exact distinct_table_nil

theorem Tidy.put {item : Item} (h : Tidy entries) (hitem : item.setting.Distinct) (name : String) :
    Tidy (Setting.put name item entries) := by
  rw [Tidy, settings_put]
  exact Distinct.put h hitem name

theorem Tidy.lookup {name : String} {item : Item} (h : Tidy entries) (hitem : entries.lookup name = some item) :
    item.setting.Distinct := by
  have hfound : (settings entries).lookup name = some item.setting := by
    rw [lookup_settings, hitem]
    rfl
  exact Distinct.lookup h hfound

/-- An assignment keeps tables tidy. -/
theorem Tidy.assign (hvalue : value.Distinct) (h : Tidy entries) (hafter : assign sectionNumber value path entries = some after) :
    Tidy after := by
  induction path generalizing entries after with
  | nil => cases hafter
  | cons name path ih =>
    cases path with
    | nil =>
      rw [Item.assign] at hafter
      split at hafter
      · cases hafter
      · obtain rfl := Option.some.inj hafter
        rw [← setting_value value] at hvalue
        exact h.put hvalue name
    | cons next path =>
      rw [Item.assign] at hafter
      · split at hafter
        next =>
          obtain ⟨below, hbelow, rfl⟩ := Option.map_eq_some_iff.1 hafter
          exact h.put ((tidy_iff_setting _).1 (ih tidy_nil hbelow)) name
        next status below hlookup =>
          split at hafter
          · obtain ⟨under, hunder, rfl⟩ := Option.map_eq_some_iff.1 hafter
            exact h.put ((tidy_iff_setting _).1 (ih ((tidy_iff_setting _).2 (h.lookup hlookup)) hunder)) name
          · cases hafter
        next => cases hafter
      · exact List.cons_ne_nil _ _

/-- A change of an item that leaves it tidy. -/
def KeepsTidy (change : Option Item → Option Item) : Prop :=
  ∀ before after, (∀ item, before = some item → item.setting.Distinct) → change before = some after → after.setting.Distinct

/-- Such a change somewhere below keeps tables tidy. -/
theorem Tidy.changeAt {change : Option Item → Option Item} (hchange : KeepsTidy change) (h : Tidy entries)
    (hafter : changeAt change path entries = some after) : Tidy after := by
  induction path generalizing entries after with
  | nil => cases hafter
  | cons name path ih =>
    cases path with
    | nil =>
      rw [Item.changeAt] at hafter
      obtain ⟨item, hitem, rfl⟩ := Option.map_eq_some_iff.1 hafter
      exact h.put (hchange _ item (fun old hold => h.lookup hold) hitem) name
    | cons next path =>
      rw [Item.changeAt] at hafter
      · split at hafter
        next =>
          obtain ⟨below, hbelow, rfl⟩ := Option.map_eq_some_iff.1 hafter
          exact h.put ((tidy_iff_setting _).1 (ih tidy_nil hbelow)) name
        next status below hlookup =>
          obtain ⟨under, hunder, rfl⟩ := Option.map_eq_some_iff.1 hafter
          exact h.put ((tidy_iff_setting _).1 (ih ((tidy_iff_setting _).2 (h.lookup hlookup)) hunder)) name
        next =>
          obtain ⟨under, hunder, rfl⟩ := Option.map_eq_some_iff.1 hafter
          exact h.put (distinct_of_not_isTable rfl) name
        next => cases hafter
      · exact List.cons_ne_nil _ _

theorem keepsTidy_declare : KeepsTidy declare := by
  intro before after hbefore hafter
  cases before with
  | none =>
    obtain rfl := Option.some.inj hafter
    exact tidy_nil
  | some item =>
    cases item with
    | table status below =>
      cases status with
      | implied =>
        obtain rfl := Option.some.inj hafter
        exact (tidy_iff_setting _).1 ((tidy_iff_setting .implied).2 (hbefore _ rfl))
      | _ => cases hafter
    | _ => cases hafter

theorem keepsTidy_declareNext : KeepsTidy declareNext := by
  intro before after _ hafter
  cases before with
  | none =>
    obtain rfl := Option.some.inj hafter
    exact distinct_of_not_isTable rfl
  | some item =>
    cases item with
    | tables done last =>
      obtain rfl := Option.some.inj hafter
      exact distinct_of_not_isTable rfl
    | _ => cases hafter

theorem keepsTidy_assignBelow (hvalue : value.Distinct) : KeepsTidy (assignBelow sectionNumber path value) := by
  intro before after hbefore hafter
  cases before with
  | none => cases hafter
  | some item =>
    cases item with
    | table status below =>
      obtain ⟨under, hunder, rfl⟩ := Option.map_eq_some_iff.1 hafter
      exact Tidy.assign hvalue (hbefore _ rfl) hunder
    | tables done last =>
      obtain ⟨under, -, rfl⟩ := Option.map_eq_some_iff.1 hafter
      exact distinct_of_not_isTable rfl
    | value v => cases hafter

end Item

/-! ## Values -/

variable {cs rest : List Char} {s : Setting}

theorem isTable_of_number (h : number cs = .ok (s, rest)) : s.isTable = false := by
  have hbased : ∀ base cs, sound (basedInteger base cs) = .ok (s, rest) → s.isTable = false := by
    intro base cs h
    obtain ⟨read, -, heq⟩ := Option.map_eq_some_iff.1 (sound_eq_ok_iff.1 h)
    rw [← (Prod.mk.inj heq).1]
    rfl
  have hunsigned : ∀ negative cs, unsigned negative cs = .ok (s, rest) → s.isTable = false := by
    intro negative cs h
    rw [unsigned, bind_eq_ok_iff] at h
    obtain ⟨⟨whole, after⟩, -, h⟩ := h
    simp only at h
    split at h
    · rw [← (Prod.mk.inj (Except.ok.inj h)).1]
      rfl
    · split at h
      · cases h
      · rw [← (Prod.mk.inj (Except.ok.inj h)).1]
        rfl
  unfold number at h
  split at h
  · exact hbased _ _ h
  · exact hbased _ _ h
  · exact hbased _ _ h
  · split at h
    · rw [← (Prod.mk.inj (Except.ok.inj h)).1]
      rfl
    · rw [← (Prod.mk.inj (Except.ok.inj h)).1]
      rfl
    · exact hunsigned _ _ h

theorem isTable_of_moment {found : Option (Setting × List Char)} (h : moment cs = some found) (hs : found = some (s, rest)) :
    s.isTable = false := by
  unfold moment at h
  simp only at h
  split at h
  · rw [← Option.some.inj h] at hs
    rw [← (Prod.mk.inj (Option.some.inj hs)).1]
    rfl
  · rw [← Option.some.inj h] at hs
    cases hs
  · rw [← Option.some.inj h] at hs
    rw [← (Prod.mk.inj (Option.some.inj hs)).1]
    rfl
  · cases h

theorem isTable_of_scalar (h : scalar cs = .ok (s, rest)) : s.isTable = false := by
  unfold scalar at h
  split at h
  · rw [← (Prod.mk.inj (Except.ok.inj h)).1]
    rfl
  · rw [← (Prod.mk.inj (Except.ok.inj h)).1]
    rfl
  · cases hmoment : moment cs with
    | none =>
      rw [hmoment] at h
      exact isTable_of_number h
    | some found =>
      rw [hmoment] at h
      exact isTable_of_moment hmoment (sound_eq_ok_iff.1 h)

theorem isTable_of_stringAfter {quote : Char} {line lines : Reader (List Char)}
    (h : stringAfter quote line lines cs = some (s, rest)) : s.isTable = false := by
  obtain ⟨read, -, heq⟩ := Option.map_eq_some_iff.1 h
  rw [← (Prod.mk.inj heq).1]
  rfl

/-- Whether the values that a reader reads have their names once. -/
def ReadsDistinct (reader : List Char → Except Fault (Setting × List Char)) : Prop :=
  ∀ cs s rest, reader cs = .ok (s, rest) → s.Distinct

/-- Whether a reader of more entries leaves those tidy that were. -/
def ReadsTidy (reader : List (String × Item) → List Char → Except Fault (List (String × Item) × List Char)) : Prop :=
  ∀ entries cs after rest, Item.Tidy entries → reader entries cs = .ok (after, rest) → Item.Tidy after

theorem readsDistinct_valueWithin {fuel : Nat} (hpairs : ReadsTidy (pairsWithin fuel)) : ReadsDistinct (valueWithin (fuel + 1)) := by
  intro cs s rest h
  unfold valueWithin at h
  cases cs with
  | nil => cases h
  | cons c cs =>
    simp only at h
    split at h
    · exact distinct_of_not_isTable (isTable_of_stringAfter (sound_eq_ok_iff.1 h))
    split at h
    · exact distinct_of_not_isTable (isTable_of_stringAfter (sound_eq_ok_iff.1 h))
    split at h
    · obtain ⟨filled, -, h⟩ := bind_eq_ok_iff.1 h
      obtain ⟨⟨items, after⟩, -, h⟩ := bind_eq_ok_iff.1 h
      rw [← (Prod.mk.inj (Except.ok.inj h)).1]
      exact distinct_of_not_isTable rfl
    split at h
    · split at h
      · rw [← (Prod.mk.inj (Except.ok.inj h)).1]
        exact distinct_table_nil
      · obtain ⟨⟨entries, after⟩, hentries, h⟩ := bind_eq_ok_iff.1 h
        rw [← (Prod.mk.inj (Except.ok.inj h)).1]
        exact hpairs _ _ _ _ Item.tidy_nil hentries
    · exact distinct_of_not_isTable (isTable_of_scalar h)

theorem readsTidy_pairsWithin {fuel : Nat} (hvalue : ReadsDistinct (valueWithin fuel)) (hpairs : ReadsTidy (pairsWithin fuel)) :
    ReadsTidy (pairsWithin (fuel + 1)) := by
  intro entries cs after rest hentries h
  rw [pairsWithin, bind_eq_ok_iff] at h
  obtain ⟨⟨path, keyed⟩, -, h⟩ := h
  obtain ⟨marked, -, h⟩ := bind_eq_ok_iff.1 h
  obtain ⟨⟨value, valued⟩, hread, h⟩ := bind_eq_ok_iff.1 h
  obtain ⟨assigned, hassigned, h⟩ := bind_eq_ok_iff.1 h
  have htidy : Item.Tidy assigned := hentries.assign (hvalue _ _ _ hread) (sound_eq_ok_iff.1 hassigned)
  split at h
  · rw [← (Prod.mk.inj (Except.ok.inj h)).1]
    exact htidy
  · exact hpairs _ _ _ _ htidy h
  · cases h

/-- A value has its names once, and the entries of an inline table stay tidy, by induction on the depth. -/
theorem distinct_within (fuel : Nat) : ReadsDistinct (valueWithin fuel) ∧ ReadsTidy (pairsWithin fuel) := by
  induction fuel with
  | zero =>
    refine ⟨fun cs s rest h => ?_, fun entries cs after rest _ h => ?_⟩
    · rw [valueWithin] at h
      cases h
    · rw [pairsWithin] at h
      cases h
  | succ fuel ih => exact ⟨readsDistinct_valueWithin ih.2, readsTidy_pairsWithin ih.1 ih.2⟩

/-! ## Documents -/

/-- What a statement assigns has its names once. -/
def Statement.Tidy : Statement → Prop
  | assign _ value => value.Distinct
  | _ => True

theorem tidy_of_statement {st : Statement} (h : statement cs = .ok (st, rest)) : st.Tidy := by
  unfold statement at h
  split at h
  · obtain ⟨⟨path, keyed⟩, -, h⟩ := bind_eq_ok_iff.1 h
    obtain ⟨marked, -, h⟩ := bind_eq_ok_iff.1 h
    rw [← (Prod.mk.inj (Except.ok.inj h)).1]
    trivial
  · obtain ⟨⟨path, keyed⟩, -, h⟩ := bind_eq_ok_iff.1 h
    obtain ⟨marked, -, h⟩ := bind_eq_ok_iff.1 h
    rw [← (Prod.mk.inj (Except.ok.inj h)).1]
    trivial
  · obtain ⟨⟨path, keyed⟩, -, h⟩ := bind_eq_ok_iff.1 h
    obtain ⟨marked, -, h⟩ := bind_eq_ok_iff.1 h
    obtain ⟨⟨value, valued⟩, hread, h⟩ := bind_eq_ok_iff.1 h
    rw [← (Prod.mk.inj (Except.ok.inj h)).1]
    exact (distinct_within _).1 _ _ _ hread

theorem tidy_of_mem_statementsWithin (fuel : Nat) (cs : List Char) : ∀ st ∈ (statementsWithin fuel cs).1, st.Tidy := by
  induction fuel generalizing cs with
  | zero => simp [statementsWithin]
  | succ fuel ih =>
    rw [statementsWithin]
    split
    · simp
    · exact ih _
    · split
      · simp
      · exact ih _
    · split
      · simp
      next hread =>
        have hfirst := tidy_of_statement hread
        split
        · simpa using hfirst
        · exact List.forall_mem_cons.2 ⟨hfirst, ih _⟩

theorem tidy_of_mem_statements {st : Statement} (h : st ∈ (statements cs).1) : st.Tidy := tidy_of_mem_statementsWithin _ _ st h

/-- A statement keeps the items of a draft tidy. -/
theorem Draft.tidy_after {d d' : Draft} {st : Statement} (hst : st.Tidy) (h : Item.Tidy d.items) (hafter : d.after st = some d') :
    Item.Tidy d'.items := by
  cases st with
  | header path =>
    obtain ⟨items, hitems, rfl⟩ := Option.map_eq_some_iff.1 hafter
    exact h.changeAt Item.keepsTidy_declare hitems
  | nextHeader path =>
    obtain ⟨items, hitems, rfl⟩ := Option.map_eq_some_iff.1 hafter
    exact h.changeAt Item.keepsTidy_declareNext hitems
  | assign path value =>
    rw [Draft.after] at hafter
    split at hafter
    · obtain ⟨items, hitems, rfl⟩ := Option.map_eq_some_iff.1 hafter
      exact h.assign hst hitems
    · obtain ⟨items, hitems, rfl⟩ := Option.map_eq_some_iff.1 hafter
      exact h.changeAt (Item.keepsTidy_assignBelow hst) hitems

/-- So does a run over statements. -/
theorem Draft.tidy_foldlM {d d' : Draft} {sts : List Statement} (hsts : ∀ st ∈ sts, st.Tidy) (h : Item.Tidy d.items)
    (hafter : sts.foldlM Draft.after d = some d') : Item.Tidy d'.items := by
  induction sts generalizing d with
  | nil =>
    obtain rfl := Option.some.inj hafter
    exact h
  | cons st sts ih =>
    rw [List.foldlM_cons] at hafter
    obtain ⟨next, hnext, hafter⟩ := Option.bind_eq_some_iff.1 hafter
    rw [List.forall_mem_cons] at hsts
    exact ih hsts.2 (Draft.tidy_after hsts.1 h hnext) hafter

/-- A document is the table of its statements, unless these do not fit together or a fault comes after them. -/
theorem parse_eq (text : String) :
    parse text = sound (tableOf (statements (unixLines text.toList)).1) >>= fun table =>
      match (statements (unixLines text.toList)).2 with
      | none => .ok table
      | some fault => .error fault := rfl

/-- The table of a document has each of its names once, all the way down. -/
theorem distinct_of_parse {text : String} {t : SettingTable} (h : parse text = .ok t) : (table t).Distinct := by
  rw [parse_eq] at h
  obtain ⟨found, hfound, h⟩ := bind_eq_ok_iff.1 h
  have heq : found = t := by
    split at h
    · exact Except.ok.inj h
    · cases h
  rw [← heq]
  obtain ⟨d, hd, rfl⟩ := Option.map_eq_some_iff.1 (sound_eq_ok_iff.1 hfound)
  exact Draft.tidy_foldlM (fun st => tidy_of_mem_statements) Item.tidy_nil hd

end AwkEdit.Toml
