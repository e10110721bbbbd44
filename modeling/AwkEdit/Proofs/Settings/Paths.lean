import AwkEdit.Settings.Value
import Mathlib.Data.List.Infix
import Mathlib.Data.List.Nodup

/-!
# What a table holds under a path

Laying a table over another goes name by name and down through the tables that both have, so it is best told path by path. What the
upper table holds under a path results there, laid over what the lower one holds there; and where the upper one holds nothing the
lower one shows through, unless a value of the upper one that is no table stands on the way (`Setting.at?_overlay`). That takes
tables that name nothing twice: `Setting.Distinct`.
-/

namespace AwkEdit

namespace Setting

variable {v w : Setting} {below : Option Setting} {base entries : SettingTable} {p q : List String} {name : String}

/-! ## Values under paths -/

/-- Whether a value is a table. -/
def isTable : Setting → Bool
  | table _ => true
  | _ => false

theorem eq_table_of_isTable (h : v.isTable = true) : ∃ entries, v = table entries := by
  cases v <;> simp_all [isTable]

theorem at?_nil (v : Setting) : v.at? [] = some v := by
  cases v <;> rfl

theorem at?_cons_of_not_isTable (h : v.isTable = false) (name : String) (p : List String) : v.at? (name :: p) = none := by
  cases v with
  | table entries => cases h
  | _ => rfl

/-- What is under the paths of a table is the table itself and what is under the paths of its values. -/
theorem forall_at?_table {P : List String → Setting → Prop} (hself : P [] (table entries))
    (hbelow : ∀ e ∈ entries, ∀ p v, e.2.at? p = some v → P (e.1 :: p) v) : ∀ p v, (table entries).at? p = some v → P p v := by
  intro p v h
  cases p with
  | nil =>
    obtain rfl := Option.some.inj ((at?_nil _).symm.trans h)
    exact hself
  | cons name p =>
    obtain ⟨w, hw, hv⟩ := Option.bind_eq_some_iff.1 h
    obtain ⟨before, after, rfl, -⟩ := List.lookup_eq_some_iff.1 hw
    exact hbelow (name, w) (List.mem_append_right _ List.mem_cons_self) p v hv

theorem forall_at?_of_not_isTable {P : List String → Setting → Prop} (hv : v.isTable = false) (hself : P [] v) :
    ∀ p w, v.at? p = some w → P p w := by
  intro p w h
  cases p with
  | nil =>
    obtain rfl := Option.some.inj ((at?_nil v).symm.trans h)
    exact hself
  | cons name p =>
    rw [at?_cons_of_not_isTable hv] at h
    cases h

/-- There is something under a longer path only if there is a table under the shorter one. -/
theorem exists_table_of_prefix (hpq : q <+: p) (hne : q ≠ p) (h : v.at? p = some w) :
    ∃ entries, v.at? q = some (table entries) := by
  induction q generalizing v p with
  | nil =>
    cases p with
    | nil => exact absurd rfl hne
    | cons name p =>
      rw [at?_nil]
      cases hv : v.isTable with
      | false =>
        rw [at?_cons_of_not_isTable hv] at h
        cases h
      | true =>
        obtain ⟨entries, rfl⟩ := eq_table_of_isTable hv
        exact ⟨entries, rfl⟩
  | cons name q ih =>
    cases p with
    | nil => exact absurd (List.prefix_nil.1 hpq) (List.cons_ne_nil _ _)
    | cons other p =>
      obtain ⟨rfl, hrest⟩ := List.cons_prefix_cons.1 hpq
      have hne : q ≠ p := fun heq => hne (by rw [heq])
      cases hv : v.isTable with
      | false =>
        rw [at?_cons_of_not_isTable hv] at h
        cases h
      | true =>
        obtain ⟨entries, rfl⟩ := eq_table_of_isTable hv
        obtain ⟨below, hbelow, h⟩ := Option.bind_eq_some_iff.1 h
        obtain ⟨found, hfound⟩ := ih hrest hne h
        exact ⟨found, Option.bind_eq_some_iff.2 ⟨below, hbelow, hfound⟩⟩

/-- Every table that a path leads to has each of its names once. -/
def Distinct (v : Setting) : Prop := ∀ p entries, v.at? p = some (table entries) → (entries.map (·.1)).Nodup

theorem Distinct.nodup (h : (table entries).Distinct) : (entries.map (·.1)).Nodup := h [] entries (at?_nil _)

theorem Distinct.lookup (h : (table entries).Distinct) (hv : entries.lookup name = some v) : v.Distinct := by
  intro p found hfound
  exact h (name :: p) found (Option.bind_eq_some_iff.2 ⟨v, hv, hfound⟩)

theorem Distinct.of_mem {e : String × Setting} (h : (table entries).Distinct) (he : e ∈ entries) : e.2.Distinct := by
  obtain ⟨before, after, rfl⟩ := List.append_of_mem he
  have hnodup := h.nodup
  rw [List.map_append, List.nodup_append] at hnodup
  have hfirst : (before ++ e :: after).lookup e.1 = some e.2 :=
    List.lookup_eq_some_iff.2 ⟨before, after, rfl, fun other hother => bne_iff_ne.2 fun heq =>
      hnodup.2.2 _ (List.mem_map_of_mem hother) _ (List.mem_map_of_mem List.mem_cons_self) heq.symm⟩
  exact h.lookup hfirst

theorem put_of_notMem {α : Type} {value : α} {entries : List (String × α)} (h : name ∉ entries.map (·.1)) :
    put name value entries = entries ++ [(name, value)] := by
  induction entries with
  | nil => rfl
  | cons entry rest ih =>
    obtain ⟨other, old⟩ := entry
    rw [List.map_cons, List.mem_cons, not_or] at h
    rw [put, if_neg (Ne.symm h.1), ih h.2, List.cons_append]

theorem distinct_of_not_isTable (h : v.isTable = false) : v.Distinct := by
  intro p found hfound
  refine forall_at?_of_not_isTable (P := fun _ w => w = table found → (found.map (·.1)).Nodup) h ?_ p _ hfound rfl
  rintro rfl
  cases h

@[simp] theorem distinct_truth (b : Bool) : (truth b).Distinct := distinct_of_not_isTable rfl

@[simp] theorem distinct_integer (i : Int) : (integer i).Distinct := distinct_of_not_isTable rfl

@[simp] theorem distinct_text (s : String) : (text s).Distinct := distinct_of_not_isTable rfl

@[simp] theorem distinct_path (s : String) : (path s).Distinct := distinct_of_not_isTable rfl

@[simp] theorem distinct_list (items : List Setting) : (list items).Distinct := distinct_of_not_isTable rfl

/-- A table has each of its names once all the way down when it does itself and its values do. -/
theorem distinct_table_iff :
    (table entries).Distinct ↔ (entries.map (·.1)).Nodup ∧ ∀ name v, entries.lookup name = some v → v.Distinct := by
  constructor
  · intro h
    exact ⟨h.nodup, fun name v hv => h.lookup hv⟩
  · rintro ⟨hnodup, hbelow⟩ p found hfound
    cases p with
    | nil =>
      obtain rfl := table.inj (Option.some.inj ((at?_nil _).symm.trans hfound))
      exact hnodup
    | cons name p =>
      obtain ⟨v, hv, hfound⟩ := Option.bind_eq_some_iff.1 hfound
      exact hbelow name v hv p found hfound

theorem distinct_of_forall_mem (hnodup : (entries.map (·.1)).Nodup) (h : ∀ e ∈ entries, e.2.Distinct) :
    (table entries).Distinct := by
  refine distinct_table_iff.2 ⟨hnodup, fun name v hv => ?_⟩
  obtain ⟨before, after, rfl, -⟩ := List.lookup_eq_some_iff.1 hv
  exact h (name, v) (List.mem_append_right _ List.mem_cons_self)

theorem distinct_table_nil : (table []).Distinct := distinct_of_forall_mem List.nodup_nil nofun

theorem map_fst_put {α : Type} (name : String) (value : α) (entries : List (String × α)) :
    (put name value entries).map (·.1) =
      if name ∈ entries.map (·.1) then entries.map (·.1) else entries.map (·.1) ++ [name] := by
  induction entries with
  | nil => rfl
  | cons entry rest ih =>
    obtain ⟨other, old⟩ := entry
    rw [put]
    by_cases h : other = name
    · subst h
      simp
    · simp only [if_neg h, List.map_cons, ih, List.mem_cons, Ne.symm h, false_or]
      split <;> rfl

/-- A table stays one that has its names once when a value of that kind is put into it. -/
theorem Distinct.put (h : (table entries).Distinct) (hv : v.Distinct) (name : String) :
    (table (put name v entries)).Distinct := by
  obtain ⟨hnodup, hbelow⟩ := distinct_table_iff.1 h
  refine distinct_table_iff.2 ⟨?_, fun other w hw => ?_⟩
  · rw [map_fst_put]
    split
    next => exact hnodup
    next hnew =>
      refine List.nodup_append.2 ⟨hnodup, List.nodup_singleton _, fun other hother last hlast heq => hnew ?_⟩
      rw [← List.mem_singleton.1 hlast, ← heq]
      exact hother
  · rw [lookup_put] at hw
    split at hw
    next =>
      obtain rfl := Option.some.inj hw
      exact hv
    next => exact hbelow other w hw

/-- A value that is no table stands on the way down a path, before its end. -/
def Blocks (v : Setting) (p : List String) : Prop := ∃ q w, q <+: p ∧ q ≠ p ∧ v.at? q = some w ∧ w.isTable = false

theorem not_blocks_nil : ¬v.Blocks [] := by
  rintro ⟨q, w, hq, hne, -⟩
  exact hne (List.prefix_nil.1 hq)

theorem blocks_cons_iff :
    (table entries).Blocks (name :: p) ↔ ∃ w, entries.lookup name = some w ∧ w.Blocks p := by
  constructor
  · rintro ⟨q, found, hq, hne, hfound, hplain⟩
    cases q with
    | nil =>
      obtain rfl := Option.some.inj ((at?_nil _).symm.trans hfound)
      cases hplain
    | cons other q =>
      obtain ⟨rfl, hrest⟩ := List.cons_prefix_cons.1 hq
      obtain ⟨w, hw, hfound⟩ := Option.bind_eq_some_iff.1 hfound
      exact ⟨w, hw, q, found, hrest, fun heq => hne (by rw [heq]), hfound, hplain⟩
  · rintro ⟨w, hw, q, found, hq, hne, hfound, hplain⟩
    exact ⟨name :: q, found, List.cons_prefix_cons.2 ⟨rfl, hq⟩, fun heq => hne (List.cons.inj heq).2,
      Option.bind_eq_some_iff.2 ⟨w, hw, hfound⟩, hplain⟩

/-! ## Laying a value over another -/

theorem overlay_none (v : Setting) : v.overlay none = v := by
  cases v <;> rfl

theorem overlay_of_not_isTable (h : v.isTable = false) : v.overlay below = v := by
  cases v with
  | table entries => cases h
  | _ => rfl

theorem overlay_table_table : (table entries).overlay (some (table base)) = table (merge base entries) := by rw [overlay]

theorem overlay_table_of_forall_ne (h : ∀ base, below ≠ some (table base)) : (table entries).overlay below = table entries := by
  cases below with
  | none => exact overlay_none _
  | some lower =>
    cases lower with
    | table base => exact absurd rfl (h base)
    | _ => rfl

/-- What is laid over something is a table exactly when what results is one. -/
theorem isTable_overlay : (v.overlay below).isTable = v.isTable := by
  cases hv : v.isTable with
  | false => rw [overlay_of_not_isTable hv, hv]
  | true =>
    obtain ⟨entries, rfl⟩ := eq_table_of_isTable hv
    by_cases h : ∃ base, below = some (table base)
    · obtain ⟨base, rfl⟩ := h
      rw [overlay_table_table]
      rfl
    · rw [overlay_table_of_forall_ne (not_exists.1 h)]
      rfl

/-- Under a name two merged tables hold what the upper one has there, laid over what the lower one has there, or else what the lower
one has. -/
theorem lookup_merge (h : (entries.map (·.1)).Nodup) (base : SettingTable) (name : String) :
    (merge base entries).lookup name =
      match entries.lookup name with
      | some v => some (v.overlay (base.lookup name))
      | none => base.lookup name := by
  induction entries generalizing base with
  | nil => rw [merge, List.lookup_nil]
  | cons entry rest ih =>
    obtain ⟨first, v⟩ := entry
    rw [List.map_cons, List.nodup_cons] at h
    rw [merge, ih h.2]
    by_cases hname : name = first
    · subst hname
      have hrest : rest.lookup name = none := by
        rw [List.lookup_eq_none_iff]
        intro other hother
        exact bne_iff_ne.2 fun heq => h.1 (List.mem_map.2 ⟨other, hother, heq.symm⟩)
      rw [hrest, List.lookup_cons_self, lookup_put, if_pos rfl]
    · rw [List.lookup_cons, beq_false_of_ne hname, lookup_put, if_neg hname]

/-- What is no table is not merged with anything. -/
theorem lookup_merge_of_not_isTable (h : (entries.map (·.1)).Nodup) (base : SettingTable) (hv : entries.lookup name = some v)
    (hplain : v.isTable = false) : (merge base entries).lookup name = some v := by
  rw [lookup_merge h, hv]
  exact congrArg some (overlay_of_not_isTable hplain)

/-- Under a name that the upper table does not have is what the lower one has. -/
theorem lookup_merge_of_none (h : (entries.map (·.1)).Nodup) (base : SettingTable) (hv : entries.lookup name = none) :
    (merge base entries).lookup name = base.lookup name := by rw [lookup_merge h, hv]

/-- One step down: under a name a table laid over something holds what it has there, laid over what was there, or else what was
there. -/
theorem overlay_table (h : (table entries).Distinct) (below : Option Setting) :
    ∃ merged, (table entries).overlay below = table merged ∧ ∀ name, merged.lookup name =
      match entries.lookup name with
      | some v => some (v.overlay (below.bind (at? [name])))
      | none => below.bind (at? [name]) := by
  have hone : ∀ base name, (some (table base)).bind (at? [name]) = base.lookup name := by
    intro base name
    change (base.lookup name).bind (at? []) = base.lookup name
    cases base.lookup name with
    | none => rfl
    | some v => exact at?_nil v
  by_cases hbelow : ∃ base, below = some (table base)
  · obtain ⟨base, rfl⟩ := hbelow
    refine ⟨merge base entries, overlay_table_table, fun name => ?_⟩
    rw [lookup_merge h.nodup, hone]
  · have hnone : ∀ name, below.bind (at? [name]) = none := by
      intro name
      cases below with
      | none => rfl
      | some lower =>
        refine at?_cons_of_not_isTable (Bool.eq_false_iff.2 fun hlower => ?_) name []
        obtain ⟨base, rfl⟩ := eq_table_of_isTable hlower
        exact hbelow ⟨base, rfl⟩
    refine ⟨entries, overlay_table_of_forall_ne (not_exists.1 hbelow), fun name => ?_⟩
    rw [hnone]
    cases entries.lookup name with
    | none => rfl
    | some v => exact congrArg some (overlay_none v).symm

/-- Under a path there is what the upper value holds there, laid over what the lower one holds there. Where the upper one holds
nothing the lower one shows through, unless a value that is no table stands on the way. -/
theorem at?_overlay (hv : v.Distinct) (below : Option Setting) (p : List String) :
    (∀ w, v.at? p = some w → (v.overlay below).at? p = some (w.overlay (below.bind (at? p)))) ∧
      (v.at? p = none → ¬v.Blocks p → (v.overlay below).at? p = below.bind (at? p)) ∧
      (v.Blocks p → (v.overlay below).at? p = none) := by
  induction p generalizing v below with
  | nil =>
    have hbelow : below.bind (at? []) = below := by
      cases below with
      | none => rfl
      | some lower => exact at?_nil lower
    rw [hbelow, at?_nil, at?_nil]
    refine ⟨fun w hw => ?_, nofun, fun hblocks => absurd hblocks not_blocks_nil⟩
    rw [Option.some.inj hw]
  | cons name p ih =>
    cases htable : v.isTable with
    | false =>
      rw [overlay_of_not_isTable htable, at?_cons_of_not_isTable htable]
      refine ⟨nofun, fun _ hblocks => ?_, fun _ => rfl⟩
      exact absurd ⟨[], v, List.nil_prefix, (List.cons_ne_nil _ _).symm, at?_nil v, htable⟩ hblocks
    | true =>
      obtain ⟨entries, rfl⟩ := eq_table_of_isTable htable
      obtain ⟨merged, hmerged, hlookup⟩ := overlay_table hv below
      have hstep : ∀ lower : Option Setting, lower.bind (at? (name :: p)) = (lower.bind (at? [name])).bind (at? p) := by
        intro lower
        cases lower with
        | none => rfl
        | some lower =>
          cases lower with
          | table base =>
            change (base.lookup name).bind (at? p) = ((base.lookup name).bind (at? [])).bind (at? p)
            cases base.lookup name with
            | none => rfl
            | some v => rw [Option.bind_some, Option.bind_some, at?_nil, Option.bind_some]
          | _ => rfl
      rw [hmerged, hstep, blocks_cons_iff]
      change (∀ w, (entries.lookup name).bind (at? p) = some w → (merged.lookup name).bind (at? p) = _) ∧
        ((entries.lookup name).bind (at? p) = none → _ → (merged.lookup name).bind (at? p) = _) ∧
        (_ → (merged.lookup name).bind (at? p) = none)
      rw [hlookup]
      cases hentry : entries.lookup name with
      | none => simp
      | some v =>
        simp only [Option.bind_some, Option.some.injEq, exists_eq_left']
        exact ih (hv.lookup hentry) _

end Setting

end AwkEdit
