import AwkEdit.PathName
import Mathlib.Data.List.Basic

/-!
# Path names in normal form

A normal form is its own normal form: the parts that it keeps are found again between its slashes, and none of them starts with a
slash, so that the slashes at its front are found again too.
-/

namespace AwkEdit.PathName

variable {cs : List Char}

/-- A part that a normal form keeps. -/
structure Kept (part : List Char) : Prop where
  nonempty : part ≠ []
  not_dot : part ≠ ['.']
  notMem_slash : '/' ∉ part

/-! ## Parts -/

theorem parts_ne_nil (cs : List Char) : parts cs ≠ [] := by
  cases cs with
  | nil => exact List.cons_ne_nil _ _
  | cons c rest =>
    rw [parts]
    split
    · exact List.cons_ne_nil _ _
    · split <;> exact List.cons_ne_nil _ _

theorem parts_slash (cs : List Char) : parts ('/' :: cs) = [] :: parts cs := by
  obtain ⟨first, others, h⟩ := List.exists_cons_of_ne_nil (parts_ne_nil cs)
  rw [parts, h]
  rfl

theorem parts_cons {c : Char} {first : List Char} {others : List (List Char)} (hc : c ≠ '/') (h : parts cs = first :: others) :
    parts (c :: cs) = (c :: first) :: others := by
  rw [parts, h]
  exact if_neg hc

theorem notMem_slash_of_mem_parts : ∀ part ∈ parts cs, '/' ∉ part := by
  induction cs with
  | nil => exact List.forall_mem_singleton.2 List.not_mem_nil
  | cons c cs ih =>
    obtain ⟨first, others, h⟩ := List.exists_cons_of_ne_nil (parts_ne_nil cs)
    by_cases hc : c = '/'
    · rw [hc, parts_slash]
      exact List.forall_mem_cons.2 ⟨List.not_mem_nil, ih⟩
    · rw [h, List.forall_mem_cons] at ih
      rw [parts_cons hc h]
      exact List.forall_mem_cons.2 ⟨List.not_mem_cons_of_ne_of_not_mem (Ne.symm hc) ih.1, ih.2⟩

/-- A text without a slash is the first part of what it stands before. -/
theorem parts_append {part first : List Char} {others : List (List Char)} (hpart : '/' ∉ part) (h : parts cs = first :: others) :
    parts (part ++ cs) = (part ++ first) :: others := by
  induction part with
  | nil => exact h
  | cons c part ih =>
    rw [List.mem_cons, not_or] at hpart
    exact parts_cons (Ne.symm hpart.1) (ih hpart.2)

/-- Joined parts are split into the same parts. -/
theorem parts_joinParts {ps : List (List Char)} (hne : ps ≠ []) (h : ∀ part ∈ ps, '/' ∉ part) : parts (joinParts ps) = ps := by
  induction ps with
  | nil => exact absurd rfl hne
  | cons part ps ih =>
    obtain ⟨hpart, hps⟩ := List.forall_mem_cons.1 h
    cases ps with
    | nil =>
      have hsingle : parts (part ++ []) = [part ++ []] := parts_append hpart rfl
      rw [List.append_nil] at hsingle
      rwa [joinParts, List.intercalate_singleton]
    | cons next ps =>
      have hrest : parts ('/' :: joinParts (next :: ps)) = [] :: next :: ps := by
        rw [parts_slash, ih (List.cons_ne_nil _ _) hps]
      have hjoined := parts_append hpart hrest
      rwa [List.append_nil] at hjoined

/-! ## What a normal form keeps -/

theorem kept_of_mem_keptParts : ∀ part ∈ keptParts cs, Kept part := by
  intro part hpart
  obtain ⟨hmem, hkept⟩ := List.mem_filter.1 hpart
  obtain ⟨hne, hdot⟩ := of_decide_eq_true hkept
  exact ⟨hne, hdot, notMem_slash_of_mem_parts part hmem⟩

theorem keptParts_slash (cs : List Char) : keptParts ('/' :: cs) = keptParts cs := by
  rw [keptParts, parts_slash, List.filter_cons_of_neg (by simp), keptParts]

theorem root_cases (cs : List Char) : root cs = [] ∨ root cs = ['/'] ∨ root cs = ['/', '/'] := by
  unfold root
  split <;> simp

theorem keptParts_root_append (cs tail : List Char) : keptParts (root cs ++ tail) = keptParts tail := by
  rcases root_cases cs with hr | hr | hr <;> rw [hr]
  · rfl
  · exact keptParts_slash tail
  · exact (keptParts_slash _).trans (keptParts_slash tail)

theorem keptParts_joinParts {ps : List (List Char)} (h : ∀ part ∈ ps, Kept part) : keptParts (joinParts ps) = ps := by
  by_cases hne : ps = []
  · rw [hne]
    rfl
  · rw [keptParts, parts_joinParts hne fun part hpart => (h part hpart).notMem_slash]
    exact List.filter_eq_self.2 fun part hpart => decide_eq_true ⟨(h part hpart).nonempty, (h part hpart).not_dot⟩

theorem slash_ne_head_joinParts {ps : List (List Char)} (h : ∀ part ∈ ps, Kept part) (rest : List Char) :
    joinParts ps ≠ '/' :: rest := by
  cases ps with
  | nil => exact nofun
  | cons part ps =>
    have hpart := h part List.mem_cons_self
    obtain ⟨c, part, rfl⟩ := List.exists_cons_of_ne_nil hpart.nonempty
    obtain ⟨tail, htail⟩ : ∃ tail, joinParts ((c :: part) :: ps) = c :: tail := by
      cases ps with
      | nil => exact ⟨part, by simp [joinParts]⟩
      | cons next ps => exact ⟨_, rfl⟩
    rw [htail]
    rintro ⟨rfl, -⟩
    exact hpart.notMem_slash List.mem_cons_self

/-- The slashes at the front of a normal form are found again. -/
theorem root_root_append {tail : List Char} (h : ∀ rest, tail ≠ '/' :: rest) (cs : List Char) : root (root cs ++ tail) = root cs := by
  have hnone : root tail = [] := by
    unfold root
    split
    · exact absurd rfl (h _)
    · exact absurd rfl (h _)
    · exact absurd rfl (h _)
    · rfl
  have hone : root ('/' :: tail) = ['/'] := by
    unfold root
    split
    · rfl
    next heq => exact absurd (List.cons.inj heq).2 (h _)
    · rfl
    next hne => exact absurd rfl (hne tail)
  have htwo : root ('/' :: '/' :: tail) = ['/', '/'] := by
    unfold root
    split
    next heq => exact absurd (List.cons.inj (List.cons.inj heq).2).2 (h _)
    · rfl
    next hne heq => exact absurd (List.cons.inj heq).2.symm (hne tail)
    next hne => exact absurd rfl (hne _)
  rcases root_cases cs with hr | hr | hr <;> rw [hr] <;> assumption

theorem normalChars_of_eq_nil (h : root cs ++ joinParts (keptParts cs) = []) : normalChars cs = ['.'] := by rw [normalChars, h]

theorem normalChars_of_ne_nil (h : root cs ++ joinParts (keptParts cs) ≠ []) :
    normalChars cs = root cs ++ joinParts (keptParts cs) := by
  unfold normalChars
  split
  next heq => exact absurd heq h
  · rfl

theorem normalChars_normalChars (cs : List Char) : normalChars (normalChars cs) = normalChars cs := by
  have hkept : ∀ part ∈ keptParts cs, Kept part := kept_of_mem_keptParts
  have hparts : keptParts (root cs ++ joinParts (keptParts cs)) = keptParts cs := by
    rw [keptParts_root_append, keptParts_joinParts hkept]
  have hroot : root (root cs ++ joinParts (keptParts cs)) = root cs := root_root_append (slash_ne_head_joinParts hkept) cs
  by_cases hempty : root cs ++ joinParts (keptParts cs) = []
  · rw [normalChars_of_eq_nil hempty]
    rfl
  · rw [normalChars_of_ne_nil hempty, normalChars_of_ne_nil (by rwa [hroot, hparts]), hroot, hparts]

/-- A normal form is its own normal form. -/
theorem normal_normal (name : String) : normal (normal name) = normal name := by
  rw [normal, normal, String.toList_ofList, normalChars_normalChars]

end AwkEdit.PathName
