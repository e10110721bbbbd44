import AwkEdit.Proofs.Toml.Tables

/-!
# Documents that are refused for an integer

Everything but an integer in base ten is refused as malformed. So a document that is refused for an integer has one of more digits
than are read (`Toml.longest_lt_of_parse`): the fault comes from a value, by induction on the depth, and from there through the
statements to the document.
-/

namespace AwkEdit.Toml

variable {cs : List Char} {digits : Nat}

theorem sound_ne_oversized {α : Type} (x : Option α) (digits : Nat) : sound x ≠ .error (.oversized digits) := by
  cases x <;> rintro ⟨⟩

/-- What is read and then used is no cause of such a refusal itself. -/
theorem exists_of_sound_bind {α β : Type} {x : Option α} {f : α → Except Fault β}
    (h : (sound x >>= f) = .error (.oversized digits)) : ∃ a, f a = .error (.oversized digits) := by
  obtain h | ⟨a, -, h⟩ := bind_eq_error_iff.1 h
  · exact absurd h (sound_ne_oversized x digits)
  · exact ⟨a, h⟩

/-! ## Values -/

theorem longest_lt_of_number (h : number cs = .error (.oversized digits)) : IntegerText.longest < digits := by
  unfold number at h
  split at h
  · exact absurd h (sound_ne_oversized _ _)
  · exact absurd h (sound_ne_oversized _ _)
  · exact absurd h (sound_ne_oversized _ _)
  · split at h
    · cases h
    · cases h
    · obtain ⟨⟨whole, rest⟩, h⟩ := exists_of_sound_bind h
      simp only at h
      split at h
      · cases h
      · split at h
        next hlong =>
          rw [← Fault.oversized.inj (Except.error.inj h)]
          exact hlong
        next => cases h

theorem longest_lt_of_scalar (h : scalar cs = .error (.oversized digits)) : IntegerText.longest < digits := by
  unfold scalar at h
  split at h
  · cases h
  · cases h
  · cases hmoment : moment cs with
    | none =>
      rw [hmoment] at h
      exact longest_lt_of_number h
    | some found =>
      rw [hmoment] at h
      exact absurd h (sound_ne_oversized _ _)

/-- Whether a reader refuses a text for an integer only if that is too long. -/
def RefusesLong {α : Type} (reader : List Char → Except Fault α) : Prop :=
  ∀ cs digits, reader cs = .error (.oversized digits) → IntegerText.longest < digits

section Within

variable {fuel : Nat}

theorem refusesLong_valueWithin (hitems : RefusesLong (itemsWithin fuel)) (hpairs : ∀ entries, RefusesLong (pairsWithin fuel entries)) :
    RefusesLong (valueWithin (fuel + 1)) := by
  intro cs digits h
  unfold valueWithin at h
  cases cs with
  | nil => cases h
  | cons c cs =>
    simp only at h
    split at h
    · exact absurd h (sound_ne_oversized _ _)
    split at h
    · exact absurd h (sound_ne_oversized _ _)
    split at h
    · obtain ⟨filled, h⟩ := exists_of_sound_bind h
      obtain h | ⟨found, -, h⟩ := bind_eq_error_iff.1 h
      · exact hitems _ _ h
      · cases h
    split at h
    · split at h
      · cases h
      · obtain h | ⟨found, -, h⟩ := bind_eq_error_iff.1 h
        · exact hpairs _ _ _ h
        · cases h
    · exact longest_lt_of_scalar h

theorem refusesLong_itemsWithin (hvalue : RefusesLong (valueWithin fuel)) (hitems : RefusesLong (itemsWithin fuel)) :
    RefusesLong (itemsWithin (fuel + 1)) := by
  intro cs digits h
  unfold itemsWithin at h
  split at h
  · cases h
  · obtain h | ⟨⟨item, rest⟩, -, h⟩ := bind_eq_error_iff.1 h
    · exact hvalue _ _ h
    obtain ⟨filled, h⟩ := exists_of_sound_bind h
    split at h
    · cases h
    · obtain ⟨after, h⟩ := exists_of_sound_bind h
      obtain h | ⟨found, -, h⟩ := bind_eq_error_iff.1 h
      · exact hitems _ _ h
      · cases h
    · cases h

theorem refusesLong_pairsWithin (hvalue : RefusesLong (valueWithin fuel)) (hpairs : ∀ entries, RefusesLong (pairsWithin fuel entries))
    (entries : List (String × Item)) : RefusesLong (pairsWithin (fuel + 1) entries) := by
  intro cs digits h
  rw [pairsWithin] at h
  obtain ⟨⟨path, keyed⟩, h⟩ := exists_of_sound_bind h
  obtain ⟨marked, h⟩ := exists_of_sound_bind h
  obtain h | ⟨⟨value, valued⟩, -, h⟩ := bind_eq_error_iff.1 h
  · exact hvalue _ _ h
  obtain ⟨assigned, h⟩ := exists_of_sound_bind h
  split at h
  · cases h
  · exact hpairs _ _ _ h
  · cases h

/-- A value, the items of an array and the entries of an inline table are refused for an integer only if it is too long. -/
theorem refusesLong_within (fuel : Nat) :
    RefusesLong (valueWithin fuel) ∧ RefusesLong (itemsWithin fuel) ∧ ∀ entries, RefusesLong (pairsWithin fuel entries) := by
  induction fuel with
  | zero =>
    refine ⟨fun cs digits h => ?_, fun cs digits h => ?_, fun entries cs digits h => ?_⟩
    · rw [valueWithin] at h
      cases h
    · rw [itemsWithin] at h
      cases h
    · rw [pairsWithin] at h
      cases h
  | succ fuel ih =>
    obtain ⟨hvalue, hitems, hpairs⟩ := ih
    exact ⟨refusesLong_valueWithin hitems hpairs, refusesLong_itemsWithin hvalue hitems, refusesLong_pairsWithin hvalue hpairs⟩

end Within

/-! ## Statements and documents -/

theorem longest_lt_of_statement (h : statement cs = .error (.oversized digits)) : IntegerText.longest < digits := by
  unfold statement at h
  split at h
  · obtain ⟨key, h⟩ := exists_of_sound_bind h
    obtain ⟨marked, h⟩ := exists_of_sound_bind h
    cases h
  · obtain ⟨key, h⟩ := exists_of_sound_bind h
    obtain ⟨marked, h⟩ := exists_of_sound_bind h
    cases h
  · obtain ⟨key, h⟩ := exists_of_sound_bind h
    obtain ⟨marked, h⟩ := exists_of_sound_bind h
    obtain h | ⟨found, -, h⟩ := bind_eq_error_iff.1 h
    · exact (refusesLong_within _).1 _ _ h
    · cases h

theorem longest_lt_of_statementsWithin (fuel : Nat) (cs : List Char) (h : (statementsWithin fuel cs).2 = some (.oversized digits)) :
    IntegerText.longest < digits := by
  induction fuel generalizing cs with
  | zero => cases h
  | succ fuel ih =>
    rw [statementsWithin] at h
    split at h
    · cases h
    · exact ih _ h
    · split at h
      · cases h
      · exact ih _ h
    · split at h
      next hread =>
        obtain rfl := Option.some.inj h
        exact longest_lt_of_statement hread
      next =>
        split at h
        · cases h
        · exact ih _ h

/-- A document that is refused for an integer has one with too many digits. -/
theorem longest_lt_of_parse {text : String} (h : parse text = .error (.oversized digits)) : IntegerText.longest < digits := by
  rw [parse_eq] at h
  obtain ⟨table, h⟩ := exists_of_sound_bind h
  split at h
  next => cases h
  next hfault =>
    obtain rfl := Except.error.inj h
    exact longest_lt_of_statementsWithin _ _ hfault

end AwkEdit.Toml
