/-!
# Results that may be faults

When one step after another succeeds, and when it ends in a fault.
-/

namespace AwkEdit

variable {ε ε' α β : Type} {x : Except ε α}

/-- Two steps succeed when the first one does and the second one does with what the first one leaves. -/
theorem bind_eq_ok_iff {f : α → Except ε β} {b : β} : x >>= f = .ok b ↔ ∃ a, x = .ok a ∧ f a = .ok b := by
  constructor
  · intro h
    cases x with
    | error fault => cases h
    | ok a => exact ⟨a, rfl, h⟩
  · rintro ⟨a, rfl, h⟩
    exact h

/-- Two steps end in a fault when the first one does, or the second one does after the first one succeeded. -/
theorem bind_eq_error_iff {f : α → Except ε β} {fault : ε} :
    x >>= f = .error fault ↔ x = .error fault ∨ ∃ a, x = .ok a ∧ f a = .error fault := by
  constructor
  · intro h
    cases x with
    | error other => exact .inl (congrArg _ (Except.error.inj h))
    | ok a => exact .inr ⟨a, rfl, h⟩
  · rintro (rfl | ⟨a, rfl, h⟩)
    · rfl
    · exact h

/-- What succeeds when its error is translated succeeds. -/
theorem eq_ok_of_mapError {f : ε → ε'} {a : α} (h : x.mapError f = .ok a) : x = .ok a := by
  cases x with
  | error e => cases h
  | ok b => exact congrArg _ (Except.ok.inj h)

end AwkEdit
