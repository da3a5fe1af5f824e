/-
# Outcomes

When a computation that may fail has succeeded, so have its parts.
-/

namespace SiteWatch

variable {ε ζ α β : Type}

theorem bind_eq_ok {x : Except ε α} {f : α → Except ε β} {b : β} :
    x >>= f = .ok b ↔ ∃ a, x = .ok a ∧ f a = .ok b := by
  cases x <;> simp [bind, Except.bind]

/-- A check that is passed has no further effect. -/
theorem check_eq_ok {c : Prop} [Decidable c] {fault : ε} {x : Except ε β} {b : β} :
    (if c then (do throw fault; x) else x) = .ok b ↔ ¬ c ∧ x = .ok b := by
  by_cases hc : c
  · simp [hc, throw, throwThe, MonadExceptOf.throw, bind, Except.bind]
  · simp [hc]

theorem map_eq_ok {x : Except ε α} {f : α → β} {b : β} :
    x.map f = .ok b ↔ ∃ a, x = .ok a ∧ f a = b := by
  cases x <;> simp [Except.map]

theorem toOption_eq_some {x : Except ε α} {a : α} : x.toOption = some a ↔ x = .ok a := by
  cases x <;> simp [Except.toOption]

theorem mapError_eq_ok {x : Except ε α} {f : ε → ζ} {a : α} :
    x.mapError f = .ok a ↔ x = .ok a := by
  cases x with
  | error fault => constructor <;> rintro ⟨⟩
  | ok value =>
      show (Except.ok value : Except ζ α) = .ok a ↔ _
      rw [Except.ok.injEq, Except.ok.injEq]

end SiteWatch
