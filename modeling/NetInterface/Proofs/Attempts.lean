import Mathlib.Data.List.Forall2

/-!
Attempts that may fail, taken apart.

A sequence of attempts gives what its last one gives, or fails as the first one that does.
-/

namespace NetInterface

variable {ε δ α β : Type}

/-- A sequence of two attempts succeeds if the second one does with what the first one gave. -/
theorem bind_eq_ok_iff {attempt : Except ε α} {next : α → Except ε β} {result : β} :
    attempt >>= next = .ok result ↔ ∃ value, attempt = .ok value ∧ next value = .ok result := by
  cases attempt <;> simp [bind, Except.bind]

/-- A sequence of two attempts fails as the first one does, or as the second one does after it. -/
theorem bind_eq_error_iff {attempt : Except ε α} {next : α → Except ε β} {error : ε} :
    attempt >>= next = .error error ↔
      attempt = .error error ∨ ∃ value, attempt = .ok value ∧ next value = .error error := by
  cases attempt <;> simp [bind, Except.bind]

theorem map_eq_ok_iff {attempt : Except ε α} {change : α → β} {result : β} :
    change <$> attempt = .ok result ↔ ∃ value, attempt = .ok value ∧ change value = result := by
  cases attempt <;> simp [Functor.map, Except.map]

theorem toOption_eq_some_iff {attempt : Except ε α} {result : α} :
    attempt.toOption = some result ↔ attempt = .ok result := by
  cases attempt <;> simp [Except.toOption]

theorem mapError_eq_ok_iff {attempt : Except ε α} {change : ε → δ} {result : α} :
    attempt.mapError change = .ok result ↔ attempt = .ok result := by
  cases attempt <;> simp [Except.mapError]

theorem mapError_eq_error_iff {attempt : Except ε α} {change : ε → δ} {error : δ} :
    attempt.mapError change = .error error ↔
      ∃ reason, attempt = .error reason ∧ change reason = error := by
  cases attempt <;> simp [Except.mapError]

/-- Items are read as results if each item is read as the result in its place. -/
theorem mapM_eq_ok_iff {read : α → Except ε β} {items : List α} {results : List β} :
    items.mapM read = .ok results ↔
      List.Forall₂ (fun item result => read item = .ok result) items results := by
  induction items generalizing results with
  | nil => cases results <;> simp [pure, Except.pure]
  | cons item items inductionHypothesis =>
      simp only [List.mapM_cons, bind_eq_ok_iff, inductionHypothesis, pure, Except.pure,
        Except.ok.injEq]
      constructor
      · rintro ⟨result, first, others, rest, rfl⟩
        exact .cons first rest
      · rintro (_ | ⟨first, rest⟩)
        exact ⟨_, first, _, rest, rfl⟩

end NetInterface
