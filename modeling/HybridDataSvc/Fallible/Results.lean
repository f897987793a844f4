namespace Fallible

universe u v

/-!
# Results of steps that may fail

One step after another succeeds if both do, and fails as the first one that fails.
-/

variable {Error : Type u} {First Second : Type v} {first : Except Error First}
  {next : First -> Except Error Second}

/-- Both steps succeed. -/
theorem bind_eq_ok_iff (result : Second) :
    (first >>= next) = .ok result ↔ exists value, first = .ok value ∧ next value = .ok result := by
  cases first with
  | error raised => simp [bind, Except.bind]
  | ok value => simp [bind, Except.bind]

/-- The first step fails, or it succeeds and the second one fails. -/
theorem bind_eq_error_iff (raised : Error) :
    (first >>= next) = .error raised ↔
      first = .error raised ∨ exists value, first = .ok value ∧ next value = .error raised := by
  cases first with
  | error raised => simp [bind, Except.bind]
  | ok value => simp [bind, Except.bind]

end Fallible
