/-!
Steps that can fail, one after the other: what came of all of them together says what came of each.
-/

namespace Stubwright

variable {ε α β : Type} {first : Except ε α} {next : α → Except ε β} {result : β} {error : ε}

@[grind =]
theorem bind_ok_iff : first >>= next = .ok result ↔
    ∃ value, first = .ok value ∧ next value = .ok result := by
  cases first with
  | error cause => simp [Bind.bind, Except.bind]
  | ok value => simp [Bind.bind, Except.bind]

theorem bind_error_iff : first >>= next = .error error ↔
    first = .error error ∨ ∃ value, first = .ok value ∧ next value = .error error := by
  cases first with
  | error cause => simp [Bind.bind, Except.bind]
  | ok value => simp [Bind.bind, Except.bind]

theorem exists_bind_ok_iff : (∃ result, first >>= next = .ok result) ↔
    ∃ value, first = .ok value ∧ ∃ result, next value = .ok result := by
  cases first with
  | error cause => simp [Bind.bind, Except.bind]
  | ok value => simp [Bind.bind, Except.bind]

end Stubwright
