import Mathlib.Data.List.Basic
import ScanWatch.Text.Digits

namespace ScanWatch.Text

variable {value : Nat} {c : Char}

theorem isDigit_of_mem_toDigits (member : c ∈ Nat.toDigits 10 value) : c.isDigit = true :=
  Nat.isDigit_of_mem_toDigits (by decide) (by decide) member

theorem not_mem_toDigits (other : c.isDigit = false) : c ∉ Nat.toDigits 10 value := by
  intro member
  rw [isDigit_of_mem_toDigits member] at other
  cases other

theorem head?_toDigits (positive : 0 < value) : (Nat.toDigits 10 value).head? ≠ some '0' := by
  induction value using Nat.strongRecOn with
  | ind value ih =>
    by_cases small : value < 10
    · rw [Nat.toDigits_of_lt_base small, List.head?_cons, Ne, Option.some.injEq,
        Nat.digitChar_eq_zero]
      exact Nat.ne_of_gt positive
    · rw [Nat.toDigits_of_base_le (by decide) (Nat.le_of_not_lt small),
        List.head?_append_of_ne_nil _ Nat.toDigits_ne_nil]
      exact ih (value / 10) (by omega) (by omega)

private theorem digit?_digitChar : ∀ digit < 10, digit? 10 (Nat.digitChar digit) = some digit := by
  decide

/-- The digits of a number spell it. -/
theorem ofDigits?_toDigits (value : Nat) : ofDigits? 10 (Nat.toDigits 10 value) = some value := by
  induction value using Nat.strongRecOn with
  | ind value ih =>
    by_cases small : value < 10
    · rw [Nat.toDigits_of_lt_base small]
      simp [ofDigits?, digit?_digitChar value small]
    · have last := digit?_digitChar (value % 10) (Nat.mod_lt value (by decide))
      have before := ih (value / 10) (by omega)
      rw [ofDigits?] at before ⊢
      rw [Nat.toDigits_of_base_le (by decide) (Nat.le_of_not_lt small), List.foldlM_append, before]
      simp [last, Nat.div_add_mod]

end ScanWatch.Text
