import Mathlib.Tactic.GCongr
import ReconcileFlow.Support.Decimal

/-!
# Support — Floats

Floating-point numbers that are finite.  A number is told by its `repr`, which is a decimal, and
numbers are compared as these are; how an operation rounds is a parameter (`Floats`), of which only
is known that it respects order and keeps what is from 0 to 1 there.
-/

namespace Support

/-- The operations on floating-point numbers. -/
structure Floats where
  add : Decimal → Decimal → Decimal
  sub : Decimal → Decimal → Decimal
  mul : Decimal → Decimal → Decimal
  pow : Decimal → ℕ → Decimal
  /-- The quotient by a whole number. -/
  div : Decimal → ℕ → Decimal
  /-- `round(value, digits)`. -/
  round : Decimal → ℕ → Decimal
  add_mono : ∀ {a b c d : Decimal}, a.toRat ≤ c.toRat → b.toRat ≤ d.toRat →
    (add a b).toRat ≤ (add c d).toRat
  add_nonneg : ∀ {a b : Decimal}, 0 ≤ a.toRat → 0 ≤ b.toRat → 0 ≤ (add a b).toRat
  mul_range : ∀ {a b : Decimal}, 0 ≤ a.toRat → a.toRat ≤ 1 → 0 ≤ b.toRat →
    0 ≤ (mul a b).toRat ∧ (mul a b).toRat ≤ b.toRat
  round_range : ∀ {a : Decimal} (digits : ℕ), 0 ≤ a.toRat → a.toRat ≤ 1 →
    0 ≤ (round a digits).toRat ∧ (round a digits).toRat ≤ 1

namespace Floats

open Decimal

/-- Numbers of few digits: their sums and products are exact, and a quotient has eighteen digits. -/
def ofFewDigits : Floats where
  add := Context.exact.add
  sub := Context.exact.sub
  mul := mulExact
  pow a n := (List.replicate n a).foldl mulExact (ofInt 1)
  div a n := ⟨a.sign, a.coefficient * 10 ^ 18 / n, a.exponent - 18⟩
  round a digits := a.atScale digits
  add_mono h h' := by
    rw [toRat_add, toRat_add]
    exact add_le_add h h'
  add_nonneg h h' := by
    rw [toRat_add]
    exact Left.add_nonneg h h'
  mul_range h h' hb := by
    rw [toRat_mulExact]
    exact ⟨mul_nonneg h hb, mul_le_of_le_one_left hb h'⟩
  round_range digits h h' := by
    have hkept := fraction_numeric digits ((le_iff _ _).mpr (toRat_zero ▸ h))
      ((le_iff _ _).mpr (toRat_one ▸ h'))
    rw [le_iff, le_iff, toRat_zero, toRat_one] at hkept
    exact hkept.2.2

end Floats

end Support
