import Mathlib.Logic.Function.Iterate
import Mathlib.Order.Basic

/-!
# Support — Repetition

Steps that are repeated, each on what the one before has left.  They come to an end if a measure
decreases as long as they have not (`exists_iterate_of_decreasing`).
-/

namespace Support

variable {σ : Type*} {step : σ → σ} {s : σ}

/-- What a step keeps, all steps keep. -/
theorem iterate_invariant (P : σ → Prop) (hs : P s) (hstep : ∀ t, P t → P (step t)) (n : ℕ) :
    P (step^[n] s) := by
  induction n with
  | zero => exact hs
  | succ n ih =>
    rw [Function.iterate_succ_apply']
    exact hstep _ ih

theorem exists_iterate_of_decreasing (done : σ → Prop) (measure : σ → ℕ)
    (hstep : ∀ n, ¬ done (step^[n] s) → measure (step^[n + 1] s) < measure (step^[n] s)) :
    ∃ n, done (step^[n] s) := by
  by_contra hnone
  have hnot (n : ℕ) : ¬ done (step^[n] s) := fun h => hnone ⟨n, h⟩
  have hle (n : ℕ) : measure (step^[n] s) + n ≤ measure s := by
    induction n with
    | zero => exact Nat.le_refl _
    | succ n ih =>
      have hlt := hstep n (hnot n)
      omega
  have hlast := hle (measure s + 1)
  omega

/-- A step that changes nothing is the end. -/
theorem iterate_of_fixed {n : ℕ} (h : step (step^[n] s) = step^[n] s) {m : ℕ} (hm : n ≤ m) :
    step^[m] s = step^[n] s := by
  obtain ⟨k, rfl⟩ := Nat.exists_eq_add_of_le hm
  induction k with
  | zero => rfl
  | succ k ih => rw [Nat.add_succ, Function.iterate_succ_apply', ih (Nat.le_add_right n k), h]

end Support
