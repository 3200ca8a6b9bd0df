import Mathlib.Algebra.Order.Ring.Int

/-!
# Support — Lockout

A gate that closes for some time after so many failures, and then starts to count anew.  Over a
span of time only so many tries find it open (`tries_le`).
-/

namespace Support

structure Lockout where
  failures : ℕ := 0
  closedUntil : Option ℤ := none

namespace Lockout

/-- At the very moment that it names it is open again. -/
def closed (s : Lockout) (now : ℤ) : Bool := s.closedUntil.any fun t => decide (now < t)

variable (threshold : ℕ) (duration : ℤ)

/-- One more failure; those from before the gate was last closed do not count. -/
def fail (s : Lockout) (now : ℤ) : Lockout :=
  let failures := (if s.closedUntil.isSome then 0 else s.failures) + 1
  { failures, closedUntil := if threshold ≤ failures then some (now + duration) else none }

/-- A try, which fails if it finds the gate open. -/
def attempt (s : Lockout) (now : ℤ) : Lockout :=
  if s.closed now then s else s.fail threshold duration now

/-- How many of the tries find the gate open. -/
def tries : Lockout → List ℤ → ℕ
  | _, [] => 0
  | s, now :: times =>
    (if s.closed now then 0 else 1) + tries (s.attempt threshold duration now) times

/-- How many more failures it takes to close the gate, once it is open. -/
def remaining (s : Lockout) : ℕ :=
  if s.closedUntil.isSome then threshold else max 1 (threshold - s.failures)

/-- The first moment from `t` on at which the gate is open. -/
def opening (s : Lockout) (t : ℤ) : ℤ := max t (s.closedUntil.getD t)

/-- What may be tried until `last`, when the gate opens at `start`. -/
def allowance (s : Lockout) (start last : ℤ) : ℤ :=
  if start ≤ last then s.remaining threshold + threshold * ((last - start) / duration) else 0

variable {threshold duration} {s : Lockout} {t now last : ℤ}

theorem remaining_le (hthreshold : 0 < threshold) : s.remaining threshold ≤ threshold := by
  unfold remaining
  split <;> omega

theorem opening_of_closed (h : s.closed now = true) (hnow : t ≤ now) :
    s.opening now = s.opening t := by
  obtain ⟨u, hu, hclosed⟩ := (Option.any_eq_true _ _).mp h
  have hclosed : now < u := of_decide_eq_true hclosed
  unfold opening
  rw [hu, Option.getD_some, Option.getD_some]
  omega

theorem opening_le (h : s.closed now = false) (hnow : t ≤ now) : s.opening t ≤ now := by
  unfold opening
  cases hu : s.closedUntil with
  | none => simpa using hnow
  | some u =>
    have hopen : ¬ now < u := by simpa [closed, hu] using h
    rw [Option.getD_some]
    omega

theorem allowance_nonneg (hduration : 0 < duration) (s : Lockout) (start last : ℤ) :
    0 ≤ s.allowance threshold duration start last := by
  unfold allowance
  split
  · have hnonneg : 0 ≤ (last - start) / duration := Int.ediv_nonneg (by omega) (by omega)
    exact add_nonneg (by omega) (mul_nonneg (by omega) hnonneg)
  · exact le_refl 0

/-- A failure uses up one try of those that were allowed. -/
theorem allowance_fail (hthreshold : 0 < threshold) (hduration : 0 < duration)
    (h : s.closed now = false) (hnow : t ≤ now) (hlast : now ≤ last) :
    1 + (s.fail threshold duration now).allowance threshold duration
        ((s.fail threshold duration now).opening now) last ≤
      s.allowance threshold duration (s.opening t) last := by
  have hopening := opening_le h hnow
  have hspan : (last - now) / duration ≤ (last - s.opening t) / duration :=
    Int.ediv_le_ediv hduration (by omega)
  have hcharge : (threshold : ℤ) * ((last - now) / duration) ≤
      threshold * ((last - s.opening t) / duration) :=
    mul_le_mul_of_nonneg_left hspan (by omega)
  have hbefore : s.allowance threshold duration (s.opening t) last =
      s.remaining threshold + threshold * ((last - s.opening t) / duration) := if_pos (by omega)
  rw [hbefore]
  by_cases hcloses : threshold ≤ (if s.closedUntil.isSome then 0 else s.failures) + 1
  · -- the gate closes: the tries that it then allows are those of one duration less
    have hfail : s.fail threshold duration now =
        ⟨(if s.closedUntil.isSome then 0 else s.failures) + 1, some (now + duration)⟩ := by
      simp [fail, hcloses]
    have hone : 1 ≤ s.remaining threshold := by
      unfold remaining
      split <;> omega
    have hafter : (s.fail threshold duration now).allowance threshold duration
        ((s.fail threshold duration now).opening now) last ≤
          threshold * ((last - now) / duration) := by
      have hstart : (s.fail threshold duration now).opening now = now + duration := by
        simp only [hfail, opening, Option.getD_some]
        omega
      have hnonneg : 0 ≤ (last - now) / duration := Int.ediv_nonneg (by omega) (by omega)
      rw [hstart]
      unfold allowance
      split
      · have hless : (last - (now + duration)) / duration = (last - now) / duration - 1 := by
          rw [← sub_sub, Int.sub_ediv_of_dvd _ (dvd_refl duration), Int.ediv_self (by omega)]
        have hremaining : (s.fail threshold duration now).remaining threshold = threshold := by
          simp [hfail, remaining]
        rw [hless, hremaining, mul_sub, mul_one]
        omega
      · exact mul_nonneg (by omega) hnonneg
    omega
  · have hfail : s.fail threshold duration now =
        ⟨(if s.closedUntil.isSome then 0 else s.failures) + 1, none⟩ := by
      simp [fail, hcloses]
    have hstart : (s.fail threshold duration now).opening now = now := by simp [hfail, opening]
    have hone : (s.fail threshold duration now).remaining threshold + 1 =
        s.remaining threshold := by
      rw [hfail]
      unfold remaining
      simp only [Option.isSome_none, Bool.false_eq_true, if_false]
      split at hcloses <;> simp_all <;> omega
    rw [hstart]
    unfold allowance
    rw [if_pos hlast]
    omega

theorem tries_le_allowance (hthreshold : 0 < threshold) (hduration : 0 < duration)
    (s : Lockout) (times : List ℤ) (t : ℤ) (hordered : times.Pairwise (· ≤ ·))
    (hspan : ∀ now ∈ times, t ≤ now ∧ now ≤ last) :
    (s.tries threshold duration times : ℤ) ≤
      s.allowance threshold duration (s.opening t) last := by
  induction times generalizing s t with
  | nil => exact allowance_nonneg hduration s _ last
  | cons now times ih =>
    obtain ⟨hfirst, hordered⟩ := List.pairwise_cons.mp hordered
    obtain ⟨hnow, hlast⟩ := hspan now List.mem_cons_self
    have hrest : ∀ later ∈ times, now ≤ later ∧ later ≤ last := fun later hm =>
      ⟨hfirst later hm, (hspan later (List.mem_cons_of_mem _ hm)).2⟩
    unfold tries attempt
    cases hclosed : s.closed now with
    | true =>
      have hih := ih s now hordered hrest
      rw [opening_of_closed hclosed hnow] at hih
      simpa using hih
    | false =>
      have hih := ih (s.fail threshold duration now) now hordered hrest
      have hcharged := allowance_fail hthreshold hduration hclosed hnow hlast
      simp only [Bool.false_eq_true, if_false, Nat.cast_add, Nat.cast_one]
      omega

/-- Every `duration` allows `threshold` tries. -/
theorem tries_le (hthreshold : 0 < threshold) (hduration : 0 < duration) {first : ℤ}
    (hfirst : first ≤ last) (s : Lockout) {times : List ℤ} (hordered : times.Pairwise (· ≤ ·))
    (hspan : ∀ now ∈ times, first ≤ now ∧ now ≤ last) :
    (s.tries threshold duration times : ℤ) ≤ threshold * (1 + (last - first) / duration) := by
  refine (tries_le_allowance hthreshold hduration s times first hordered hspan).trans ?_
  have hremaining : s.remaining threshold ≤ threshold := remaining_le hthreshold
  have hopening : first ≤ s.opening first := le_max_left _ _
  have hnonneg : 0 ≤ (last - first) / duration := Int.ediv_nonneg (by omega) (by omega)
  unfold allowance
  split
  · have hspan : (last - s.opening first) / duration ≤ (last - first) / duration :=
      Int.ediv_le_ediv hduration (by omega)
    have hcharge : (threshold : ℤ) * ((last - s.opening first) / duration) ≤
        threshold * ((last - first) / duration) :=
      mul_le_mul_of_nonneg_left hspan (by omega)
    rw [mul_add, mul_one]
    omega
  · exact mul_nonneg (by omega) (by omega)

end Lockout

end Support
