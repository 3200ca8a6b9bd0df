import ReconcileFlow.Support.Decimal

/-!
# Support — DecimalRange

Decimal arithmetic within a range of exponents.  A result is rounded to the precision, half to
even, but never below the smallest exponent of the range; where its first digit stands above the
largest exponent, the operation overflows and has no result.  Zeros never overflow.

Within the range an operation is that of the context without one (`finish_of_fits`), and amounts of
ordinary size stay within it when they are added up and compared (`sum_total`, `sub_total`).
-/

namespace Support

/-- The precision of results and the range of the exponent of their first digit. -/
structure Decimal.Limits where
  precision : Nat
  emin : Int
  emax : Int
deriving DecidableEq, Repr

namespace Decimal

/-- The exponent of the first digit. -/
def adjusted (d : Decimal) : Int := (Nat.toDigits 10 d.coefficient).length + d.exponent - 1

/-- The number at the exponent `low`, rounded half to even, if its own exponent is smaller. -/
def roundAt (low : Int) (d : Decimal) : Decimal :=
  if low ≤ d.exponent then d
  else
    let unit := 10 ^ (low - d.exponent).toNat
    let quotient := d.coefficient / unit
    let rest := d.coefficient % unit
    let up := decide (unit < 2 * rest) || (decide (2 * rest = unit) && decide (quotient % 2 = 1))
    { d with coefficient := if up then quotient + 1 else quotient, exponent := low }

namespace Limits

variable (limits : Limits)

/-- The smallest exponent of a result. -/
def etiny : Int := limits.emin - limits.precision + 1

/-- The result that an exact result gives, or nothing if it overflows. -/
def finish (d : Decimal) : Option Decimal :=
  if d.coefficient = 0 then
    some { d with exponent := min (max d.exponent limits.etiny) limits.emax }
  else if limits.emax < d.adjusted then none
  else
    let rounded := d.roundAt (max (d.adjusted - limits.precision + 1) limits.etiny)
    -- rounding `99…9` up gives one digit too many
    let result :=
      if rounded.coefficient = 10 ^ limits.precision then
        { rounded with coefficient := rounded.coefficient / 10, exponent := rounded.exponent + 1 }
      else rounded
    if limits.emax < result.adjusted then none else some result

/-- `a + b`. -/
def add (a b : Decimal) : Option Decimal := limits.finish (a.addExact b)

/-- `a - b`. -/
def sub (a b : Decimal) : Option Decimal := limits.add a b.copyNegate

/-- `a * b`. -/
def mul (a b : Decimal) : Option Decimal := limits.finish (a.mulExact b)

/-- `abs(d)`. -/
def abs (d : Decimal) : Option Decimal := limits.finish d.copyAbs

/-- `sum(ds, Decimal("0"))`. -/
def sum (ds : List Decimal) : Option Decimal := ds.foldlM limits.add (ofInt 0)

end Limits

/-- The limits of the default context. -/
def Limits.default : Limits := ⟨28, -999999, 999999⟩

example : Limits.default.mul ⟨false, 1, 999999⟩ ⟨false, 1, 999999⟩ = none ∧
    Limits.default.sub ⟨false, 1050, -2⟩ ⟨false, 5, -1⟩ = some ⟨false, 1000, -2⟩ := by decide

/-! ### Within the range -/

/-- The number of digits of the coefficient. -/
def digits (d : Decimal) : Nat := (Nat.toDigits 10 d.coefficient).length

/-- Half to even, without its last `k` digits. -/
def halfEven (k n : Nat) : Nat :=
  if decide (10 ^ k < 2 * (n % 10 ^ k)) ||
      (decide (2 * (n % 10 ^ k) = 10 ^ k) && decide (n / 10 ^ k % 2 = 1)) then n / 10 ^ k + 1
  else n / 10 ^ k

/-- Rounding does not pass a multiple of the unit. -/
theorem halfEven_le {k n m : Nat} (h : n ≤ m * 10 ^ k) : halfEven k n ≤ m := by
  have hpos : 0 < 10 ^ k := by positivity
  have hquotient : n / 10 ^ k ≤ m := Nat.div_le_of_le_mul (by rwa [Nat.mul_comm])
  unfold halfEven
  split
  · next hup =>
    have hrest : n % 10 ^ k ≠ 0 := by
      intro hzero
      simp [hzero] at hup
      omega
    refine Nat.lt_of_le_of_ne hquotient fun hsame => hrest ?_
    have hsplit := Nat.div_add_mod n (10 ^ k)
    rw [hsame, Nat.mul_comm] at hsplit
    omega
  · exact hquotient

theorem roundHalfEven_eq (p : Nat) (d : Decimal) :
    d.roundHalfEven p =
      if d.digits ≤ p then d
      else if halfEven (d.digits - p) d.coefficient = 10 ^ p then { d with
        coefficient := halfEven (d.digits - p) d.coefficient / 10
        exponent := d.exponent + (d.digits - p : Nat) + 1 }
      else { d with
        coefficient := halfEven (d.digits - p) d.coefficient
        exponent := d.exponent + (d.digits - p : Nat) } := rfl

theorem roundAt_eq {d : Decimal} (k : Nat) (hk : k ≠ 0) :
    d.roundAt (d.exponent + k) =
      { d with coefficient := halfEven k d.coefficient, exponent := d.exponent + k } := by
  unfold roundAt
  rw [if_neg (by omega)]
  simp only [add_sub_cancel_left, Int.toNat_natCast]
  rfl

theorem coefficient_lt (d : Decimal) : d.coefficient < 10 ^ d.digits :=
  (Nat.length_toDigits_le_iff (by decide) Nat.length_toDigits_pos).mp le_rfl

theorem digits_le {d : Decimal} {k : Nat} (hk : 0 < k) (h : d.coefficient < 10 ^ k) :
    d.digits ≤ k :=
  (Nat.length_toDigits_le_iff (by decide) hk).mpr h

theorem digits_pos (d : Decimal) : 0 < d.digits := Nat.length_toDigits_pos

theorem adjusted_eq (d : Decimal) : d.adjusted = d.digits + d.exponent - 1 := rfl

/-- The context that rounds to the same precision, whatever the exponents. -/
def Limits.context (limits : Limits) : Context := ⟨some limits.precision⟩

/-- A number at an exponent of the range, its first digit below the largest. -/
structure Limits.Fits (limits : Limits) (d : Decimal) : Prop where
  low : limits.etiny ≤ d.exponent
  high : d.adjusted < limits.emax

theorem adjusted_roundHalfEven {p : Nat} (hpos : 0 < p) (d : Decimal) :
    (d.roundHalfEven p).adjusted ≤ d.adjusted + 1 := by
  rw [roundHalfEven_eq]
  split
  · omega
  · next hmany =>
    have hround : halfEven (d.digits - p) d.coefficient ≤ 10 ^ p := by
      refine halfEven_le ?_
      rw [← pow_add, show p + (d.digits - p) = d.digits by omega]
      exact d.coefficient_lt.le
    split
    · next hfull =>
      have hdigits := digits_le (d := { d with
        coefficient := halfEven (d.digits - p) d.coefficient / 10
        exponent := d.exponent + (d.digits - p : Nat) + 1 }) hpos (by
          show halfEven (d.digits - p) d.coefficient / 10 < 10 ^ p
          rw [hfull]
          exact Nat.div_lt_self (by positivity) (by decide))
      rw [adjusted_eq, adjusted_eq]
      dsimp only at hdigits ⊢
      omega
    · next hfull =>
      have hdigits := digits_le (d := { d with
        coefficient := halfEven (d.digits - p) d.coefficient
        exponent := d.exponent + (d.digits - p : Nat) }) hpos
        (Nat.lt_of_le_of_ne hround hfull)
      rw [adjusted_eq, adjusted_eq]
      dsimp only at hdigits ⊢
      omega

/-- **Within the range nothing overflows**: the operation is that of the context. -/
theorem Limits.finish_of_fits {limits : Limits} {d : Decimal} (hpos : 0 < limits.precision)
    (h : limits.Fits d) : limits.finish d = some (limits.context.fix d) := by
  have hadjusted := d.adjusted_eq
  have hdigits := d.digits_pos
  have hhigh := h.high
  have hlow := h.low
  unfold Limits.finish
  by_cases hzero : d.coefficient = 0
  · have hone : d.digits = 1 := by rw [digits, hzero]; rfl
    rw [if_pos hzero, max_eq_left hlow, min_eq_left (by omega)]
    show some d = some (d.roundHalfEven limits.precision)
    rw [roundHalfEven_eq, if_pos (by omega)]
  · rw [if_neg hzero, if_neg (by omega)]
    have hrounded := adjusted_roundHalfEven hpos d
    have hsame : (let rounded := d.roundAt (max (d.adjusted - limits.precision + 1) limits.etiny)
        if rounded.coefficient = 10 ^ limits.precision then { rounded with
          coefficient := rounded.coefficient / 10, exponent := rounded.exponent + 1 }
        else rounded) = d.roundHalfEven limits.precision := by
      by_cases hfew : d.digits ≤ limits.precision
      · have hcoefficient : d.coefficient ≠ 10 ^ limits.precision :=
          (d.coefficient_lt.trans_le (Nat.pow_le_pow_right (by decide) hfew)).ne
        have hkept : d.roundAt (max (d.adjusted - limits.precision + 1) limits.etiny) = d :=
          if_pos (by omega)
        rw [roundHalfEven_eq, if_pos hfew, hkept, if_neg hcoefficient]
      · have hexponent : max (d.adjusted - limits.precision + 1) limits.etiny =
            d.exponent + (d.digits - limits.precision : Nat) := by omega
        rw [roundHalfEven_eq, if_neg hfew, hexponent, roundAt_eq _ (by omega)]
    dsimp only at hsame ⊢
    rw [hsame, if_neg (by omega)]
    rfl

/-! ### Sizes -/

theorem abs_toRat (d : Decimal) : |d.toRat| = d.coefficient * (10 : ℚ) ^ d.exponent := by
  have hsigned : |(d.signed : ℚ)| = d.coefficient := by
    cases hs : d.sign <;> simp [signed, hs]
  rw [toRat, abs_mul, hsigned, abs_of_pos (by positivity)]

/-- The first digit is not zero. -/
theorem pow_adjusted_le {d : Decimal} (h : d.coefficient ≠ 0) :
    (10 : ℚ) ^ d.adjusted ≤ |d.toRat| := by
  have hdigits := d.digits_pos
  have hlow : 10 ^ (d.digits - 1) ≤ d.coefficient := by
    by_contra hless
    have hlt := Nat.lt_of_not_le hless
    by_cases hone : d.digits - 1 = 0
    · rw [hone] at hlt
      omega
    · have := digits_le (Nat.pos_of_ne_zero hone) hlt
      omega
  have hsplit : d.adjusted = ((d.digits - 1 : Nat) : Int) + d.exponent := by
    rw [adjusted_eq]
    omega
  rw [abs_toRat, hsplit, zpow_add₀ (by norm_num), zpow_natCast]
  gcongr
  exact_mod_cast hlow

theorem adjusted_lt {d : Decimal} {m : Int} (hexponent : d.exponent < m)
    (h : |d.toRat| < (10 : ℚ) ^ m) : d.adjusted < m := by
  by_cases hzero : d.coefficient = 0
  · have hone : d.digits = 1 := by rw [digits, hzero]; rfl
    rw [adjusted_eq, hone]
    omega
  · exact (zpow_lt_zpow_iff_right₀ (by norm_num)).mp ((pow_adjusted_le hzero).trans_lt h)

theorem abs_roundHalfEven_le {p : Nat} {d : Decimal} (h : p < d.digits) :
    |(d.roundHalfEven p).toRat| ≤
      halfEven (d.digits - p) d.coefficient * (10 : ℚ) ^ (d.exponent + (d.digits - p : Nat)) := by
  rw [roundHalfEven_eq, if_neg (by omega)]
  split
  · rw [abs_toRat]
    dsimp only
    rw [zpow_add_one₀ (by norm_num), mul_comm _ (10 : ℚ), ← mul_assoc]
    gcongr
    exact_mod_cast Nat.div_mul_le_self _ _
  · rw [abs_toRat]

/-- Rounding does not pass a number that has no more digits than the precision. -/
theorem abs_fix_le {limits : Limits} (hpos : 0 < limits.precision) {d : Decimal} {c : Nat} {e : Int}
    (hc : c < 10 ^ limits.precision) (h : |d.toRat| ≤ c * (10 : ℚ) ^ e) :
    |(limits.context.fix d).toRat| ≤ c * (10 : ℚ) ^ e := by
  show |(d.roundHalfEven limits.precision).toRat| ≤ _
  by_cases hfew : d.digits ≤ limits.precision
  · rw [roundHalfEven_eq, if_pos hfew]
    exact h
  · have hzero : d.coefficient ≠ 0 := by
      intro hzero
      have hone : d.digits = 1 := by rw [digits, hzero]; rfl
      omega
    have hunit : d.exponent + (d.digits - limits.precision : Nat) ≤ e := by
      by_contra hless
      have hpow : (c : ℚ) * 10 ^ e < 10 ^ d.adjusted := by
        calc (c : ℚ) * 10 ^ e < 10 ^ limits.precision * 10 ^ e := by
              gcongr
              exact_mod_cast hc
          _ = 10 ^ ((limits.precision : Int) + e) := by
              rw [zpow_add₀ (by norm_num), zpow_natCast]
          _ ≤ 10 ^ d.adjusted := by
              refine zpow_le_zpow_right₀ (by norm_num) ?_
              rw [adjusted_eq]
              omega
      exact absurd (h.trans_lt hpow) (not_lt.mpr (pow_adjusted_le hzero))
    obtain ⟨m, hm⟩ := Int.eq_ofNat_of_zero_le (sub_nonneg.mpr hunit)
    have hscale : (10 : ℚ) ^ e =
        10 ^ m * (10 : ℚ) ^ (d.exponent + (d.digits - limits.precision : Nat)) := by
      rw [← zpow_natCast, ← zpow_add₀ (by norm_num)]
      congr 1
      omega
    have hround : halfEven (d.digits - limits.precision) d.coefficient ≤ c * 10 ^ m := by
      refine halfEven_le ?_
      rw [abs_toRat, hscale, zpow_add₀ (by norm_num), zpow_natCast] at h
      have hdrop : (d.coefficient : ℚ) ≤ c * 10 ^ m * 10 ^ (d.digits - limits.precision) := by
        refine le_of_mul_le_mul_right ?_ (zpow_pos (by norm_num : (0 : ℚ) < 10) d.exponent)
        linarith
      exact_mod_cast hdrop
    refine (abs_roundHalfEven_le (by omega)).trans ?_
    rw [hscale, ← mul_assoc]
    gcongr
    exact_mod_cast hround

/-! ### Amounts of ordinary size -/

namespace Limits

variable (limits : Limits) (bound : Nat)

/-- A single amount. -/
structure Moderate (d : Decimal) : Prop where
  low : limits.etiny ≤ d.exponent
  high : d.exponent ≤ bound
  abs_le : |d.toRat| ≤ 10 ^ bound

/-- What `c` amounts add up to. -/
structure Total (c : Nat) (d : Decimal) : Prop where
  low : limits.etiny ≤ d.exponent
  high : d.exponent ≤ bound + limits.precision
  abs_le : |d.toRat| ≤ c * 10 ^ bound

variable {limits bound} {c : Nat} {d : Decimal}

theorem Moderate.total (h : limits.Moderate bound d) : limits.Total bound 1 d :=
  ⟨h.low, h.high.trans (by omega), by simpa using h.abs_le⟩

theorem exponent_le_fix (d : Decimal) : d.exponent ≤ (limits.context.fix d).exponent := by
  show _ ≤ (d.roundHalfEven limits.precision).exponent
  rw [roundHalfEven_eq]
  split
  · exact le_rfl
  · split <;> dsimp only <;> omega

theorem exponent_le_adjusted (d : Decimal) : d.exponent ≤ d.adjusted := by
  have := d.digits_pos
  rw [adjusted_eq]
  omega

theorem abs_lt_of_le (hc : c < 10 ^ limits.precision) (h : |d.toRat| ≤ c * 10 ^ bound) :
    |d.toRat| < (10 : ℚ) ^ ((bound : Int) + limits.precision) := by
  refine h.trans_lt ?_
  rw [add_comm, zpow_add₀ (by norm_num), zpow_natCast, zpow_natCast]
  gcongr
  exact_mod_cast hc

section

variable (hpos : 0 < limits.precision) (hemax : (bound : Int) + limits.precision + 1 < limits.emax)
include hpos hemax

/-- An exact result of that size stays in the range when it is rounded. -/
theorem finish_total (hlow : limits.etiny ≤ d.exponent)
    (hhigh : d.exponent < bound + limits.precision) (hc : c < 10 ^ limits.precision)
    (habs : |d.toRat| ≤ c * 10 ^ bound) :
    limits.finish d = some (limits.context.fix d) ∧
      limits.Total bound c (limits.context.fix d) := by
  have hadjusted := adjusted_lt hhigh (abs_lt_of_le hc habs)
  have hrounded : (limits.context.fix d).adjusted ≤ d.adjusted + 1 :=
    adjusted_roundHalfEven hpos d
  refine ⟨finish_of_fits hpos ⟨hlow, by omega⟩, hlow.trans (exponent_le_fix d), ?_, ?_⟩
  · have := exponent_le_adjusted (limits.context.fix d)
    omega
  · have h := abs_fix_le hpos (e := bound) hc (by rwa [zpow_natCast])
    rwa [zpow_natCast] at h

theorem add_total {a : Decimal} (ha : limits.Total bound c a) (hd : limits.Moderate bound d)
    (hc : c + 1 < 10 ^ limits.precision) :
    limits.add a d = some (limits.context.add a d) ∧
      limits.Total bound (c + 1) (limits.context.add a d) := by
  refine finish_total hpos hemax (le_min ha.low hd.low)
    ((min_le_right _ _).trans_lt (by have := hd.high; omega)) hc ?_
  rw [toRat_addExact, Nat.cast_add_one, add_one_mul]
  exact (abs_add_le _ _).trans (add_le_add ha.abs_le hd.abs_le)

theorem foldlM_add {ds : List Decimal} (hds : ∀ d ∈ ds, limits.Moderate bound d) {a : Decimal}
    (ha : limits.Total bound c a) (hc : c + ds.length < 10 ^ limits.precision) :
    ds.foldlM limits.add a = some (ds.foldl limits.context.add a) ∧
      limits.Total bound (c + ds.length) (ds.foldl limits.context.add a) := by
  induction ds generalizing a c with
  | nil => exact ⟨rfl, ha⟩
  | cons d ds ih =>
    rw [List.length_cons] at hc ⊢
    obtain ⟨hadd, htotal⟩ :=
      add_total hpos hemax ha (hds d List.mem_cons_self) (by omega)
    obtain ⟨hrest, hall⟩ := ih (fun d hm => hds d (List.mem_cons_of_mem _ hm)) htotal (by omega)
    rw [List.foldlM_cons, hadd]
    exact ⟨hrest, by rwa [show c + (ds.length + 1) = c + 1 + ds.length by omega]⟩

/-- **Sums of fewer amounts than the precision can count do not overflow.** -/
theorem sum_total (hetiny : limits.etiny ≤ 0) {ds : List Decimal}
    (hds : ∀ d ∈ ds, limits.Moderate bound d) (hlength : ds.length < 10 ^ limits.precision) :
    limits.sum ds = some (limits.context.sum ds) ∧
      limits.Total bound ds.length (limits.context.sum ds) := by
  have hzero : limits.Total bound 0 (ofInt 0) :=
    ⟨hetiny, by show (0 : Int) ≤ _; omega, by simp⟩
  have h := foldlM_add hpos hemax hds hzero (by omega)
  rwa [Nat.zero_add] at h

/-- Nor do the differences of such sums. -/
theorem sub_total {a b : Decimal} {c' : Nat} (ha : limits.Total bound c a)
    (hb : limits.Total bound c' b) (hc : c < 10 ^ limits.precision)
    (hc' : c' < 10 ^ limits.precision) :
    limits.sub a b = some (limits.context.sub a b) ∧
      limits.abs (limits.context.sub a b) = some (limits.context.abs (limits.context.sub a b)) := by
  have hlow : limits.etiny ≤ (a.addExact b.copyNegate).exponent := le_min ha.low hb.low
  have hhigh : (a.addExact b.copyNegate).exponent < bound + limits.precision + 1 :=
    (min_le_left _ _).trans_lt (by have := ha.high; omega)
  have habs : |(a.addExact b.copyNegate).toRat| <
      (10 : ℚ) ^ ((bound : Int) + limits.precision + 1) := by
    calc |(a.addExact b.copyNegate).toRat| ≤ |a.toRat| + |b.toRat| := by
          rw [toRat_addExact, toRat_copyNegate, ← sub_eq_add_neg]
          exact abs_sub _ _
      _ < 10 ^ ((bound : Int) + limits.precision) + 10 ^ ((bound : Int) + limits.precision) :=
          add_lt_add (abs_lt_of_le hc ha.abs_le) (abs_lt_of_le hc' hb.abs_le)
      _ ≤ 10 ^ ((bound : Int) + limits.precision + 1) := by
          rw [zpow_add_one₀ (by norm_num)]
          have : (0 : ℚ) < 10 ^ ((bound : Int) + limits.precision) := by positivity
          linarith
  have hadjusted := adjusted_lt hhigh habs
  have hrounded : (limits.context.sub a b).adjusted ≤ _ := adjusted_roundHalfEven hpos _
  refine ⟨finish_of_fits hpos ⟨hlow, by omega⟩, finish_of_fits hpos ⟨?_, ?_⟩⟩
  · exact hlow.trans (exponent_le_fix _)
  · show (limits.context.sub a b).adjusted < limits.emax
    omega

end

end Limits

end Decimal

end Support
