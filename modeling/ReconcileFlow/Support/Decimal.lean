import Mathlib.Algebra.Order.Field.Basic
import Mathlib.Algebra.Order.Field.Power
import Mathlib.Data.Rat.Cast.Order
import Mathlib.Tactic.Linarith
import Mathlib.Tactic.Positivity
import Mathlib.Tactic.Ring

/-!
# Support — Decimal

Decimal floating-point numbers `(-1)^sign · coefficient · 10^exponent` and their arithmetic.
Two representations of one number differ (`1.0` and `1.00`), and printing tells them apart, so
equality of numbers is `numEq` and not `=`.

An operation computes the exact result at the smaller exponent of its operands and then rounds
it to the precision of a `Context`, half to even.  `Context.exact` rounds nothing; there the
operations are those of `ℚ` under `toRat` (`toRat_add`, `toRat_sub`, `toRat_abs`, `toRat_sum`),
and the comparisons are those of `ℚ` in every context (`numEq_iff`, `le_iff`, `lt_iff`).

Exponents are unbounded: there is no overflow and no subnormal range.  `Support.DecimalRange` bounds
them, and says for which numbers that makes no difference.
-/

namespace Support

/-- A finite decimal number, with the sign of a zero. -/
structure Decimal where
  sign : Bool
  coefficient : Nat
  exponent : Int
deriving DecidableEq, Repr

namespace Decimal

/-- The coefficient with its sign. -/
def signed (d : Decimal) : Int := if d.sign then -(d.coefficient : Int) else d.coefficient

/-- The number `d` denotes. -/
def toRat (d : Decimal) : ℚ := d.signed * (10 : ℚ) ^ d.exponent

/-- The integer `n` at exponent `0`. -/
def ofInt (n : Int) : Decimal := ⟨decide (n < 0), n.natAbs, 0⟩

/-- The signed coefficient of `d` at the exponent `e`, for `e ≤ d.exponent`. -/
def scaledTo (d : Decimal) (e : Int) : Int := d.signed * 10 ^ (d.exponent - e).toNat

theorem scaledTo_mul_zpow {d : Decimal} {e : Int} (h : e ≤ d.exponent) :
    (d.scaledTo e : ℚ) * (10 : ℚ) ^ e = d.toRat := by
  have hpow : ((10 : ℚ) ^ (d.exponent - e).toNat) * (10 : ℚ) ^ e = (10 : ℚ) ^ d.exponent := by
    rw [← zpow_natCast, ← zpow_add₀ (by norm_num)]
    congr 1
    omega
  simp only [scaledTo, toRat, Int.cast_mul, Int.cast_pow, Int.cast_ofNat]
  rw [mul_assoc, hpow]

/-! ### Comparison -/

/-- `a == b`: the two numbers are equal. -/
def numEq (a b : Decimal) : Bool :=
  let e := min a.exponent b.exponent
  a.scaledTo e == b.scaledTo e

/-- `a <= b`. -/
def le (a b : Decimal) : Bool :=
  let e := min a.exponent b.exponent
  decide (a.scaledTo e ≤ b.scaledTo e)

/-- `a < b`. -/
def lt (a b : Decimal) : Bool :=
  let e := min a.exponent b.exponent
  decide (a.scaledTo e < b.scaledTo e)

/-- Comparing two numbers is comparing their coefficients at a common exponent. -/
theorem scaledTo_le_scaledTo {a b : Decimal} {e : Int} (ha : e ≤ a.exponent)
    (hb : e ≤ b.exponent) : a.scaledTo e ≤ b.scaledTo e ↔ a.toRat ≤ b.toRat := by
  have hpos : (0 : ℚ) < (10 : ℚ) ^ e := by positivity
  rw [← scaledTo_mul_zpow ha, ← scaledTo_mul_zpow hb, mul_le_mul_iff_of_pos_right hpos]
  exact Int.cast_le.symm

theorem le_iff (a b : Decimal) : a.le b = true ↔ a.toRat ≤ b.toRat := by
  simp only [le, decide_eq_true_eq]
  exact scaledTo_le_scaledTo (min_le_left _ _) (min_le_right _ _)

theorem lt_iff (a b : Decimal) : a.lt b = true ↔ a.toRat < b.toRat := by
  simp only [lt, decide_eq_true_eq]
  rw [← not_le, ← not_le]
  exact not_congr (scaledTo_le_scaledTo (min_le_right _ _) (min_le_left _ _))

theorem numEq_iff (a b : Decimal) : a.numEq b = true ↔ a.toRat = b.toRat := by
  simp only [numEq, beq_iff_eq]
  rw [le_antisymm_iff, le_antisymm_iff]
  exact and_congr (scaledTo_le_scaledTo (min_le_left _ _) (min_le_right _ _))
    (scaledTo_le_scaledTo (min_le_right _ _) (min_le_left _ _))

@[simp] theorem numEq_refl (a : Decimal) : a.numEq a = true := (numEq_iff a a).mpr rfl

theorem numEq_comm (a b : Decimal) : a.numEq b = b.numEq a := by
  rw [Bool.eq_iff_iff, numEq_iff, numEq_iff]
  exact eq_comm

theorem numEq_trans {a b c : Decimal} (hab : a.numEq b = true) (hbc : b.numEq c = true) :
    a.numEq c = true := by
  rw [numEq_iff] at hab hbc ⊢
  exact hab.trans hbc

/-! ### Exact operations -/

/-- The decimal with the signed coefficient `c` at the exponent `e`; `negZero` is the sign of
a zero. -/
def ofSigned (c e : Int) (negZero : Bool) : Decimal :=
  ⟨if c = 0 then negZero else decide (c < 0), c.natAbs, e⟩

theorem toRat_ofSigned (c e : Int) (z : Bool) : (ofSigned c e z).toRat = c * (10 : ℚ) ^ e := by
  have hs : (ofSigned c e z).signed = c := by
    by_cases h : c = 0
    · subst h; simp [ofSigned, signed]
    · rcases lt_or_gt_of_ne h with hc | hc
      · simp only [ofSigned, signed, if_neg h, hc, decide_true, if_true]; omega
      · simp only [ofSigned, signed, if_neg h, not_lt.mpr hc.le, decide_false, Bool.false_eq_true,
          if_false]
        omega
  rw [toRat, hs]
  rfl

/-- The exact sum; a sum that is zero is negative only when both operands are. -/
def addExact (a b : Decimal) : Decimal :=
  let e := min a.exponent b.exponent
  ofSigned (a.scaledTo e + b.scaledTo e) e (a.sign && b.sign)

theorem toRat_addExact (a b : Decimal) : (a.addExact b).toRat = a.toRat + b.toRat := by
  simp only [addExact]
  rw [toRat_ofSigned, Int.cast_add, add_mul, scaledTo_mul_zpow (min_le_left _ _),
    scaledTo_mul_zpow (min_le_right _ _)]

/-- The exact product. -/
def mulExact (a b : Decimal) : Decimal :=
  ⟨a.sign != b.sign, a.coefficient * b.coefficient, a.exponent + b.exponent⟩

theorem toRat_mulExact (a b : Decimal) : (a.mulExact b).toRat = a.toRat * b.toRat := by
  have hpow : (10 : ℚ) ^ (a.exponent + b.exponent) = 10 ^ a.exponent * 10 ^ b.exponent :=
    zpow_add₀ (by norm_num) _ _
  have hsigned : (a.mulExact b).signed = a.signed * b.signed := by
    cases ha : a.sign <;> cases hb : b.sign <;> simp [mulExact, signed, ha, hb]
  rw [toRat, hsigned]
  show ((a.signed * b.signed : ℤ) : ℚ) * 10 ^ (a.exponent + b.exponent) = _
  rw [hpow, toRat, toRat, Int.cast_mul]
  ring

/-- The number with its sign flipped. -/
def copyNegate (d : Decimal) : Decimal := { d with sign := !d.sign }

/-- The number with its sign dropped. -/
def copyAbs (d : Decimal) : Decimal := { d with sign := false }

theorem toRat_copyNegate (d : Decimal) : d.copyNegate.toRat = -d.toRat := by
  cases hs : d.sign <;> simp [copyNegate, toRat, signed, hs]

theorem toRat_copyAbs (d : Decimal) : d.copyAbs.toRat = |d.toRat| := by
  have hpos : (0 : ℚ) < (10 : ℚ) ^ d.exponent := by positivity
  rw [toRat, toRat, abs_mul, abs_of_pos hpos]
  cases hs : d.sign <;> simp [copyAbs, signed, hs]

/-! ### Contexts -/

/-- An arithmetic context: the number of significant digits a result keeps, or `none` for all
of them. -/
structure Context where
  precision : Option Nat
deriving DecidableEq, Repr

/-- Every digit is kept. -/
def Context.exact : Context := ⟨none⟩

/-- The coefficient of `d` cut to its first `p` digits, rounded half to even. -/
def roundHalfEven (p : Nat) (d : Decimal) : Decimal :=
  let digits := (Nat.toDigits 10 d.coefficient).length
  if digits ≤ p then d
  else
    let k := digits - p
    let q := d.coefficient / 10 ^ k
    let r := d.coefficient % 10 ^ k
    let up := decide (10 ^ k < 2 * r) || (decide (2 * r = 10 ^ k) && decide (q % 2 = 1))
    let q' := if up then q + 1 else q
    -- `99…9` rounds up to one digit too many
    if q' = 10 ^ p then { d with coefficient := q' / 10, exponent := d.exponent + k + 1 }
    else { d with coefficient := q', exponent := d.exponent + k }

namespace Context

variable (ctx : Context)

/-- `d` rounded to the context's precision. -/
def fix (d : Decimal) : Decimal :=
  match ctx.precision with
  | none => d
  | some p => d.roundHalfEven p

/-- `a + b`. -/
def add (a b : Decimal) : Decimal := ctx.fix (a.addExact b)

/-- `a - b`. -/
def sub (a b : Decimal) : Decimal := ctx.add a b.copyNegate

/-- `abs(d)`. -/
def abs (d : Decimal) : Decimal := ctx.fix d.copyAbs

/-- `sum(ds, Decimal("0"))`. -/
def sum (ds : List Decimal) : Decimal := ds.foldl ctx.add (ofInt 0)

theorem sign_fix (d : Decimal) : (ctx.fix d).sign = d.sign := by
  unfold fix
  cases ctx.precision with
  | none => rfl
  | some p => simp only [roundHalfEven]; split_ifs <;> rfl

/-- A number without a sign is not negative, whatever the rounding. -/
theorem abs_not_lt_zero (d : Decimal) : (ctx.abs d).lt (ofInt 0) = false := by
  have hs : (ctx.abs d).sign = false := (sign_fix ctx _).trans rfl
  have h0 : (0 : ℚ) ≤ (ctx.abs d).toRat := by
    simp only [toRat, signed, hs, Bool.false_eq_true, if_false]
    positivity
  rw [← Bool.not_eq_true, lt_iff]
  simpa [toRat, ofInt, signed] using h0

end Context

/-! ### The exact context is `ℚ` -/

@[simp] theorem fix_exact (d : Decimal) : Context.exact.fix d = d := rfl

theorem toRat_add (a b : Decimal) : (Context.exact.add a b).toRat = a.toRat + b.toRat :=
  toRat_addExact a b

theorem toRat_sub (a b : Decimal) : (Context.exact.sub a b).toRat = a.toRat - b.toRat := by
  rw [Context.sub, toRat_add, toRat_copyNegate, sub_eq_add_neg]

theorem toRat_abs (d : Decimal) : (Context.exact.abs d).toRat = |d.toRat| := toRat_copyAbs d

@[simp] theorem toRat_zero : (ofInt 0).toRat = 0 := by simp [toRat, ofInt, signed]

@[simp] theorem toRat_one : (ofInt 1).toRat = 1 := by simp [toRat, ofInt, signed]

theorem toRat_foldl_add (ds : List Decimal) : ∀ a : Decimal,
    (ds.foldl Context.exact.add a).toRat = a.toRat + (ds.map toRat).sum := by
  induction ds with
  | nil => intro a; simp
  | cons d ds ih =>
      intro a
      rw [List.foldl_cons, ih, toRat_add, List.map_cons, List.sum_cons, add_assoc]

theorem toRat_sum (ds : List Decimal) : (Context.exact.sum ds).toRat = (ds.map toRat).sum := by
  rw [Context.sum, toRat_foldl_add, toRat_zero, zero_add]

/-! ### Quotients -/

/-- A coefficient without its last zeros, as long as there are at most `n` of them. -/
def dropZeros : Nat → Nat → Int → Nat × Int
  | 0, coefficient, exponent => (coefficient, exponent)
  | n + 1, coefficient, exponent =>
    if coefficient % 10 = 0 then dropZeros n (coefficient / 10) (exponent + 1)
    else (coefficient, exponent)

/-- `a / b` to `p` digits, for a `b` other than zero. -/
def div (p : Nat) (a b : Decimal) : Decimal :=
  let sign := a.sign != b.sign
  let ideal := a.exponent - b.exponent
  if a.coefficient = 0 then ⟨sign, 0, ideal⟩
  else
    let digits (d : Decimal) : Int := (Nat.toDigits 10 d.coefficient).length
    let shift := digits b - digits a + p + 1
    let dividend := a.coefficient * 10 ^ shift.toNat
    let divisor := b.coefficient * 10 ^ (-shift).toNat
    let quotient := dividend / divisor
    if dividend % divisor = 0 then
      let (coefficient, exponent) := dropZeros shift.toNat quotient (ideal - shift)
      roundHalfEven p ⟨sign, coefficient, exponent⟩
    else
      -- the digit after the last one that is kept says that there are more
      roundHalfEven p ⟨sign, if quotient % 5 = 0 then quotient + 1 else quotient, ideal - shift⟩

example : div 28 ⟨false, 25, 0⟩ ⟨false, 100, 0⟩ = ⟨false, 25, -2⟩ ∧
    div 3 ⟨false, 2, 0⟩ ⟨false, 3, 0⟩ = ⟨false, 667, -3⟩ := by decide

/-! ### Columns of a fixed scale -/

/-- The nearest number with `scale` digits after the point, a half away from zero. -/
def atScale (scale : Nat) (d : Decimal) : Decimal :=
  let coefficient :=
    if -(scale : Int) ≤ d.exponent then d.coefficient * 10 ^ (d.exponent + scale).toNat
    else
      let unit := 10 ^ (-(scale : Int) - d.exponent).toNat
      (2 * d.coefficient + unit) / (2 * unit)
  ⟨d.sign && decide (coefficient ≠ 0), coefficient, -scale⟩

/-- What a column `NUMERIC(precision, scale)` makes of the number, if it has the digits. -/
def numeric (precision scale : Nat) (d : Decimal) : Option Decimal :=
  let stored := d.atScale scale
  if stored.coefficient < 10 ^ precision then some stored else none

theorem exponent_atScale (scale : Nat) (d : Decimal) : (d.atScale scale).exponent = -scale := rfl

/-- A number of this exponent is as many units. -/
theorem toRat_mul_pow {d : Decimal} {scale : Nat} (h : d.exponent = -scale) :
    d.toRat * 10 ^ scale = d.signed := by
  rw [toRat, h, zpow_neg, zpow_natCast, mul_assoc, inv_mul_cancel₀ (by positivity), mul_one]

theorem signed_atScale (scale : Nat) (d : Decimal) : (d.atScale scale).signed =
    if d.sign then -((d.atScale scale).coefficient : Int) else (d.atScale scale).coefficient := by
  by_cases hzero : (d.atScale scale).coefficient = 0
  · simp [signed, hzero]
  · have hsign : (d.atScale scale).sign = d.sign := by
      show (d.sign && decide ((d.atScale scale).coefficient ≠ 0)) = d.sign
      rw [decide_eq_true hzero, Bool.and_true]
    rw [signed, hsign]

/-- **A column of fixed scale keeps the numbers that it has digits for**, and no other. -/
theorem toRat_atScale_iff (scale : Nat) (d : Decimal) :
    (d.atScale scale).toRat = d.toRat ↔ ∃ n : ℤ, d.toRat * 10 ^ scale = n := by
  have hstored := toRat_mul_pow (exponent_atScale scale d)
  constructor
  · intro h
    exact ⟨_, h ▸ hstored⟩
  · rintro ⟨n, hn⟩
    refine mul_right_cancel₀ (pow_ne_zero scale (by norm_num : (10 : ℚ) ≠ 0)) ?_
    rw [hstored, signed_atScale]
    by_cases hscale : -(scale : Int) ≤ d.exponent
    · -- the digits of the number are all kept
      have hcoefficient : (d.atScale scale).coefficient =
          d.coefficient * 10 ^ (d.exponent + scale).toNat := by simp [atScale, hscale]
      have hscaled := scaledTo_mul_zpow hscale
      rw [← hscaled, zpow_neg, zpow_natCast, mul_assoc, inv_mul_cancel₀ (by positivity), mul_one,
        hcoefficient, scaledTo, signed, sub_neg_eq_add]
      cases d.sign <;> simp
    · -- the digits that are cut off are zeros
      have hk : ∃ k : ℕ, -(scale : Int) - d.exponent = k := ⟨_, (Int.toNat_of_nonneg (by omega)).symm⟩
      obtain ⟨k, hk⟩ := hk
      have hcoefficient : (d.atScale scale).coefficient =
          (2 * d.coefficient + 10 ^ k) / (2 * 10 ^ k) := by simp [atScale, hscale, hk]
      have hpow : (10 : ℚ) ^ d.exponent * 10 ^ scale * 10 ^ k = 1 := by
        rw [← zpow_natCast, ← zpow_natCast, ← zpow_add₀ (by norm_num), ← zpow_add₀ (by norm_num)]
        have : d.exponent + scale + k = 0 := by omega
        rw [this, zpow_zero]
      have hsigned : d.signed = n * 10 ^ k := by
        have : (d.signed : ℚ) = n * 10 ^ k := by
          rw [← hn, toRat, mul_assoc, mul_assoc, ← mul_assoc ((10 : ℚ) ^ d.exponent), hpow, mul_one]
        exact_mod_cast this
      have habs : d.coefficient = n.natAbs * 10 ^ k := by
        have : d.signed.natAbs = d.coefficient := by
          unfold signed
          split <;> simp
        rw [← this, hsigned, Int.natAbs_mul, Int.natAbs_pow]
        rfl
      have hrounded : (d.atScale scale).coefficient = n.natAbs := by
        rw [hcoefficient, habs]
        have hunit : 0 < 10 ^ k := by positivity
        rw [show 2 * (n.natAbs * 10 ^ k) + 10 ^ k = 10 ^ k + n.natAbs * (2 * 10 ^ k) by ring,
          Nat.add_mul_div_right _ _ (by omega), Nat.div_eq_of_lt (by omega), Nat.zero_add]
      rw [hrounded, hn]
      have hsame : d.signed = if d.sign then -(n.natAbs : Int) * 10 ^ k else n.natAbs * 10 ^ k := by
        rw [signed, habs]
        split <;> push_cast <;> ring
      have hunit : (10 : Int) ^ k ≠ 0 := by positivity
      have hn' : n = if d.sign then -(n.natAbs : Int) else n.natAbs := by
        refine mul_right_cancel₀ hunit ?_
        rw [← hsigned, hsame]
        split <;> rfl
      exact_mod_cast hn'.symm

section

variable {d : Decimal}

theorem coefficient_of_sign (hnonneg : 0 ≤ d.toRat) (hsign : d.sign = true) :
    d.coefficient = 0 := by
  have hpow : (0 : ℚ) < 10 ^ d.exponent := by positivity
  have hsigned : (0 : ℚ) ≤ d.signed := nonneg_of_mul_nonneg_left hnonneg hpow
  rw [signed, if_pos hsign] at hsigned
  have : (0 : Int) ≤ -(d.coefficient : Int) := by exact_mod_cast hsigned
  omega

theorem sign_atScale (scale : Nat) (hnonneg : 0 ≤ d.toRat) : (d.atScale scale).sign = false := by
  show (d.sign && decide ((d.atScale scale).coefficient ≠ 0)) = false
  cases hs : d.sign with
  | false => rfl
  | true =>
    have hzero : (d.atScale scale).coefficient = 0 := by
      simp only [atScale, coefficient_of_sign hnonneg hs, Nat.zero_mul, Nat.mul_zero, Nat.zero_add]
      split
      · rfl
      · have hunit : 0 < 10 ^ (-(scale : Int) - d.exponent).toNat := by positivity
        exact Nat.div_eq_of_lt (by omega)
    rw [hzero]
    rfl

theorem signed_atScale_of_nonneg (scale : Nat) (hnonneg : 0 ≤ d.toRat) :
    (d.atScale scale).signed = (d.atScale scale).coefficient := by
  rw [signed, sign_atScale scale hnonneg]
  rfl

/-- A number that is not negative stays so in a column. -/
theorem atScale_nonneg (scale : Nat) (hnonneg : 0 ≤ d.toRat) : 0 ≤ (d.atScale scale).toRat := by
  have hpow : (0 : ℚ) < 10 ^ scale := by positivity
  refine nonneg_of_mul_nonneg_left ?_ hpow
  rw [toRat_mul_pow (exponent_atScale scale d), signed_atScale_of_nonneg scale hnonneg]
  positivity

/-- A number up to 1 has no more units than 1. -/
theorem coefficient_atScale_le (scale : Nat) (hnonneg : 0 ≤ d.toRat) (hle : d.toRat ≤ 1) :
    (d.atScale scale).coefficient ≤ 10 ^ scale := by
  have habs : (d.coefficient : ℚ) * 10 ^ d.exponent ≤ 1 := by
    refine le_of_eq_of_le ?_ hle
    unfold toRat signed
    split
    · next h => simp [coefficient_of_sign hnonneg h]
    · simp
  by_cases hscale : -(scale : Int) ≤ d.exponent
  · obtain ⟨k, hk⟩ : ∃ k : ℕ, d.exponent + scale = k := ⟨_, (Int.toNat_of_nonneg (by omega)).symm⟩
    have hcoefficient : (d.atScale scale).coefficient = d.coefficient * 10 ^ k := by
      simp [atScale, hscale, hk]
    have hunits : (d.coefficient : ℚ) * 10 ^ k ≤ 10 ^ scale := by
      calc (d.coefficient : ℚ) * 10 ^ k
          = d.coefficient * 10 ^ d.exponent * 10 ^ scale := by
            rw [mul_assoc, ← zpow_natCast, ← hk, zpow_add₀ (by norm_num), zpow_natCast]
        _ ≤ 1 * 10 ^ scale := by gcongr
        _ = 10 ^ scale := one_mul _
    rw [hcoefficient]
    exact_mod_cast hunits
  · obtain ⟨k, hk⟩ : ∃ k : ℕ, -(scale : Int) - d.exponent = k :=
      ⟨_, (Int.toNat_of_nonneg (by omega)).symm⟩
    have hcoefficient : (d.atScale scale).coefficient =
        (2 * d.coefficient + 10 ^ k) / (2 * 10 ^ k) := by simp [atScale, hscale, hk]
    have hunit : 0 < 10 ^ k := by positivity
    have hunits : d.coefficient ≤ 10 ^ scale * 10 ^ k := by
      have hunits : (d.coefficient : ℚ) ≤ 10 ^ scale * 10 ^ k := by
        calc (d.coefficient : ℚ)
            = d.coefficient * 10 ^ d.exponent * (10 ^ scale * 10 ^ k) := by
              rw [mul_assoc, ← zpow_natCast, ← zpow_natCast, ← zpow_add₀ (by norm_num),
                ← zpow_add₀ (by norm_num), show d.exponent + ((scale : Int) + k) = 0 by omega,
                zpow_zero, mul_one]
          _ ≤ 1 * (10 ^ scale * 10 ^ k) := by gcongr
          _ = 10 ^ scale * 10 ^ k := one_mul _
      exact_mod_cast hunits
    rw [hcoefficient]
    calc (2 * d.coefficient + 10 ^ k) / (2 * 10 ^ k)
        ≤ (2 * (10 ^ scale * 10 ^ k) + 10 ^ k) / (2 * 10 ^ k) := by gcongr
      _ = 10 ^ scale := by
        rw [show 2 * (10 ^ scale * 10 ^ k) + 10 ^ k = 10 ^ k + 10 ^ scale * (2 * 10 ^ k) by ring,
          Nat.add_mul_div_right _ _ (by omega), Nat.div_eq_of_lt (by omega), Nat.zero_add]

theorem atScale_atScale (scale : Nat) (d : Decimal) :
    (d.atScale scale).atScale scale = d.atScale scale := by
  have hle : -(scale : Int) ≤ (d.atScale scale).exponent := le_refl _
  have hcoefficient : (d.atScale scale).coefficient *
      10 ^ ((d.atScale scale).exponent + scale).toNat = (d.atScale scale).coefficient := by
    rw [exponent_atScale, neg_add_cancel, Int.toNat_zero, pow_zero, mul_one]
  rw [atScale, if_pos hle, hcoefficient]
  simp [atScale]

/-- **A number from 0 to 1 is kept as one**, and what is kept is kept as it is. -/
theorem fraction_numeric (scale : Nat) (hzero : (ofInt 0).le d = true)
    (hone : d.le (ofInt 1) = true) :
    d.numeric (scale + 1) scale = some (d.atScale scale) ∧
      (d.atScale scale).numeric (scale + 1) scale = some (d.atScale scale) ∧
      (ofInt 0).le (d.atScale scale) = true ∧ (d.atScale scale).le (ofInt 1) = true := by
  rw [le_iff, toRat_zero] at hzero
  rw [le_iff, toRat_one] at hone
  rw [le_iff, le_iff, toRat_zero, toRat_one]
  have hcoefficient := coefficient_atScale_le scale hzero hone
  have hfits : (d.atScale scale).coefficient < 10 ^ (scale + 1) :=
    hcoefficient.trans_lt (Nat.pow_lt_pow_right (by norm_num) (by omega))
  refine ⟨if_pos hfits, ?_, atScale_nonneg scale hzero, ?_⟩
  · rw [numeric, atScale_atScale, if_pos hfits]
  · have hpow : (0 : ℚ) < 10 ^ scale := by positivity
    refine le_of_mul_le_mul_right ?_ hpow
    rw [toRat_mul_pow (exponent_atScale scale d), signed_atScale_of_nonneg scale hzero, one_mul]
    exact_mod_cast hcoefficient

end

/-! ### Printing -/

/-- `str(d)`: the plain notation when the exponent is not positive and at most five zeros
follow the point, the scientific one otherwise. -/
def str (d : Decimal) : String :=
  let digits := Nat.toDigits 10 d.coefficient
  let leftdigits : Int := d.exponent + digits.length
  let dotplace : Int := if d.exponent ≤ 0 ∧ leftdigits > -6 then leftdigits else 1
  let body : List Char :=
    if dotplace ≤ 0 then
      ['0', '.'] ++ List.replicate (-dotplace).toNat '0' ++ digits
    else if dotplace ≥ digits.length then
      digits ++ List.replicate (dotplace - digits.length).toNat '0'
    else
      digits.take dotplace.toNat ++ ['.'] ++ digits.drop dotplace.toNat
  let shift := leftdigits - dotplace
  let exp : List Char :=
    if shift = 0 then []
    else ['E', if shift < 0 then '-' else '+'] ++ Nat.toDigits 10 shift.natAbs
  String.ofList ((if d.sign then ['-'] else []) ++ body ++ exp)

example : str ⟨false, 120, -2⟩ = "1.20" ∧ str ⟨true, 5, -7⟩ = "-5E-7" := by decide

end Decimal

end Support
