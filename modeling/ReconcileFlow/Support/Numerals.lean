import Mathlib.Data.String.Basic
import Mathlib.Tactic.Ring

/-!
# Support — Numerals

Decimal numerals as texts.  Numerals of one length are ordered as their values are
(`lt_of_value_lt`), and so are numbers padded with zeros to a width that they do not exceed
(`padded_lt_padded`).
-/

namespace Support

/-- The digits of `n`, with zeros in front up to the width. -/
def padded (width n : Nat) : List Char :=
  let digits := Nat.toDigits 10 n
  List.replicate (width - digits.length) '0' ++ digits

theorem ofDigitChars_padded (width n : Nat) : Nat.ofDigitChars 10 (padded width n) 0 = n := by
  simp [padded, Nat.ofDigitChars_append, Nat.ofDigitChars_replicate_zero,
    Nat.ofDigitChars_ten_toDigits]

theorem length_padded {width n : Nat} (hwidth : 0 < width) (hn : n < 10 ^ width) :
    (padded width n).length = width := by
  have hle : (Nat.toDigits 10 n).length ≤ width :=
    (Nat.length_toDigits_le_iff (by decide) hwidth).mpr hn
  simp [padded, hle]

theorem isDigit_of_mem_padded {width n : Nat} {c : Char} (hc : c ∈ padded width n) :
    c.isDigit = true := by
  rcases List.mem_append.mp hc with hc | hc
  · rw [(List.mem_replicate.mp hc).2]
    rfl
  · exact Nat.isDigit_of_mem_toDigits (by decide) (by decide) hc

/-- The value of a digit. -/
theorem digit_bounds {c : Char} (hc : c.isDigit = true) : 48 ≤ c.toNat ∧ c.toNat ≤ 57 := by
  simpa [Char.isDigit, UInt32.le_iff_toNat_le] using hc

theorem ofDigitChars_cons (c : Char) (digits : List Char) :
    Nat.ofDigitChars 10 (c :: digits) 0 =
      10 ^ digits.length * (c.toNat - 48) + Nat.ofDigitChars 10 digits 0 := by
  have hzero : '0'.toNat = 48 := rfl
  rw [Nat.ofDigitChars_cons, Nat.ofDigitChars_eq_ofDigitChars_zero, hzero, Nat.mul_zero,
    Nat.zero_add]

theorem ofDigitChars_lt {digits : List Char} (h : ∀ c ∈ digits, c.isDigit = true) :
    Nat.ofDigitChars 10 digits 0 < 10 ^ digits.length := by
  induction digits with
  | nil => simp
  | cons c digits ih =>
    have hc := digit_bounds (h c List.mem_cons_self)
    have hrest := ih fun d hd => h d (List.mem_cons_of_mem c hd)
    rw [ofDigitChars_cons, List.length_cons, pow_succ]
    have hdigit : (10 : Nat) ^ digits.length * (c.toNat - 48) ≤ 10 ^ digits.length * 9 :=
      Nat.mul_le_mul_left _ (by omega)
    omega

/-- Numerals of one length that are in order have values in order. -/
theorem value_lt_of_lt {a b : List Char} (hlen : a.length = b.length)
    (ha : ∀ c ∈ a, c.isDigit = true) (hb : ∀ c ∈ b, c.isDigit = true) (h : a < b) :
    Nat.ofDigitChars 10 a 0 < Nat.ofDigitChars 10 b 0 := by
  induction h with
  | nil => cases hlen
  | @rel c a d b hcd =>
    have hlen : a.length = b.length := Nat.succ.inj hlen
    have hc := digit_bounds (ha c List.mem_cons_self)
    have hd := digit_bounds (hb d List.mem_cons_self)
    have hlt : c.toNat < d.toNat := hcd
    have hvalue := ofDigitChars_lt fun e he => ha e (List.mem_cons_of_mem c he)
    have hfirst : 10 ^ b.length * (c.toNat - 48) + 10 ^ b.length ≤
        10 ^ b.length * (d.toNat - 48) := by
      rw [← Nat.mul_succ]
      exact Nat.mul_le_mul_left _ (by omega)
    rw [ofDigitChars_cons, ofDigitChars_cons, hlen]
    rw [hlen] at hvalue
    omega
  | @cons c a b _ ih =>
    have hlen : a.length = b.length := Nat.succ.inj hlen
    have hrest := ih hlen (fun e he => ha e (List.mem_cons_of_mem c he))
      fun e he => hb e (List.mem_cons_of_mem c he)
    rw [ofDigitChars_cons, ofDigitChars_cons, hlen]
    omega

/-- **Numerals of one length are ordered as their values.** -/
theorem lt_of_value_lt {a b : List Char} (hlen : a.length = b.length)
    (ha : ∀ c ∈ a, c.isDigit = true) (hb : ∀ c ∈ b, c.isDigit = true)
    (h : Nat.ofDigitChars 10 a 0 < Nat.ofDigitChars 10 b 0) : a < b := by
  rcases lt_trichotomy a b with hlt | rfl | hgt
  · exact hlt
  · exact absurd h (lt_irrefl _)
  · exact absurd h (lt_asymm (value_lt_of_lt hlen.symm hb ha hgt))

theorem padded_lt_padded {width m n : Nat} (h : m < n) (hn : n < 10 ^ width) :
    padded width m < padded width n := by
  have hwidth : 0 < width := by
    by_contra hzero
    obtain rfl : width = 0 := by omega
    simp at hn
    omega
  refine lt_of_value_lt ?_ (fun _ => isDigit_of_mem_padded) (fun _ => isDigit_of_mem_padded) ?_
  · rw [length_padded hwidth (lt_trans h hn), length_padded hwidth hn]
  · rwa [ofDigitChars_padded, ofDigitChars_padded]

end Support
