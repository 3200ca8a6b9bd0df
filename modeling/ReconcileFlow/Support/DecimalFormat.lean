import ReconcileFlow.Support.DecimalLiteral

/-!
# Support — DecimalFormat

Decimal numbers written without an exponent (`fixed`).  What is written is a literal without commas,
so the parser of decimal numbers reads it (`parse_fixed`): as the number itself, but for one with a
positive exponent, whose zeros are written out (`fixedNumber`).
-/

namespace Support.DecimalText

/-- The digits in front of the point, and those after it if the exponent is negative. -/
def fixedDigits (d : Decimal) : List Char × Option (List Char) :=
  if 0 ≤ d.exponent then
    -- a zero loses its exponent
    (if d.coefficient = 0 then ['0']
      else Nat.toDigits 10 d.coefficient ++ List.replicate d.exponent.toNat '0', none)
  else
    let places := (-d.exponent).toNat
    let digits := padded (places + 1) d.coefficient
    (digits.take (digits.length - places), some (digits.drop (digits.length - places)))

/-- `format(d, "f")`. -/
def fixed (d : Decimal) : List Char :=
  (if d.sign then ['-'] else []) ++ ((fixedDigits d).1 ++ pointed (fixedDigits d).2)

/-- The number that is written. -/
def fixedNumber (d : Decimal) : Decimal :=
  if 0 ≤ d.exponent then ⟨d.sign, d.coefficient * 10 ^ d.exponent.toNat, 0⟩ else d

example : String.ofList (fixed ⟨true, 120, 2⟩) = "-12000" ∧
    String.ofList (fixed ⟨false, 5, -3⟩) = "0.005" ∧
    String.ofList (fixed ⟨false, 0, 5⟩) = "0" := by decide +kernel

theorem fixedNumber_of_nonpos {d : Decimal} (h : d.exponent ≤ 0) : fixedNumber d = d := by
  unfold fixedNumber
  split
  · next hpos =>
    have hzero : d.exponent = 0 := le_antisymm h hpos
    rw [hzero, Int.toNat_zero, pow_zero, Nat.mul_one, ← hzero]
  · rfl

theorem toRat_fixedNumber (d : Decimal) : (fixedNumber d).toRat = d.toRat := by
  unfold fixedNumber
  split
  · next hpos =>
    have hexponent : (10 : ℚ) ^ d.exponent.toNat = (10 : ℚ) ^ d.exponent := by
      rw [← zpow_natCast, Int.toNat_of_nonneg hpos]
    simp only [Decimal.toRat, Decimal.signed, zpow_zero, mul_one]
    rw [← hexponent]
    split <;> push_cast <;> ring
  · rfl

/-! ### The digits -/

theorem isDigit_of_mem_toDigits {n : Nat} {c : Char} (h : c ∈ Nat.toDigits 10 n) :
    c.isDigit = true :=
  Nat.isDigit_of_mem_toDigits (by decide) (by decide) h

theorem lt_length_padded (places n : Nat) : places < (padded (places + 1) n).length := by
  have hlength : (padded (places + 1) n).length =
      (places + 1 - (Nat.toDigits 10 n).length) + (Nat.toDigits 10 n).length := by
    rw [padded, List.length_append, List.length_replicate]
  omega

/-- The digits that are written are those of the number. -/
theorem ofDigits_fixedDigits (d : Decimal) :
    ofDigits d.sign (fixedDigits d).1 ((fixedDigits d).2.getD []) = fixedNumber d := by
  unfold fixedDigits fixedNumber
  split
  · next hpos =>
    rw [ofDigits, Decimal.mk.injEq]
    refine ⟨rfl, ?_, rfl⟩
    split
    · next hzero =>
      rw [hzero, Nat.zero_mul]
      rfl
    · rw [Option.getD_none, List.append_nil, Nat.ofDigitChars_append,
        Nat.ofDigitChars_replicate_zero, Nat.ofDigitChars_ten_toDigits, Nat.mul_comm]
  · next hneg =>
    have hlength := lt_length_padded (-d.exponent).toNat d.coefficient
    rw [ofDigits, Decimal.mk.injEq]
    refine ⟨rfl, ?_, ?_⟩
    · rw [Option.getD_some, List.take_append_drop, ofDigitChars_padded]
    · rw [Option.getD_some, List.length_drop]
      omega

theorem isDigit_of_mem_fixedDigits {d : Decimal} {c : Char}
    (h : c ∈ (fixedDigits d).1 ++ (fixedDigits d).2.getD []) : c.isDigit = true := by
  unfold fixedDigits at h
  split at h
  · rw [Option.getD_none, List.append_nil] at h
    split at h
    · rw [List.mem_singleton.mp h]
      rfl
    · rcases List.mem_append.mp h with h | h
      · exact isDigit_of_mem_toDigits h
      · rw [(List.mem_replicate.mp h).2]
        rfl
  · rw [Option.getD_some, List.take_append_drop] at h
    exact isDigit_of_mem_padded h

theorem fixedDigits_ne_nil (d : Decimal) : (fixedDigits d).1 ≠ [] := by
  unfold fixedDigits
  split
  · dsimp only
    split
    · exact List.cons_ne_nil _ _
    · exact fun h => Nat.toDigits_ne_nil (List.append_eq_nil_iff.mp h).1
  · have hlength := lt_length_padded (-d.exponent).toNat d.coefficient
    rw [ne_eq, ← List.length_eq_zero_iff, List.length_take]
    omega

theorem flatten_singleton (digits : List Char) : [digits].flatten = digits := List.append_nil _

/-- What is written, as a literal. -/
def fixedLiteral (d : Decimal) : Literal where
  sign := if d.sign then some true else none
  groups := [(fixedDigits d).1]
  fraction := (fixedDigits d).2
  isDigit := fun c h => by
    rw [flatten_singleton] at h
    exact isDigit_of_mem_fixedDigits h
  ne_nil := fun h => by
    rw [flatten_singleton] at h
    exact fixedDigits_ne_nil d (List.append_eq_nil_iff.mp h).1
  isGrouped := rfl

theorem text_fixedLiteral (d : Decimal) : (fixedLiteral d).text = fixed d := by
  have hsign : markOf (if d.sign then some true else none) = if d.sign then ['-'] else [] := by
    cases d.sign <;> rfl
  have hgroups : [','].intercalate [(fixedDigits d).1] = (fixedDigits d).1 :=
    List.intercalate_singleton
  simp only [Literal.text, fixedLiteral, hsign, hgroups, fixed]

theorem number_fixedLiteral (d : Decimal) : (fixedLiteral d).number = fixedNumber d := by
  have hsign : (if d.sign then some true else none : Option Bool).getD false = d.sign := by
    cases d.sign <;> rfl
  simp only [Literal.number, fixedLiteral, hsign, flatten_singleton]
  exact ofDigits_fixedDigits d

/-- There is no comma in what is written. -/
theorem comma_not_mem_fixed (d : Decimal) : ',' ∉ (fixedLiteral d).text := by
  intro h
  rcases List.mem_append.mp h with hsign | hbody
  · exact comma_not_mem_markOf _ hsign
  · rcases List.mem_append.mp hbody with hdigits | hpoint
    · have hmem : ',' ∈ [','].intercalate [(fixedDigits d).1] := hdigits
      rw [List.intercalate_singleton] at hmem
      cases isDigit_of_mem_fixedDigits (List.mem_append_left _ hmem)
    · rcases (fixedLiteral d).of_mem_pointed hpoint with h | h <;> cases h

/-! ### Reading it back -/

theorem length_toDigits_mul_pow (n k : Nat) :
    (Nat.toDigits 10 (n * 10 ^ k)).length ≤ (Nat.toDigits 10 n).length + k := by
  have hpos : 0 < (Nat.toDigits 10 n).length := List.length_pos_iff.mpr Nat.toDigits_ne_nil
  have hlt : n < 10 ^ (Nat.toDigits 10 n).length :=
    (Nat.length_toDigits_le_iff (by decide) hpos).mp le_rfl
  refine (Nat.length_toDigits_le_iff (by decide) (Nat.add_pos_left hpos k)).mpr ?_
  rw [pow_add]
  exact Nat.mul_lt_mul_of_pos_right hlt (Nat.pow_pos (by decide))

theorem inRange_fixedNumber {d : Decimal} (h : inRange d = true) :
    inRange (fixedNumber d) = true := by
  by_cases hpos : 0 ≤ d.exponent
  · have hlength := length_toDigits_mul_pow d.coefficient d.exponent.toNat
    simp only [inRange, Bool.and_eq_true, decide_eq_true_eq] at h
    obtain ⟨-, hmax⟩ := h
    rw [fixedNumber, if_pos hpos]
    simp only [inRange, Bool.and_eq_true, decide_eq_true_eq]
    refine ⟨by decide, ?_⟩
    omega
  · rwa [fixedNumber, if_neg hpos]

/-- **What is written is read as the number that is written.** -/
theorem parse_fixed (other : Char → Option (Fin 10)) {d : Decimal} (h : inRange d = true) :
    parse other (fixed d) = some (.finite (fixedNumber d)) := by
  rw [← text_fixedLiteral, ← number_fixedLiteral]
  refine parse_text other (comma_not_mem_fixed d) ?_
  rw [number_fixedLiteral]
  exact inRange_fixedNumber h

end Support.DecimalText
