import ReconcileFlow.Support.Decimal
import ReconcileFlow.Support.Numerals

/-!
# Support — DecimalText

Decimal numbers as texts.  `parse` reads the numeric strings of the decimal arithmetic: a sign, a
numeral with an optional point and an optional exponent, an infinity or a NaN.  Underscores are
dropped, and decimal digits of other scripts count as the digits they stand for; which characters
these are is a parameter.
-/

namespace Support

/-- A number of the decimal arithmetic, or one of its special values. -/
inductive DecimalValue
  | finite (value : Decimal)
  | infinity (negative : Bool)
  | nan (signaling : Bool)
deriving DecidableEq, Repr

namespace DecimalValue

/-- `==`: numbers are compared by value, and a NaN is equal to nothing. -/
def eq : DecimalValue → DecimalValue → Bool
  | finite a, finite b => a.numEq b
  | infinity a, infinity b => a == b
  | _, _ => false

theorem eq_symm {a b : DecimalValue} (h : a.eq b = true) : b.eq a = true := by
  cases a <;> cases b <;> simp_all only [eq, Decimal.numEq_iff, beq_iff_eq, reduceCtorEq]

theorem eq_trans {a b c : DecimalValue} (hab : a.eq b = true) (hbc : b.eq c = true) :
    a.eq c = true := by
  cases a <;> cases b <;> cases c <;>
    simp_all only [eq, Decimal.numEq_iff, beq_iff_eq, reduceCtorEq]

end DecimalValue

namespace DecimalText

/-- The sign in front of a numeral, and the rest. -/
def signOf : List Char → Bool × List Char
  | '-' :: rest => (true, rest)
  | '+' :: rest => (false, rest)
  | text => (false, text)

/-- The exponent that a text after the digits of a numeral gives. -/
def exponentOf : List Char → Option Int
  | [] => some 0
  | c :: rest =>
    let (negative, digits) := signOf rest
    if (c = 'e' ∨ c = 'E') ∧ digits ≠ [] ∧ digits.all Char.isDigit then
      some (if negative then -(Nat.ofDigitChars 10 digits 0 : Int) else Nat.ofDigitChars 10 digits 0)
    else none

/-- The digits after a point, and the rest. -/
def fractionOf : List Char → List Char × List Char
  | '.' :: rest => rest.span Char.isDigit
  | text => ([], text)

/-- A numeral without its sign. -/
def numeral (negative : Bool) (text : List Char) : Option Decimal :=
  let (whole, rest) := text.span Char.isDigit
  let (fraction, rest) := fractionOf rest
  if whole ++ fraction = [] then none
  else (exponentOf rest).map fun exponent =>
    ⟨negative, Nat.ofDigitChars 10 (whole ++ fraction) 0, exponent - fraction.length⟩

/-- A word for an infinity or a NaN, in any case. -/
def special (negative : Bool) (text : List Char) : Option DecimalValue :=
  let word := text.map Char.toLower
  if word = "inf".toList ∨ word = "infinity".toList then some (.infinity negative)
  else if "nan".toList <+: word ∧ (word.drop 3).all Char.isDigit then some (.nan false)
  else if "snan".toList <+: word ∧ (word.drop 4).all Char.isDigit then some (.nan true)
  else none

/-- The largest and the smallest exponent that a number may have at all. -/
def maxEmax : Int := 999999999999999999

def minEtiny : Int := -1999999999999999997

/-- The number has an exponent in the range of all numbers. -/
def inRange (d : Decimal) : Bool :=
  decide (minEtiny ≤ d.exponent) &&
    decide ((Nat.toDigits 10 d.coefficient).length + d.exponent - 1 ≤ maxEmax)

/-- The value of a decimal digit: `other` tells those beyond ASCII. -/
def digitValue (other : Char → Option (Fin 10)) (c : Char) : Option Nat :=
  if c.isDigit then some (c.toNat - 48)
  else if c.toNat < 128 then none
  else (other c).map Fin.val

/-- The character, as an ASCII digit if it is a decimal digit. -/
def ascii (other : Char → Option (Fin 10)) (c : Char) : Char :=
  match digitValue other c with
  | some n => Nat.digitChar n
  | none => c

/-- `Decimal(text)`, for a text without spaces around it. -/
def parse (other : Char → Option (Fin 10)) (text : List Char) : Option DecimalValue :=
  let (negative, body) := signOf ((text.filter (· != '_')).map (ascii other))
  match special negative body with
  | some value => some value
  | none => ((numeral negative body).filter inRange).map .finite

example : parse (fun _ => none) "-1_050.50e+2".toList = some (.finite ⟨true, 105050, 0⟩) ∧
    parse (fun _ => none) "1,5".toList = none ∧
    parse (fun _ => none) "Infinity".toList = some (.infinity false) := by decide +kernel

end DecimalText

end Support
