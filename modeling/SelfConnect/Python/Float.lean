import SelfConnect.Python.Numeral

namespace SelfConnect.Python

/-! Python floats are binary64 numbers. `repr` prints the shortest decimal that
reads back to the same number, and JSON uses `repr`. -/

/-- The number `digits * 10 ^ exponent`. -/
structure Decimal where
  digits : Nat
  exponent : Int
  deriving DecidableEq

namespace Decimal

/-- No trailing zero, so that equal numbers have equal decimals. -/
def normal (d : Decimal) : Bool :=
  d.digits % 10 ≠ 0 || d = ⟨0, 0⟩

def toFloat (negative : Bool) (d : Decimal) : Float :=
  let magnitude :=
    Float.ofScientific d.digits (decide (d.exponent < 0)) d.exponent.natAbs
  if negative then -magnitude else magnitude

def strip : Nat → Decimal → Decimal
  | 0, d => d
  | fuel + 1, d =>
      if d.digits = 0 then ⟨0, 0⟩
      else if d.digits % 10 = 0 then strip fuel ⟨d.digits / 10, d.exponent + 1⟩
      else d

/-- The normal decimal of the same value; a number has at most as many trailing
zeros as digits. -/
def normalize (d : Decimal) : Decimal :=
  strip ((natText d.digits).length + 1) d

end Decimal

/-- The sign bit, which also tells `-0.0` from `0.0`. -/
def floatNegative (x : Float) : Bool :=
  0x8000000000000000 ≤ x.toBits.toNat

/-- The magnitude of a finite float as a quotient of naturals. -/
def floatFraction (x : Float) : Nat × Nat :=
  match x.toModel.unpack with
  | .finite _ mantissa exponent _ =>
      if exponent < 0 then (mantissa, 2 ^ exponent.natAbs)
      else (mantissa * 2 ^ exponent.natAbs, 1)
  | _ => (0, 1)

/-- The position of the decimal point before the first significant digit of
`num / den`, for a positive quotient. -/
def decimalPoint (num den : Nat) : Int :=
  if den ≤ num then ((natText (num / den)).length : Int)
  else
    let zeros := (natText (den / num)).length - 1
    if den ≤ num * 10 ^ zeros then 1 - (zeros : Int) else -(zeros : Int)

/-- The two decimals of a given number of digits around `num / den`, the closer
one first and the even one on a tie. -/
def nearestDecimals (num den count : Nat) : List Decimal :=
  let exponent := decimalPoint num den - count
  let scaledNum := if exponent < 0 then num * 10 ^ exponent.natAbs else num
  let scaledDen := if exponent < 0 then den else den * 10 ^ exponent.natAbs
  let quotient := scaledNum / scaledDen
  let twice := 2 * (scaledNum % scaledDen)
  let low := Decimal.normalize ⟨quotient, exponent⟩
  let high := Decimal.normalize ⟨quotient + 1, exponent⟩
  if twice < scaledDen ∨ (twice = scaledDen ∧ quotient % 2 = 0) then [low, high]
  else [high, low]

def decimalCandidates (x : Float) : List Decimal :=
  match floatFraction x with
  | (0, _) => [⟨0, 0⟩]
  | (num, den) =>
      (List.range 17).flatMap fun count => nearestDecimals num den (count + 1)

def shortestDecimal? (x : Float) : Option Decimal :=
  (decimalCandidates x).find? fun d =>
    d.normal && decide (d.toFloat (floatNegative x) = x)

/-- A finite float. Seventeen digits always suffice to name a binary64 number,
which is the guarantee `float(repr(x)) == x`. -/
structure FiniteFloat where
  toFloat : Float
  printable : (shortestDecimal? toFloat).isSome = true
  deriving DecidableEq

inductive PyFloat
  | nan
  | infinity (negative : Bool)
  | finite (x : FiniteFloat)
  deriving DecidableEq

namespace FiniteFloat

def decimal (x : FiniteFloat) : Decimal :=
  (shortestDecimal? x.toFloat).get x.printable

def negative (x : FiniteFloat) : Bool := floatNegative x.toFloat

private theorem decimal_found (x : FiniteFloat) :
    x.decimal.normal = true ∧ x.decimal.toFloat x.negative = x.toFloat := by
  have found : shortestDecimal? x.toFloat = some x.decimal := by
    simp [decimal]
  have checked := List.find?_some found
  simpa [negative] using checked

theorem decimal_normal (x : FiniteFloat) : x.decimal.normal = true :=
  x.decimal_found.1

theorem toFloat_decimal (x : FiniteFloat) :
    x.decimal.toFloat x.negative = x.toFloat :=
  x.decimal_found.2

def zero : FiniteFloat where
  toFloat := Float.ofScientific 0 false 0
  printable := by decide

end FiniteFloat

namespace PyFloat

def ofFloat (x : Float) : PyFloat :=
  if printable : (shortestDecimal? x).isSome = true then .finite ⟨x, printable⟩
  else if x.isNaN then .nan
  else .infinity (floatNegative x)

/-- `float(text)` for a decimal literal. -/
def ofDecimal (negative : Bool) (d : Decimal) : PyFloat :=
  ofFloat (d.normalize.toFloat negative)

theorem ofFloat_toFloat (x : FiniteFloat) : ofFloat x.toFloat = .finite x := by
  rw [ofFloat, dif_pos x.printable]

def isFinite : PyFloat → Bool
  | .finite _ => true
  | _ => false

/-- `x - y`. -/
def minus : PyFloat → PyFloat → PyFloat
  | .finite x, .finite y => ofFloat (x.toFloat - y.toFloat)
  | .nan, _ => .nan
  | _, .nan => .nan
  | .infinity first, .infinity second => if first = second then .nan else .infinity first
  | .infinity negative, .finite _ => .infinity negative
  | .finite _, .infinity negative => .infinity (!negative)

end PyFloat

namespace Decimal

private theorem strip_of_normal {fuel : Nat} {d : Decimal}
    (isNormal : d.normal = true) : strip (fuel + 1) d = d := by
  rw [strip]
  by_cases zero : d.digits = 0
  · have : d = ⟨0, 0⟩ := by simpa [normal, zero] using isNormal
    simp [this]
  · have nonzero : d.digits % 10 ≠ 0 := by
      rcases d with ⟨digits, exponent⟩
      simp only [normal, ne_eq, decide_not, Bool.or_eq_true, Bool.not_eq_true',
        decide_eq_false_iff_not, decide_eq_true_eq, Decimal.mk.injEq] at isNormal
      rcases isNormal with nonzero | ⟨rfl, -⟩
      · exact nonzero
      · exact absurd rfl zero
    rw [if_neg zero, if_neg nonzero]

theorem normalize_of_normal {d : Decimal} (isNormal : d.normal = true) :
    d.normalize = d :=
  strip_of_normal isNormal

private theorem strip_shift (digits : Nat) (positive : digits % 10 ≠ 0)
    (zeros : Nat) (exponent : Int) (fuel : Nat) (enough : zeros < fuel) :
    strip fuel ⟨digits * 10 ^ zeros, exponent⟩ = ⟨digits, exponent + zeros⟩ := by
  induction zeros generalizing fuel exponent with
  | zero =>
      obtain ⟨fuel, rfl⟩ := Nat.exists_eq_succ_of_ne_zero (by omega : fuel ≠ 0)
      simp only [pow_zero, mul_one]
      rw [strip_of_normal]
      · simp
      · simp [normal, positive]
  | succ zeros ih =>
      obtain ⟨fuel, rfl⟩ := Nat.exists_eq_succ_of_ne_zero (by omega : fuel ≠ 0)
      have powPositive : 0 < 10 ^ zeros := by positivity
      have nonzero : digits * 10 ^ (zeros + 1) ≠ 0 := by
        have : 0 < digits := by omega
        positivity
      have shape : digits * 10 ^ (zeros + 1) = digits * 10 ^ zeros * 10 := by ring
      have divisible : digits * 10 ^ (zeros + 1) % 10 = 0 := by
        rw [shape]
        exact Nat.mul_mod_left _ _
      rw [strip, if_neg nonzero, if_pos divisible]
      have quotient : digits * 10 ^ (zeros + 1) / 10 = digits * 10 ^ zeros := by
        rw [shape]
        omega
      simp only [quotient]
      rw [ih _ _ (by omega)]
      congr 1
      push_cast
      ring

/-- Padding a normal decimal with zeros and moving the exponent back is undone
by normalizing. -/
theorem normalize_shift {d : Decimal} (isNormal : d.normal = true) (zeros : Nat) :
    normalize ⟨d.digits * 10 ^ zeros, d.exponent - zeros⟩ = d := by
  rcases d with ⟨digits, exponent⟩
  by_cases zero : digits % 10 = 0
  · have : digits = 0 ∧ exponent = 0 := by
      simpa [normal, zero] using isNormal
    obtain ⟨rfl, rfl⟩ := this
    simp [normalize, strip]
  · have enough : zeros < (natText (digits * 10 ^ zeros)).length + 1 := by
      by_contra short
      have bound : (natText (digits * 10 ^ zeros)).length ≤ zeros := by omega
      by_cases none : zeros = 0
      · have := natText_ne_nil (digits * 10 ^ zeros)
        subst none
        exact this (List.length_eq_zero_iff.mp (by omega))
      · have small := (Nat.length_toDigits_le_iff (b := 10) (by decide)
          (by omega : 0 < zeros)).mp bound
        have large : 10 ^ zeros ≤ digits * 10 ^ zeros :=
          Nat.le_mul_of_pos_left _ (by omega)
        omega
    rw [normalize, strip_shift digits zero zeros _ _ enough]
    simp

end Decimal

/-- Reading the digits `repr` prints gives the float back. -/
theorem PyFloat.ofDecimal_shift (x : FiniteFloat) (zeros : Nat) :
    ofDecimal x.negative
      ⟨x.decimal.digits * 10 ^ zeros, x.decimal.exponent - zeros⟩ = .finite x := by
  rw [ofDecimal, Decimal.normalize_shift x.decimal_normal, x.toFloat_decimal,
    ofFloat_toFloat]

/-! The text of a finite float, as `repr` lays it out. -/

/-- Digits with the point placed before position `point`; the exponent form is
used for very small and very large numbers. -/
def decimalText (d : Decimal) : Text :=
  let digits := natText d.digits
  let point : Int := digits.length + d.exponent
  if point ≤ -4 ∨ 16 < point then
    let fraction := if digits.length = 1 then [] else '.' :: digits.tail
    let power := point - 1
    digits.take 1 ++ fraction ++ 'e' :: (if power < 0 then '-' else '+') ::
      zeroPadded 2 power.natAbs
  else if point ≤ 0 then
    '0' :: '.' :: (List.replicate point.natAbs '0' ++ digits)
  else if point.natAbs < digits.length then
    digits.take point.natAbs ++ '.' :: digits.drop point.natAbs
  else
    digits ++ List.replicate (point.natAbs - digits.length) '0' ++ ['.', '0']

/-- `float.__repr__` for a finite float, and the JSON spellings of the others. -/
def PyFloat.text : PyFloat → Text
  | .nan => ['N', 'a', 'N']
  | .infinity true => ['-', 'I', 'n', 'f', 'i', 'n', 'i', 't', 'y']
  | .infinity false => ['I', 'n', 'f', 'i', 'n', 'i', 't', 'y']
  | .finite x =>
      if x.negative then '-' :: decimalText x.decimal else decimalText x.decimal

end SelfConnect.Python
