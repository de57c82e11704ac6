import SelfConnect.Js.Json
import SelfConnect.Library.Binary64
import Mathlib.Data.List.DropRight

namespace SelfConnect.Js

open SelfConnect.Library

/-! `Number` of a string. Neither NaN nor an infinity is a number here. -/

/-- White space and line terminators, those of Unicode included. -/
def isSpace (u : UInt16) : Bool :=
  (0x09 ≤ u && u ≤ 0x0D) || u = 0x20 || u = 0xA0 || u = 0x1680 || (0x2000 ≤ u && u ≤ 0x200A) ||
    u = 0x2028 || u = 0x2029 || u = 0x202F || u = 0x205F || u = 0x3000 || u = 0xFEFF

def trim (value : Text) : Text := (value.dropWhile isSpace).rdropWhile isSpace

/-- Of a digit below sixteen, in either case. -/
def digitOf (u : UInt16) : Option Nat :=
  if isDigit u then some (u.toNat - 0x30)
  else if 0x61 ≤ u && u ≤ 0x66 then some (u.toNat - 0x57)
  else if 0x41 ≤ u && u ≤ 0x46 then some (u.toNat - 0x37)
  else none

/-- At least one digit, and nothing else. -/
def numeral? (base : Nat) (value : Text) : Option Nat :=
  if value = [] then none
  else
    value.foldlM (fun n u => ((digitOf u).filter (· < base)).map (base * n + ·)) 0

/-- Whether there is a minus, and what follows the sign. -/
def afterSign : Text → Bool × Text
  | [] => (false, [])
  | u :: rest =>
      if u = 0x2D then (true, rest) else if u = 0x2B then (false, rest) else (false, u :: rest)

def signed [Neg α] (negative : Bool) (value : α) : α := if negative then -value else value

def exponent? : Text → Option Int
  | [] => some 0
  | u :: rest =>
      if u = 0x65 || u = 0x45 then
        (numeral? 10 (afterSign rest).2).map fun n : Nat =>
          signed (afterSign rest).1 (n : Int)
      else none

/-- The digits after a point, and what follows them. -/
def fraction : Text → Text × Text
  | [] => ([], [])
  | u :: rest =>
      if u = 0x2E then (rest.takeWhile isDigit, rest.dropWhile isDigit) else ([], u :: rest)

def decimal? (value : Text) : Option ℚ :=
  let whole := value.takeWhile isDigit
  let fractional := fraction (value.dropWhile isDigit)
  match numeral? 10 (whole ++ fractional.1), exponent? fractional.2 with
  | some digits, some power => some (digits * 10 ^ (power - fractional.1.length))
  | _, _ => none

/-- `0x`, `0o` and `0b`, in either case. -/
def radix? : Text → Option Nat
  | zero :: mark :: digits =>
      if zero = 0x30 then
        if mark = 0x78 || mark = 0x58 then numeral? 16 digits
        else if mark = 0x6F || mark = 0x4F then numeral? 8 digits
        else if mark = 0x62 || mark = 0x42 then numeral? 2 digits
        else none
      else none
  | _ => none

def literal? (value : Text) : Option ℚ :=
  if value = [] then some 0
  else
    match radix? value with
    | some n => some n
    | none => (decimal? (afterSign value).2).map (signed (afterSign value).1)

/-- What a double holds of a number, where it does not overflow. -/
def double? (value : ℚ) : Option ℚ :=
  if |Binary64.round value| < 2 ^ 1024 then some (Binary64.round value) else none

def finiteNumber? (value : Text) : Option ℚ := (literal? (trim value)).bind double?

/-! What is read as a number is ASCII but for white space. -/

/-- A digit, a sign, a point, or a letter of a literal. -/
def isNumeralUnit (u : UInt16) : Bool :=
  (digitOf u).isSome || (text "+-.xXoO").contains u

theorem isNumeralUnit_of_digitOf {u : UInt16} {n : Nat} (isDigit : digitOf u = some n) :
    isNumeralUnit u = true := by
  rw [isNumeralUnit, isDigit]
  rfl

theorem isNumeralUnit_of_isDigit {u : UInt16} (digit : isDigit u = true) :
    isNumeralUnit u = true := by
  apply @isNumeralUnit_of_digitOf u (u.toNat - 0x30)
  rw [digitOf, if_pos digit]

theorem all_digitOf_of_foldlM {base start n : Nat} {value : Text}
    (read : value.foldlM (fun n u => ((digitOf u).filter (· < base)).map (base * n + ·)) start =
      some n) : ∀ u ∈ value, isNumeralUnit u = true := by
  induction value generalizing start with
  | nil => simp
  | cons u rest ih =>
      rw [List.foldlM_cons] at read
      obtain ⟨next, isNext, rest_read⟩ := Option.bind_eq_some_iff.mp read
      obtain ⟨digit, isDigit, -⟩ := Option.map_eq_some_iff.mp isNext
      intro v member
      rcases List.mem_cons.mp member with rfl | later
      · exact isNumeralUnit_of_digitOf (Option.eq_some_of_filter_eq_some isDigit)
      · exact ih rest_read v later

theorem all_of_numeral {base n : Nat} {value : Text} (read : numeral? base value = some n) :
    ∀ u ∈ value, isNumeralUnit u = true := by
  rw [numeral?] at read
  split at read
  · cases read
  · exact all_digitOf_of_foldlM read

theorem all_of_afterSign {value : Text}
    (rest : ∀ u ∈ (afterSign value).2, isNumeralUnit u = true) :
    ∀ u ∈ value, isNumeralUnit u = true := by
  cases value with
  | nil => simp
  | cons u after =>
      rw [afterSign] at rest
      intro v member
      split_ifs at rest with minus plus
      · rcases List.mem_cons.mp member with rfl | later
        · rw [minus]
          decide
        · exact rest v later
      · rcases List.mem_cons.mp member with rfl | later
        · rw [plus]
          decide
        · exact rest v later
      · exact rest v member

theorem all_of_exponent {value : Text} {power : Int} (read : exponent? value = some power) :
    ∀ u ∈ value, isNumeralUnit u = true := by
  cases value with
  | nil => simp
  | cons u rest =>
      rw [exponent?] at read
      split_ifs at read with mark
      obtain ⟨n, isNumeral, -⟩ := Option.map_eq_some_iff.mp read
      intro v member
      rcases List.mem_cons.mp member with rfl | later
      · rcases Bool.or_eq_true_iff.mp mark with small | large
        · rw [of_decide_eq_true small]
          decide
        · rw [of_decide_eq_true large]
          decide
      · exact all_of_afterSign (all_of_numeral isNumeral) v later

theorem all_of_fraction {value : Text} (digits : ∀ u ∈ (fraction value).1, isNumeralUnit u = true)
    (rest : ∀ u ∈ (fraction value).2, isNumeralUnit u = true) :
    ∀ u ∈ value, isNumeralUnit u = true := by
  cases value with
  | nil => simp
  | cons u after =>
      rw [fraction] at digits rest
      intro v member
      split_ifs at digits rest with point
      · rcases List.mem_cons.mp member with rfl | later
        · rw [point]
          decide
        · rw [← @List.takeWhile_append_dropWhile _ isDigit after] at later
          rcases List.mem_append.mp later with digit | other
          · exact digits v digit
          · exact rest v other
      · exact rest v member

theorem all_of_decimal {value : Text} {q : ℚ} (read : decimal? value = some q) :
    ∀ u ∈ value, isNumeralUnit u = true := by
  simp only [decimal?] at read
  split at read
  · next digits power isNumeral isPower =>
    have numerals := all_of_numeral isNumeral
    have others := all_of_fraction (fun u member => numerals u (List.mem_append_right _ member))
      (all_of_exponent isPower)
    intro u member
    rw [← @List.takeWhile_append_dropWhile _ isDigit value] at member
    rcases List.mem_append.mp member with digit | other
    · exact numerals u (List.mem_append_left _ digit)
    · exact others u other
  · cases read

theorem all_of_radix {value : Text} {n : Nat} (read : radix? value = some n) :
    ∀ u ∈ value, isNumeralUnit u = true := by
  rcases value with _ | ⟨zero, _ | ⟨mark, digits⟩⟩
  · cases read
  · cases read
  · rw [radix?] at read
    have isMark : ∀ small large : UInt16, isNumeralUnit small = true → isNumeralUnit large = true →
        (decide (mark = small) || decide (mark = large)) = true → isNumeralUnit mark = true := by
      intro small large ofSmall ofLarge isEither
      rcases Bool.or_eq_true_iff.mp isEither with same | same
      · rw [of_decide_eq_true same, ofSmall]
      · rw [of_decide_eq_true same, ofLarge]
    have parts : zero = 0x30 ∧ isNumeralUnit mark = true ∧
        ∀ u ∈ digits, isNumeralUnit u = true := by
      split_ifs at read with isZero hex octal binary
      · exact ⟨isZero, isMark _ _ (by decide) (by decide) hex, all_of_numeral read⟩
      · exact ⟨isZero, isMark _ _ (by decide) (by decide) octal, all_of_numeral read⟩
      · exact ⟨isZero, isMark _ _ (by decide) (by decide) binary, all_of_numeral read⟩
    intro u member
    rcases List.mem_cons.mp member with rfl | later
    · rw [parts.1]
      decide
    · rcases List.mem_cons.mp later with rfl | digit
      · exact parts.2.1
      · exact parts.2.2 u digit

theorem all_of_literal {value : Text} {q : ℚ} (read : literal? value = some q) :
    ∀ u ∈ value, isNumeralUnit u = true := by
  rw [literal?] at read
  split at read
  · next isNil => simp [isNil]
  · split at read
    · next n isRadix => exact all_of_radix isRadix
    · obtain ⟨magnitude, isDecimal, -⟩ := Option.map_eq_some_iff.mp read
      exact all_of_afterSign (all_of_decimal isDecimal)

theorem isSpace_or_mem_trim {value : Text} {u : UInt16} (member : u ∈ value) :
    isSpace u = true ∨ u ∈ trim value := by
  rw [← @List.takeWhile_append_dropWhile _ isSpace value] at member
  rcases List.mem_append.mp member with leading | other
  · exact .inl (List.mem_takeWhile_imp leading)
  · rw [← @List.rdropWhile_append_rtakeWhile _ isSpace (value.dropWhile isSpace)] at other
    rcases List.mem_append.mp other with kept | trailing
    · exact .inr kept
    · exact .inl (List.mem_rtakeWhile_imp trailing)

theorem units_of_finiteNumber {value : Text} {q : ℚ} (read : finiteNumber? value = some q) :
    ∀ u ∈ value, isSpace u = true ∨ isNumeralUnit u = true := by
  obtain ⟨exact, isLiteral, -⟩ := Option.bind_eq_some_iff.mp read
  intro u member
  exact (isSpace_or_mem_trim member).imp_right (all_of_literal isLiteral u)

example : finiteNumber? (text " 1700000000.5 ") = some (3400000001 / 2) := by decide +kernel

end SelfConnect.Js
