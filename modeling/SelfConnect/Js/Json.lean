import Mathlib.Algebra.Ring.Rat

namespace SelfConnect.Js

/-! The values `JSON.parse` makes, and the tests the server makes of them. -/

/-- A string, as its UTF-16 code units. -/
abbrev Text := List UInt16

def units (c : Char) : Text :=
  if c.toNat < 0x10000 then [c.toNat.toUInt16]
  else
    [(0xD800 + (c.toNat - 0x10000) / 0x400).toUInt16,
      (0xDC00 + (c.toNat - 0x10000) % 0x400).toUInt16]

def text (s : String) : Text := s.toList.flatMap units

/-- A number is a finite double, written as the rational it is. -/
inductive Json
  | null
  | bool (value : Bool)
  | num (value : ℚ)
  | str (value : Text)
  | arr (items : List Json)
  | obj (members : List (Text × Json))

/-- `Number.isSafeInteger`, with the integer. -/
def safeInteger? (value : ℚ) : Option Int :=
  if value.den = 1 ∧ value.num.natAbs < 2 ^ 53 then some value.num else none

def isSafeInteger (value : Int) : Bool := value.natAbs < 2 ^ 53

/-- A character class of an anchored pattern with its bounds, such as `/^[0-9a-f]{64}$/`. -/
def matchesRun (member : UInt16 → Bool) (least most : Nat) (value : Text) : Bool :=
  least ≤ value.length && value.length ≤ most && value.all member

def isDigit (u : UInt16) : Bool := 0x30 ≤ u && u ≤ 0x39
def isUpper (u : UInt16) : Bool := 0x41 ≤ u && u ≤ 0x5A
def isLower (u : UInt16) : Bool := 0x61 ≤ u && u ≤ 0x7A

/-- `[A-Za-z0-9_.:-]` -/
def isIdentifierUnit (u : UInt16) : Bool :=
  isUpper u || isLower u || isDigit u || (text "_.:-").contains u

/-- `/^[A-Za-z0-9_.:-]{1,128}$/` -/
def isIdentifier (value : Text) : Bool := matchesRun isIdentifierUnit 1 128 value

namespace Json

def members? : Json → Option (List (Text × Json))
  | .obj members => some members
  | _ => none

def bool? : Json → Option Bool
  | .bool value => some value
  | _ => none

def str? : Json → Option Text
  | .str value => some value
  | _ => none

def num? : Json → Option ℚ
  | .num value => some value
  | _ => none

theorem eq_str {value : Json} {found : Text} (isText : value.str? = some found) :
    value = .str found := by
  cases value with
  | str _ =>
      cases isText
      rfl
  | _ => cases isText

/-- A property of an object; there is none in any other value. -/
def get? (value : Json) (key : String) : Option Json :=
  value.members?.bind fun members => members.lookup (text key)

def getStr? (value : Json) (key : String) : Option Text := (value.get? key).bind str?

def getSafeInteger? (value : Json) (key : String) : Option Int :=
  ((value.get? key).bind num?).bind safeInteger?

end Json

end SelfConnect.Js
