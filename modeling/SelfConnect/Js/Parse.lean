import SelfConnect.Js.Number

namespace SelfConnect.Js

open SelfConnect.Library

/-! `JSON.parse`. A number too large for a double is kept as it is rounded, where the source
has an infinity. -/

namespace Parse

def isBlank (u : UInt16) : Bool := u = 0x20 || u = 0x09 || u = 0x0A || u = 0x0D

def skipBlanks (source : Text) : Text := source.dropWhile isBlank

def consUnit (u : UInt16) (scanned : Option (Text × Text)) : Option (Text × Text) :=
  scanned.map fun result => (u :: result.1, result.2)

/-- The escapes of one letter, with the units they stand for. -/
def escapes : List (UInt16 × UInt16) :=
  [(0x22, 0x22), (0x5C, 0x5C), (0x2F, 0x2F), (0x62, 0x08), (0x66, 0x0C), (0x6E, 0x0A),
    (0x72, 0x0D), (0x74, 0x09)]

def hexUnit (digits : Text) : Option UInt16 := (numeral? 16 digits).map Nat.toUInt16

/-- A string after its opening quote, with what follows the closing one. -/
def scanBody : Text → Option (Text × Text)
  | [] => none
  | [u] => if u = 0x22 then some ([], []) else none
  | u :: e :: rest =>
      if u = 0x22 then some ([], e :: rest)
      else if u = 0x5C then
        if e = 0x75 then
          match rest with
          | a :: b :: c :: d :: after =>
              (hexUnit [a, b, c, d]).bind fun unit => consUnit unit (scanBody after)
          | _ => none
        else (escapes.lookup e).bind fun unit => consUnit unit (scanBody rest)
      else if u < 0x20 then none
      else consUnit u (scanBody (e :: rest))

def isNumberUnit (u : UInt16) : Bool := isDigit u || (text "+-.eE").contains u

/-- The integer part of a number has no zeros in front, and a point digits behind. -/
def scanNumber (source : Text) : Option (Json × Text) :=
  let token := source.takeWhile isNumberUnit
  let negative := token.head? = some 0x2D
  let magnitude := if negative then token.tail else token
  let whole := magnitude.takeWhile isDigit
  let rest := magnitude.dropWhile isDigit
  if whole = [] ∨ (1 < whole.length ∧ whole.head? = some 0x30) ∨
      (rest.head? = some 0x2E ∧ (fraction rest).1 = []) then none
  else
    (decimal? magnitude).map fun value =>
      (.num (Binary64.round (signed negative value)), source.dropWhile isNumberUnit)

def expect (word : Text) (value : Json) (source : Text) : Option (Json × Text) :=
  if word.isPrefixOf source then some (value, source.drop word.length) else none

def scanAtom (source : Text) : Option (Json × Text) :=
  (expect (text "null") .null source).or <|
    (expect (text "true") (.bool true) source).or <|
      (expect (text "false") (.bool false) source).or (scanNumber source)

/-- The last of several equal keys wins, in the place of the first. -/
def setMember (key : Text) (value : Json) : List (Text × Json) → List (Text × Json)
  | [] => [(key, value)]
  | (other, before) :: rest =>
      if other = key then (key, value) :: rest else (other, before) :: setMember key value rest

def setAll (members : List (Text × Json)) : List (Text × Json) :=
  members.foldl (fun built entry => setMember entry.1 entry.2 built) []

mutual
def scanValue : Nat → Text → Option (Json × Text)
  | 0, _ => none
  | _ + 1, [] => none
  | fuel + 1, u :: rest =>
      if u = 0x22 then (scanBody rest).map fun result => (.str result.1, result.2)
      else if u = 0x5B then
        if (skipBlanks rest).head? = some 0x5D then some (.arr [], (skipBlanks rest).tail)
        else (scanItems fuel (skipBlanks rest)).map fun result => (.arr result.1, result.2)
      else if u = 0x7B then
        if (skipBlanks rest).head? = some 0x7D then some (.obj [], (skipBlanks rest).tail)
        else
          (scanMembers fuel (skipBlanks rest)).map fun result => (.obj (setAll result.1), result.2)
      else scanAtom (u :: rest)

/-- One item and what follows it, up to the closing bracket. -/
def scanItems : Nat → Text → Option (List Json × Text)
  | 0, _ => none
  | fuel + 1, source =>
      (scanValue fuel source).bind fun item =>
        let after := skipBlanks item.2
        if after.head? = some 0x5D then some ([item.1], after.tail)
        else if after.head? = some 0x2C then
          (scanItems fuel (skipBlanks after.tail)).map fun result =>
            (item.1 :: result.1, result.2)
        else none

/-- One member and what follows it, up to the closing brace. -/
def scanMembers : Nat → Text → Option (List (Text × Json) × Text)
  | 0, _ => none
  | fuel + 1, source =>
      if source.head? = some 0x22 then
        (scanBody source.tail).bind fun key =>
          if (skipBlanks key.2).head? = some 0x3A then
            (scanValue fuel (skipBlanks (skipBlanks key.2).tail)).bind fun value =>
              let after := skipBlanks value.2
              if after.head? = some 0x7D then some ([(key.1, value.1)], after.tail)
              else if after.head? = some 0x2C then
                (scanMembers fuel (skipBlanks after.tail)).map fun result =>
                  ((key.1, value.1) :: result.1, result.2)
              else none
          else none
      else none
end

end Parse

open Parse

namespace Json

/-- None where it throws. -/
def parse (source : Text) : Option Json :=
  (scanValue (source.length + 1) (skipBlanks source)).bind fun result =>
    if skipBlanks result.2 = [] then some result.1 else none

example : ((parse (text "\x7b\"a\": [1, 2.5e1], \"a\" : \"\\u0041\\n\" \x7d")).bind
    fun value => value.getStr? "a") = some (text "A\n") := by decide +kernel

end Json

end SelfConnect.Js
