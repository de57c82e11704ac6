import SelfConnect.Python.Json.Encode

namespace SelfConnect.Python.Json

/-! `json.loads`: a recursive-descent scanner over the text, whose recursion is
bounded by the number of characters left. -/

def isBlank (c : Char) : Bool :=
  c = ' ' || c = '\t' || c = '\n' || c = '\r'

def skipBlanks (text : Text) : Text := text.dropWhile isBlank

/-- Prefix a scanned code point to the rest of the string body. -/
def consPoint (c : CodePoint) (scanned : Option (Str × Text)) : Option (Str × Text) :=
  scanned.map fun result => (c :: result.1, result.2)

def hexUnit (a b c d : Char) : Option CodePoint :=
  match hexValue a, hexValue b, hexValue c, hexValue d with
  | some w, some x, some y, some z =>
      some (Fin.ofNat 0x110000 (4096 * w + 256 * x + 16 * y + z))
  | _, _, _, _ => none

def escaped? (c : Char) : Option Char :=
  if c = '"' || c = '\\' || c = '/' then some c
  else if c = 'n' then some '\n'
  else if c = 'r' then some '\r'
  else if c = 't' then some '\t'
  else if c = 'b' then some (Char.ofNat 0x08)
  else if c = 'f' then some (Char.ofNat 0x0C)
  else none

/-- The body of a string after its opening quote, as UTF-16 units where it was
escaped. -/
def scanBody : Text → Option (Str × Text)
  | [] => none
  | '"' :: rest => some ([], rest)
  | '\\' :: 'u' :: a :: b :: c :: d :: rest =>
      match hexUnit a b c d with
      | some unit => consPoint unit (scanBody rest)
      | none => none
  | '\\' :: e :: rest =>
      match escaped? e with
      | some c => consPoint (CodePoint.ofChar c) (scanBody rest)
      | none => none
  | c :: rest =>
      if c.toNat < 0x20 || c = '\\' then none
      else consPoint (CodePoint.ofChar c) (scanBody rest)

def scanString (text : Text) : Option (Str × Text) :=
  (scanBody text).map fun result => (result.1.joinSurrogates, result.2)

/-! Numbers: an optional minus, an integer without leading zeros, an optional
fraction and an optional exponent. -/

def takeDigits (text : Text) : Text × Text :=
  (text.takeWhile Char.isDigit, text.dropWhile Char.isDigit)

def scanInteger : Text → Option (Text × Text)
  | '0' :: rest => some (['0'], rest)
  | text =>
      match takeDigits text with
      | ([], _) => none
      | (digits, rest) => some (digits, rest)

def scanFraction : Text → Text × Text
  | '.' :: rest =>
      match takeDigits rest with
      | ([], _) => ([], '.' :: rest)
      | (digits, after) => (digits, after)
  | text => ([], text)

def scanPower (sign : Char) (text : Text) : Option (Int × Text) :=
  match takeDigits text with
  | ([], _) => none
  | (digits, rest) =>
      some (if sign = '-' then -(digitsValue digits : Int) else digitsValue digits, rest)

def scanExponent : Text → Option (Int × Text)
  | e :: text =>
      if e = 'e' || e = 'E' then
        match text with
        | '-' :: rest => scanPower '-' rest
        | '+' :: rest => scanPower '+' rest
        | rest => scanPower '+' rest
      else none
  | [] => none

def scanNumber (negative : Bool) (text : Text) : Option (Value × Text) :=
  match scanInteger text with
  | none => none
  | some (digits, afterInteger) =>
      let fraction := scanFraction afterInteger
      match scanExponent fraction.2 with
      | some (power, rest) =>
          some (.float (.ofDecimal negative
            ⟨digitsValue (digits ++ fraction.1), power - fraction.1.length⟩), rest)
      | none =>
          match fraction.1 with
          | [] =>
              let magnitude : Int := digitsValue digits
              some (.int (if negative then -magnitude else magnitude), fraction.2)
          | _ =>
              some (.float (.ofDecimal negative
                ⟨digitsValue (digits ++ fraction.1), -(fraction.1.length : Int)⟩),
                fraction.2)

def expect (word : Text) (value : Value) (text : Text) : Option (Value × Text) :=
  if word.isPrefixOf text then some (value, text.drop word.length) else none

/-- A value that is neither a string, an array nor an object. -/
def scanAtom (text : Text) : Option (Value × Text) :=
  match text with
  | 'n' :: _ => expect ['n', 'u', 'l', 'l'] .null text
  | 't' :: _ => expect ['t', 'r', 'u', 'e'] (.bool true) text
  | 'f' :: _ => expect ['f', 'a', 'l', 's', 'e'] (.bool false) text
  | 'N' :: _ => expect ['N', 'a', 'N'] (.float .nan) text
  | 'I' :: _ => expect ['I', 'n', 'f', 'i', 'n', 'i', 't', 'y'] (.float (.infinity false)) text
  | '-' :: 'I' :: _ => expect ['-', 'I', 'n', 'f', 'i', 'n', 'i', 't', 'y'] (.float (.infinity true)) text
  | '-' :: rest => scanNumber true rest
  | _ => scanNumber false text

mutual
def scanValue : Nat → Text → Option (Value × Text)
  | 0, _ => none
  | fuel + 1, text =>
      match text with
      | '"' :: rest => (scanString rest).map fun result => (.str result.1, result.2)
      | '[' :: rest =>
          match skipBlanks rest with
          | ']' :: after => some (.list [], after)
          | items => (scanItems fuel items).map fun result => (.list result.1, result.2)
      | '{' :: rest =>
          match skipBlanks rest with
          | '}' :: after => some (.dict [], after)
          | members =>
              (scanMembers fuel members).map fun result => (.dict result.1, result.2)
      | _ => scanAtom text

/-- One item and what follows it, up to the closing bracket. -/
def scanItems : Nat → Text → Option (List Value × Text)
  | 0, _ => none
  | fuel + 1, text =>
      match scanValue fuel text with
      | none => none
      | some (item, afterItem) =>
          match skipBlanks afterItem with
          | ']' :: rest => some ([item], rest)
          | ',' :: rest =>
              (scanItems fuel (skipBlanks rest)).map fun result =>
                (item :: result.1, result.2)
          | _ => none

/-- One entry and what follows it, up to the closing brace. -/
def scanMembers : Nat → Text → Option (Members × Text)
  | 0, _ => none
  | fuel + 1, text =>
      match text with
      | '"' :: body =>
          match scanString body with
          | none => none
          | some (key, afterKey) =>
              match skipBlanks afterKey with
              | ':' :: afterColon =>
                  match scanValue fuel (skipBlanks afterColon) with
                  | none => none
                  | some (value, afterValue) =>
                      match skipBlanks afterValue with
                      | '}' :: rest => some ([(.str key, value)], rest)
                      | ',' :: rest =>
                          (scanMembers fuel (skipBlanks rest)).map fun result =>
                            ((.str key, value) :: result.1, result.2)
                      | _ => none
              | _ => none
      | _ => none
end

/-- The syntax tree of a JSON text, with repeated keys still in place. -/
def parse (text : Text) : Option Value :=
  match scanValue (text.length + 1) (skipBlanks text) with
  | some (value, rest) => if (skipBlanks rest).isEmpty then some value else none
  | none => none

/-! Building the dicts: the last of several equal keys wins, in the place of the
first. -/

def setAll (members : Members) : Members → Members
  | [] => members
  | (.str k, v) :: rest => setAll (Members.set k v members) rest
  | _ :: rest => setAll members rest

mutual
def build : Value → Value
  | .list items => .list (buildItems items)
  | .dict members => .dict (setAll [] (buildMembers members))
  | v => v

def buildItems : List Value → List Value
  | [] => []
  | v :: rest => build v :: buildItems rest

def buildMembers : Members → Members
  | [] => []
  | (k, v) :: rest => (k, build v) :: buildMembers rest
end

/-- `json.loads`; `none` is `JSONDecodeError`. -/
def loads (text : Text) : Option Value :=
  (parse text).map build

end SelfConnect.Python.Json
