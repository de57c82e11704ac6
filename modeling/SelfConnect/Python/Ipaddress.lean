import SelfConnect.Python.Digits

namespace SelfConnect.Python

/-! `ipaddress.ip_address` and `ipaddress.ip_network` on text. Whatever they refuse is a
`ValueError`, so a reading is an option. -/

namespace Str

def split (separator : CodePoint) : Str → List Str
  | [] => [[]]
  | c :: rest =>
      if c = separator then [] :: split separator rest
      else
        match split separator rest with
        | [] => [[c]]
        | part :: parts => (c :: part) :: parts

end Str

namespace Ipaddress

def colon : CodePoint := .ofChar ':'
def dot : CodePoint := .ofChar '.'
def slash : CodePoint := .ofChar '/'
def percent : CodePoint := .ofChar '%'

def parseOctet (octet : Str) : Option Nat :=
  if octet = [] ∨ octet.asciiDigits = false ∨ 3 < octet.length ∨
      (octet ≠ Str.lit "0" ∧ octet.head? = some (.ofChar '0')) then none
  else
    match octet.digitsInt with
    | none => none
    | some value => if 255 < value then none else some value

namespace V4

def ipInt (text : Str) : Option Nat :=
  if text = [] then none
  else
    let octets := text.split dot
    if octets.length = 4 then
      (octets.mapM parseOctet).map fun values => values.foldl (fun ip octet => 256 * ip + octet) 0
    else none

def address (text : Str) : Option Nat :=
  if slash ∈ text then none else ipInt text

/-- Whether an address is ones followed by zeros. -/
def isMask (ip : Nat) : Bool :=
  (List.range 33).any fun prefixlen => ip = 2 ^ 32 - 2 ^ (32 - prefixlen)

def validPrefix (text : Str) (width : Nat) : Bool :=
  !text.isEmpty && text.asciiDigits &&
    match text.digitsInt with
    | none => false
    | some prefixlen => prefixlen ≤ width

/-- A prefix length, a netmask or a hostmask. -/
def validNetmask (text : Str) : Bool :=
  validPrefix text 32 ||
    match ipInt text with
    | none => false
    | some ip => isMask ip || isMask (2 ^ 32 - 1 - ip)

end V4

namespace V6

def isHexDigit (c : CodePoint) : Bool :=
  c.isAsciiDigit || (0x41 ≤ c.val && c.val ≤ 0x46) || (0x61 ≤ c.val && c.val ≤ 0x66)

def hexDigit (c : CodePoint) : Nat :=
  if c.isAsciiDigit then c.val - 0x30 else if c.val ≤ 0x46 then c.val - 0x37 else c.val - 0x57

/-- `int("", 16)` is a `ValueError` too. -/
def parseHextet (hextet : Str) : Option Nat :=
  if hextet.all isHexDigit = false ∨ 4 < hextet.length ∨ hextet = [] then none
  else some (hextet.foldl (fun value c => 16 * value + hexDigit c) 0)

def hexNumeral (n : Nat) : Str :=
  .ofText (Nat.toDigits 16 n)

/-- An IPv4-style suffix becomes two hextets. -/
def expandSuffix (parts : List Str) : Option (List Str) :=
  match parts.getLast? with
  | none => none
  | some last =>
      if dot ∈ last then
        match V4.address last with
        | none => none
        | some ip => some (parts.dropLast ++ [hexNumeral (ip / 65536), hexNumeral (ip % 65536)])
      else some parts

/-- The places of `::`: empty parts between the first and the last one. -/
def skips (parts : List Str) : List Nat :=
  (List.range parts.length).filter fun i =>
    0 < i && i + 1 < parts.length && parts.getD i [] = []

def joinHextets (high low : List Str) (skipped : Nat) : Option Nat :=
  match high.mapM parseHextet, low.mapM parseHextet with
  | some above, some below =>
      some (below.foldl (fun ip hextet => 65536 * ip + hextet)
        (65536 ^ skipped * above.foldl (fun ip hextet => 65536 * ip + hextet) 0))
  | _, _ => none

def ipInt (text : Str) : Option Nat :=
  let raw := text.split colon
  if text = [] ∨ raw.length < 3 then none
  else
    match expandSuffix raw with
    | none => none
    | some parts =>
        if 9 < parts.length then none
        else
          let leading := parts.head? = some []
          let trailing := parts.getLast? = some []
          match skips parts with
          | [] =>
              if parts.length = 8 ∧ ¬ leading ∧ ¬ trailing then joinHextets parts [] 0 else none
          | [skip] =>
              let high := if leading then skip - 1 else skip
              let low := parts.length - skip - 1 - if trailing then 1 else 0
              if (leading ∧ high ≠ 0) ∨ (trailing ∧ low ≠ 0) ∨ 8 ≤ high + low then none
              else
                joinHextets (parts.take high) (parts.drop (parts.length - low)) (8 - (high + low))
          | _ => none

/-- The address before `%` and the scope after it. -/
def splitScope (text : Str) : Option Str :=
  let front := text.takeWhile (· ≠ percent)
  match text.dropWhile (· ≠ percent) with
  | [] => some front
  | _ :: scope => if scope = [] ∨ percent ∈ scope then none else some front

def address (text : Str) : Option Nat :=
  if slash ∈ text then none
  else
    match splitScope text with
    | none => none
    | some front => ipInt front

end V6

def isAddress (text : Str) : Bool :=
  (V4.address text).isSome || (V6.address text).isSome

/-- `ip_network(text, strict=False)`: a mask that is missing is the full one. -/
def isNetwork (text : Str) : Bool :=
  match text.split slash with
  | [addr] => isAddress addr
  | [addr, mask] =>
      ((V4.address addr).isSome && V4.validNetmask mask) ||
        ((V6.address addr).isSome && V4.validPrefix mask 128)
  | _ => false

example : isAddress (.lit "fe80::1%eth0") = true ∧ isAddress (.lit "::ffff:10.0.0.1") = true ∧
    isAddress (.lit "1:2:3:4:5:6:7::") = true ∧ isAddress (.lit "::1:443") = true ∧
    isAddress (.lit "127.0.0.01") = false ∧ isAddress (.lit "1:::2") = false ∧
    isNetwork (.lit "10.0.0.7/0.255.255.255") = true ∧ isNetwork (.lit "::1/129") = false := by
  decide +kernel

end Ipaddress

end SelfConnect.Python
