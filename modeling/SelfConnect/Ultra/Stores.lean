import Mathlib.Logic.Function.Basic
import SelfConnect.Js.Json
import SelfConnect.Library.Outcomes

namespace SelfConnect.Ultra

open SelfConnect.Js SelfConnect.Library

/-! The identity bindings and the idempotency keys of the server, and what its lifecycle
routes reply. -/

/-- `req.scAgent` -/
structure Agent where
  agentId : Text
  canonicalId : Text
  publicKeyHex : Text
  deriving DecidableEq

structure Binding where
  tskClientId : Text
  agentId : Text
  canonicalId : Text
  agentPublicKeyHex : Text
  deriving DecidableEq

def isLowerHex (u : UInt16) : Bool := isDigit u || (0x61 ≤ u && u ≤ 0x66)

def isHex (u : UInt16) : Bool := isLowerHex u || (0x41 ≤ u && u ≤ 0x46)

def upperUnit (u : UInt16) : UInt16 := if isLower u then u - 0x20 else u
def lowerUnit (u : UInt16) : UInt16 := if isUpper u then u + 0x20 else u

/-- `/^[0-9a-f]{64}$/` -/
def isHex64 (value : Text) : Bool := matchesRun isLowerHex 64 64 value

/-- The ids that a key gives, where `sha256` is the digest of the bytes it spells. -/
def identityPrincipalsFromPublicKeyHex (sha256 : Text → Text) (agentPublicKeyHex : Text) :
    Option (Text × Text) :=
  if isHex64 agentPublicKeyHex then
    let digest := sha256 agentPublicKeyHex
    some (text "SC-" ++ (digest.take 8).map upperUnit, text "SCID-" ++ digest)
  else none

/-- The binding itself, if it is valid. -/
def validateIdentityBinding (sha256 : Text → Text) (binding : Binding) : Option Binding :=
  if binding.tskClientId ≠ [] ∧
      identityPrincipalsFromPublicKeyHex sha256 binding.agentPublicKeyHex =
        some (binding.agentId, binding.canonicalId) then some binding
  else none

theorem eq_of_validateIdentityBinding {sha256 : Text → Text} {binding valid : Binding}
    (isValid : validateIdentityBinding sha256 binding = some valid) : valid = binding := by
  unfold validateIdentityBinding at isValid
  split at isValid
  · exact (Option.some.inj isValid).symm
  · cases isValid

def bindingOwnedBy (binding : Binding) (agent : Agent) : Bool :=
  binding.agentId = agent.agentId && binding.canonicalId = agent.canonicalId &&
    binding.agentPublicKeyHex = agent.publicKeyHex

/-- A row of `ultra_idempotency`; it is complete once it has a response. -/
structure Entry where
  operation : Text
  agentId : Text
  response : Option Json

/-- What a condition makes of a value that may be missing. -/
def truthy : Option Json → Option Json
  | none => none
  | some .null => none
  | some (.bool false) => none
  | some (.num value) => if value = 0 then none else some (.num value)
  | some (.str []) => none
  | some value => some value

theorem eq_of_truthy {value : Option Json} {found : Json} (isTruthy : truthy value = some found) :
    value = some found := by
  unfold truthy at isTruthy
  split at isTruthy
  · cases isTruthy
  · cases isTruthy
  · cases isTruthy
  · split at isTruthy
    · cases isTruthy
    · cases isTruthy
      rfl
  · cases isTruthy
  · exact isTruthy

/-- `/^[0-9a-f]{8}-[0-9a-f]{4}-[1-5][0-9a-f]{3}-[89ab][0-9a-f]{3}-[0-9a-f]{12}$/i` -/
def isUuid (value : Text) : Bool :=
  value.length = 36 && (List.range 36).all fun i =>
    let u := value.getD i 0
    if i = 8 ∨ i = 13 ∨ i = 18 ∨ i = 23 then u = 0x2D
    else if i = 14 then 0x31 ≤ u && u ≤ 0x35
    else if i = 19 then (text "89abAB").contains u
    else isHex u

/-- The members of an object in the order of their keys. -/
def sortMembers {α : Type} (members : List (Text × α)) : List (Text × α) :=
  members.mergeSort fun first second => decide (first.1 ≤ second.1)

section CanonicalJson

variable (stringify : Json → Text)

mutual

/-- `canonicalJson`; `stringify` is `JSON.stringify` of what is neither an array nor an object. -/
def canonicalJson : Json → Text
  | .arr items => text "[" ++ (text ",").intercalate (canonicalItems items) ++ text "]"
  | .obj members =>
      let pairs := (sortMembers (canonicalMembers members)).map fun member =>
        stringify (.str member.1) ++ text ":" ++ member.2
      text "\x7b" ++ (text ",").intercalate pairs ++ text "\x7d"
  | value => stringify value

def canonicalItems : List Json → List Text
  | [] => []
  | item :: rest => canonicalJson item :: canonicalItems rest

def canonicalMembers : List (Text × Json) → List (Text × Text)
  | [] => []
  | (key, value) :: rest => (key, canonicalJson value) :: canonicalMembers rest

end

end CanonicalJson

inductive Reply
  | json (status : Nat) (body : Json)
  /-- `res.status(500)` with the text of what was thrown. -/
  | raised

def okBody : Json := .obj [(text "ok", .bool true)]

def errorBody (error : String) : Json := .obj [(text "error", .str (text error))]

def refusalBody (error : String) : Json :=
  .obj [(text "ok", .bool false), (text "error", .str (text error))]

def refusal (status : Nat) (error : String) : Reply := .json status (refusalBody error)

end SelfConnect.Ultra
