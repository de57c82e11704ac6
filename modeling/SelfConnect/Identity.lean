import SelfConnect.Python.Hashlib

namespace SelfConnect

open SelfConnect.Python

/-- The permanent identifier of a public key: eight digits of its digest, in upper
case. -/
def agentIdOf (ed25519 : Bool) (publicKey : Bytes) : Str :=
  Str.ofText ("SC-".toList ++
    ((hexText (if ed25519 then sha256 publicKey else sha384 publicKey)).take 8).map Char.toUpper)

/-- An agent's Ed25519 key pair, as far as it signs. -/
structure AgentIdentity where
  publicKey : Bytes
  sign : Bytes → Bytes

def AgentIdentity.agentId (identity : AgentIdentity) : Str :=
  agentIdOf true identity.publicKey

/-- Ed25519 verification, which lives in the `cryptography` package. -/
abbrev Ed25519Verify := (message signature publicKey : Bytes) → Bool

/-- The identity's signatures verify under its key. -/
def AgentIdentity.Signs (verify : Ed25519Verify) (identity : AgentIdentity) : Prop :=
  ∀ message, verify message (identity.sign message) identity.publicKey = true

theorem joinSurrogates_agentIdOf (ed25519 : Bool) (publicKey : Bytes) :
    Str.joinSurrogates (agentIdOf ed25519 publicKey) = agentIdOf ed25519 publicKey :=
  Str.joinSurrogates_ofText _

end SelfConnect
