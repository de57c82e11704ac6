import SelfConnect.Identity
import SelfConnect.Library.Binary64
import SelfConnect.Library.Outcomes
import SelfConnect.Python.Codec

namespace SelfConnect.Handshake

open SelfConnect.Python SelfConnect.Library

/-! One challenge-response cycle, from the initiator's side. A clock reading is the rational
that `time.time()` returns. -/

/-- The verifiers of the two schemes: message, signature and public key. -/
structure Schemes where
  ed25519 : Ed25519Verify
  p384 : Bytes → Bytes → Bytes → Bool

/-- `float(text)` and `int(text)`; `none` is `ValueError`. -/
structure Parsers where
  floatOf : Str → Option PyFloat
  intOf : Str → Option Int

/-! `birth_tag_v2`. -/

/-- `str(x)`. -/
def floatText : PyFloat → Text
  | .nan => "nan".toList
  | .infinity true => "-inf".toList
  | .infinity false => "inf".toList
  | .finite x => (PyFloat.finite x).text

def buildPayload (agentId : Str) (pid : Int) (ctime : Str) (born ts : PyFloat) : Bytes :=
  encode (Json.render .compact (.object [
    ("scborn", .str (Str.ofText (floatText born))), ("scctime", .str ctime),
    ("scid", .str agentId), ("scpid", .str (Str.ofText (intText pid))),
    ("ts", .str (Str.ofText (floatText ts)))]))

/-- The properties of a window, as they are read for one verification; an absent property
reads as the empty string. -/
structure Window where
  scid : Str
  scpid : Str
  scctime : Str
  scborn : Str
  scidSig : Str
  scidSts : Str

inductive TagFailure
  | missingSig
  | missingSts
  | stsNotFloat
  | invalidWindow
  | inFuture
  | expired
  | missingProperties
  | bornNotFloat
  | pidNotInt
  | sigNotHex
  | signature

def maxAgeSeconds : ℚ := 60

section Verify

variable (schemes : Schemes) (parsers : Parsers)

def checkFreshness (ts : PyFloat) (maxAge current : ℚ) : Except TagFailure Unit := do
  insist (0 < maxAge) .invalidWindow
  match Number.ofFloat ts with
  | .finite q => do
      insist (q ≤ Binary64.round (current + 5)) .inFuture
      insist (Binary64.round (current - q) ≤ maxAge) .expired
  | _ => .error .inFuture

def verifySignedBirthTag (window : Window) (publicKey : Bytes) (maxAge current : ℚ) :
    Except TagFailure Unit := do
  insist (!window.scidSig.isEmpty) .missingSig
  insist (!window.scidSts.isEmpty) .missingSts
  let ts ← present (parsers.floatOf window.scidSts) .stsNotFloat
  checkFreshness ts maxAge current
  insist ([window.scid, window.scpid, window.scctime, window.scborn].all fun field =>
    !field.isEmpty) .missingProperties
  let born ← present (parsers.floatOf window.scborn) .bornNotFloat
  let pid ← present (parsers.intOf window.scpid) .pidNotInt
  let sig ← present (fromHex window.scidSig) .sigNotHex
  insist (schemes.ed25519 (buildPayload window.scid pid window.scctime born ts) sig publicKey)
    .signature

/-! `handshake`. -/

/-- `f"{nonce}:{initiator_hwnd}".encode()`; a listener that was not started has no handle. -/
def signedBytes (nonce : Text) (initiatorHwnd : Option Int) : Bytes :=
  encode (nonce ++ ':' :: (initiatorHwnd.elim "None".toList intText))

def cngBindingBytes (nonce : Text) (ed25519PublicKey : Bytes) : Bytes :=
  encode nonce ++ ed25519PublicKey

inductive Failure
  | unreachable
  | timeout
  | nonceMismatch
  | missingEd25519
  | invalidEd25519Hex
  | invalidKspHex
  | agentIdMismatch (claimed : Value) (expected : Str)
  | kspSignature
  | ed25519Signature
  | missingTagSignature
  | missingPublicKey
  | birthTag (failure : TagFailure)
  /-- An exception of another kind, which `run` does not catch. -/
  | raised

/-- `bytes.fromhex(value)`. -/
def hexBytes (value : Value) (invalid : Failure) : Except Failure Bytes := do
  let text ← present value.str? .raised
  present (fromHex text) invalid

def field (packet : Value) (name : String) : Value :=
  packet.getD name (Value.lit "")

/-- `cng_verify`. -/
def cngVerify (message signature publicKey : Bytes) : Bool :=
  publicKey.length = 96 && schemes.p384 message signature publicKey

def verifyBinding (packet : Value) (nonce : Text) (ed25519PublicKey : Bytes) :
    Except Failure Unit := do
  let p384PublicKey ← hexBytes (field packet "platform_ksp_pubkey") .invalidKspHex
  let p384Signature ← hexBytes (field packet "platform_ksp_sig") .invalidKspHex
  insist ((Value.str (agentIdOf false p384PublicKey)).eqv (field packet "agent_id"))
    (.agentIdMismatch (field packet "agent_id") (agentIdOf false p384PublicKey))
  insist (cngVerify schemes (cngBindingBytes nonce ed25519PublicKey) p384Signature p384PublicKey)
    .kspSignature

def hasBinding (packet : Value) : Bool :=
  (field packet "platform_ksp_pubkey").truthy && (field packet "platform_ksp_sig").truthy

/-- `verify_peer`: whether Gap C is closed. -/
def verifyPeer (packet : Value) (nonce : Text) (initiatorHwnd : Option Int) :
    Except Failure Bool := do
  insist ((field packet "ed25519_pubkey").truthy && (field packet "ed25519_sig").truthy)
    .missingEd25519
  let publicKey ← hexBytes (field packet "ed25519_pubkey") .invalidEd25519Hex
  let signature ← hexBytes (field packet "ed25519_sig") .invalidEd25519Hex
  if hasBinding packet then verifyBinding schemes packet nonce publicKey else .ok ()
  insist (schemes.ed25519 (signedBytes nonce initiatorHwnd) signature publicKey)
    .ed25519Signature
  .ok (hasBinding packet)

/-- A candidate of `discover_mesh`, as far as a handshake reads it. -/
structure BirthTag where
  hwnd : Int
  agentId : Str

structure HandshakePeer where
  agentId : Str
  hwnd : Int
  publicKeyHex : Str
  gapCClosed : Bool

/-- What the window of the candidate and the clock show once the response is verified. -/
structure Reading where
  scidSig : Str
  window : Window
  current : ℚ

/-- `run`, from the response on. -/
def judge (tag : BirthTag) (nonce : Text) (initiatorHwnd : Option Int) (reading : Reading)
    (response : Value) : Except Failure HandshakePeer := do
  insist response.isDict .raised
  insist ((response.getD "nonce" .null).eqv (.str (Str.ofText nonce))) .nonceMismatch
  let gapCClosed ← verifyPeer schemes response nonce initiatorHwnd
  let publicKeyHex ← present (field response "ed25519_pubkey").str? .raised
  let publicKey ← present (fromHex publicKeyHex) .raised
  insist (!reading.scidSig.isEmpty) .missingTagSignature
  insist (!publicKey.isEmpty) .missingPublicKey
  (verifySignedBirthTag schemes parsers reading.window publicKey maxAgeSeconds
    reading.current).mapError .birthTag
  .ok ⟨tag.agentId, tag.hwnd, publicKeyHex, gapCClosed⟩

/-- `HandshakeInitiator.run`: whether the challenge was delivered, and the response that was
there when the wait ended. -/
def run (tag : BirthTag) (nonce : Text) (initiatorHwnd : Option Int) (sent : Bool)
    (response : Option Value) (reading : Reading) : Except Failure HandshakePeer := do
  insist sent .unreachable
  let received ← present response .timeout
  judge schemes parsers tag nonce initiatorHwnd reading received

end Verify

end SelfConnect.Handshake
