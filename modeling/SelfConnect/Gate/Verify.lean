import SelfConnect.Library.Binary64
import SelfConnect.Library.Outcomes
import SelfConnect.Python.Base64
import SelfConnect.Python.Codec
import SelfConnect.Python.Dict

namespace SelfConnect.Gate

open SelfConnect.Python SelfConnect.Library

/-! Local verification of a request's headers, up to its nonce. A clock reading is the
rational that `time.time()` returns, and arithmetic with it is rounded. -/

/-! `bpc_crypto`. -/

def b64url (data : Bytes) : Text :=
  (urlsafeEncode data).filter (· ≠ '=')

def b64urlDecode (s : Str) : Option Bytes :=
  urlsafeDecode (s ++ List.replicate ((4 - s.length % 4) % 4) (CodePoint.ofChar '='))

/-- `s.encode("utf-8")`; `none` is `UnicodeEncodeError`. -/
def utf8 (s : Str) : Option Bytes :=
  s.toText?.map encode

def forbiddenKeys : List Str :=
  ["__proto__", "constructor", "prototype", "__defineGetter__", "__defineSetter__",
    "__lookupGetter__", "__lookupSetter__"].map Str.lit

/-- What `canonicalize` lets into a payload. -/
def plainEntry : Key × Value → Bool
  | (_, .dict _) => false
  | (_, .list _) => false
  | (.str key, _) => !forbiddenKeys.contains key
  | _ => true

def encodableEntry : Key × Value → Bool
  | (key, .str s) => Json.encodable key.text && Json.encodable s
  | (key, _) => Json.encodable key.text

/-- `canonicalize(obj).encode("utf-8")`; `none` is an exception. -/
def canonicalize : Value → Option Bytes
  | .dict members =>
      if members.all plainEntry && members.all encodableEntry then
        (Json.dumpsSorted .compactUnicode (.dict members)).map encode
      else none
  | _ => none

structure Jwk where
  x : Str
  y : Str

/-- ECDSA on P-256 with SHA-256: the point, the message, and the two halves of the
signature. -/
abbrev Ecdsa : Type := Nat → Nat → Bytes → Nat → Nat → Bool

def verifyPayloadWithJwk (ecdsa : Ecdsa) (jwk : Jwk) (payload : Value) (signature : Str) : Bool :=
  match b64urlDecode jwk.x, b64urlDecode jwk.y, canonicalize payload, b64urlDecode signature with
  | some x, some y, some canonical, some sig =>
      sig.length = 64 && ecdsa (fromBigEndian x) (fromBigEndian y) canonical
        (fromBigEndian (sig.take 32)) (fromBigEndian (sig.drop 32))
  | _, _, _, _ => false

def bodyHash (body : Str) : Option Str :=
  (utf8 body).map fun bytes => Str.ofText (b64url (sha256 bytes))

def constantTimeEqual (a b : Str) : Option Bool :=
  (utf8 a).bind fun first => (utf8 b).map fun second => first == second

/-! `tsk_client`. -/

structure SegmentConfig where
  segLen : Int

structure TSKClientState where
  sharedSecret : Str
  segments : List SegmentConfig

def checksumLength : Nat := 12

/-- `validate_hex_secret`, and the secret's bytes. -/
def secretBytes (secret : Str) : Option Bytes :=
  if secret.length = 64 && secret.all (fun c => (hexValueOf c).isSome) then fromHex secret
  else none

def hmacRaw (secret : Bytes) (data : Text) : Text :=
  b64url (hmacSha256 secret (encode data))

/-- The loop of `_pad_or_truncate`; a round adds characters, so that `length` rounds are
enough. -/
def padRounds (secret : Bytes) (length : Nat) : Nat → Nat → Text → Text
  | 0, _, result => result
  | fuel + 1, round, result =>
      if result.length < length then
        padRounds secret length fuel (round + 1)
          (result ++ hmacRaw secret ("pad:".toList ++ natText round ++ [':'] ++ result))
      else result

def padOrTruncate (secret : Bytes) (s : Text) (length : Nat) : Text :=
  (padRounds secret length length 0 s).take length

def computeChecksum (sharedSecret keyBody : Str) : Option Str :=
  (secretBytes sharedSecret).bind fun secret => keyBody.toText?.map fun body =>
    Str.ofText
      (padOrTruncate secret (hmacRaw secret ("checksum:".toList ++ body)) checksumLength)

/-! `verify_local`. -/

structure PeerBinding where
  pubJwk : Jwk
  tskClientId : Str
  tskState : Option TSKClientState

def TSKClientState.keyLength (state : TSKClientState) : Int :=
  (state.segments.map SegmentConfig.segLen).sum + checksumLength

inductive Refusal
  | missingHeaders
  | pairMismatch (got : Str)
  | noBinding (peer : Str)
  | noTskState
  | clientMismatch (got : Str)
  | keyLengthMismatch (got expected : Int)
  | signedPairMismatch
  | outOfWindow (distance : Number)
  | bodyHashMismatch
  | invalidSignature
  | checksumMismatch
  | missingNonce
  | replay
  | error

/-- `int(now * 1000)`. -/
def milliseconds (now : ℚ) : Int := Binary64.trunc (Binary64.round (now * 1000))

/-- `abs(now_ms - ts)`; `none` is `TypeError`. -/
def distance? (nowMs : Int) : Value → Option Number
  | .int ts => some (.finite |(nowMs - ts : ℚ)|)
  | .bool ts => some (.finite |nowMs - (if ts then 1 else 0 : ℚ)|)
  | .float ts =>
      some (match Number.ofFloat ts with
        | .nan => .nan
        | .infinity _ => .infinity false
        | .finite q => .finite |Binary64.round (Binary64.round nowMs - q)|)
  | _ => none

/-- A request whose checks passed, when they did. -/
structure Verified where
  nonce : Str
  nowMs : Int
  payload : Value

section Verify

variable (ecdsa : Ecdsa)

def signedNonce (payload : Value) : Except Refusal Str :=
  match payload.getD "nonce" (Value.lit "") with
  | .str nonce => do
      insist (!nonce.isEmpty) .missingNonce
      .ok nonce
  | _ => .error .missingNonce

def checkBodyHash (payload : Value) (text : Str) : Except Refusal Unit := do
  let expected ← present (bodyHash text) .error
  let claimed ← present (payload.getD "body_hash" (Value.lit "")).str? .error
  let same ← present (constantTimeEqual claimed expected) .error
  insist same .bodyHashMismatch

def checkChecksum (state : TSKClientState) (tskKey : Str) : Except Refusal Unit := do
  let body := tskKey.take (tskKey.length - checksumLength)
  let expected ← present (computeChecksum state.sharedSecret body) .error
  let same ← present (constantTimeEqual (tskKey.drop (tskKey.length - checksumLength)) expected) .error
  insist same .checksumMismatch

def checkWindow (nowMs : Int) (payload : Value) : Except Refusal Unit := do
  let distance ← present (distance? nowMs (payload.getD "timestamp" (.int 0))) .error
  insist (!(Number.finite 60000).lt distance) (.outOfWindow distance)

/-- `verify_local` up to `_consume_nonce`, at a clock reading. -/
def verifyRequest (bindings : Dict Str PeerBinding) (now : ℚ) (headers : Dict Str Str)
    (text peerPairId : Str) : Except Refusal Verified := do
  let signedData := headers.getD (Str.lit "X-BPC-Signed-Data") []
  let signature := headers.getD (Str.lit "X-BPC-Signature") []
  let pairId := headers.getD (Str.lit "X-BPC-Pair-ID") []
  let tskKey := headers.getD (Str.lit "X-TSK-Key") []
  let tskClientId := headers.getD (Str.lit "X-TSK-Client-ID") []
  insist ([signedData, signature, pairId, tskKey, tskClientId].all fun field => !field.isEmpty)
    .missingHeaders
  insist (pairId == peerPairId) (.pairMismatch pairId)
  let binding ← present (bindings.get? peerPairId) (.noBinding peerPairId)
  let state ← present binding.tskState .noTskState
  insist (tskClientId == binding.tskClientId) (.clientMismatch tskClientId)
  insist (tskKey.length = state.keyLength) (.keyLengthMismatch tskKey.length state.keyLength)
  let payload ← present ((b64urlDecode signedData).bind Json.loadBytes) .error
  insist payload.isDict .error
  insist ((payload.getD "pair_id" .null).eqv (.str pairId)) .signedPairMismatch
  let nowMs := milliseconds now
  checkWindow nowMs payload
  checkBodyHash payload text
  insist (verifyPayloadWithJwk ecdsa binding.pubJwk payload signature) .invalidSignature
  checkChecksum state tskKey
  let nonce ← signedNonce payload
  .ok ⟨nonce, nowMs, payload⟩

variable {ecdsa} {bindings : Dict Str PeerBinding} {now : ℚ} {headers : Dict Str Str}
  {text peerPairId : Str} {verified : Verified}

/-- A distance that is not more than a minute, or not a number at all. -/
theorem checkWindow_eq_ok {nowMs : Int} {payload : Value} {u : Unit} :
    checkWindow nowMs payload = .ok u ↔
      ∃ distance, distance? nowMs (payload.getD "timestamp" (.int 0)) = some distance ∧
        (Number.finite 60000).lt distance = false := by
  simp only [checkWindow, bind_eq_ok, present_eq_ok, insist_eq_ok, Bool.not_eq_true']

theorem window_of_verifyRequest
    (passed : verifyRequest ecdsa bindings now headers text peerPairId = .ok verified) :
    verified.nowMs = milliseconds now ∧
      checkWindow verified.nowMs verified.payload = .ok () := by
  simp only [verifyRequest, bind_eq_ok, insist_eq_ok, present_eq_ok, exists_and_left, exists_const]
    at passed
  obtain ⟨-, -, binding, -, state, -, -, -, payload, -, -, -, ⟨⟩, window, ⟨⟩, -, -, ⟨⟩, -, nonce,
    -, isVerified⟩ := passed
  cases isVerified
  exact ⟨rfl, window⟩

end Verify

end SelfConnect.Gate
