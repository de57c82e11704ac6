import SelfConnect.Gate.Replay
import SelfConnect.Python.Json.Lines
import SelfConnect.Python.Json.Limits
import SelfConnect.Python.Json.Sorted

namespace SelfConnect.Gate

open SelfConnect.Python SelfConnect.Library

/-! The headers of an injection, and the binding a peer verifies them with. -/

/-! `tsk_client`. -/

/-- What its client knows of a segment. -/
structure ClientSegment extends SegmentConfig where
  segmentId : Str
  type : Str
  windowSec : Int
  counter : Int

/-- A client's own state, with the secret it has decoded. -/
structure ClientState where
  clientId : Str
  sharedSecret : Str
  segments : List ClientSegment
  hotpCounters : Dict Str Int
  secret : Bytes
  isSecret : secretBytes sharedSecret = some secret

/-- What a verifier reads of it. -/
def ClientState.stored (state : ClientState) : TSKClientState :=
  ⟨state.sharedSecret, state.segments.map ClientSegment.toSegmentConfig⟩

/-- `str(n)`; `none` is `ValueError`. -/
def decimalText (n : Int) : Option Text :=
  if (natText n.natAbs).length ≤ Json.maxDigits then some (intText n) else none

/-- `float(n)`; `none` is `OverflowError`. -/
def float? (n : Int) : Option ℚ :=
  if |Binary64.round n| < 2 ^ 1024 then some (Binary64.round n) else none

/-- `int(now_ms / 1000 / window_sec)`. -/
def timeStep (nowMs windowSec : Int) : Option Int :=
  (float? (if 0 < windowSec then windowSec else 60)).map fun window =>
    Binary64.trunc (Binary64.round (Binary64.round (nowMs / 1000) / window))

/-- `s[:length]` after `_pad_or_truncate` has padded; a negative length counts from the
end. -/
def fitTo (secret : Bytes) (s : Text) (length : Int) : Text :=
  if 0 ≤ length then padOrTruncate secret s length.toNat else s.take (s.length - length.natAbs)

def derivationInput (seg : ClientSegment) (nowMs hotpCounter : Int) : Option Text :=
  seg.segmentId.toText?.bind fun segmentId =>
    if seg.type = Str.lit "static" then some ("static:".toList ++ segmentId)
    else if seg.type = Str.lit "totp" then
      ((timeStep nowMs seg.windowSec).bind decimalText).map fun step =>
        "totp:".toList ++ segmentId ++ ':' :: step
    else
      (decimalText hotpCounter).map fun counter =>
        "hotp:".toList ++ segmentId ++ ':' :: counter

def deriveSegmentValue (secret : Bytes) (seg : ClientSegment) (nowMs hotpCounter : Int) :
    Option Text :=
  (derivationInput seg nowMs hotpCounter).map fun input =>
    fitTo secret (hmacRaw secret input) seg.segLen

def generateTskKey (state : ClientState) (nowMs : Int) : Option Str := do
  let parts ← state.segments.mapM fun seg =>
    deriveSegmentValue state.secret seg nowMs (state.hotpCounters.getD seg.segmentId seg.counter)
  let keyBody := Str.ofText parts.flatten
  let checksum ← computeChecksum state.sharedSecret keyBody
  return keyBody ++ checksum

/-! `bpc_crypto`. -/

/-- A private key: its point, and how it signs. -/
structure SigningKey (ecdsa : Ecdsa) where
  x : Nat
  y : Nat
  sign : Bytes → Nat × Nat
  onField : x < 256 ^ 32 ∧ y < 256 ^ 32
  bounded : ∀ message, (sign message).1 < 256 ^ 32 ∧ (sign message).2 < 256 ^ 32
  verifies : ∀ message, ecdsa x y message (sign message).1 (sign message).2 = true

def SigningKey.jwk {ecdsa : Ecdsa} (key : SigningKey ecdsa) : Jwk :=
  ⟨Str.ofText (b64url (bigEndian 32 key.x)), Str.ofText (b64url (bigEndian 32 key.y))⟩

def signPayload {ecdsa : Ecdsa} (key : SigningKey ecdsa) (payload : Value) : Option Text :=
  (canonicalize payload).map fun canonical =>
    b64url (bigEndian 32 (key.sign canonical).1 ++ bigEndian 32 (key.sign canonical).2)

/-- HKDF of one block, and base64. -/
def hashSecret (secret : Str) : Option Text :=
  if secret = [] then none
  else
    (utf8 secret).map fun keyMaterial =>
      b64url (hmacSha256 (hmacSha256 (encode "bpc-protocol-hmac-salt-v1".toList) keyMaterial)
        (encode "bpc-v1-hmac-key".toList ++ [1]))

def hmacDerive (keyMaterial data : Text) : Option Text :=
  if keyMaterial = [] then none
  else
    (b64urlDecode (Str.ofText keyMaterial)).map fun key =>
      b64url (hmacSha256 key (encode data))

/-- `str(uuid.uuid4())` of sixteen random bytes. -/
def generateNonce (random : Bytes) : Text :=
  let digits := hexText ((random.set 6 (UInt8.ofNat (0x40 + (random.getD 6 0).toNat % 0x10))).set 8
    (UInt8.ofNat (0x80 + (random.getD 8 0).toNat % 0x40)))
  digits.take 8 ++ '-' :: ((digits.drop 8).take 4 ++ '-' :: ((digits.drop 12).take 4 ++
    '-' :: ((digits.drop 16).take 4 ++ '-' :: digits.drop 20)))

/-! `build_injection_request`. -/

/-- The gate of an agent after its bootstrap. -/
structure Sender (ecdsa : Ecdsa) where
  key : SigningKey ecdsa
  secretHash : Text
  isHash : ∃ meshSecret, hashSecret meshSecret = some secretHash
  pairId : Str
  tskState : ClientState

/-- `f"/terminal/{target_hwnd:#010x}"`. -/
def targetPath (targetHwnd : Int) : Text :=
  let sign := if targetHwnd < 0 then ['-'] else []
  let digits := Nat.toDigits 16 targetHwnd.natAbs
  "/terminal/".toList ++ sign ++ ['0', 'x'] ++
    List.replicate (8 - (sign.length + digits.length)) '0' ++ digits

def canonicalPayload (bodyHash pairId : Str) (nonce path secretHmac : Text) (nowMs : Int) :
    Value :=
  .object [("body_hash", .str bodyHash), ("method", .lit "POST"),
    ("nonce", .str (Str.ofText nonce)), ("pair_id", .str pairId),
    ("path", .str (Str.ofText path)), ("secret_hmac", .str (Str.ofText secretHmac)),
    ("timestamp", .int nowMs), ("version", .lit "1.0")]

def requestHeaders (pairId clientId : Str) (canonical : Bytes) (signature : Text) (tskKey : Str)
    (path : Text) : Dict Str Str :=
  (((((((Dict.empty.set (Str.lit "X-BPC-Pair-ID") pairId).set
    (Str.lit "X-BPC-Signed-Data") (Str.ofText (b64url canonical))).set
    (Str.lit "X-BPC-Signature") (Str.ofText signature)).set
    (Str.lit "X-BPC-Version") (Str.lit "1.0")).set
    (Str.lit "X-TSK-Client-ID") clientId).set
    (Str.lit "X-TSK-Key") tskKey).set
    (Str.lit "X-TSK-Version") (Str.lit "1")).set
    (Str.lit "X-Target-Path") (Str.ofText path)

/-- None where it raises. -/
def Sender.buildInjectionRequest {ecdsa : Ecdsa} (sender : Sender ecdsa) (now : ℚ)
    (random : Bytes) (targetHwnd : Int) (text : Str) : Option (Dict Str Str) := do
  let nowMs := milliseconds now
  let nonce := generateNonce random
  let path := targetPath targetHwnd
  let bh ← bodyHash text
  let time ← decimalText nowMs
  let secretHmac ← hmacDerive sender.secretHash (nonce ++ time)
  let payload := canonicalPayload bh sender.pairId nonce path secretHmac nowMs
  let signature ← signPayload sender.key payload
  let tskKey ← generateTskKey sender.tskState nowMs
  let canonical ← canonicalize payload
  return requestHeaders sender.pairId sender.tskState.clientId canonical signature tskKey path

/-! `register_peer_binding`. -/

deriving instance DecidableEq for SegmentConfig
deriving instance DecidableEq for ClientSegment

/-- The binding of a peer, whole. -/
structure Registration where
  pubJwk : Jwk
  fingerprint : Text
  tskClientId : Str
  tskState : ClientState

def computeFingerprint (jwk : Jwk) : Text :=
  (b64url (sha256 (encode (Json.render .compact (Json.sortKeys (.object
    [("kty", .lit "EC"), ("crv", .lit "P-256"), ("x", .str jwk.x), ("y", .str jwk.y)])))))).take 20

/-- `not s.strip()` -/
def isBlank (s : Str) : Bool := s.all fun c => isSpace (Char.ofNat c.val)

/-- Segments that are named once each, of known types and positive lengths. -/
def validSegments (seen : List Str) : List ClientSegment → Bool
  | [] => true
  | seg :: rest =>
      !seg.segmentId.isEmpty && !seen.any (fun other => other = seg.segmentId) &&
        (["static", "totp", "hotp"].any fun name => seg.type = Str.lit name) &&
        1 ≤ seg.segLen && validSegments (seg.segmentId :: seen) rest

def validPoint (onCurve : Nat → Nat → Bool) (jwk : Jwk) : Bool :=
  match b64urlDecode jwk.x, b64urlDecode jwk.y with
  | some x, some y =>
      x.length = 32 && y.length = 32 && onCurve (fromBigEndian x) (fromBigEndian y)
  | _, _ => false

/-- Whether a binding is the one that is already there. -/
def Registration.agrees (existing registration : Registration) : Bool :=
  existing.fingerprint = registration.fingerprint &&
    existing.tskClientId = registration.tskClientId &&
    constantTimeEqual existing.tskState.sharedSecret registration.tskState.sharedSecret = some true &&
    existing.tskState.segments = registration.tskState.segments

def registerPeerBinding (onCurve : Nat → Nat → Bool) (bindings : Dict Str Registration)
    (pairId : Str) (pubJwk : Jwk) (expectedTskClientId : Str) (tskState : ClientState) :
    Except String (Dict Str Registration) := do
  insist (!isBlank pairId) "peer pair_id must be a non-empty string"
  insist (!isBlank expectedTskClientId) "expected TSK client_id must be a non-empty string"
  insist (tskState.clientId = expectedTskClientId)
    "peer TSK state client_id does not match expected binding"
  insist (!tskState.segments.isEmpty) "peer TSK state must contain at least one segment"
  insist (validSegments [] tskState.segments)
    "peer TSK state contains an invalid or duplicate segment"
  insist (validPoint onCurve pubJwk) "peer public key is not a valid P-256 point"
  let registration := ⟨pubJwk, computeFingerprint pubJwk, expectedTskClientId, tskState⟩
  insist ((bindings.get? pairId).all fun existing => existing.agrees registration)
    "peer binding conflict; use an authenticated rotation ceremony"
  .ok (bindings.set pairId registration)

def Registration.binding (registration : Registration) : PeerBinding :=
  ⟨registration.pubJwk, registration.tskClientId, some registration.tskState.stored⟩

/-- `verify_local`, whose clock is read once more when the nonce is consumed. -/
def verifyLocal (ecdsa : Ecdsa) (bindings : Dict Str Registration) (seenNonces : Dict Str ℚ)
    (now consumedAt : ℚ) (headers : Dict Str Str) (text peerPairId : Str) :
    Except Refusal Unit × Dict Str ℚ :=
  match verifyRequest ecdsa (bindings.mapValues Registration.binding) now headers text
      peerPairId with
  | .error refusal => (.error refusal, seenNonces)
  | .ok verified =>
      let consumed := consumeNonce seenNonces consumedAt verified.nonce (verifiedAt verified.nowMs)
      (insist consumed.1 .replay, consumed.2)

/-! What is encoded without its padding is decoded. -/

theorem b64urlDecode_b64url (data : Bytes) :
    b64urlDecode (Str.ofText (b64url data)) = some data := by
  obtain ⟨pads, few, isEncoded⟩ := urlsafeEncode_eq data
  have whole := length_urlsafeEncode data
  rw [isEncoded, List.length_append, List.length_replicate] at whole
  have missing : (4 - (b64url data).length % 4) % 4 = pads := by
    change ((b64url data).length + pads) % 4 = 0 at whole
    omega
  have padded : Str.ofText (b64url data) ++ List.replicate pads (CodePoint.ofChar '=') =
      Str.ofText (urlsafeEncode data) := by
    rw [isEncoded, Str.ofText, Str.ofText, List.map_append, List.map_replicate]
    rfl
  have length : (Str.ofText (b64url data)).length = (b64url data).length := List.length_map _
  have ascii : (Str.ofText (urlsafeEncode data)).all (fun c => c.val < 128) = true := by
    rw [List.all_eq_true]
    intro c member
    obtain ⟨char, isChar, rfl⟩ := List.mem_map.mp member
    exact decide_eq_true (toNat_lt_of_mem_urlsafeEncode isChar)
  have back : (Str.ofText (urlsafeEncode data)).map (fun c => Char.ofNat c.val) =
      urlsafeEncode data := by
    rw [Str.ofText, List.map_map]
    exact (List.map_congr_left fun c _ => Char.ofNat_toNat c).trans (List.map_id _)
  rw [b64urlDecode, length, missing, padded, urlsafeDecode, if_pos ascii, back,
    scanQuads_urlsafeEncode]

theorem b64url_ne_nil {data : Bytes} (nonempty : data ≠ []) : b64url data ≠ [] := by
  intro isNil
  have decoded := b64urlDecode_b64url data
  rw [isNil] at decoded
  exact nonempty (Option.some.inj decoded).symm

theorem b64url_hmacSha256_ne_nil (key message : Bytes) : b64url (hmacSha256 key message) ≠ [] := by
  apply b64url_ne_nil
  intro isNil
  have length := length_hmacSha256 key message
  rw [isNil] at length
  cases length

/-! The length of a key. -/

theorem le_length_padRounds (secret : Bytes) {length fuel : Nat} (round : Nat) {result : Text}
    (enough : length ≤ result.length + fuel) :
    length ≤ (padRounds secret length fuel round result).length := by
  induction fuel generalizing round result with
  | zero => exact enough
  | succ fuel ih =>
      rw [padRounds]
      split
      · apply ih
        have longer := List.length_pos_iff.mpr
          (b64url_hmacSha256_ne_nil secret
            (encode ("pad:".toList ++ natText round ++ [':'] ++ result)))
        rw [List.length_append, hmacRaw]
        omega
      · omega

theorem length_padOrTruncate (secret : Bytes) (s : Text) (length : Nat) :
    (padOrTruncate secret s length).length = length := by
  rw [padOrTruncate, List.length_take]
  exact Nat.min_eq_left (le_length_padRounds secret 0 (Nat.le_add_left _ _))

theorem length_deriveSegmentValue {secret : Bytes} {seg : ClientSegment}
    {nowMs hotpCounter : Int} {value : Text} (positive : 1 ≤ seg.segLen)
    (derived : deriveSegmentValue secret seg nowMs hotpCounter = some value) :
    (value.length : Int) = seg.segLen := by
  obtain ⟨input, -, rfl⟩ := Option.map_eq_some_iff.mp derived
  rw [fitTo, if_pos (by omega), length_padOrTruncate]
  omega

theorem sum_length_of_mapM {secret : Bytes} {segments : List ClientSegment}
    {counterOf : ClientSegment → Int} {nowMs : Int} {parts : List Text}
    (positive : ∀ seg ∈ segments, 1 ≤ seg.segLen)
    (derived : segments.mapM (fun seg => deriveSegmentValue secret seg nowMs (counterOf seg)) =
      some parts) :
    (parts.flatten.length : Int) = (segments.map fun seg => seg.segLen).sum := by
  induction segments generalizing parts with
  | nil =>
      cases derived
      rfl
  | cons seg rest ih =>
      rw [List.mapM_cons] at derived
      obtain ⟨value, isValue, derived⟩ := Option.bind_eq_some_iff.mp derived
      obtain ⟨values, isRest, isParts⟩ := Option.bind_eq_some_iff.mp derived
      cases isParts
      have first := length_deriveSegmentValue (positive seg List.mem_cons_self) isValue
      have others := ih (fun other member => positive other (List.mem_cons_of_mem _ member)) isRest
      rw [List.flatten_cons, List.length_append, List.map_cons, List.sum_cons, ← others, ← first]
      push_cast
      rfl

/-- The parts that the verifier takes a key apart into. -/
theorem generateTskKey_eq {state : ClientState} {nowMs : Int} {tskKey : Str}
    (positive : ∀ seg ∈ state.segments, 1 ≤ seg.segLen)
    (generated : generateTskKey state nowMs = some tskKey) :
    ∃ keyBody checksum, tskKey = Str.ofText (keyBody ++ checksum) ∧
      checksum.length = checksumLength ∧
      computeChecksum state.sharedSecret (Str.ofText keyBody) = some (Str.ofText checksum) ∧
      (tskKey.length : Int) = state.stored.keyLength := by
  simp only [generateTskKey, Option.bind_eq_bind, Option.bind_eq_some_iff, Option.pure_def,
    Option.some.injEq] at generated
  obtain ⟨parts, isParts, checksum, isChecksum, rfl⟩ := generated
  have lengths := sum_length_of_mapM positive isParts
  have computed := isChecksum
  rw [computeChecksum, state.isSecret, Option.bind_some, Str.toText?_ofText, Option.map_some,
    Option.some.injEq] at computed
  refine ⟨parts.flatten, padOrTruncate state.secret
    (hmacRaw state.secret ("checksum:".toList ++ parts.flatten)) checksumLength, ?_,
    length_padOrTruncate _ _ _, ?_, ?_⟩
  · rw [← computed, Str.ofText, Str.ofText, Str.ofText, List.map_append]
  · rw [computed]
    exact isChecksum
  · have texts : (Str.ofText parts.flatten).length = parts.flatten.length := List.length_map _
    rw [List.length_append, texts, ← computed, Str.ofText, List.length_map,
      length_padOrTruncate, TSKClientState.keyLength, ClientState.stored, List.map_map]
    push_cast
    rw [lengths]
    rfl

end SelfConnect.Gate
