import SelfConnect.Library.Outcomes
import SelfConnect.Provenance.Ipc
import SelfConnect.Provenance.Verify

namespace SelfConnect.Provenance

open SelfConnect.Python SelfConnect.Python.Json SelfConnect.Library

/-! The signed requests of the provenance service, checked before they reach a ledger. -/

def protocolVersion : String := "selfconnect.provenance.v1"

def defaultFreshnessMs : Int := 60000

def serviceMetadataKey : String := "provenance_service"

inductive AgentAlgorithm
  | ed25519
  | p384
  deriving DecidableEq

def AgentAlgorithm.name : AgentAlgorithm → String
  | .ed25519 => "ed25519"
  | .p384 => "ecdsa-p384-cng"

def AgentAlgorithm.signatureBytes : AgentAlgorithm → Nat
  | .ed25519 => 64
  | .p384 => 96

structure AgentEnrollment where
  agentId : Str
  algorithm : AgentAlgorithm
  publicKey : Bytes
  sid : Str
  supervisor : Bool
  enabled : Bool

def AgentEnrollment.verify (crypto : Crypto) (enrollment : AgentEnrollment)
    (data signature : Bytes) : Bool :=
  match enrollment.algorithm with
  | .ed25519 => crypto.ed25519Verify enrollment.publicKey signature data
  | .p384 => crypto.cngVerify enrollment.publicKey signature data

/-- `EnrollmentRegistry`. Its constructor refuses an agent id that appears twice, and
`AgentEnrollment.from_dict` a key of another length or with another id. -/
structure EnrollmentRegistry where
  enrollments : List AgentEnrollment
  distinct : (enrollments.map AgentEnrollment.agentId).Nodup
  keyed : ∀ enrollment ∈ enrollments,
    enrollment.publicKey.length = if enrollment.algorithm = .ed25519 then 32 else 96
  derived : ∀ enrollment ∈ enrollments,
    enrollment.agentId = agentIdOf (enrollment.algorithm = .ed25519) enrollment.publicKey

/-- `registry.get`. -/
def EnrollmentRegistry.get (registry : EnrollmentRegistry) (agentId : Str) :
    Option AgentEnrollment :=
  (registry.enrollments.find? fun enrollment => enrollment.agentId = agentId).filter
    AgentEnrollment.enabled

/-- `_REQUEST_FIELDS`. -/
def requestFields : List String :=
  ["agent_id", "event_signature", "event_type", "issued_at_ms", "nonce", "operation",
    "os_corroboration", "payload", "request_id", "request_signature", "session_id", "version"]

def isLowerHex (c : CodePoint) : Bool :=
  (48 ≤ c.val && c.val ≤ 57) || (97 ≤ c.val && c.val ≤ 102)

/-- The form in which `str(uuid.UUID(value))` is the value itself. -/
def isCanonicalUuid (value : Str) : Bool :=
  value.length = 36 && value.zipIdx.all fun indexed =>
    if indexed.2 = 8 || indexed.2 = 13 || indexed.2 = 18 || indexed.2 = 23 then
      indexed.1.val = 45
    else isLowerHex indexed.1

/-- `_parse_uuid`. Texts that `uuid.UUID` refuses have the same code and are not told
apart. -/
def parseUuid (value : Option Value) (name : String) : Except ProtocolError Str :=
  match value with
  | some (.str text) =>
      if isCanonicalUuid text then .ok text
      else .error ⟨"invalid_" ++ name, name ++ " must use canonical lowercase UUID form"⟩
  | _ => .error ⟨"invalid_" ++ name, name ++ " must be a UUID string"⟩

/-- `_signature_bytes`. -/
def signatureBytes (value : Option Value) (algorithm : AgentAlgorithm) (field : String) :
    Except ProtocolError Bytes :=
  let expected := algorithm.signatureBytes
  match value with
  | some (.str text) =>
      if text.length ≠ expected * 2 then
        .error ⟨"invalid_" ++ field, field ++ " has the wrong encoded length"⟩
      else
        match fromHex text with
        | none => .error ⟨"invalid_" ++ field, field ++ " is not hexadecimal"⟩
        | some raw =>
            if raw.length ≠ expected then
              .error ⟨"invalid_" ++ field, field ++ " has the wrong decoded length"⟩
            else .ok raw
  | _ => .error ⟨"invalid_" ++ field, field ++ " has the wrong encoded length"⟩

/-- `_NONCE.fullmatch`. -/
def isNonce (value : Str) : Bool :=
  22 ≤ value.length && value.length ≤ 86 && value.all fun c =>
    (48 ≤ c.val && c.val ≤ 57) || (65 ≤ c.val && c.val ≤ 90) || (97 ≤ c.val && c.val ≤ 122) ||
      c.val = 45 || c.val = 95

def allEventTypes : List SessionEventType :=
  [.sessionOpen, .sessionClose, .sessionResume, .sessionInterrupt, .sessionReconstructed,
    .heartbeat, .toolCall, .toolResult, .shellExec, .fileWrite, .fileRead, .networkRequest,
    .agentSpawn, .agentHandoff, .meshMessage, .approvalRequest, .approvalGranted,
    .approvalDenied, .policyLoaded, .auditModeChange, .authSuccess, .authFailure,
    .policyViolation, .telemetryGap, .osEvent, .checkpoint, .merkleSeal, .segmentSealed,
    .replicationAck]

/-- `SessionEventType(value)`; `none` is `ValueError`. -/
def eventTypeOf (value : Option Value) : Option SessionEventType :=
  allEventTypes.find? fun eventType => isText value eventType.value

/-- `event_signing_bytes`. -/
def eventSigningBytes (eventType : SessionEventType) (payload : Members) :
    Except ProtocolError Bytes :=
  canonicalJsonBytes (.object
    [("event_type", Value.lit eventType.value), ("payload", .dict payload)])

/-- `request_signing_bytes`. -/
def requestSigningBytes (request : Members) : Except ProtocolError Bytes :=
  canonicalJsonBytes (.dict (Members.erase (Str.lit "request_signature") request))

/-- `request_hash`. -/
def requestHash (request : Members) : Except ProtocolError Str :=
  (requestSigningBytes request).map fun bytes => Str.ofText (hexText (sha384 bytes))

structure VerifiedRecordRequest where
  enrollment : AgentEnrollment
  eventSignature : Bytes
  eventType : SessionEventType
  issuedAtMs : Int
  nonce : Str
  osCorroboration : Option Members
  payload : Members
  requestHash : Str
  requestId : Str
  requestSignature : Bytes
  sessionId : Str
  stale : Bool

def text? : Option Value → Option Str
  | some (.str s) => some s
  | _ => none

/-- An integer that is not a Boolean. -/
def integer? : Option Value → Option Int
  | some (.int n) => some n
  | _ => none

def dict? : Option Value → Option Members
  | some (.dict members) => some members
  | _ => none

/-- `os_corroboration`, an object or null. -/
def corroboration? : Option Value → Option (Option Members)
  | none | some .null => some none
  | some (.dict members) => some (some members)
  | _ => none

/-- `verify_record_request`. -/
def verifyRecordRequest (crypto : Crypto) (registry : EnrollmentRegistry)
    (freshnessMs : Int) (allowStale : Bool) (callerSid : Str) (now : Int) (request : Members) :
    Except ProtocolError VerifiedRecordRequest := do
  let value := Value.dict request
  insist (hasExactly request requestFields)
    ⟨"invalid_request_fields", "request field set is not exact"⟩
  let _ ← encodeFrame value
  insist ((getOrNull value "version").eqv (Value.lit protocolVersion) &&
      (getOrNull value "operation").eqv (Value.lit "record"))
    ⟨"unsupported_protocol", "unsupported version or operation"⟩
  let agentId ← present (text? (value.get? "agent_id"))
    ⟨"invalid_agent_id", "agent_id is required"⟩
  let enrollment ← present (registry.get agentId)
    ⟨"unknown_agent", "agent identity is not enrolled and enabled"⟩
  insist (callerSid == enrollment.sid)
    ⟨"caller_sid_mismatch", "OS caller SID does not match the enrolled identity"⟩
  let sessionId ← parseUuid (value.get? "session_id") "session_id"
  let requestId ← parseUuid (value.get? "request_id") "request_id"
  let nonce ← present ((text? (value.get? "nonce")).filter isNonce)
    ⟨"invalid_nonce", "nonce must be unpadded base64url"⟩
  let issuedAtMs ← present (integer? (value.get? "issued_at_ms"))
    ⟨"invalid_timestamp", "issued_at_ms must be an integer"⟩
  let stale : Bool := freshnessMs < |now - issuedAtMs|
  insist (!stale || allowStale)
    ⟨"stale_request", "request timestamp is outside the freshness window"⟩
  let eventType ← present (eventTypeOf (value.get? "event_type"))
    ⟨"invalid_event_type", "event_type is not supported"⟩
  let payload ← present (dict? (value.get? "payload"))
    ⟨"invalid_payload", "payload must be an object"⟩
  let osCorroboration ← present (corroboration? (value.get? "os_corroboration"))
    ⟨"invalid_os_corroboration", "os_corroboration must be an object or null"⟩
  let eventSignature ←
    signatureBytes (value.get? "event_signature") enrollment.algorithm "event_signature"
  let requestSignature ←
    signatureBytes (value.get? "request_signature") enrollment.algorithm "request_signature"
  let eventBytes ← eventSigningBytes eventType payload
  insist (enrollment.verify crypto eventBytes eventSignature)
    ⟨"invalid_event_signature", "event signature verification failed"⟩
  let requestBytes ← requestSigningBytes request
  insist (enrollment.verify crypto requestBytes requestSignature)
    ⟨"invalid_request_signature", "request signature verification failed"⟩
  let hash ← requestHash request
  return { enrollment, eventSignature, eventType, issuedAtMs, nonce, osCorroboration, payload,
           requestHash := hash, requestId, requestSignature, sessionId, stale }

end SelfConnect.Provenance
