import SelfConnect.Provenance.Record
import SelfConnect.Identity
import SelfConnect.Library.HashChain

namespace SelfConnect.Provenance

open SelfConnect.Python SelfConnect.Python.Json SelfConnect.Library

/-! Signature verification lives in the `cryptography` package and in Windows CNG.
`p384Verify` takes the raw coordinates and the raw `r ‖ s` that the code unpacks. -/

structure Crypto where
  ed25519Verify : (publicKey signature message : Bytes) → Bool
  p384Verify : (publicKey signature message : Bytes) → Bool
  cngVerify : (publicKey signature message : Bytes) → Bool

/-- `bytes.fromhex(str(value))`; only the texts of strings and integers can be
hexadecimal. -/
def hexBytes : Option Value → Option Bytes
  | none => some []
  | some (.str s) => fromHex s
  | some (.int n) => fromHex (Str.ofText (intText n))
  | some _ => none

def verifyRecorderSignature (crypto : Crypto) (record : Value) (publicKey : Bytes) : Bool :=
  match hexBytes (record.get? "recorder_sig") with
  | none => false
  | some signature =>
      if signature.isEmpty then false
      else
        match canonicalBytes record with
        | none => false
        | some payload =>
            if publicKey.length = 32 then
              crypto.ed25519Verify publicKey signature (encode payload)
            else if publicKey.length = 96 then
              crypto.cngVerify publicKey signature (encode payload)
            else false

/-! The request a dedicated-service record attests is rebuilt from its fields. -/

inductive Attestation
  | notService
  | invalid
  | valid
  deriving DecidableEq

def attestationKeys : List String :=
  ["agent_algorithm", "agent_key_version", "agent_public_key_hex", "caller_sid",
    "issued_at_ms", "nonce", "operation", "protocol_version", "request_hash", "request_id",
    "request_signature"]

/-- `set(metadata) == required`. -/
def hasExactly (members : Members) (names : List String) : Bool :=
  (members.all fun entry => names.any fun name => entry.1 = .str (Str.lit name)) &&
    names.all fun name => (Members.lookup (Str.lit name) members).isSome

/-- `record.get(key)`. -/
def getOrNull (value : Value) (key : String) : Value :=
  value.getD key .null

def attestedRequest (record metadata corroboration : Value) : Value :=
  Value.object
    [("agent_id", getOrNull record "agent_id"),
      ("event_signature", getOrNull record "agent_sig"),
      ("event_type", getOrNull record "event_type"),
      ("issued_at_ms", getOrNull metadata "issued_at_ms"),
      ("nonce", getOrNull metadata "nonce"),
      ("operation", getOrNull metadata "operation"),
      ("os_corroboration", getOrNull corroboration "client"),
      ("payload", getOrNull record "payload"),
      ("request_id", getOrNull metadata "request_id"),
      ("session_id", getOrNull record "session_id"),
      ("version", getOrNull metadata "protocol_version")]

def attestedEvent (record : Value) : Value :=
  Value.object
    [("event_type", getOrNull record "event_type"), ("payload", getOrNull record "payload")]

/-- `_verify_service_agent_attestation`; `none` is an exception. -/
def verifyServiceAgentAttestation (crypto : Crypto) (record : Value) : Option Attestation :=
  match record.get? "os_corroboration" with
  | some (.dict corroboration) =>
      match Members.lookup (Str.lit "provenance_service") corroboration with
      | none => some .notService
      | some (.dict metadataMembers) =>
          let metadata := Value.dict metadataMembers
          if !hasExactly metadataMembers attestationKeys then some .invalid
          else if !isText (record.get? "record_version") recordVersionV2 then some .invalid
          else
            match metadata.get? "agent_algorithm" with
            -- an unhashable value cannot be looked up in a set
            | some (.list _) | some (.dict _) => none
            | algorithm =>
                let ed25519 := isText algorithm "ed25519"
                if !ed25519 && !isText algorithm "ecdsa-p384-cng" then some .invalid
                else if !(getOrNull metadata "agent_key_version").eqv (.int 1) then some .invalid
                else
                  match hexBytes (metadata.get? "agent_public_key_hex"),
                    hexBytes (record.get? "agent_sig"),
                    hexBytes (metadata.get? "request_signature") with
                  | some publicKey, some eventSignature, some requestSignature =>
                      let signatureBytes := if ed25519 then 64 else 96
                      if publicKey.length ≠ (if ed25519 then 32 else 96) then some .invalid
                      else if eventSignature.length ≠ signatureBytes ∨
                          requestSignature.length ≠ signatureBytes then some .invalid
                      else
                        match dumpsSorted .compact
                            (attestedRequest record metadata (.dict corroboration)),
                          dumpsSorted .compact (attestedEvent record) with
                        | some request, some event =>
                            let verify :=
                              if ed25519 then crypto.ed25519Verify else crypto.p384Verify
                            if !(getOrNull metadata "request_hash").eqv (.str (digest request)) then
                              some .invalid
                            else if verify publicKey eventSignature (encode event) &&
                                verify publicKey requestSignature (encode request) &&
                                (getOrNull record "agent_id").eqv
                                  (.str (agentIdOf ed25519 publicKey)) then
                              some .valid
                            else some .invalid
                        | _, _ => none
                  | _, _, _ => some .invalid
      | some _ => some .invalid
  | _ => some .notService

/-! The chain verifier reads the log line by line and stops at the first finding. -/

inductive Message
  | noLogFile
  | keyRequired
  | parseError (line : Nat)
  | chainBreak (seq : Value) (line : Nat) (expected : Str) (got : Value)
  | signatureInvalid (seq : Value) (line : Nat)
  | attestationInvalid (seq : Value) (line : Nat)
  | timestampRegression (seq : Value) (line : Nat) (ts last : Value)
  | intact (count : Nat) (state : Option Value)

structure VerificationResult where
  ok : Bool
  count : Nat
  sessionState : Option Value
  message : Message
  highWaterSeq : Int := 0
  lastHeartbeatTs : Option Value := none
  signaturesVerified : Bool := false
  agentAttestationsVerified : Nat := 0
  legacyAgentSignaturesUnverified : Nat := 0

structure Policy where
  recorderPublicKey : Option Bytes
  requireRecorderSignatures : Bool

structure ChainState where
  prev : Str
  count : Nat
  lastTs : Option Value
  sessionState : Option Value
  highWaterSeq : Int
  lastHeartbeatTs : Option Value
  hasClose : Bool
  agentAttestationsVerified : Nat
  legacyAgentSignaturesUnverified : Nat

def ChainState.initial : ChainState :=
  ⟨genesisHash, 0, none, none, 0, none, false, 0, 0⟩

def ChainState.accept (state : ChainState) (hash : Str) (ts : Value) (attestation : Attestation)
    (legacy : Bool) : ChainState :=
  { state with
    prev := hash
    count := state.count + 1
    lastTs := some ts
    agentAttestationsVerified :=
      state.agentAttestationsVerified + (if attestation = .valid then 1 else 0)
    legacyAgentSignaturesUnverified :=
      state.legacyAgentSignaturesUnverified + (if legacy then 1 else 0) }

/-- Why the loop ends early: a finding to report, or an exception. -/
inductive Stop
  | finding (message : Message)
  | raised

def isAck (seq : Value) : Bool :=
  match seq with
  | .str s => (Str.lit "ack-").isPrefixOf s
  | _ => false

/-- `last_ts and ts < last_ts`. -/
def regresses (ts : Value) : Option Value → Option Bool
  | none => some false
  | some last => if last.truthy then ts.lt? last else some false

/-- What an accepted record does to the session fields of the report. -/
def trackSession (record ts : Value) (state : ChainState) : Option ChainState :=
  let eventType := record.get? "event_type"
  if isText eventType SessionEventType.sessionClose.value then
    match record.getD "payload" (.dict []) with
    | .dict payload =>
        some { state with
          hasClose := true
          sessionState := some ((Value.dict payload).getD "session_state"
            (Value.lit SessionState.sealed.value)) }
    | _ => none
  else if isText eventType SessionEventType.heartbeat.value then
    match record.getD "payload" (.dict []) with
    | .dict payload =>
        match ((Value.dict payload).getD "seq_at_heartbeat" (.int 0)).toInt? with
        | some mark =>
            some { state with
              lastHeartbeatTs := some ts
              highWaterSeq := max state.highWaterSeq mark }
        | none => some { state with lastHeartbeatTs := some ts }
    | _ => none
  else some state

/-- The end of the loop's body, for a record without findings. -/
def acceptRecord (record seq ts : Value) (hash : Str) (attestation : Attestation)
    (state : ChainState) : Except Stop ChainState :=
  let legacy := attestation ≠ .valid && (getOrNull record "agent_sig").truthy &&
    !isText (record.get? "record_version") recordVersionV2
  match trackSession record ts (state.accept hash ts attestation legacy) with
  | none => .error .raised
  | some tracked =>
      match seq.toInt? with
      | some n => .ok { tracked with highWaterSeq := max tracked.highWaterSeq n }
      | none => .ok tracked

def checkRecord (crypto : Crypto) (policy : Policy) (line : Nat) (record : Value)
    (state : ChainState) : Except Stop ChainState :=
  if !record.isDict then .error .raised
  else
    let seq := record.getD "seq" (Value.lit "")
    if isAck seq then .ok state
    else
      let shown := record.getD "seq" (Value.lit "?")
      let storedPrev := record.getD "prev_hash" (Value.lit "")
      if !storedPrev.eqv (.str state.prev) then
        match storedPrev with
        -- the message shows a prefix, which only strings and lists have
        | .str _ | .list _ => .error (.finding (.chainBreak shown line state.prev storedPrev))
        | _ => .error .raised
      else if policy.requireRecorderSignatures &&
          !verifyRecorderSignature crypto record (policy.recorderPublicKey.getD []) then
        .error (.finding (.signatureInvalid shown line))
      else
        match verifyServiceAgentAttestation crypto record with
        | none => .error .raised
        | some .invalid => .error (.finding (.attestationInvalid shown line))
        | some attestation =>
            let ts := record.getD "ts" (Value.lit "")
            match regresses ts state.lastTs with
            | none => .error .raised
            | some true =>
                .error (.finding (.timestampRegression shown line ts
                  (state.lastTs.getD .null)))
            | some false =>
                match canonicalHash record with
                | none => .error .raised
                | some hash => acceptRecord record seq ts hash attestation state

/-- One line of the file; `line` is its number. -/
def checkLine (crypto : Crypto) (policy : Policy) (state : ChainState)
    (numbered : Text × Nat) : Except (ChainState × Stop) ChainState :=
  let text := stripText isSpace numbered.1
  if text.isEmpty then .ok state
  else
    match loads text with
    | none => .error (state, .finding (.parseError numbered.2))
    | some record => (checkRecord crypto policy numbered.2 record state).mapError (state, ·)

def checkLines (crypto : Crypto) (policy : Policy) (lines : List Text) :
    Except (ChainState × Stop) ChainState :=
  (lines.zipIdx 1).foldlM (checkLine crypto policy) ChainState.initial

/-- `_verify_chain`; `none` is an exception. -/
def verifyChain (crypto : Crypto) (policy : Policy) (log : Option Text) :
    Option VerificationResult :=
  match log with
  | none =>
      some { ok := true, count := 0, sessionState := none, message := .noLogFile }
  | some text =>
      if policy.requireRecorderSignatures && policy.recorderPublicKey.isNone then
        some { ok := false, count := 0, sessionState := none, message := .keyRequired }
      else
        match checkLines crypto policy (splitLines isNewline text) with
        | .error (_, .raised) => none
        | .error (state, .finding message) =>
            some { ok := false, count := state.count, sessionState := state.sessionState, message }
        | .ok state =>
            let sessionState :=
              if state.hasClose then state.sessionState
              else some (Value.lit SessionState.interrupted.value)
            some
              { ok := true
                count := state.count
                sessionState
                message := .intact state.count sessionState
                highWaterSeq := state.highWaterSeq
                lastHeartbeatTs := state.lastHeartbeatTs
                signaturesVerified := policy.requireRecorderSignatures
                agentAttestationsVerified := state.agentAttestationsVerified
                legacyAgentSignaturesUnverified := state.legacyAgentSignaturesUnverified }

end SelfConnect.Provenance
