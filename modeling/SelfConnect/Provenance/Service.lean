import SelfConnect.Library.System
import SelfConnect.Provenance.Acceptance
import SelfConnect.Provenance.Request

namespace SelfConnect.Provenance

open SelfConnect.Python SelfConnect.Python.Json SelfConnect.Library

/-! The one door through which all workers of the provenance service write: the session
ledgers, and beside them a database of nonces and receipts that commits by itself. -/

inductive ServiceError
  | protocol (error : ProtocolError)
  | unavailable (message : String)
  /-- An exception that the core does not name. -/
  | raised

/-! `ProvenanceRequestStore`. -/

structure NonceRow where
  agentId : Str
  nonce : Str
  expiresAtMs : Int

structure ReceiptRow where
  requestId : Str
  requestHash : Str
  responseJson : Text
  committedAtMs : Int

structure RequestStore where
  nonces : List NonceRow
  receipts : List ReceiptRow

namespace RequestStore

variable (store : RequestStore)

def row? (requestId : Str) : Option ReceiptRow :=
  store.receipts.find? fun row => row.requestId = requestId

/-- `receipt`; outside a transaction a text that is no JSON is `ProvenanceServiceUnavailable`,
inside it is the parser's own exception. -/
def receipt (malformed : ServiceError) (requestId : Str) :
    Except ServiceError (Option (Str × Members)) :=
  match store.row? requestId with
  | none => .ok none
  | some row =>
      match loads row.responseJson with
      | none => .error malformed
      | some (.dict response) => .ok (some (row.requestHash, response))
      | some _ => .error (.unavailable "stored provenance receipt has invalid shape")

def prune (now : Int) : RequestStore :=
  { store with nonces := store.nonces.filter fun row => !decide (row.expiresAtMs < now) }

/-- `consume_nonce`; `none` when the nonce is there already. -/
def consumeNonce (agentId nonce : Str) (expiresAtMs : Int) : Option RequestStore :=
  if store.nonces.any fun row => row.agentId = agentId && row.nonce = nonce then none
  else some { store with nonces := store.nonces ++ [⟨agentId, nonce, expiresAtMs⟩] }

/-- `save_receipt`. -/
def saveReceipt (requestId requestHash : Str) (response : Members) (now : Int) :
    RequestStore :=
  if (store.row? requestId).isSome then store
  else
    { store with
      receipts := store.receipts ++
        [⟨requestId, requestHash, render .compact (sortKeys (.dict response)), now⟩] }

end RequestStore

/-! `ProvenanceServiceCore`. -/

/-- `service_identity`; `sign` is `none` when it raises. -/
structure ServiceIdentity where
  agentId : Str
  sign : Bytes → Option Bytes

structure ServiceConfig where
  crypto : Crypto
  registry : EnrollmentRegistry
  identity : ServiceIdentity
  freshnessMs : Int
  /-- With which a recorder verifies its own log. -/
  policy : Policy

/-- `_AGENT_EVENTS`. -/
def SessionEventType.isAgentEvent : SessionEventType → Bool
  | .toolCall | .toolResult | .shellExec | .fileWrite | .fileRead | .networkRequest
  | .agentSpawn | .agentHandoff | .meshMessage | .approvalRequest => true
  | _ => false

/-- `_SUPERVISOR_EVENTS`. -/
def SessionEventType.isSupervisorEvent : SessionEventType → Bool
  | .approvalGranted | .approvalDenied | .policyLoaded | .auditModeChange | .telemetryGap
  | .osEvent => true
  | _ => false

/-- `_stored_receipt`. -/
def storedReceipt (stored : Option (Str × Members)) (verified : VerifiedRecordRequest) :
    Except ServiceError (Option Members) :=
  match stored with
  | none => .ok none
  | some (requestHash, response) =>
      if requestHash ≠ verified.requestHash then
        .error (.protocol ⟨"idempotency_conflict",
          "request_id is already bound to different signed content"⟩)
      else .ok (some (Members.set (Str.lit "status") (Value.lit "already_committed") response))

/-- The look-up that both halves of `handle_record` make. -/
def RequestStore.replay (store : RequestStore) (malformed : ServiceError)
    (verified : VerifiedRecordRequest) : Except ServiceError (Option Members) :=
  match store.receipt malformed verified.requestId with
  | .error error => .error error
  | .ok stored => storedReceipt stored verified

/-- The `receipt` member of a response. -/
def receiptMember (record : Value) (recordHash : Str) : Value :=
  Value.object
    [("event_type", getOrNull record "event_type"), ("record_hash", .str recordHash),
      ("seq", getOrNull record "seq"), ("session_id", getOrNull record "session_id")]

/-- `_receipt_from_record`; `none` when the record cannot be hashed. -/
def receiptFromRecord (record : Value) (requestId : Str) (now : Int) : Option Members :=
  (canonicalHash record).map fun recordHash =>
    Members.of
      [("ok", .bool true), ("receipt", receiptMember record recordHash),
        ("request_id", .str requestId), ("server_ts_ms", .int now),
        ("status", Value.lit "committed"), ("version", Value.lit protocolVersion)]

def protocolResult {α : Type} (result : Except ProtocolError α) : Except ServiceError α :=
  result.mapError .protocol

/-- `sign_service_response`. -/
def signServiceResponse (identity : ServiceIdentity) (response : Members) :
    Except ServiceError Members := do
  let result := Members.set (Str.lit "service_agent_id") (.str identity.agentId) response
  let unsigned := Members.erase (Str.lit "service_signature") result
  let bytes ← protocolResult (canonicalJsonBytes (.dict unsigned))
  let signature ← present (identity.sign bytes) .raised
  let signed := Members.set (Str.lit "service_signature")
    (.str (Str.ofText (hexText signature))) result
  let _ ← protocolResult (encodeFrame (.dict signed))
  return signed

/-- `record.get("os_corroboration", {}).get(SERVICE_METADATA_KEY, {})`; `none` is
`AttributeError`. -/
def serviceMetadata (record : Value) : Option Members :=
  if record.isDict then
    (dict? (some (record.getD "os_corroboration" (.dict [])))).bind fun corroboration =>
      dict? (some ((Value.dict corroboration).getD serviceMetadataKey (.dict [])))
  else none

/-- The loop of `_recover_record`. -/
def findRequest (verified : VerifiedRecordRequest) :
    List Text → Option Value → Except ServiceError (Option Value)
  | [], found => .ok found
  | line :: rest, found =>
      if (stripText isSpace line).isEmpty then findRequest verified rest found
      else
        match loads line with
        | none => .error (.unavailable "provenance chain contains malformed JSON")
        | some record =>
            match serviceMetadata record with
            | none => .error .raised
            | some metadata =>
                if !(getOrNull (.dict metadata) "request_id").eqv (.str verified.requestId) then
                  findRequest verified rest found
                else if !(getOrNull (.dict metadata) "request_hash").eqv
                    (.str verified.requestHash) then
                  .error (.protocol ⟨"idempotency_conflict",
                    "ledger request_id is bound to different signed content"⟩)
                else if found.isSome then
                  .error (.unavailable "duplicate request_id exists in authoritative ledger")
                else findRequest verified rest (some record)

/-- `_recover_record`. -/
def recoverRecord (config : ServiceConfig) (lines : List Line)
    (verified : VerifiedRecordRequest) : Except ServiceError (Option Value) :=
  match verifyChain config.crypto config.policy (some (logText lines)) with
  | none => .error .raised
  | some result =>
      if !result.ok then
        .error (.unavailable "cannot reconcile against an invalid provenance chain")
      else findRequest verified (splitLines isLineBoundary (logText lines)) none

/-- What the core writes into a record under `SERVICE_METADATA_KEY`. -/
def requestMetadata (verified : VerifiedRecordRequest) (callerSid : Str) :
    List (String × Value) :=
  [("agent_algorithm", Value.lit verified.enrollment.algorithm.name),
    ("agent_key_version", .int 1),
    ("agent_public_key_hex", .str (Str.ofText (hexText verified.enrollment.publicKey))),
    ("caller_sid", .str callerSid),
    ("issued_at_ms", .int verified.issuedAtMs),
    ("nonce", .str verified.nonce),
    ("operation", Value.lit "record"),
    ("protocol_version", Value.lit protocolVersion),
    ("request_hash", .str verified.requestHash),
    ("request_id", .str verified.requestId),
    ("request_signature", .str (Str.ofText (hexText verified.requestSignature)))]

def corroborationFields (verified : VerifiedRecordRequest) (callerSid : Str) :
    List (String × Value) :=
  (serviceMetadataKey, Value.object (requestMetadata verified callerSid)) ::
    (verified.osCorroboration.map fun client => ("client", Value.dict client)).toList

/-- What the core hands to the recorder, the client's own corroboration in it. -/
def serviceCorroboration (verified : VerifiedRecordRequest) (callerSid : Str) : Members :=
  Members.of (corroborationFields verified callerSid)

/-! A call of `handle_record` is answered at once, or waits for the lock. Once it has the
lock it is answered, or it has its record written and its transaction still open. -/

/-- A call that has passed what comes before the lock, with the clock it has read. -/
structure Waiting where
  verified : VerifiedRecordRequest
  callerSid : Str
  now : Int

/-- What the recorder puts into a record, and the lines it writes after it. -/
structure Written where
  seq : Int
  ts : Datetime
  prevHash : Str
  recorderSig : Option Bytes
  followers : List Line

def Waiting.draft (call : Waiting) (written : Written) : Draft where
  seq := written.seq
  now := written.ts
  sessionId := call.verified.sessionId
  agentId := call.verified.enrollment.agentId
  eventType := call.verified.eventType
  payload := call.verified.payload
  prevHash := written.prevHash
  osCorroboration := some (serviceCorroboration call.verified call.callerSid)
  signature := some call.verified.eventSignature

def Waiting.line (call : Waiting) (written : Written) : Line :=
  .record (call.draft written) written.recorderSig

/-- How `recorder.record` ends: a record may be in the ledger although it raised. -/
inductive Append
  | refused
  | raised (written : Written)
  | returned (written : Written)

/-- How `COMMIT` ends; its success may be lost. -/
inductive Commit
  | committed
  | rolledBack
  | lost

/-- The surroundings of a call while it takes the lock. -/
structure EnterTurn where
  recorderReady : Bool
  begins : Bool
  readable : Bool
  replicates : Bool
  indexed : Bool
  saves : Bool
  append : Append
  commit : Commit

/-- The surroundings of a call whose record has been written. -/
structure FinishTurn where
  indexed : Bool
  saves : Bool
  commit : Commit

structure Opened where
  call : Waiting
  record : Value
  store : RequestStore

/-- `unsettled` is for the proofs: the session and the request id of every record that has
been written and has no receipt. -/
structure ServiceState where
  ledgers : Str → List Line
  store : RequestStore
  clock : Int
  waiting : List Waiting
  opened : Option Opened
  unsettled : List (Str × Str)

inductive Outcome
  | answered (response : Members)
  | refused (error : ServiceError)

def Outcome.of : Except ServiceError Members → Outcome
  | .ok response => .answered response
  | .error error => .refused error

def ServiceState.initial : ServiceState where
  ledgers := fun _ => []
  store := ⟨[], []⟩
  clock := 0
  waiting := []
  opened := none
  unsettled := []

def Waiting.key (call : Waiting) : Str × Str :=
  (call.verified.sessionId, call.verified.requestId)

def staleRequest : ServiceError :=
  .protocol ⟨"stale_request", "uncommitted request is outside freshness window"⟩

/-- What a request is asked before it waits for the lock. -/
def permit (verified : VerifiedRecordRequest) : Except ServiceError Unit := do
  insist (!verified.stale) staleRequest
  insist (verified.eventType.isAgentEvent || verified.eventType.isSupervisorEvent)
    (.protocol ⟨"service_internal_event",
      "lifecycle, authentication, integrity, and replication events are service-generated only"⟩)
  insist (!verified.eventType.isSupervisorEvent || verified.enrollment.supervisor)
    (.protocol ⟨"supervisor_required",
      "privileged provenance event requires the enrolled supervisor identity"⟩)

section

variable (config : ServiceConfig)

def verifyCall (request : Members) (callerSid : Str) (now : Int) :
    Except ProtocolError VerifiedRecordRequest :=
  verifyRecordRequest config.crypto config.registry config.freshnessMs true callerSid now request

/-- `handle_record` up to the lock; `lookup` is whether the first look-up works. -/
def arrive (request : Members) (callerSid : Str) (now : Int) (lookup : Bool)
    (s : ServiceState) : ServiceState × Option Outcome :=
  let read := { s with clock := now }
  match verifyCall config request callerSid now with
  | .error error => (read, some (.refused (.protocol error)))
  | .ok verified =>
      if !lookup then (read, some (.refused .raised))
      else
        match s.store.replay (.unavailable "stored provenance receipt is corrupt") verified with
        | .error error => (read, some (.refused error))
        | .ok (some replay) =>
            (read, some (.of (signServiceResponse config.identity replay)))
        | .ok none =>
            match permit verified with
            | .error error => (read, some (.refused error))
            | .ok () => ({ read with waiting := s.waiting ++ [⟨verified, callerSid, now⟩] }, none)

/-- The end of a transaction that has something to answer. -/
def settle (commit : Commit) (store : RequestStore) (key : Str × Str) (answer : Outcome)
    (s : ServiceState) : ServiceState × Option Outcome :=
  let settled := { s with
    store := store
    unsettled := s.unsettled.filter fun other => other ≠ key }
  match commit with
  | .committed => (settled, some answer)
  | .rolledBack => (s, some (.refused .raised))
  | .lost => (settled, some (.refused .raised))

/-- Whatever it ends with, the record is in the ledger. -/
def ServiceState.append (s : ServiceState) (call : Waiting) (written : Written) : ServiceState :=
  { s with
    ledgers := Function.update s.ledgers call.verified.sessionId
      (s.ledgers call.verified.sessionId ++ call.line written :: written.followers)
    unsettled := s.unsettled ++ [call.key] }

/-- `handle_record` from the lock on, up to an answer or to the written record. -/
def enter (turn : EnterTurn) (call : Waiting) (s : ServiceState) :
    ServiceState × Option Outcome :=
  let verified := call.verified
  if !turn.recorderReady || !turn.begins then (s, some (.refused .raised))
  else
    let pruned := s.store.prune call.now
    match pruned.replay .raised verified with
    | .error error => (s, some (.refused error))
    | .ok (some replay) =>
        match signServiceResponse config.identity replay with
        | .error error => (s, some (.refused error))
        | .ok response => settle turn.commit pruned call.key (.answered response) s
    | .ok none =>
        if !turn.readable then
          (s, some (.refused (.unavailable "cannot read provenance chain for reconciliation")))
        else
          match recoverRecord config (s.ledgers verified.sessionId) verified with
          | .error error => (s, some (.refused error))
          | .ok (some record) =>
              if !turn.replicates || !turn.indexed then (s, some (.refused .raised))
              else
                match receiptFromRecord record verified.requestId call.now with
                | none => (s, some (.refused .raised))
                | some response =>
                    if !turn.saves then (s, some (.refused .raised))
                    else
                      match signServiceResponse config.identity
                          (Members.set (Str.lit "status") (Value.lit "already_committed")
                            response) with
                      | .error error => (s, some (.refused error))
                      | .ok signed =>
                          settle turn.commit
                            (pruned.saveReceipt verified.requestId verified.requestHash response
                              call.now) call.key (.answered signed) s
          | .ok none =>
              match pruned.consumeNonce verified.enrollment.agentId verified.nonce
                  (verified.issuedAtMs + config.freshnessMs) with
              | none =>
                  (s, some (.refused (.protocol
                    ⟨"replayed_nonce", "nonce was already consumed"⟩)))
              | some consumed =>
                  match turn.append with
                  | .refused => (s, some (.refused .raised))
                  | .raised written => (s.append call written, some (.refused .raised))
                  | .returned written =>
                      ({ s.append call written with
                          opened := some ⟨call, (call.line written).value, consumed⟩ }, none)

/-- `handle_record` from the written record on. -/
def finish (turn : FinishTurn) (opened : Opened) (s : ServiceState) :
    ServiceState × Option Outcome :=
  let verified := opened.call.verified
  let closed := { s with opened := none }
  if !turn.indexed then (closed, some (.refused .raised))
  else
    match receiptFromRecord opened.record verified.requestId opened.call.now with
    | none => (closed, some (.refused .raised))
    | some response =>
        if !turn.saves then (closed, some (.refused .raised))
        else
          settle turn.commit
            (opened.store.saveReceipt verified.requestId verified.requestHash response
              opened.call.now) opened.call.key
            (.of (signServiceResponse config.identity response)) closed

end

/-! Runs: workers take turns, recorders write lines of their own at any time, and the process
may die at any point, which rolls an open transaction back. -/

inductive ServiceStep
  | arrive (request : Members) (callerSid : Str) (now : Int) (lookup : Bool)
  | enter (index : Nat) (turn : EnterTurn)
  | finish (turn : FinishTurn)
  | own (sessionId : Str) (lines : List Line)
  | crash

/-- A line that claims nothing of the service. -/
def Line.Own (line : Line) : Prop :=
  ∀ draft, line.draft? = some draft → draft.NoService

def Append.Own : Append → Prop
  | .refused => True
  | .raised written | .returned written => ∀ line ∈ written.followers, line.Own

/-- What a step does, and what it answers. -/
def serviceStep (config : ServiceConfig) (s : ServiceState) :
    ServiceStep → Option (ServiceState × Option Outcome)
  | .arrive request callerSid now lookup => some (arrive config request callerSid now lookup s)
  | .enter index turn =>
      match s.opened, s.waiting[index]? with
      | none, some call =>
          some (enter config turn call { s with waiting := s.waiting.eraseIdx index })
      | _, _ => none
  | .finish turn => s.opened.map fun opened => finish config turn opened s
  | .own sessionId lines =>
      some ({ s with
        ledgers := Function.update s.ledgers sessionId (s.ledgers sessionId ++ lines) }, none)
  | .crash => some ({ s with waiting := [], opened := none }, none)

/-- What the surroundings may do: requests are what a frame was decoded to, and recorders
claim nothing of the service by themselves. -/
def ServiceStep.Allowed : ServiceStep → Prop
  | .arrive request _ _ _ => IsJson (.dict request)
  | .enter _ turn => turn.append.Own
  | .finish _ => True
  | .own _ lines => ∀ line ∈ lines, line.Own
  | .crash => True

def serviceSystem (config : ServiceConfig) : System ServiceState ServiceStep where
  initial s := s = ServiceState.initial
  next s label t := label.Allowed ∧ ∃ outcome, serviceStep config s label = some (t, outcome)

end SelfConnect.Provenance
