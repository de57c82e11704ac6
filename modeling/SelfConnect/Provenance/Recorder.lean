import SelfConnect.Provenance.Verify
import SelfConnect.Python.File
import SelfConnect.Library.Program

namespace SelfConnect.Provenance

open SelfConnect.Python SelfConnect.Python.Json SelfConnect.Library

/-! The recorder, the only writer of a session log. -/

structure Identity where
  sign : Bytes → Bytes
  publicKey : Bytes

structure PublicKey where
  verify : (signature message : Bytes) → Bool

structure Config where
  sessionId : Str
  agentId : Str
  auditMode : AuditMode
  sealInterval : Int
  identity : Option Identity
  supervisorId : Option Str
  orchestratorToken : Option Str
  replicated : Bool

structure Recorder where
  config : Config
  auditMode : AuditMode
  seq : Int
  segmentNo : Int
  prevHash : Str
  firstEventHash : Option Str
  eventCountSinceSeal : Int
  sessionState : SessionState
  started : Bool
  closed : Bool
  registeredAgents : List (Str × Option PublicKey)

/-- `ProvenanceRecorder.__init__`. -/
def Recorder.create (config : Config) : Recorder where
  config := config
  auditMode := config.auditMode
  seq := 0
  segmentNo := 0
  prevHash := genesisHash
  firstEventHash := none
  eventCountSinceSeal := 0
  sessionState := .opened
  started := false
  closed := false
  registeredAgents := []

/-! What the surroundings do at each turn: the clock, the signer, the disk and the
replication sink. -/

inductive Push
  | receipt (receipt : Str)
  | notImplemented
  | replicationError (message : Str)
  | raised

structure Turn where
  now : Datetime
  signFails : Bool
  write : Write
  push : Push
  ackNow : Datetime
  ackWrite : Write
  readFails : Bool

inductive RecorderError
  | sinkRequired
  | sinkUnavailable
  | malformedJson
  | noIntegerSequence
  | nothingToResume
  | closed
  | notStarted
  | supervisorNotConfigured (eventType : SessionEventType)
  | notSupervisor (eventType : SessionEventType) (supervisor submitter : Str)
  | signatureRequired (submitter : Str) (eventType : SessionEventType) (mode : AuditMode)
  | signatureRejected (submitter : Str)
  | closeUnauthorized (mode : AuditMode)
  | downgradeUnauthorized (old new : AuditMode)
  | signingFailed
  | sinkWriteFailed
  | receiptNotPersisted
  | pushNotImplemented
  | forkDetected (message : Str)
  | replicationFailed (message : Str)
  | sealReadFailed (mode : AuditMode)
  | recoveryWithoutSink

inductive Raised
  | recorder (error : RecorderError)
  | typeError
  | attributeError
  | sink

/-- One line the recorder set out to write, with what decides its fate: whether
a configured signer raised, which only stops a recorder that fails closed, and
the disk. -/
structure Attempt where
  line : Line
  mode : AuditMode
  signerRaised : Option Bool
  write : Write

/-- One push to the sink: what it was handed, by which of the recorders that had the
session in turn and in which mode, and what it answered. -/
structure Pushed where
  sessionId : Str
  segmentNo : Int
  record : Value
  generation : Nat
  mode : AuditMode
  answer : Push

/-- The recorder, its log file and the turns taken so far. The writes attempted, the
pushes made and the recorders replaced so far are never read by the program. -/
structure World where
  recorder : Recorder
  log : Option Text
  turns : Nat
  attempts : List Attempt
  pushes : List Pushed
  generation : Nat

abbrev Session (α : Type) := Program World Raised α

def World.update (w : World) (f : Recorder → Recorder) : World :=
  { w with recorder := f w.recorder }

/-- The file after a write to its end; only a refused open leaves a missing file
missing. -/
def World.append (w : World) (write : Write) (text : Text) : World :=
  match write with
  | .refused => w
  | _ => { w with log := some (w.log.getD [] ++ write.kept text) }

def World.attempt (w : World) (attempt : Attempt) : World :=
  { w with attempts := w.attempts ++ [attempt] }

def World.push (w : World) (record : Value) (answer : Push) : World :=
  { w with pushes := w.pushes ++
    [⟨w.recorder.config.sessionId, w.recorder.segmentNo, record, w.generation,
      w.recorder.auditMode, answer⟩] }

section Program

variable (turns : Nat → Turn)

def takeTurn : Session Turn := do
  let w ← Program.get
  Program.modify fun w => { w with turns := w.turns + 1 }
  pure (turns w.turns)

/-- Returns whether the line was written without an exception. -/
def writeLine (write : Write) (line : Text) : Session Bool := do
  Program.modify fun w => w.append write line
  pure write.isDurable

inductive Signing
  | unsigned
  | signed (signature : Bytes)
  | failed

def signRecord (identity : Option Identity) (fails : Bool) (canonical : Option Text) : Signing :=
  match identity with
  | none => .unsigned
  | some identity =>
      match canonical with
      | some text => if fails then .failed else .signed (identity.sign (encode text))
      | none => .failed

def Signing.signature? : Signing → Option Bytes
  | .signed signature => some signature
  | _ => none

def Signing.isFailed : Signing → Bool
  | .failed => true
  | _ => false

def raiseRecorder {α : Type} (error : RecorderError) : Session α :=
  Program.raise (.recorder error)

/-- `_handle_sink_failure`. -/
def handleSinkFailure (mode : AuditMode) : Session Unit :=
  Program.require (!mode.failsClosed) (.recorder .sinkWriteFailed)

/-- `_replicate`, with the sink's answer and the acknowledgement's own write. -/
def replicate (turn : Turn) (record : Value) : Session Bool := do
  Program.modify fun w => w.push record turn.push
  let w ← Program.get
  match turn.push with
  | .receipt receipt =>
      if receipt.isEmpty then pure false
      else do
        let line := Line.ack ⟨w.recorder.seq, turn.ackNow, w.recorder.config.sessionId, receipt,
          w.recorder.prevHash⟩
        Program.modify fun w => w.attempt ⟨line, w.recorder.auditMode, none, turn.ackWrite⟩
        let written ← writeLine turn.ackWrite line.text
        Program.require (written || w.recorder.auditMode ≠ .military)
          (.recorder .receiptNotPersisted)
        pure true
  | .notImplemented => do
      Program.require (w.recorder.auditMode ≠ .military) (.recorder .pushNotImplemented)
      pure false
  | .replicationError message =>
      if Str.lit "fork_detected" <:+: message then do
        Program.require (!w.recorder.auditMode.failsClosed) (.recorder (.forkDetected message))
        pure false
      else do
        Program.require (w.recorder.auditMode ≠ .military)
          (.recorder (.replicationFailed message))
        pure false
  | .raised => Program.raise .sink

/-- `ensure_replicated`. -/
def ensureReplicated (record : Value) : Session Bool := do
  let turn ← takeTurn turns
  let w ← Program.get
  if w.recorder.config.replicated then replicate turn record
  else do
    Program.require (w.recorder.auditMode ≠ .military) (.recorder .recoveryWithoutSink)
    pure false

/-- Sign, hash and write one record, and replicate it once it is written. -/
def appendDraft (turn : Turn) (r : Recorder) (draft : Draft) : Session (Option Value) := do
  let signing := signRecord r.config.identity turn.signFails (canonicalBytes draft.unsigned)
  let line := Line.record draft signing.signature?
  Program.modify fun w => w.attempt
    ⟨line, r.auditMode, r.config.identity.map fun _ => turn.signFails, turn.write⟩
  Program.require (!(signing.isFailed && r.auditMode.failsClosed)) (.recorder .signingFailed)
  let newHash ← Program.ofExcept ((canonicalHash line.value).elim (.error Raised.typeError) .ok)
  Program.modify fun w => w.update fun r =>
    { r with
      prevHash := newHash
      firstEventHash := if r.seq = 1 then some newHash else r.firstEventHash }
  let written ← writeLine turn.write line.text
  if written then do
    let _ ← (if r.config.replicated then replicate turn line.value else pure false)
    Program.modify fun w => w.update fun r =>
      { r with eventCountSinceSeal := r.eventCountSinceSeal + 1 }
    pure (some line.value)
  else do
    handleSinkFailure r.auditMode
    pure none

/-- `_append_record` up to the seal at its end. -/
def appendOne (eventType : SessionEventType) (payload : Members) (agentId : Str)
    (signature : Option Bytes) (osCorroboration : Option Members) : Session (Option Value) := do
  let turn ← takeTurn turns
  Program.modify fun w => w.update fun r => { r with seq := r.seq + 1 }
  let w ← Program.get
  let r := w.recorder
  appendDraft turn r
    { seq := r.seq
      now := turn.now
      sessionId := r.config.sessionId
      agentId := if agentId.isEmpty then r.config.agentId else agentId
      eventType
      payload
      prevHash := r.prevHash
      osCorroboration
      signature }

/-! Merkle seals. -/

def merkleLayer : List Text → List Text
  | [] => []
  | [last] => [sha384Hex (last ++ last)]
  | first :: second :: rest => sha384Hex (first ++ second) :: merkleLayer rest

def merkleReduce : Nat → List Text → Text
  | _, [] => sha384Hex []
  | _, [root] => root
  | 0, root :: _ => root
  | fuel + 1, layer => merkleReduce fuel (merkleLayer layer)

/-- `_merkle_root`; every layer is shorter than the one below. -/
def merkleRoot (hashes : List Text) : Text :=
  merkleReduce hashes.length hashes

def sealPayload (root : Text) (sealedEvents : Nat) (segmentNo : Int) (final : Bool) : Members :=
  Members.of [("merkle_root", .str (Str.ofText root)), ("sealed_events", .int sealedEvents),
    ("segment_no", .int segmentNo), ("final", .bool final)]

/-- `_write_merkle_seal`. The append of a seal is never followed by another. -/
def writeMerkleSeal (final : Bool) : Session Unit := do
  let turn ← takeTurn turns
  let w ← Program.get
  if turn.readFails || w.log.isNone then
    Program.require (!w.recorder.auditMode.failsClosed)
      (.recorder (.sealReadFailed w.recorder.auditMode))
  else do
    let lines := filledLines isNewline isSpace (w.log.getD [])
    let start := (lines.length - w.recorder.eventCountSinceSeal).toNat
    let chunk := lines.drop start
    let root := merkleRoot (chunk.map sha384Hex)
    Program.modify fun w => w.update fun r =>
      { r with segmentNo := r.segmentNo + 1, eventCountSinceSeal := 0 }
    let _ ← appendOne turns .merkleSeal
      (sealPayload root chunk.length (w.recorder.segmentNo + 1) final) [] none none
    pure ()

/-- `_append_record`. -/
def appendRecord (eventType : SessionEventType) (payload : Members) (agentId : Str)
    (signature : Option Bytes) (osCorroboration : Option Members) : Session (Option Value) := do
  let written ← appendOne turns eventType payload agentId signature osCorroboration
  let w ← Program.get
  if written.isSome && decide (w.recorder.config.sealInterval ≤ w.recorder.eventCountSinceSeal) &&
      decide (eventType ≠ .merkleSeal) then do
    writeMerkleSeal turns false
    pure written
  else pure written

/-! Starting and resuming. -/

/-- The records of a log that have an integer sequence number. -/
def chainRecords (records : List Value) : List Value :=
  records.filter fun record => ((record.get? "seq").map Value.isInt).getD false

def parseLines (lines : List Text) : Option (List Value) :=
  lines.mapM loads

/-- The tail of the chain in a log: sequence number, hash, and first hash. -/
structure ChainTail where
  seq : Int
  prevHash : Str
  firstEventHash : Option Str
  deriving DecidableEq

/-- What `_load_chain_state` finds; `none` leaves the recorder as it is. -/
def readChainState (log : Option Text) : Except Raised (Option ChainTail) :=
  match log with
  | none => .ok none
  | some text =>
      match filledLines isLineBoundary isSpace text with
      | [] => .ok none
      | lines =>
          match parseLines lines with
          | none => .error (.recorder .malformedJson)
          | some records =>
              if !records.all Value.isDict then .error .attributeError
              else
                match (chainRecords records).head?, (chainRecords records).getLast? with
                | some first, some last =>
                    match (last.get? "seq").bind Value.toInt?, canonicalHash last,
                      canonicalHash first with
                    | some seq, some prevHash, some firstEventHash =>
                        .ok (some ⟨seq, prevHash, some firstEventHash⟩)
                    | _, _, _ => .error .typeError
                | _, _ => .error (.recorder .noIntegerSequence)

/-- `_load_chain_state`. -/
def loadChainState : Session Unit := do
  let w ← Program.get
  let found ← Program.ofExcept (readChainState w.log)
  match found with
  | none => pure ()
  | some tail =>
      Program.modify fun w => w.update fun r =>
        { r with
          seq := tail.seq
          prevHash := tail.prevHash
          firstEventHash := tail.firstEventHash }

def lifecyclePayload (r : Recorder) (state : SessionState) : Members :=
  Members.of [("audit_mode", Value.lit r.auditMode.value), ("agent_id", .str r.config.agentId),
    ("session_state", Value.lit state.value)]

/-- `start`; `unavailable` says that the log file could not be created or touched. -/
def start (unavailable resume : Bool) : Session Unit := do
  let w ← Program.get
  let r := w.recorder
  if r.started then pure ()
  else if r.auditMode = .military && !r.config.replicated then raiseRecorder .sinkRequired
  else if unavailable then
    Program.require (!r.auditMode.failsClosed) (.recorder .sinkUnavailable)
  else do
    Program.modify fun w => { w with log := some (w.log.getD []) }
    loadChainState
    Program.require (!resume || !(w.log.getD []).isEmpty) (.recorder .nothingToResume)
    Program.modify fun w => w.update fun r =>
      { r with
        started := true
        sessionState := if resume then .reconstructed else r.sessionState }
    let _ ← appendRecord turns (if resume then .sessionReconstructed else .sessionOpen)
      (lifecyclePayload r (if resume then .reconstructed else .opened)) r.config.agentId none none
    pure ()

/-! Recording. -/

/-- `_check_event_authority`. -/
def checkEventAuthority (eventType : SessionEventType) (submitter : Str) : Session Unit := do
  let w ← Program.get
  let r := w.recorder
  if !eventType.privileged || r.auditMode = .consumer then pure ()
  else
    match r.config.supervisorId with
    | none =>
        Program.require (r.auditMode ≠ .military) (.recorder (.supervisorNotConfigured eventType))
    | some supervisor =>
        if submitter = supervisor then pure ()
        else do
          let _ ← appendRecord turns .policyViolation
            (Members.of [("violation", Value.lit "unauthorized_privileged_event"),
              ("event_type", Value.lit eventType.value), ("submitter", .str submitter),
              ("required_supervisor", .str supervisor)])
            r.config.agentId none none
          raiseRecorder (.notSupervisor eventType supervisor submitter)

/-- The bytes an agent signs for an event. -/
def eventBytes (eventType : SessionEventType) (payload : Members) : Option Text :=
  dumpsSorted .compact
    (Value.object [("event_type", Value.lit eventType.value), ("payload", .dict payload)])

/-- `_check_signature`. -/
def checkSignature (r : Recorder) (eventType : SessionEventType) (submitter : Str)
    (payload : Members) (signature : Option Bytes) : Session Unit :=
  match r.registeredAgents.lookup submitter with
  | none | some none => pure ()
  | some (some publicKey) =>
      match signature with
      | none =>
          Program.require (!r.auditMode.failsClosed)
            (.recorder (.signatureRequired submitter eventType r.auditMode))
      | some signature =>
          match eventBytes eventType payload with
          | some canonical =>
              Program.require (publicKey.verify signature (encode canonical))
                (.recorder (.signatureRejected submitter))
          | none => raiseRecorder (.signatureRejected submitter)

/-- `record`. -/
def record (eventType : SessionEventType) (payload : Option Members) (agentId : Str)
    (signature : Option Bytes) (osCorroboration : Option Members) : Session (Option Value) := do
  let w ← Program.get
  let r := w.recorder
  if r.closed then raiseRecorder .closed
  else if !r.started then do
    Program.require (!r.auditMode.failsClosed) (.recorder .notStarted)
    pure none
  else do
    let submitter := if agentId.isEmpty then r.config.agentId else agentId
    checkEventAuthority turns eventType submitter
    checkSignature r eventType submitter (payload.getD []) signature
    appendRecord turns eventType (payload.getD []) submitter signature osCorroboration

/-- One turn of `_heartbeat_loop`, which only logs exceptions. -/
def heartbeat : Session Unit := do
  let w ← Program.get
  let r := w.recorder
  if r.closed || !r.started then pure ()
  else do
    let _ ← Program.attempt (appendRecord turns .heartbeat
      (Members.of [("seq_at_heartbeat", .int r.seq),
        ("session_state", Value.lit r.sessionState.value)]) [] none none)
    pure ()

/-! Leaving a session. -/

/-- `close`. -/
def close (summary : Option Members) (token : Option Str) : Session Unit := do
  let w ← Program.get
  let r := w.recorder
  if r.closed then pure ()
  else if r.config.orchestratorToken.isSome && r.auditMode.failsClosed &&
      decide (token ≠ r.config.orchestratorToken) then do
    let _ ← appendRecord turns .policyViolation
      (Members.of [("violation", Value.lit "unauthorized_close_attempt"),
        ("submitter", Value.lit "unknown")]) r.config.agentId none none
    raiseRecorder (.closeUnauthorized r.auditMode)
  else do
    Program.when r.started do
      Program.modify fun w => w.update fun r => { r with sessionState := .sealed }
      let _ ← appendRecord turns .sessionClose
        (Members.of [("summary", .dict (summary.getD [])), ("total_events", .int r.seq),
          ("session_state", Value.lit SessionState.sealed.value)]) r.config.agentId none none
      writeMerkleSeal turns true
    Program.modify fun w => w.update fun r => { r with closed := true }

/-- `interrupt`; closing the sink is the last thing it does. -/
def interrupt (reason : Str) (sinkCloseRaises : Bool) : Session Unit := do
  let w ← Program.get
  let r := w.recorder
  if r.closed then pure ()
  else do
    Program.when r.started do
      Program.modify fun w => w.update fun r => { r with sessionState := .interrupted }
      let _ ← appendRecord turns .sessionInterrupt
        (Members.of [("reason", .str reason),
          ("session_state", Value.lit SessionState.interrupted.value)]) r.config.agentId none none
      writeMerkleSeal turns false
    Program.modify fun w => w.update fun r => { r with closed := true }
    Program.require (!(r.config.replicated && sinkCloseRaises)) .sink

/-- `change_audit_mode`. -/
def changeAuditMode (newMode : AuditMode) (token : Option Str) (reason : Str) : Session Unit := do
  let w ← Program.get
  let r := w.recorder
  let oldMode := r.auditMode
  let isDowngrade := !oldMode.allowsDowngradeTo newMode
  if isDowngrade && r.config.orchestratorToken.isSome &&
      decide (token ≠ r.config.orchestratorToken) then do
    let _ ← appendRecord turns .policyViolation
      (Members.of [("violation", Value.lit "unauthorized_audit_mode_downgrade"),
        ("from", Value.lit oldMode.value), ("to", Value.lit newMode.value)])
      r.config.agentId none none
    raiseRecorder (.downgradeUnauthorized oldMode newMode)
  else do
    Program.modify fun w => w.update fun r => { r with auditMode := newMode }
    let _ ← appendRecord turns .auditModeChange
      (Members.of [("from", Value.lit oldMode.value), ("to", Value.lit newMode.value),
        ("is_downgrade", .bool isDowngrade), ("reason", .str reason)]) r.config.agentId none none
    pure ()

end Program

/-- `register_agent`. -/
def registerAgent (agentId : Str) (publicKey : Option PublicKey) : Session Unit :=
  Program.modify fun w => w.update fun r =>
    { r with registeredAgents :=
        (agentId, publicKey) :: r.registeredAgents.filter fun entry => entry.1 ≠ agentId }

end SelfConnect.Provenance
