import SelfConnect.Operator.Audit
import SelfConnect.Python.Dict

namespace SelfConnect.Operator

open SelfConnect.Python SelfConnect.Library

/-! `DurableOperatorQueue`: its tables, and its transactions one by one. -/

/-- The status of an approval, with the transition it waits for. -/
inductive Status
  | settled (transition : Transition)
  | auditPending (pendingStatus : Transition) (pendingEventId : Str)
  deriving DecidableEq

structure PendingApproval where
  approvalId : Str
  agentId : Str
  action : Str
  /-- What `context_json` is read as. -/
  context : Value
  submittedAt : FiniteFloat
  status : Status
  operatorId : Str
  decidedAt : Option FiniteFloat
  consumedAt : Option FiniteFloat
  expiresAt : Option Number
  terminalAt : Option FiniteFloat
  decisionProof : Option DecisionProofEnvelope
  lastAuditEventId : Str
  lastAuditReceiptJson : Option Text

/-- An event that is delivered has a receipt and a time. -/
structure OutboxRow where
  event : ApprovalAuditEvent
  delivered : Option (Text × FiniteFloat)

structure Tombstone where
  approvalId : Str
  recordedAt : FiniteFloat
  retainUntil : Number

structure Database where
  approvals : Dict Str PendingApproval
  outbox : Dict Str OutboxRow
  tombstones : Dict Str Tombstone

def Database.empty : Database := ⟨.empty, .empty, .empty⟩

/-- The arguments that the constructor accepts. -/
structure Config where
  maxAge : PyFloat
  approvalTtl : PyFloat
  hasSink : Bool
  auditRequired : Bool
  nonceRetention : FiniteFloat
  sinkRequired : auditRequired = true → hasSink = true
  retains : 0 < seconds nonceRetention

inductive Failure
  | invalidTime
  | invalidSubmission
  | invalidOperatorId
  | proofAbsent
  | writerUnidentified
  | subjectMismatch
  | invalidProof
  | invalidEvent
  | nonceReused
  | lostRace
  | clockBackward
  | noExpiry
  | sinkUnavailable
  | eventMissing
  | eventConflict
  | notRecorded
  | receiptMismatch
  | receiptUnverified
  | receiptChanged
  | unserializable
  | database
  deriving DecidableEq

/-! Times. -/

/-- A sum of doubles, from the exact sum. -/
def rounded (sum : ℚ) : Number :=
  if |Binary64.round sum| < 2 ^ 1024 then .finite (Binary64.round sum) else .infinity (sum < 0)

/-- `reading + span`. -/
def later (reading : FiniteFloat) (span : PyFloat) : Number :=
  match Number.ofFloat span with
  | .finite q => rounded (seconds reading + q)
  | .infinity negative => .infinity negative
  | .nan => .nan

/-- `reading - span`. -/
def earlier (reading : FiniteFloat) (span : PyFloat) : Number :=
  match Number.ofFloat span with
  | .finite q => rounded (seconds reading - q)
  | .infinity negative => .infinity !negative
  | .nan => .nan

/-- A column keeps `nan` as `NULL`. -/
def column : Number → Option Number
  | .nan => none
  | time => some time

def number (reading : FiniteFloat) : Number := .finite (seconds reading)

/-- `_now`, of what the clock returned. -/
def now (reading : Option FiniteFloat) : Except Failure FiniteFloat :=
  present reading .invalidTime

/-! Submission. -/

/-- `context or {}`. -/
abbrev orEmpty (context : Value) : Value := if context.truthy then context else .dict []

/-- `json.loads(json.dumps(context, sort_keys=True, …))`. -/
def storedContext (context : Value) : Option Value :=
  (Json.dumpsSorted .compact context).bind Json.loads

def submittedRow (approvalId agentId action : Str) (context : Value) (submittedAt : FiniteFloat)
    (status : Status) : PendingApproval :=
  ⟨approvalId, agentId, action, context, submittedAt, status, [], none, none, none, none, none, [],
    none⟩

/-- `INSERT INTO approvals`; `none` is an exception. -/
def Database.insertApproval (db : Database) (row : PendingApproval) : Option Database := do
  guard (Json.encodable row.agentId && Json.encodable row.action)
  guard (db.approvals.get? row.approvalId).isNone
  return { db with approvals := db.approvals.set row.approvalId row }

def Database.insertOutbox (db : Database) (event : ApprovalAuditEvent) : Option Database := do
  guard (db.outbox.get? event.eventId).isNone
  return { db with outbox := db.outbox.set event.eventId ⟨event, none⟩ }

/-- The approval's id, and the event that waits for the sink. -/
def submitTx (config : Config) (approvalId eventId agentId action : Str) (context : Value)
    (submittedAt : FiniteFloat) (db : Database) :
    Except Failure ((Str × Option Str) × Database) := do
  let context := orEmpty context
  let stored ← present (storedContext context) .invalidSubmission
  if config.hasSink then
    let contextDigest ← present (canonicalContextDigest context) .invalidSubmission
    let event : ApprovalAuditEvent :=
      ⟨eventId, approvalId, .pending, agentId, action, [], contextDigest, submittedAt, none⟩
    insist event.isValid .invalidEvent
    let inserted ← present (db.insertApproval
      (submittedRow approvalId agentId action stored submittedAt (.auditPending .pending eventId)))
      .database
    let staged ← present (inserted.insertOutbox event) .database
    .ok ((approvalId, some eventId), staged)
  else
    let inserted ← present (db.insertApproval
      (submittedRow approvalId agentId action stored submittedAt (.settled .pending))) .database
    .ok ((approvalId, none), inserted)

/-! Transitions of an approval that exists. -/

/-- `length(nonce)`, which stops at the first NUL. -/
def sqlLength (text : Str) : Nat := (text.takeWhile fun c => c.val ≠ 0).length

def Database.insertTombstone (config : Config) (db : Database) (nonce approvalId : Str)
    (transitionTs : FiniteFloat) : Option Database := do
  let retainUntil := later transitionTs (.finite config.nonceRetention)
  guard (db.tombstones.get? nonce).isNone
  guard (1 ≤ sqlLength nonce && sqlLength nonce ≤ 256)
  guard ((number transitionTs).lt retainUntil)
  return { db with
    tombstones := db.tombstones.set nonce ⟨approvalId, transitionTs, retainUntil⟩ }

/-- `decision_nonce` is unique. -/
def Database.freeNonce (db : Database) (approvalId : Str) (proof : Option DecisionProofEnvelope) :
    Bool :=
  match proof with
  | none => true
  | some envelope =>
      db.approvals.entries.all fun entry => entry.1 = approvalId ||
        entry.2.decisionProof.all fun other => other.nonce ≠ envelope.nonce

/-- The row that waits for the evidence of a transition. -/
def staged (config : Config) (item : PendingApproval) (eventId : Str) (transition : Transition)
    (operatorId : Str) (transitionTs : FiniteFloat) (proof : Option DecisionProofEnvelope) :
    PendingApproval :=
  { item with
    status := .auditPending transition eventId
    operatorId := if operatorId.isEmpty then item.operatorId else operatorId
    decidedAt :=
      if transition = .approved ∨ transition = .denied then some transitionTs else item.decidedAt
    consumedAt := if transition = .consumed then some transitionTs else item.consumedAt
    expiresAt :=
      if transition = .approved then column (later transitionTs config.approvalTtl)
      else item.expiresAt
    terminalAt := if transition.isTerminal then some transitionTs else item.terminalAt
    decisionProof := proof }

def stageExisting (config : Config) (item : PendingApproval) (eventId : Str)
    (transition : Transition) (operatorId : Str) (transitionTs : FiniteFloat)
    (decisionProof : Option DecisionProofEnvelope) (db : Database) : Except Failure Database := do
  let contextDigest ← present (canonicalContextDigest item.context) .invalidEvent
  let proof := decisionProof.or item.decisionProof
  let event : ApprovalAuditEvent :=
    ⟨eventId, item.approvalId, transition, item.agentId, item.action, operatorId, contextDigest,
      transitionTs, proof⟩
  insist event.isValid .invalidEvent
  let retained ← present
    (match decisionProof with
    | none => some db
    | some envelope => db.insertTombstone config envelope.nonce item.approvalId transitionTs)
    .nonceReused
  insist (retained.freeNonce item.approvalId proof) .nonceReused
  let row := staged config item eventId transition operatorId transitionTs proof
  present ({ retained with approvals := retained.approvals.set item.approvalId row }.insertOutbox
    event) .nonceReused

/-! Decisions. -/

inductive Verdict
  | approved
  | denied
  deriving DecidableEq

def Verdict.transition : Verdict → Transition
  | .approved => .approved
  | .denied => .denied

inductive OperatorProof
  | text (proof : Str)
  | bytes (proof : Bytes)

def OperatorProof.length : OperatorProof → Nat
  | .text proof => List.length proof
  | .bytes proof => List.length proof

/-- What is digested of a proof; `none` is `UnicodeEncodeError`. -/
def OperatorProof.bytes? : OperatorProof → Option Bytes
  | .text proof => proof.toText?.map encode
  | .bytes proof => some proof

/-- `_validate_operator_id`. -/
def validOperatorId (operatorId : Str) : Bool :=
  isBounded 256 operatorId && operatorId.all fun c => 32 ≤ c.val

/-- `_verify_decision_writer`, of what the deployment's verifier returned. -/
def verifyDecisionWriter (config : Config) (item : PendingApproval) (operatorId : Str)
    (decision : Verdict) (proof : Option OperatorProof)
    (verification : Option DecisionProofVerification) (reading : Option FiniteFloat) :
    Except Failure (Option DecisionProofEnvelope) := do
  insist (validOperatorId operatorId) .invalidOperatorId
  if config.auditRequired then
    let proof ← present proof .proofAbsent
    insist (proof.length ≠ 0 && proof.length ≤ 16384) .proofAbsent
    let contextDigest ← present (canonicalContextDigest item.context) .invalidProof
    let verification ← present verification .writerUnidentified
    insist (verification.operatorSubject = operatorId) .subjectMismatch
    let current ← now reading
    let envelope ← present (DecisionProofEnvelope.create verification proof.bytes?
      ⟨item.approvalId, item.agentId, item.action, contextDigest, decision.transition, operatorId⟩
      current)
      .invalidProof
    .ok (some envelope)
  else .ok none

/-- What a decision found: nothing to decide, or a decision, which may wait for the sink. -/
inductive Decided
  | refused
  | settled
  | staged (eventId : Str)

/-- `_decide` up to its commit. -/
def decideTx (config : Config) (approvalId operatorId : Str) (decision : Verdict)
    (proof : Option OperatorProof) (eventId : Str) (verification : Option DecisionProofVerification)
    (checked reading : Option FiniteFloat) (db : Database) : Except Failure (Decided × Database) :=
  match db.approvals.get? approvalId with
  | none => .ok (.refused, db)
  | some item =>
      if item.status = .settled .pending then do
        let decisionProof ← verifyDecisionWriter config item operatorId decision proof verification
          checked
        let transitionTs ← now reading
        insist (Json.encodable operatorId) .database
        if config.hasSink then
          let changed ← stageExisting config item eventId decision.transition operatorId transitionTs
            decisionProof db
          .ok (.staged eventId, changed)
        else
          let row := { item with
            status := .settled decision.transition
            operatorId := operatorId
            decidedAt := some transitionTs
            expiresAt :=
              if decision = .approved then column (later transitionTs config.approvalTtl) else none
            terminalAt := if decision = .denied then some transitionTs else none }
          .ok (.settled, { db with approvals := db.approvals.set approvalId row })
      else .ok (.refused, db)

/-- `_deny_for_system_safety`, whose nonce is a new identifier. -/
def systemDenyTx (config : Config) (approvalId operatorId eventId nonce : Str)
    (reading : Option FiniteFloat) (db : Database) : Except Failure (Decided × Database) := do
  insist (validOperatorId operatorId) .invalidOperatorId
  match db.approvals.get? approvalId with
  | none => .ok (.refused, db)
  | some item =>
      if item.status = .settled .pending then do
        let current ← now reading
        let contextDigest ← present (canonicalContextDigest item.context) .invalidProof
        let envelope ← present (DecisionProofEnvelope.create
          ⟨Str.lit "selfconnect.system-safety-denial", Str.lit "runtime-ledger-identity", nonce,
            .finite current, operatorId⟩
          (some (encode "internal-safety-denial;not-human-attribution".toList))
          ⟨item.approvalId, item.agentId, item.action, contextDigest, .denied, operatorId⟩ current)
          .invalidProof
        insist (Json.encodable operatorId) .database
        let changed ← stageExisting config item eventId .denied operatorId current (some envelope) db
        .ok (.staged eventId, changed)
      else .ok (.refused, db)

/-! Consumption. -/

/-- `_context_matches`. -/
def contextMatches (actual required : Members) : Bool :=
  required.all fun entry => (actual.lookupKey entry.1).any fun value => value.eqv entry.2

/-- The entries of a context, none where it is no dict. -/
def entriesOf : Value → Members
  | .dict members => members
  | _ => []

inductive Consumed
  | refused
  | consumed (item : PendingApproval)
  | stagedConsumption (eventId : Str)
  | stagedExpiry (eventId : Str)

/-- `consume_approved` up to its commit. -/
def consumeTx (config : Config) (approvalId agentId action : Str) (required : Members)
    (eventId : Str) (reading : Option FiniteFloat) (db : Database) :
    Except Failure (Consumed × Database) :=
  match db.approvals.get? approvalId with
  | none => .ok (.refused, db)
  | some item =>
      match item.decidedAt with
      | none => .ok (.refused, db)
      | some decidedAt =>
          if item.status = .settled .approved ∧ item.agentId = agentId ∧ item.action = action ∧
              contextMatches (entriesOf item.context) required then do
            let current ← now reading
            insist (!(number current).lt (number decidedAt)) .clockBackward
            match item.expiresAt with
            | none => if config.auditRequired then .error .noExpiry else .ok (.refused, db)
            | some expiresAt =>
                if (number current).lt expiresAt then
                  if config.hasSink then
                    let changed ← stageExisting config item eventId .consumed item.operatorId
                      current none db
                    .ok (.stagedConsumption eventId, changed)
                  else
                    let row := { item with
                      status := .settled .consumed, consumedAt := some current }
                    .ok (.consumed row, { db with approvals := db.approvals.set approvalId row })
                else if config.hasSink then
                  let changed ← stageExisting config item eventId .expired item.operatorId current
                    none db
                  .ok (.stagedExpiry eventId, changed)
                else
                  let row := { item with
                    status := .settled .expired, terminalAt := some current }
                  .ok (.refused, { db with approvals := db.approvals.set approvalId row })
          else .ok (.refused, db)

/-! Delivery. -/

/-- `_event_state_row`: an event beside its approval. -/
def Database.eventState? (db : Database) (eventId : Str) : Option (OutboxRow × PendingApproval) :=
  (db.outbox.get? eventId).bind fun row =>
    (db.approvals.get? row.event.approvalId).map fun item => (row, item)

/-- `_validate_event_state`. -/
def validEventState (row : OutboxRow) (item : PendingApproval) : Bool :=
  let event := row.event
  (event.agentId = item.agentId && event.action = item.action &&
    canonicalContextDigest item.context = some event.contextDigest &&
    event.operatorId = item.operatorId && event.decisionProof = item.decisionProof) &&
  (if event.transition = .pending then event.operatorId.isEmpty && event.decisionProof.isNone
    else !event.operatorId.isEmpty && event.decisionProof.isSome) &&
  (match row.delivered with
  | none => item.status = .auditPending event.transition event.eventId
  | some _ => item.status = .settled event.transition && item.lastAuditEventId = event.eventId)

/-- `_receipt_matches_event`; `none` is an exception. -/
def receiptMatchesEvent (receipt : Value) (event : ApprovalAuditEvent) : Option Bool :=
  (approvalEventDigest event).map fun eventDigest =>
    [("event_id", Value.str event.eventId), ("approval_id", .str event.approvalId),
      ("transition", .lit event.transition.text), ("agent_id", .str event.agentId),
      ("action", .str event.action), ("operator_id", .str event.operatorId),
      ("context_digest", .str (Str.ofText event.contextDigest)),
      ("event_digest", .str (Str.ofText eventDigest))].all fun field =>
        (receipt.getD field.1 .null).eqv field.2

def Database.setOutbox (db : Database) (eventId : Str) (row : OutboxRow) : Database :=
  { db with outbox := db.outbox.set eventId row }

/-- The second transaction of `_flush_event`. -/
def finishTx (event : ApprovalAuditEvent) (receiptJson : Text) (reading : Option FiniteFloat)
    (db : Database) : Except Failure Database := do
  let (row, item) ← present (db.eventState? event.eventId) .eventMissing
  insist (row.event = event) .eventConflict
  insist (validEventState row item) .eventConflict
  match row.delivered with
  | some (known, _) => do
      insist (known = receiptJson) .receiptChanged
      .ok db
  | none => do
      let deliveredAt ← now reading
      let settled := { item with
        status := .settled event.transition
        lastAuditEventId := event.eventId
        lastAuditReceiptJson := some receiptJson }
      .ok ({ db with approvals := db.approvals.set event.approvalId settled }.setOutbox event.eventId
        ⟨event, some (receiptJson, deliveredAt)⟩)

/-! Purge. -/

/-- `time < cutoff`, where a cutoff that is no number compares with nothing. -/
def isBefore (time : FiniteFloat) (cutoff : Number) : Bool := (number time).lt cutoff

def Database.purges (db : Database) (cutoff : Number) (item : PendingApproval) : Bool :=
  ([Transition.denied, .consumed, .expired].any fun transition =>
      item.status = .settled transition) &&
    item.terminalAt.any (isBefore · cutoff) &&
    db.outbox.entries.all fun entry => entry.2.event.approvalId ≠ item.approvalId ||
      entry.2.delivered.any fun delivery => isBefore delivery.2 cutoff

/-- The transaction of `purge_expired`. -/
def purgeTx (config : Config) (current : FiniteFloat) (db : Database) : Nat × Database :=
  let cutoff := earlier current config.maxAge
  let purged := (db.approvals.entries.filter fun entry => db.purges cutoff entry.2).map Prod.fst
  (purged.length,
    { approvals := db.approvals.filter fun _ item => !db.purges cutoff item
      outbox := db.outbox.filter fun _ row => !purged.any fun approvalId =>
        approvalId = row.event.approvalId
      tombstones := db.tombstones.filter fun _ tombstone =>
        (number current).lt tombstone.retainUntil })

end SelfConnect.Operator
