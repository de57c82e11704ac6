import SelfConnect.Library.CallPaths
import SelfConnect.Operator.Queue

namespace SelfConnect.Operator

open SelfConnect.Python SelfConnect.Library

/-! The operations of `DurableOperatorQueue`: what each asks of the database, the clock and the
sink, one request after the other. -/

/-- What the sink does; `none` is an exception. -/
structure Sink (Λ : Type) where
  record : Λ → ApprovalAuditEvent → Option Value × Λ
  verifyReceipt : Λ → ApprovalAuditEvent → Value → Option Bool × Λ

structure Shared (Λ : Type) where
  db : Database
  /-- How many identifiers have been drawn. -/
  issued : Nat
  sink : Λ

/-- What is not the caller's: whether the database works, what the clock and the deployment's
verifier return. -/
structure Choice where
  works : Bool
  reading : Option FiniteFloat
  checked : Option FiniteFloat
  verification : Option DecisionProofVerification

inductive Request
  | readClock
  | submit (config : Config) (agentId action : Str) (context : Value) (submittedAt : FiniteFloat)
  | decide (config : Config) (approvalId operatorId : Str) (decision : Verdict)
      (proof : Option OperatorProof)
  | denyForSystemSafety (config : Config) (approvalId operatorId : Str)
  | consume (config : Config) (approvalId agentId action : Str) (required : Members)
  | readEvent (eventId : Str)
  | record (event : ApprovalAuditEvent)
  | verifyReceipt (event : ApprovalAuditEvent) (receipt : Value)
  | finish (event : ApprovalAuditEvent) (receiptJson : Text)
  | pendingEvents
  | deliveredEvents (approvalId : Str)
  | purge (config : Config) (current : FiniteFloat)
  | get (approvalId : Str)

abbrev Request.Answer : Request → Type
  | .readClock => FiniteFloat
  | .submit .. => Str × Option Str
  | .decide .. => Decided
  | .denyForSystemSafety .. => Decided
  | .consume .. => Consumed
  | .readEvent _ => Option (OutboxRow × PendingApproval)
  | .record _ => Value
  | .verifyReceipt .. => Bool
  | .finish .. => Unit
  | .pendingEvents => List Str
  | .deliveredEvents _ => List OutboxRow
  | .purge .. => Nat
  | .get _ => Option PendingApproval

abbrev Response (request : Request) : Type := Except Failure request.Answer

abbrev Action (α : Type) : Type := ExceptT Failure (Script Response) α

def ask (request : Request) : Action request.Answer := ExceptT.mk (Script.request request)

def raising {α : Type} (outcome : Except Failure α) : Action α := ExceptT.mk (.done outcome)

/-! The server. -/

variable {Λ : Type}

/-- A transaction that raises is rolled back. -/
def Shared.commit {α : Type} (s : Shared Λ) (works : Bool) (drawn : Nat)
    (outcome : Except Failure (α × Database)) : Except Failure α × Shared Λ :=
  if works then
    match outcome with
    | .ok (a, db) => (.ok a, { s with db := db, issued := s.issued + drawn })
    | .error failure => (.error failure, { s with issued := s.issued + drawn })
  else (.error .database, s)

/-- The undelivered events, the oldest first. -/
def Database.pendingEvents (db : Database) : List Str :=
  ((db.outbox.entries.filter fun entry => entry.2.delivered.isNone).mergeSort fun first second =>
    !(number second.2.event.transitionTs).lt (number first.2.event.transitionTs)).map Prod.fst

def Database.deliveredEvents (db : Database) (approvalId : Str) : List OutboxRow :=
  db.outbox.values.filter fun row => row.event.approvalId = approvalId && row.delivered.isSome

def serve {Ticket : Type} (uuid : Nat → Str) (sink : Sink Λ) :
    Calls.Serve Ticket Choice (Shared Λ) Response :=
  fun choice _ s request =>
    match request with
    | .readClock => (now choice.reading, s)
    | .submit config agentId action context submittedAt =>
        s.commit choice.works 2 (submitTx config (uuid s.issued) (uuid (s.issued + 1)) agentId action
          context submittedAt s.db)
    | .decide config approvalId operatorId decision proof =>
        s.commit choice.works 1 (decideTx config approvalId operatorId decision proof (uuid s.issued)
          choice.verification choice.checked choice.reading s.db)
    | .denyForSystemSafety config approvalId operatorId =>
        s.commit choice.works 2 (systemDenyTx config approvalId operatorId (uuid s.issued)
          (uuid (s.issued + 1)) choice.reading s.db)
    | .consume config approvalId agentId action required =>
        s.commit choice.works 1 (consumeTx config approvalId agentId action required (uuid s.issued)
          choice.reading s.db)
    | .readEvent eventId => s.commit choice.works 0 (.ok (s.db.eventState? eventId, s.db))
    | .record event =>
        (present (sink.record s.sink event).1 .notRecorded,
          { s with sink := (sink.record s.sink event).2 })
    | .verifyReceipt event receipt =>
        (present (sink.verifyReceipt s.sink event receipt).1 .receiptUnverified,
          { s with sink := (sink.verifyReceipt s.sink event receipt).2 })
    | .finish event receiptJson =>
        s.commit choice.works 0 ((finishTx event receiptJson choice.reading s.db).map ((), ·))
    | .pendingEvents => s.commit choice.works 0 (.ok (s.db.pendingEvents, s.db))
    | .deliveredEvents approvalId =>
        s.commit choice.works 0 (.ok (s.db.deliveredEvents approvalId, s.db))
    | .purge config current => s.commit choice.works 0 (.ok (purgeTx config current s.db))
    | .get approvalId => s.commit choice.works 0 (.ok (s.db.approvals.get? approvalId, s.db))

/-! The operations. -/

/-- The receipt that is kept, or else the sink's. -/
def receiptOf (row : OutboxRow) : Action Value :=
  match row.delivered with
  | some (receiptJson, _) => raising (present (Json.loads receiptJson) .unserializable)
  | none => ask (.record row.event)

/-- `_flush_event`. -/
def flushEvent (config : Config) (eventId : Str) : Action Unit :=
  if config.hasSink then do
    let found ← ask (.readEvent eventId)
    let (row, item) ← raising (present found .eventMissing)
    raising (insist (validEventState row item) .eventConflict)
    let receipt ← receiptOf row
    let names ← raising (present (receiptMatchesEvent receipt row.event) .unserializable)
    raising (insist names .receiptMismatch)
    let verified ← ask (.verifyReceipt row.event receipt)
    raising (insist verified .receiptUnverified)
    let receiptJson ← raising (present (Json.dumpsSorted .compact receipt) .unserializable)
    ask (.finish row.event receiptJson)
  else raising (insist (!config.auditRequired) .sinkUnavailable)

def submit (config : Config) (agentId action : Str) (context : Value) : Action Str := do
  let submittedAt ← ask .readClock
  let (approvalId, staged) ← ask (.submit config agentId action context submittedAt)
  match staged with
  | none => return approvalId
  | some eventId => do
      flushEvent config eventId
      return approvalId

def settle (config : Config) : Decided → Action Bool
  | .refused => return false
  | .settled => return true
  | .staged eventId => do
      flushEvent config eventId
      return true

def decide (config : Config) (approvalId operatorId : Str) (decision : Verdict)
    (proof : Option OperatorProof) : Action Bool := do
  let decided ← ask (.decide config approvalId operatorId decision proof)
  settle config decided

def approve (config : Config) (approvalId operatorId : Str) (proof : Option OperatorProof) :
    Action Bool :=
  decide config approvalId operatorId .approved proof

def deny (config : Config) (approvalId operatorId : Str) (proof : Option OperatorProof) :
    Action Bool :=
  decide config approvalId operatorId .denied proof

def denyForSystemSafety (config : Config) (approvalId operatorId : Str) : Action Bool := do
  let decided ← ask (.denyForSystemSafety config approvalId operatorId)
  settle config decided

def consumeApproved (config : Config) (approvalId agentId action : Str) (required : Members) :
    Action (Option PendingApproval) := do
  let consumed ← ask (.consume config approvalId agentId action required)
  match consumed with
  | .refused => return none
  | .consumed item => return some item
  | .stagedConsumption eventId => do
      flushEvent config eventId
      ask (.get approvalId)
  | .stagedExpiry eventId => do
      flushEvent config eventId
      return none

def flushAll (config : Config) : List Str → Action Unit
  | [] => return ()
  | eventId :: rest => do
      flushEvent config eventId
      flushAll config rest

def reconcile (config : Config) : Action Nat := do
  let pending ← ask .pendingEvents
  flushAll config pending
  return pending.length

def purgeExpired (config : Config) : Action Nat := do
  let current ← ask .readClock
  ask (.purge config current)

/-! `verify_consumed_binding`. -/

/-- `isinstance(receipt.get("ledger_seq"), int)`, and its value. -/
def ledgerSeq (receipt : Value) : Option Int :=
  match receipt.get? "ledger_seq" with
  | some (.int n) => some n
  | some (.bool b) => some (if b then 1 else 0)
  | _ => none

/-- Three events, in the order of their places in the ledger. -/
structure Evidence where
  pending : ApprovalAuditEvent
  approved : ApprovalAuditEvent
  consumed : ApprovalAuditEvent
  receipts : Value × Value × Value
  places : Int × Int × Int

/-- `none` where the events are others, or their receipts name no places. -/
def evidenceOf (rows : List OutboxRow) : Option Evidence := do
  let pairs ← rows.mapM fun row => do
    let receipt ← row.delivered.bind fun delivery => Json.loads delivery.1
    let place ← ledgerSeq receipt
    return (row.event, receipt, place)
  match pairs.mergeSort fun first second => first.2.2 ≤ second.2.2 with
  | [pending, approved, consumed] => do
      guard (pending.1.transition = .pending)
      guard (approved.1.transition = .approved)
      guard (consumed.1.transition = .consumed)
      return ⟨pending.1, approved.1, consumed.1, (pending.2.1, approved.2.1, consumed.2.1),
        (pending.2.2, approved.2.2, consumed.2.2)⟩
  | _ => none

/-- `first <= second`, of two times. -/
def notLater (first second : FiniteFloat) : Bool := !(number second).lt (number first)

/-- `expected`; `none` is an exception. -/
def Evidence.expected (evidence : Evidence) (item : PendingApproval)
    (proof : DecisionProofEnvelope) (receipt : Value) (agentId action : Str) : Option Bool := do
  let digest ← canonicalContextDigest item.context
  let common := [evidence.pending, evidence.approved, evidence.consumed].all fun event =>
    event.approvalId = item.approvalId && event.agentId = agentId && event.action = action &&
      event.contextDigest = digest
  let attributed := evidence.pending.operatorId.isEmpty && evidence.pending.decisionProof.isNone &&
    evidence.approved.operatorId = item.operatorId &&
    evidence.consumed.operatorId = item.operatorId &&
    evidence.approved.decisionProof = some proof && evidence.consumed.decisionProof = some proof
  if common && attributed then
    let bound ← proof.verifiesBinding
      ⟨item.approvalId, agentId, action, digest, .approved, item.operatorId⟩
    return bound && notLater evidence.pending.transitionTs evidence.approved.transitionTs &&
      notLater evidence.approved.transitionTs evidence.consumed.transitionTs &&
      (evidence.places.1 < evidence.places.2.1 && evidence.places.2.1 < evidence.places.2.2) &&
      evidence.consumed.eventId = item.lastAuditEventId &&
      evidence.receipts.2.2.eqv receipt
  else return false

/-- Whether the sink still backs the receipts, one after the other. -/
def backed : List (ApprovalAuditEvent × Value) → Action Bool
  | [] => return true
  | (event, receipt) :: rest => do
      let names ← raising (present (receiptMatchesEvent receipt event) .unserializable)
      if names then
        let answer : Except Failure Bool ← ExceptT.mk ((ask (.verifyReceipt event receipt)).run >>=
          fun answer => .done (.ok answer))
        match answer with
        | .ok true => backed rest
        | _ => return false
      else return false

def verifyConsumedBinding (config : Config) (item : PendingApproval) (agentId action : Str)
    (required : Members) : Action Bool :=
  if !config.hasSink then return !config.auditRequired
  else if item.status ≠ .settled .consumed ∨ item.agentId ≠ agentId ∨ item.action ≠ action ∨
      !contextMatches (entriesOf item.context) required then return false
  else do
    let rows ← ask (.deliveredEvents item.approvalId)
    match item.decisionProof, item.lastAuditReceiptJson.bind Json.loads, evidenceOf rows with
    | some proof, some receipt, some evidence =>
        if receipt.truthy then do
          let expected ← raising (present
            (evidence.expected item proof receipt agentId action) .unserializable)
          if expected then
            backed [(evidence.pending, evidence.receipts.1), (evidence.approved, evidence.receipts.2.1),
              (evidence.consumed, evidence.receipts.2.2)]
          else return false
        else return false
    | _, _, _ => return false

/-! Calls. -/

inductive Operation
  | submit (agentId action : Str) (context : Value)
  | approve (approvalId operatorId : Str) (proof : Option OperatorProof)
  | deny (approvalId operatorId : Str) (proof : Option OperatorProof)
  | denyForSystemSafety (approvalId operatorId : Str)
  | consumeApproved (approvalId agentId action : Str) (required : Members)
  | reconcile
  | purgeExpired
  | verifyConsumedBinding (item : PendingApproval) (agentId action : Str) (required : Members)
  | get (approvalId : Str)

inductive Result
  | submitted (approvalId : Str)
  | decided (changed : Bool)
  | consumed (item : Option PendingApproval)
  | reconciled (count : Nat)
  | purged (count : Nat)
  | verified (holds : Bool)
  | found (item : Option PendingApproval)

structure Call where
  config : Config
  operation : Operation

def program (call : Call) : Script Response (Except Failure Result) :=
  ExceptT.run <|
    match call.operation with
    | .submit agentId action context => .submitted <$> submit call.config agentId action context
    | .approve approvalId operatorId proof =>
        .decided <$> approve call.config approvalId operatorId proof
    | .deny approvalId operatorId proof => .decided <$> deny call.config approvalId operatorId proof
    | .denyForSystemSafety approvalId operatorId =>
        .decided <$> denyForSystemSafety call.config approvalId operatorId
    | .consumeApproved approvalId agentId action required =>
        .consumed <$> consumeApproved call.config approvalId agentId action required
    | .reconcile => .reconciled <$> reconcile call.config
    | .purgeExpired => .purged <$> purgeExpired call.config
    | .verifyConsumedBinding item agentId action required =>
        .verified <$> verifyConsumedBinding call.config item agentId action required
    | .get approvalId => .found <$> ask (.get approvalId)

/-- Any number of queues on one database, with any number of calls at work. -/
abbrev queues {Ticket : Type} [DecidableEq Ticket] (uuid : Nat → Str) (sink : Sink Λ)
    (start : Shared Λ) :
    System (Calls.World Ticket Call (Shared Λ) (Except Failure Result) Response)
      (Calls.Event Ticket Call Choice) :=
  Calls.callsFrom (serve uuid sink) program start

end SelfConnect.Operator
