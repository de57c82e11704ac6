import SelfConnect.Operator.Service

namespace SelfConnect.Operator

open SelfConnect.Python SelfConnect.Library

/-! What one request may do to the tables. -/

/-- The transition that an approval is at, or waits for. -/
@[simp] def Status.transition : Status → Transition
  | .settled transition => transition
  | .auditPending transition _ => transition

/-- The envelope was made for this decision on this approval. -/
def Attests (item : PendingApproval) (decision : Transition) (operatorId : Str)
    (envelope : DecisionProofEnvelope) : Prop :=
  envelope.operatorSubject = operatorId ∧ ∃ contextDigest,
    canonicalContextDigest item.context = some contextDigest ∧
    envelope.verifiesBinding ⟨item.approvalId, item.agentId, item.action, contextDigest, decision,
      operatorId⟩ = some true

/-- The time is in the window in which the approval may be consumed. -/
structure Timely (item : PendingApproval) (current : FiniteFloat) : Prop where
  decided : ∃ decidedAt, item.decidedAt = some decidedAt ∧
    (number current).lt (number decidedAt) = false
  unexpired : ∃ expiresAt, item.expiresAt = some expiresAt ∧ (number current).lt expiresAt = true

/-- Why an approval may take a transition. -/
inductive Takes (config : Config) (item : PendingApproval) :
    Transition → Str → FiniteFloat → Option DecisionProofEnvelope → Prop
  | decides {verdict : Verdict} {operatorId : Str} {transitionTs : FiniteFloat}
      {proof : Option DecisionProofEnvelope} :
      item.status = .settled .pending → validOperatorId operatorId = true →
      (config.auditRequired = true → proof.isSome = true) →
      (∀ envelope, proof = some envelope → Attests item verdict.transition operatorId envelope) →
      Takes config item verdict.transition operatorId transitionTs proof
  | consumes {transitionTs : FiniteFloat} :
      item.status = .settled .approved → Timely item transitionTs →
      Takes config item .consumed item.operatorId transitionTs none
  | expires {transitionTs : FiniteFloat} :
      item.status = .settled .approved → Takes config item .expired item.operatorId transitionTs none

/-- What a transition makes of an approval where no sink is set. -/
inductive Updates (config : Config) (item : PendingApproval) : PendingApproval → Prop
  | decided {verdict : Verdict} {operatorId : Str} {transitionTs : FiniteFloat} :
      item.status = .settled .pending → validOperatorId operatorId = true →
      Updates config item { item with
        status := .settled verdict.transition
        operatorId := operatorId
        decidedAt := some transitionTs
        expiresAt :=
          if verdict = .approved then column (later transitionTs config.approvalTtl) else none
        terminalAt := if verdict = .denied then some transitionTs else none }
  | consumed {current : FiniteFloat} :
      item.status = .settled .approved → Timely item current →
      Updates config item { item with status := .settled .consumed, consumedAt := some current }
  | expired {current : FiniteFloat} :
      item.status = .settled .approved →
      Updates config item { item with status := .settled .expired, terminalAt := some current }

def retained (config : Config) (item : PendingApproval) (transitionTs : FiniteFloat)
    (proof : Option DecisionProofEnvelope) (tombstones : Dict Str Tombstone) : Dict Str Tombstone :=
  match proof with
  | none => tombstones
  | some envelope => tombstones.set envelope.nonce
      ⟨item.approvalId, transitionTs, later transitionTs (.finite config.nonceRetention)⟩

/-- Whose transactions these are, which receipts they keep, what they purge, and for which
contexts they submit. -/
structure Allowed where
  config : Config → Prop
  receipt : ApprovalAuditEvent → Text → Prop
  purge : Config → FiniteFloat → Prop
  context : Value → Prop

def Allowed.any : Allowed := ⟨fun _ => True, fun _ _ => True, fun _ _ => True, fun _ => True⟩

/-- What is submitted with an event: the stored context is another than the digested one. -/
structure Submits (allowed : Allowed) (agentId action : Str) (context : Value)
    (contextDigest : Text) : Prop where
  agentId : Json.encodable agentId = true
  action : Json.encodable action = true
  context : ∃ given, allowed.context given ∧ storedContext (orEmpty given) = some context ∧
    canonicalContextDigest (orEmpty given) = some contextDigest

/-- One transaction of a queue; what is new has a fresh identifier. -/
inductive Change (allowed : Allowed) (fresh : Str → Prop) (db : Database) : Database → Prop
  | kept : Change allowed fresh db db
  | inserted {config : Config} {approvalId agentId action : Str} {context : Value}
      {submittedAt : FiniteFloat} : allowed.config config → config.hasSink = false →
      fresh approvalId → db.approvals.get? approvalId = none →
      Change allowed fresh db { db with
        approvals := db.approvals.set approvalId
          (submittedRow approvalId agentId action context submittedAt (.settled .pending)) }
  | insertedStaged {approvalId eventId agentId action : Str} {context : Value}
      {contextDigest : Text} {submittedAt : FiniteFloat} :
      fresh approvalId → fresh eventId → db.approvals.get? approvalId = none →
      db.outbox.get? eventId = none → Submits allowed agentId action context contextDigest →
      Change allowed fresh db { db with
        approvals := db.approvals.set approvalId
          (submittedRow approvalId agentId action context submittedAt
            (.auditPending .pending eventId))
        outbox := db.outbox.set eventId
          ⟨⟨eventId, approvalId, .pending, agentId, action, [], contextDigest, submittedAt, none⟩,
            none⟩ }
  | staged {config : Config} {item : PendingApproval} {eventId operatorId : Str}
      {transition : Transition} {contextDigest : Text} {transitionTs : FiniteFloat}
      {proof : Option DecisionProofEnvelope} : allowed.config config → fresh eventId →
      db.approvals.get? item.approvalId = some item →
      Takes config item transition operatorId transitionTs proof →
      canonicalContextDigest item.context = some contextDigest →
      (∀ envelope, proof = some envelope → db.tombstones.get? envelope.nonce = none) →
      db.freeNonce item.approvalId (proof.or item.decisionProof) = true →
      db.outbox.get? eventId = none →
      Change allowed fresh db
        { approvals := db.approvals.set item.approvalId
            (Operator.staged config item eventId transition operatorId transitionTs
              (proof.or item.decisionProof))
          outbox := db.outbox.set eventId
            ⟨⟨eventId, item.approvalId, transition, item.agentId, item.action, operatorId,
              contextDigest, transitionTs, proof.or item.decisionProof⟩, none⟩
          tombstones := retained config item transitionTs proof db.tombstones }
  | updated {config : Config} {item row : PendingApproval} : allowed.config config →
      config.hasSink = false → db.approvals.get? item.approvalId = some item →
      Updates config item row →
      Change allowed fresh db { db with approvals := db.approvals.set item.approvalId row }
  | finished {event : ApprovalAuditEvent} {item : PendingApproval} {receiptJson : Text}
      {deliveredAt : FiniteFloat} : allowed.receipt event receiptJson →
      db.outbox.get? event.eventId = some ⟨event, none⟩ →
      db.approvals.get? event.approvalId = some item →
      validEventState ⟨event, none⟩ item = true →
      Change allowed fresh db { db with
        approvals := db.approvals.set event.approvalId { item with
          status := .settled event.transition
          lastAuditEventId := event.eventId
          lastAuditReceiptJson := some receiptJson }
        outbox := db.outbox.set event.eventId ⟨event, some (receiptJson, deliveredAt)⟩ }
  | purged {config : Config} {current : FiniteFloat} : allowed.purge config current →
      Change allowed fresh db (purgeTx config current db).2

/-- Every approval is kept under its own identifier. -/
def Database.Named (db : Database) : Prop :=
  ∀ approvalId item, db.approvals.get? approvalId = some item → item.approvalId = approvalId

section Transactions

variable {allowed : Allowed} {config : Config} {db changed : Database} {fresh : Str → Prop}
  {approvalId agentId action operatorId eventId : Str} {item : PendingApproval}

theorem change_of_submitTx (used : allowed.config config) (isFresh : fresh approvalId)
    (freshEvent : fresh eventId) {context : Value} (wanted : allowed.context context)
    {submittedAt : FiniteFloat} {answer : Str × Option Str}
    (submitted : submitTx config approvalId eventId agentId action context submittedAt db =
      .ok (answer, changed)) :
    answer.1 = approvalId ∧ Change allowed fresh db changed := by
  rw [submitTx] at submitted
  simp only [bind_eq_ok, present_eq_ok] at submitted
  obtain ⟨stored, isStored, submitted⟩ := submitted
  split at submitted
  · simp only [bind_eq_ok, present_eq_ok, insist_eq_ok, Database.insertApproval,
      Database.insertOutbox, Option.bind_eq_bind, Option.bind_eq_some_iff,
      Option.guard_eq_some', Option.isNone_iff_eq_none, Bool.and_eq_true] at submitted
    obtain ⟨contextDigest, isDigest, ⟨⟩, -, inserted, ⟨⟨⟩, ⟨agentId, action⟩, ⟨⟩, absent,
      isInserted⟩, staged, ⟨⟨⟩, noEvent, isStaged⟩, isAnswer⟩ := submitted
    cases isInserted
    cases isStaged
    cases isAnswer
    exact ⟨rfl, .insertedStaged isFresh freshEvent absent noEvent
      ⟨agentId, action, context, wanted, isStored, isDigest⟩⟩
  · next noSink =>
    simp only [bind_eq_ok, present_eq_ok, Database.insertApproval, Option.bind_eq_bind,
      Option.bind_eq_some_iff, Option.guard_eq_some', Option.isNone_iff_eq_none] at submitted
    obtain ⟨inserted, ⟨⟨⟩, -, ⟨⟩, absent, isInserted⟩, isAnswer⟩ := submitted
    cases isInserted
    cases isAnswer
    exact ⟨rfl, .inserted used (by simpa using noSink) isFresh absent⟩

theorem stageExisting_ok {transition : Transition} {transitionTs : FiniteFloat}
    {proof : Option DecisionProofEnvelope}
    (isStaged : stageExisting config item eventId transition operatorId transitionTs proof db =
      .ok changed) :
    (∀ envelope, proof = some envelope → db.tombstones.get? envelope.nonce = none) ∧
      db.freeNonce item.approvalId (proof.or item.decisionProof) = true ∧
      db.outbox.get? eventId = none ∧ ∃ contextDigest,
      canonicalContextDigest item.context = some contextDigest ∧
      changed = {
        approvals := db.approvals.set item.approvalId
          (staged config item eventId transition operatorId transitionTs
            (proof.or item.decisionProof))
        outbox := db.outbox.set eventId
          ⟨⟨eventId, item.approvalId, transition, item.agentId, item.action, operatorId,
            contextDigest, transitionTs, proof.or item.decisionProof⟩, none⟩
        tombstones := retained config item transitionTs proof db.tombstones } := by
  unfold stageExisting at isStaged
  simp only [bind_eq_ok, present_eq_ok, insist_eq_ok] at isStaged
  obtain ⟨contextDigest, isDigest, ⟨⟩, -, kept, isKept, ⟨⟩, free, isStaged⟩ := isStaged
  simp only [Database.insertOutbox, Option.bind_eq_bind, Option.bind_eq_some_iff,
    Option.guard_eq_some', Option.isNone_iff_eq_none] at isStaged
  obtain ⟨⟨⟩, noEvent, isChanged⟩ := isStaged
  cases isChanged
  cases proof with
  | none =>
      cases isKept
      exact ⟨fun _ same => (by cases same), free, noEvent, contextDigest, isDigest, rfl⟩
  | some envelope =>
      simp only [Database.insertTombstone, Option.bind_eq_bind, Option.bind_eq_some_iff,
        Option.guard_eq_some', Option.isNone_iff_eq_none] at isKept
      obtain ⟨⟨⟩, unused, ⟨⟩, -, ⟨⟩, -, isKept⟩ := isKept
      cases isKept
      refine ⟨fun other same => ?_, free, noEvent, contextDigest, isDigest, rfl⟩
      cases same
      exact unused

theorem change_of_stageExisting (used : allowed.config config) (freshEvent : fresh eventId)
    {transition : Transition} {transitionTs : FiniteFloat} {proof : Option DecisionProofEnvelope}
    (found : db.approvals.get? item.approvalId = some item)
    (takes : Takes config item transition operatorId transitionTs proof)
    (isStaged : stageExisting config item eventId transition operatorId transitionTs proof db =
      .ok changed) : Change allowed fresh db changed := by
  obtain ⟨unused, free, noEvent, contextDigest, isDigest, isChanged⟩ := stageExisting_ok isStaged
  rw [isChanged]
  exact .staged used freshEvent found takes isDigest unused free noEvent

theorem attests_of_create {verification : DecisionProofVerification} {proof : Option Bytes}
    {decision : Transition} {contextDigest : Text} {current : FiniteFloat}
    {envelope : DecisionProofEnvelope}
    (isDigest : canonicalContextDigest item.context = some contextDigest)
    (isSubject : verification.operatorSubject = operatorId)
    (created : DecisionProofEnvelope.create verification proof
      ⟨item.approvalId, item.agentId, item.action, contextDigest, decision, operatorId⟩ current =
        some envelope) : Attests item decision operatorId envelope := by
  refine ⟨?_, contextDigest, isDigest, DecisionProofEnvelope.verifiesBinding_create created⟩
  rw [DecisionProofEnvelope.operatorSubject_create created, isSubject]

theorem takes_of_verifyDecisionWriter {verdict : Verdict} {proof : Option OperatorProof}
    {verification : Option DecisionProofVerification} {reading : Option FiniteFloat}
    {envelope : Option DecisionProofEnvelope} (waits : item.status = .settled .pending)
    (verified : verifyDecisionWriter config item operatorId verdict proof verification reading =
      .ok envelope) (transitionTs : FiniteFloat) :
    Takes config item verdict.transition operatorId transitionTs envelope := by
  rw [verifyDecisionWriter] at verified
  simp only [bind_eq_ok, insist_eq_ok] at verified
  obtain ⟨⟨⟩, valid, verified⟩ := verified
  split at verified
  · simp only [bind_eq_ok, insist_eq_ok, present_eq_ok, decide_eq_true_eq] at verified
    obtain ⟨_, -, ⟨⟩, -, contextDigest, isDigest, _, -, ⟨⟩, isSubject, current, -, created,
      isCreated, isEnvelope⟩ := verified
    cases isEnvelope
    refine .decides waits valid (fun _ => rfl) fun other same => ?_
    cases same
    exact attests_of_create isDigest isSubject isCreated
  · next optional =>
    cases verified
    exact .decides waits valid (fun isRequired => absurd isRequired optional)
      fun _ same => by cases same

def Stages (config : Config) (approvalId operatorId : Str) (verdict : Verdict) (eventId : Str)
    (db changed : Database) : Prop :=
  ∃ item transitionTs proof, db.approvals.get? approvalId = some item ∧
    item.status = .settled .pending ∧
    stageExisting config item eventId verdict.transition operatorId transitionTs proof db =
      .ok changed

theorem stages_of_decideTx {verdict : Verdict} {proof : Option OperatorProof}
    {verification : Option DecisionProofVerification} {checked reading : Option FiniteFloat}
    {event : Str}
    (decided : decideTx config approvalId operatorId verdict proof eventId verification checked
      reading db = .ok (.staged event, changed)) :
    event = eventId ∧ Stages config approvalId operatorId verdict eventId db changed := by
  unfold decideTx at decided
  split at decided
  · cases decided
  · next item found =>
    split at decided
    · next waits =>
      simp only [bind_eq_ok, insist_eq_ok] at decided
      obtain ⟨envelope, -, transitionTs, -, ⟨⟩, -, decided⟩ := decided
      split at decided
      · simp only [bind_eq_ok] at decided
        obtain ⟨_, isStaged, isChanged⟩ := decided
        cases isChanged
        exact ⟨rfl, item, transitionTs, envelope, found, waits, isStaged⟩
      · cases decided
    · cases decided

theorem stages_of_systemDenyTx {nonce : Str} {reading : Option FiniteFloat} {event : Str}
    (denied : systemDenyTx config approvalId operatorId eventId nonce reading db =
      .ok (.staged event, changed)) :
    event = eventId ∧ Stages config approvalId operatorId .denied eventId db changed := by
  unfold systemDenyTx at denied
  simp only [bind_eq_ok, insist_eq_ok] at denied
  obtain ⟨⟨⟩, -, denied⟩ := denied
  split at denied
  · cases denied
  · next item found =>
    split at denied
    · next waits =>
      simp only [bind_eq_ok, insist_eq_ok, present_eq_ok] at denied
      obtain ⟨current, -, contextDigest, -, envelope, -, ⟨⟩, -, _, isStaged, isChanged⟩ := denied
      cases isChanged
      exact ⟨rfl, item, current, some envelope, found, waits, isStaged⟩
    · cases denied

theorem change_of_decideTx {verdict : Verdict} {proof : Option OperatorProof}
    {verification : Option DecisionProofVerification} {checked reading : Option FiniteFloat}
    {answer : Decided} (used : allowed.config config) (freshEvent : fresh eventId) (named : db.Named)
    (decided : decideTx config approvalId operatorId verdict proof eventId verification checked
      reading db = .ok (answer, changed)) : Change allowed fresh db changed := by
  unfold decideTx at decided
  split at decided
  · cases decided
    exact .kept
  · next item found =>
    have own := named _ _ found
    rw [← own] at found
    split at decided
    · next waits =>
      simp only [bind_eq_ok, insist_eq_ok] at decided
      obtain ⟨envelope, verified, transitionTs, -, ⟨⟩, -, decided⟩ := decided
      have takes := takes_of_verifyDecisionWriter waits verified transitionTs
      split at decided
      · simp only [bind_eq_ok] at decided
        obtain ⟨_, isStaged, isChanged⟩ := decided
        cases isChanged
        exact change_of_stageExisting used freshEvent found takes isStaged
      · next noSink =>
        cases decided
        rw [← own]
        rw [verifyDecisionWriter] at verified
        simp only [bind_eq_ok, insist_eq_ok] at verified
        obtain ⟨⟨⟩, valid, -⟩ := verified
        exact .updated used (by simpa using noSink) found (.decided waits valid)
    · cases decided
      exact .kept

theorem change_of_systemDenyTx {nonce : Str} {reading : Option FiniteFloat} {answer : Decided}
    (used : allowed.config config) (freshEvent : fresh eventId) (named : db.Named)
    (denied : systemDenyTx config approvalId operatorId eventId nonce reading db =
      .ok (answer, changed)) : Change allowed fresh db changed := by
  unfold systemDenyTx at denied
  simp only [bind_eq_ok, insist_eq_ok] at denied
  obtain ⟨⟨⟩, valid, denied⟩ := denied
  split at denied
  · cases denied
    exact .kept
  · next item found =>
    rw [← named _ _ found] at found
    split at denied
    · next waits =>
      simp only [bind_eq_ok, insist_eq_ok, present_eq_ok] at denied
      obtain ⟨current, -, contextDigest, isDigest, envelope, created, ⟨⟩, -, _, isStaged,
        isChanged⟩ := denied
      cases isChanged
      have takes : Takes config item Verdict.denied.transition operatorId current (some envelope) := by
        refine .decides waits valid (fun _ => rfl) fun other same => ?_
        cases same
        exact attests_of_create isDigest rfl created
      exact change_of_stageExisting used freshEvent found takes isStaged
    · cases denied
      exact .kept

/-- What a consumption does; a refusal may have found the approval expired. -/
inductive Consumes (config : Config) (approvalId agentId action : Str) (required : Members)
    (eventId : Str) (db : Database) : Consumed → Database → Prop
  | refused : Consumes config approvalId agentId action required eventId db .refused db
  | consumed {item : PendingApproval} {current : FiniteFloat} : config.hasSink = false →
      db.approvals.get? approvalId = some item → item.status = .settled .approved →
      item.agentId = agentId → item.action = action →
      contextMatches (entriesOf item.context) required = true → Timely item current →
      Consumes config approvalId agentId action required eventId db
        (.consumed { item with status := .settled .consumed, consumedAt := some current })
        { db with
          approvals := db.approvals.set approvalId
            { item with status := .settled .consumed, consumedAt := some current } }
  | stagedConsumption {item : PendingApproval} {current : FiniteFloat} {changed : Database} :
      config.hasSink = true → db.approvals.get? approvalId = some item → item.status = .settled .approved →
      item.agentId = agentId → item.action = action →
      contextMatches (entriesOf item.context) required = true → Timely item current →
      stageExisting config item eventId .consumed item.operatorId current none db = .ok changed →
      Consumes config approvalId agentId action required eventId db (.stagedConsumption eventId)
        changed
  | expired {item : PendingApproval} {current : FiniteFloat} : config.hasSink = false →
      db.approvals.get? approvalId = some item → item.status = .settled .approved →
      Consumes config approvalId agentId action required eventId db .refused
        { db with
          approvals := db.approvals.set approvalId
            { item with status := .settled .expired, terminalAt := some current } }
  | stagedExpiry {item : PendingApproval} {current : FiniteFloat} {changed : Database} :
      db.approvals.get? approvalId = some item → item.status = .settled .approved →
      stageExisting config item eventId .expired item.operatorId current none db = .ok changed →
      Consumes config approvalId agentId action required eventId db (.stagedExpiry eventId) changed

theorem consumes_of_consumeTx {required : Members} {reading : Option FiniteFloat}
    {answer : Consumed}
    (consumed : consumeTx config approvalId agentId action required eventId reading db =
      .ok (answer, changed)) :
    Consumes config approvalId agentId action required eventId db answer changed := by
  unfold consumeTx at consumed
  split at consumed
  · cases consumed
    exact .refused
  · next item found =>
    split at consumed
    · cases consumed
      exact .refused
    · next decidedAt isDecided =>
      split at consumed
      · next guarded =>
        obtain ⟨approved, sameAgent, sameAction, sameContext⟩ := guarded
        simp only [bind_eq_ok, insist_eq_ok] at consumed
        obtain ⟨current, -, ⟨⟩, forward, consumed⟩ := consumed
        split at consumed
        · split at consumed
          · cases consumed
          · cases consumed
            exact .refused
        · next expiresAt isExpiry =>
          split at consumed
          · next early =>
            have timely : Timely item current :=
              ⟨⟨decidedAt, isDecided, by simpa using forward⟩, expiresAt, isExpiry, early⟩
            split at consumed
            · next hasSink =>
              simp only [bind_eq_ok] at consumed
              obtain ⟨_, isStaged, isChanged⟩ := consumed
              cases isChanged
              exact .stagedConsumption hasSink found approved sameAgent sameAction sameContext timely
                isStaged
            · next noSink =>
              cases consumed
              exact .consumed (by simpa using noSink) found approved sameAgent sameAction sameContext timely
          · split at consumed
            · simp only [bind_eq_ok] at consumed
              obtain ⟨_, isStaged, isChanged⟩ := consumed
              cases isChanged
              exact .stagedExpiry found approved isStaged
            · next noSink =>
              cases consumed
              exact .expired (by simpa using noSink) found approved
      · cases consumed
        exact .refused

theorem Consumes.change {required : Members} {answer : Consumed} (used : allowed.config config) (freshEvent : fresh eventId) (named : db.Named)
    (consumes : Consumes config approvalId agentId action required eventId db answer changed) :
    Change allowed fresh db changed := by
  cases consumes with
  | refused => exact .kept
  | consumed noSink found approved _ _ _ timely =>
      have own := named _ _ found
      rw [← own] at found ⊢
      exact .updated used noSink found (.consumed approved timely)
  | stagedConsumption _ found approved _ _ _ timely isStaged =>
      rw [← named _ _ found] at found
      exact change_of_stageExisting used freshEvent found (.consumes approved timely) isStaged
  | expired noSink found approved =>
      have own := named _ _ found
      rw [← own] at found ⊢
      exact .updated used noSink found (.expired approved)
  | stagedExpiry found approved isStaged =>
      rw [← named _ _ found] at found
      exact change_of_stageExisting used freshEvent found (.expires approved) isStaged

theorem finishTx_ok {event : ApprovalAuditEvent} {receiptJson : Text}
    {reading : Option FiniteFloat} (finished : finishTx event receiptJson reading db = .ok changed) :
    ∃ delivered item, db.outbox.get? event.eventId = some ⟨event, delivered⟩ ∧
      db.approvals.get? event.approvalId = some item ∧
      validEventState ⟨event, delivered⟩ item = true ∧
      ((∃ deliveredAt, delivered = some (receiptJson, deliveredAt) ∧ changed = db) ∨
        delivered = none ∧ ∃ deliveredAt, changed = { db with
          approvals := db.approvals.set event.approvalId { item with
            status := .settled event.transition
            lastAuditEventId := event.eventId
            lastAuditReceiptJson := some receiptJson }
          outbox := db.outbox.set event.eventId ⟨event, some (receiptJson, deliveredAt)⟩ }) := by
  unfold finishTx at finished
  simp only [bind_eq_ok, present_eq_ok] at finished
  obtain ⟨⟨row, item⟩, found, finished⟩ := finished
  simp only [insist_eq_ok, decide_eq_true_eq] at finished
  obtain ⟨⟨⟩, isEvent, ⟨⟩, valid, finished⟩ := finished
  rw [Database.eventState?, Option.bind_eq_some_iff] at found
  obtain ⟨row', isRow, found⟩ := found
  obtain ⟨item', isItem, isPair⟩ := Option.map_eq_some_iff.mp found
  cases isPair
  obtain ⟨kept, delivered⟩ := row
  cases isEvent
  refine ⟨delivered, item, isRow, isItem, valid, ?_⟩
  split at finished
  · next known deliveredAt isDelivered =>
    simp only [bind_eq_ok, insist_eq_ok, decide_eq_true_eq] at finished
    obtain ⟨⟨⟩, isKnown, isChanged⟩ := finished
    cases isChanged
    exact .inl ⟨deliveredAt, isKnown ▸ isDelivered, rfl⟩
  · next undelivered =>
    simp only [bind_eq_ok] at finished
    obtain ⟨deliveredAt, -, isChanged⟩ := finished
    cases isChanged
    exact .inr ⟨undelivered, deliveredAt, rfl⟩

theorem change_of_finishTx {event : ApprovalAuditEvent} {receiptJson : Text}
    (kept : allowed.receipt event receiptJson) {reading : Option FiniteFloat}
    (finished : finishTx event receiptJson reading db = .ok changed) :
    Change allowed fresh db changed := by
  obtain ⟨delivered, item, isRow, isItem, valid, ⟨_, -, same⟩ | ⟨undelivered, _, isChanged⟩⟩ :=
    finishTx_ok finished
  · rw [same]
    exact .kept
  · rw [undelivered] at isRow valid
    rw [isChanged]
    exact .finished kept isRow isItem valid

end Transactions

section Serve

variable {Λ Ticket : Type} {uuid : Nat → Str} {sink : Sink Λ} {s : Shared Λ}

theorem commit_cases {α : Type} (s : Shared Λ) (works : Bool) (drawn : Nat)
    (outcome : Except Failure (α × Database)) :
    (∃ a db, outcome = .ok (a, db) ∧
      s.commit works drawn outcome = (.ok a, { s with db := db, issued := s.issued + drawn })) ∨
    ∃ failure, (s.commit works drawn outcome).1 = .error failure ∧
      (s.commit works drawn outcome).2.db = s.db ∧ s.issued ≤ (s.commit works drawn outcome).2.issued ∧
      (s.commit works drawn outcome).2.sink = s.sink := by
  cases works with
  | false => exact .inr ⟨.database, rfl, rfl, Nat.le_refl _, rfl⟩
  | true =>
      cases outcome with
      | ok found => exact .inl ⟨found.1, found.2, rfl, rfl⟩
      | error failure => exact .inr ⟨failure, rfl, rfl, Nat.le_add_right _ _, rfl⟩

/-- The request is one of such a queue, with such a receipt. -/
def Request.Uses (allowed : Allowed) : Request → Prop
  | .submit config _ _ context _ => allowed.config config ∧ allowed.context context
  | .decide config .. => allowed.config config
  | .denyForSystemSafety config .. => allowed.config config
  | .consume config .. => allowed.config config
  | .purge config current => allowed.purge config current
  | .finish event receiptJson => allowed.receipt event receiptJson
  | _ => True

theorem commit_ok {α : Type} {works : Bool} {drawn : Nat}
    {outcome : Except Failure (α × Database)} {a : α} {t : Shared Λ}
    (isServed : s.commit works drawn outcome = (.ok a, t)) :
    outcome = .ok (a, t.db) ∧ t.issued = s.issued + drawn := by
  rcases commit_cases s works drawn outcome with ⟨b, db, isOk, same⟩ | ⟨failure, failed, -⟩
  · rw [same] at isServed
    cases isServed
    exact ⟨isOk, rfl⟩
  · rw [isServed] at failed
    cases failed

theorem ok_of_commit {α : Type} {t : Shared Λ} {works : Bool} {drawn : Nat}
    {outcome : Except Failure (α × Database)} {response : Except Failure α}
    (isServed : s.commit works drawn outcome = (response, t)) (differs : t.db ≠ s.db) :
    ∃ a, response = .ok a := by
  rcases commit_cases s works drawn outcome with ⟨a, db, -, same⟩ | ⟨failure, -, same, -⟩
  · rw [same] at isServed
    cases isServed
    exact ⟨a, rfl⟩
  · rw [isServed] at same
    exact absurd same differs

def Drawn (uuid : Nat → Str) (first last : Nat) (identifier : Str) : Prop :=
  ∃ k, first ≤ k ∧ k < last ∧ uuid k = identifier

/-- A request is one transaction, and no identifier is drawn twice. -/
structure Served (allowed : Allowed) (uuid : Nat → Str) (s t : Shared Λ) : Prop where
  issued : s.issued ≤ t.issued
  change : Change allowed (Drawn uuid s.issued t.issued) s.db t.db

variable {allowed : Allowed}

theorem Served.of_kept {t : Shared Λ} (issued : s.issued ≤ t.issued) (same : t.db = s.db) :
    Served allowed uuid s t :=
  ⟨issued, same ▸ .kept⟩

theorem Served.commit {α : Type} {works : Bool} {drawn : Nat}
    {outcome : Except Failure (α × Database)}
    (changes : ∀ a db, outcome = .ok (a, db) →
      Change allowed (Drawn uuid s.issued (s.issued + drawn)) s.db db) :
    Served allowed uuid s (s.commit works drawn outcome).2 := by
  rcases commit_cases s works drawn outcome with ⟨a, db, isOk, same⟩ | ⟨_, -, same, grows, -⟩
  · rw [same]
    exact ⟨Nat.le_add_right _ _, changes a db isOk⟩
  · exact .of_kept grows same

theorem served (named : s.db.Named) (choice : Choice) (ticket : Ticket) {request : Request}
    (used : request.Uses allowed) :
    Served allowed uuid s (serve uuid sink choice ticket s request).2 := by
  have first (drawn : Nat) : Drawn uuid s.issued (s.issued + (drawn + 1)) (uuid s.issued) :=
    ⟨s.issued, Nat.le_refl _, by omega, rfl⟩
  have second : Drawn uuid s.issued (s.issued + 2) (uuid (s.issued + 1)) :=
    ⟨s.issued + 1, Nat.le_add_right _ _, by omega, rfl⟩
  cases request with
  | readClock => exact .of_kept (Nat.le_refl _) rfl
  | submit config agentId action context submittedAt =>
      exact .commit fun _ _ submitted =>
        (change_of_submitTx used.1 (first 1) second used.2 submitted).2
  | decide => exact .commit fun _ _ decided => change_of_decideTx used (first 0) named decided
  | denyForSystemSafety =>
      exact .commit fun _ _ denied => change_of_systemDenyTx used (first 1) named denied
  | consume =>
      exact .commit fun _ _ consumed => (consumes_of_consumeTx consumed).change used (first 0) named
  | readEvent => exact .commit fun _ _ same => by cases same; exact .kept
  | record => exact .of_kept (Nat.le_refl _) rfl
  | verifyReceipt => exact .of_kept (Nat.le_refl _) rfl
  | finish event receiptJson =>
      refine .commit fun _ db finished => ?_
      cases isFinished : finishTx event receiptJson choice.reading s.db with
      | error failure => simp [isFinished, Except.map] at finished
      | ok changed =>
          simp only [isFinished, Except.map, Except.ok.injEq, Prod.mk.injEq] at finished
          rw [← finished.2]
          exact change_of_finishTx used isFinished
  | pendingEvents => exact .commit fun _ _ same => by cases same; exact .kept
  | deliveredEvents => exact .commit fun _ _ same => by cases same; exact .kept
  | purge config current => exact .commit fun _ _ same => by cases same; exact .purged used
  | get => exact .commit fun _ _ same => by cases same; exact .kept

def Allowed.only (config : Config → Prop) (request : Request) : Allowed where
  config := config
  receipt event receiptJson := request = .finish event receiptJson
  purge config current := request = .purge config current
  context _ := True

end Serve

/-! The requests of a call come from its own queue. -/

section Asks

open Script (Asks)

variable {α : Type} {wanted : Request → Prop}

theorem asks_ask {request : Request} (isWanted : wanted request) :
    Asks wanted (ask request).run :=
  ⟨isWanted, fun _ => trivial⟩

theorem asks_raising {outcome : Except Failure α} : Asks wanted (raising outcome).run := trivial

theorem asks_flushEvent {config : Config} {eventId : Str} (reads : wanted (.readEvent eventId))
    (records : ∀ event, wanted (.record event))
    (verifies : ∀ event receipt, wanted (.verifyReceipt event receipt))
    (finishes : ∀ event receiptJson, wanted (.finish event receiptJson)) :
    Asks wanted (flushEvent config eventId).run := by
  unfold flushEvent
  split
  · refine .bindExcept (asks_ask reads) fun found => .bindExcept asks_raising fun pair => ?_
    obtain ⟨row, item⟩ := pair
    refine .bindExcept asks_raising fun _ => .bindExcept ?_ fun receipt =>
      .bindExcept asks_raising fun _ => .bindExcept asks_raising fun _ =>
      .bindExcept (asks_ask (verifies _ _)) fun _ => .bindExcept asks_raising fun _ =>
      .bindExcept asks_raising fun _ => asks_ask (finishes _ _)
    unfold receiptOf
    split
    · exact asks_raising
    · exact asks_ask (records _)
  · exact asks_raising

/-- The request is one of this call's queue, and submits what the call does. -/
def Request.Owned (own : Call) : Request → Prop
  | .submit config agentId action context _ =>
      config = own.config ∧ own.operation = .submit agentId action context
  | .decide config .. => config = own.config
  | .denyForSystemSafety config .. => config = own.config
  | .consume config .. => config = own.config
  | .purge config _ => config = own.config
  | _ => True

variable {own : Call} (config : Config)

theorem owned_flushEvent (eventId : Str) :
    Asks (Request.Owned own) (flushEvent config eventId).run :=
  asks_flushEvent trivial (fun _ => trivial) (fun _ _ => trivial) fun _ _ => trivial

theorem owned_flushAll (pending : List Str) :
    Asks (Request.Owned own) (flushAll config pending).run := by
  induction pending with
  | nil => trivial
  | cons eventId rest ih => exact .bindExcept (owned_flushEvent config eventId) fun _ => ih

theorem owned_settle (decided : Decided) :
    Asks (Request.Owned own) (settle config decided).run := by
  cases decided with
  | refused => trivial
  | settled => trivial
  | staged eventId => exact .bindExcept (owned_flushEvent config eventId) fun _ => trivial

theorem owned_backed (evidence : List (ApprovalAuditEvent × Value)) :
    Asks (Request.Owned own) (backed evidence).run := by
  induction evidence with
  | nil => trivial
  | cons pair rest ih =>
      obtain ⟨event, receipt⟩ := pair
      refine .bindExcept asks_raising fun names => ?_
      split
      · refine .bindExcept (.bind (asks_ask trivial) fun _ => trivial) fun answer => ?_
        split
        · exact ih
        · trivial
      · trivial

theorem owned_verifyConsumedBinding (item : PendingApproval) (agentId action : Str)
    (required : Members) :
    Asks (Request.Owned own) (verifyConsumedBinding config item agentId action required).run := by
  unfold verifyConsumedBinding
  split
  · trivial
  · split
    · trivial
    · refine .bindExcept (asks_ask trivial) fun rows => ?_
      split
      · split
        · refine .bindExcept asks_raising fun expected => ?_
          split
          · exact owned_backed _
          · trivial
        · trivial
      · trivial

theorem owned_program (call : Call) : Asks (Request.Owned call) (program call) := by
  unfold program
  split
  · next isOperation =>
    refine .mapExcept (.bindExcept (asks_ask trivial) fun submittedAt =>
      .bindExcept (asks_ask ⟨rfl, isOperation⟩) fun pair => ?_)
    obtain ⟨approvalId, staged⟩ := pair
    cases staged with
    | none => trivial
    | some eventId => exact .bindExcept (owned_flushEvent _ eventId) fun _ => trivial
  · exact .mapExcept (.bindExcept (asks_ask rfl) (owned_settle _))
  · exact .mapExcept (.bindExcept (asks_ask rfl) (owned_settle _))
  · exact .mapExcept (.bindExcept (asks_ask rfl) (owned_settle _))
  · refine .mapExcept (.bindExcept (asks_ask rfl) fun consumed => ?_)
    cases consumed with
    | refused => trivial
    | consumed item => trivial
    | stagedConsumption eventId =>
        exact .bindExcept (owned_flushEvent _ eventId) fun _ => asks_ask trivial
    | stagedExpiry eventId => exact .bindExcept (owned_flushEvent _ eventId) fun _ => trivial
  · exact .mapExcept (.bindExcept (asks_ask trivial) fun pending =>
      .bindExcept (owned_flushAll _ pending) fun _ => trivial)
  · exact .mapExcept (.bindExcept (asks_ask trivial) fun _ => asks_ask rfl)
  · exact .mapExcept (owned_verifyConsumedBinding ..)
  · exact .mapExcept (asks_ask trivial)

def Call.Submits (wanted : Value → Prop) (call : Call) : Prop :=
  ∀ agentId action context, call.operation = .submit agentId action context → wanted context

theorem Request.Owned.uses {allowed : Allowed} {request : Request}
    (owned : request.Owned own) (used : allowed.config own.config)
    (submits : own.Submits allowed.context)
    (kept : ∀ event receiptJson, request = .finish event receiptJson →
      allowed.receipt event receiptJson)
    (purges : ∀ config current, request = .purge config current → allowed.purge config current) :
    request.Uses allowed := by
  cases request with
  | finish event receiptJson => exact kept _ _ rfl
  | submit => exact ⟨owned.1 ▸ used, submits _ _ _ owned.2⟩
  | decide => exact owned ▸ used
  | denyForSystemSafety => exact owned ▸ used
  | consume => exact owned ▸ used
  | purge config current => exact purges _ _ rfl
  | _ => trivial

theorem served_owned {Λ Ticket : Type} {uuid : Nat → Str} {sink : Sink Λ} {s t : Shared Λ}
    (named : s.db.Named) {choice : Choice} {ticket : Ticket} {request : Request}
    {response : Response request} (isServed : serve uuid sink choice ticket s request = (response, t))
    (owned : request.Owned own) {wanted : Config → Prop} (isWanted : wanted own.config) :
    Served (.only wanted request) uuid s t := by
  have used : request.Uses (.only wanted request) :=
    owned.uses isWanted (fun _ _ _ _ => trivial) (fun _ _ same => same) fun _ _ same => same
  have step : Served (.only wanted request) uuid s (serve uuid sink choice ticket s request).2 :=
    served named choice ticket used
  rw [isServed] at step
  exact step

end Asks

end SelfConnect.Operator
