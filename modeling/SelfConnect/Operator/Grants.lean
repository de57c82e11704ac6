import SelfConnect.Operator.Consumption

namespace SelfConnect.Operator

open SelfConnect.Python SelfConnect.Library
open SelfConnect.Library.Calls (Path Did World)

/-! What an approval that a call consumed has been granted for. -/

/-- The decision that a transition rests on. -/
def Transition.decision : Transition → Option Transition
  | .pending => none
  | .denied => some .denied
  | .approved | .consumed | .expired => some .approved

/-- Decided by an operator, and consumed in its window only. -/
structure Granted (item : PendingApproval) : Prop where
  operator : item.status.transition ≠ .pending → validOperatorId item.operatorId = true
  consumed : item.status.transition = .consumed →
    ∃ current, item.consumedAt = some current ∧ Timely item current

def audited : Allowed :=
  ⟨fun config => config.auditRequired = true, fun _ _ => True, fun _ _ => True, fun _ => True⟩

/-- The envelope of a decided approval was made for its decision. -/
def Attested (item : PendingApproval) : Prop :=
  ∀ decision, item.status.transition.decision = some decision →
    ∃ envelope, item.decisionProof = some envelope ∧ Attests item decision item.operatorId envelope

theorem granted_submittedRow (approvalId agentId action : Str) (context : Value)
    (submittedAt : FiniteFloat) (status : Status) (isPending : status.transition = .pending) :
    Granted (submittedRow approvalId agentId action context submittedAt status) := by
  refine ⟨fun decided => absurd isPending decided, fun consumed => ?_⟩
  change status.transition = .consumed at consumed
  rw [isPending] at consumed
  cases consumed

theorem attested_submittedRow (approvalId agentId action : Str) (context : Value)
    (submittedAt : FiniteFloat) (status : Status) (isPending : status.transition = .pending) :
    Attested (submittedRow approvalId agentId action context submittedAt status) := by
  intro decision isDecision
  change status.transition.decision = some decision at isDecision
  rw [isPending] at isDecision
  cases isDecision

section Rows

variable {allowed : Allowed} {item row : PendingApproval}

theorem Granted.follows (granted : Granted item) (follows : Follows allowed item row) :
    Granted row := by
  cases follows with
  | same => exact granted
  | @staged config eventId operatorId transition transitionTs proof _ takes =>
      have operatorId_eq := takes.operatorId
      cases takes with
      | @decides verdict _ _ _ waits valid =>
          refine ⟨fun _ => ?_, fun consumed => ?_⟩
          · change validOperatorId (if operatorId.isEmpty then _ else _) = true
            rw [operatorId_eq]
            exact valid
          · cases verdict <;> cases consumed
      | consumes approved timely =>
          refine ⟨fun _ => ?_, fun _ => ⟨transitionTs, rfl, timely.decided, timely.unexpired⟩⟩
          change validOperatorId (if item.operatorId.isEmpty then _ else _) = true
          rw [operatorId_eq]
          exact granted.operator (by rw [approved]; exact Transition.noConfusion)
      | expires approved =>
          refine ⟨fun _ => ?_, fun consumed => by cases consumed⟩
          change validOperatorId (if item.operatorId.isEmpty then _ else _) = true
          rw [operatorId_eq]
          exact granted.operator (by rw [approved]; exact Transition.noConfusion)
  | updated _ _ updates =>
      cases updates with
      | @decided verdict _ _ waits valid =>
          refine ⟨fun _ => valid, fun consumed => ?_⟩
          cases verdict <;> cases consumed
      | @consumed current approved timely =>
          refine ⟨fun _ => ?_, fun _ => ⟨current, rfl, timely.decided, timely.unexpired⟩⟩
          exact granted.operator (by rw [approved]; exact Transition.noConfusion)
      | expired approved =>
          refine ⟨fun _ => ?_, fun consumed => by cases consumed⟩
          exact granted.operator (by rw [approved]; exact Transition.noConfusion)
  | finished _ _ valid =>
      have waits := status_of_validEventState valid
      refine ⟨fun decided => granted.operator ?_, fun consumed => ?_⟩
      · rw [waits]
        exact decided
      · obtain ⟨current, isCurrent, timely⟩ := granted.consumed (by rw [waits]; exact consumed)
        exact ⟨current, isCurrent, timely.decided, timely.unexpired⟩

theorem Attested.follows
    (audits : ∀ config, allowed.config config → config.auditRequired = true)
    (attested : Attested item) (follows : Follows allowed item row) : Attested row := by
  cases follows with
  | same => exact attested
  | @staged config eventId operatorId transition transitionTs proof used takes =>
      have operatorId_eq := takes.operatorId
      intro decision isDecision
      change ∃ envelope, proof.or item.decisionProof = some envelope ∧
        Attests item decision (if operatorId.isEmpty then _ else _) envelope
      rw [operatorId_eq]
      cases takes with
      | @decides verdict _ _ _ waits valid isPresent attests =>
          obtain ⟨envelope, isEnvelope⟩ :=
            Option.isSome_iff_exists.mp (isPresent (audits _ used))
          rw [isEnvelope, Option.some_or]
          refine ⟨envelope, rfl, ?_⟩
          have isVerdict : verdict.transition = decision := by
            cases verdict <;> exact Option.some.inj isDecision
          rw [← isVerdict]
          exact attests envelope isEnvelope
      | consumes approved =>
          exact attested decision (by rw [approved]; exact isDecision)
      | expires approved => exact attested decision (by rw [approved]; exact isDecision)
  | updated used noSink _ =>
      rw [Config.sinkRequired _ (audits _ used)] at noSink
      cases noSink
  | finished _ _ valid =>
      have waits := status_of_validEventState valid
      intro decision isDecision
      exact attested decision (by rw [waits]; exact isDecision)

end Rows

/-! An event that has been delivered. -/

section Delivery

variable {took : Nat → (request : Request) → Response request → Prop} {first last : Nat}

structure Flushed (took : Nat → (request : Request) → Response request → Prop) (first last : Nat)
    (eventId : Str) (row : OutboxRow) (item : PendingApproval) (receipt : Value)
    (receiptJson : Text) (read verified finished : Nat) : Prop where
  found : took read (.readEvent eventId) (.ok (some (row, item)))
  valid : validEventState row item = true
  recorded : (∃ kept, row.delivered = some kept ∧ Json.loads kept.1 = some receipt) ∨
    row.delivered = none ∧
      ∃ recorded, recorded < verified ∧ took recorded (.record row.event) (.ok receipt)
  names : receiptMatchesEvent receipt row.event = some true
  verifies : took verified (.verifyReceipt row.event receipt) (.ok true)
  isJson : Json.dumpsSorted .compact receipt = some receiptJson
  finishes : took finished (.finish row.event receiptJson) (.ok ())
  ordered : first ≤ read ∧ read < verified ∧ verified < finished ∧ finished < last

theorem flushed_of_path {config : Config} {eventId : Str} (hasSink : config.hasSink = true)
    (path : Path took first (flushEvent config eventId).run last (.done (.ok ()))) :
    ∃ row item receipt receiptJson read verified finished,
      Flushed took first last eventId row item receipt receiptJson read verified finished := by
  rw [flushEvent, if_pos hasSink] at path
  obtain ⟨found, middle, front, path⟩ := Path.of_bindExcept path
  obtain ⟨read, begun, isMiddle, isFound⟩ := asked_of_path front
  obtain ⟨pair, middle', front, path⟩ := Path.of_bindExcept path
  obtain ⟨isPair, isMiddle'⟩ := raised_of_path front
  rw [present_eq_ok] at isPair
  obtain ⟨row, item⟩ := pair
  obtain ⟨⟨⟩, middle₃, front, path⟩ := Path.of_bindExcept path
  obtain ⟨valid, isMiddle₃⟩ := raised_of_path front
  rw [insist_eq_ok] at valid
  obtain ⟨receipt, middle₄, received, path⟩ := Path.of_bindExcept path
  obtain ⟨names, middle₅, front, path⟩ := Path.of_bindExcept path
  obtain ⟨isNames, isMiddle₅⟩ := raised_of_path front
  rw [present_eq_ok] at isNames
  obtain ⟨⟨⟩, middle₆, front, path⟩ := Path.of_bindExcept path
  obtain ⟨matching, isMiddle₆⟩ := raised_of_path front
  rw [insist_eq_ok] at matching
  obtain ⟨isVerified, middle₇, front, path⟩ := Path.of_bindExcept path
  obtain ⟨verified, begun', isMiddle₇, verifies⟩ := asked_of_path front
  obtain ⟨⟨⟩, middle₈, front, path⟩ := Path.of_bindExcept path
  obtain ⟨holds, isMiddle₈⟩ := raised_of_path front
  rw [insist_eq_ok] at holds
  obtain ⟨receiptJson, middle₉, front, path⟩ := Path.of_bindExcept path
  obtain ⟨isJson, isMiddle₉⟩ := raised_of_path front
  rw [present_eq_ok] at isJson
  obtain ⟨finished, begun₂, isLast, finishes⟩ := asked_of_path path
  have ordered := received.le
  refine ⟨row, item, receipt, receiptJson, read, verified, finished, isPair ▸ isFound, valid, ?_,
    matching ▸ isNames, holds ▸ verifies, isJson, finishes, begun, by omega, by omega, by omega⟩
  unfold receiptOf at received
  split at received
  · next kept deliveredAt isDelivered =>
    obtain ⟨isLoaded, -⟩ := raised_of_path received
    rw [present_eq_ok] at isLoaded
    exact .inl ⟨_, isDelivered, isLoaded⟩
  · next undelivered =>
    obtain ⟨recorded, -, isMiddle₄, isRecorded⟩ := asked_of_path received
    exact .inr ⟨undelivered, recorded, by omega, isRecorded⟩

end Delivery

section Runs

variable {Λ Ticket : Type} {allowed : Allowed} {uuid : Nat → Str} {sink : Sink Λ}
  {s t : Shared Λ} {eventId : Str}

structure Delivered (uuid : Nat → Str) (eventId : Str) (s : Shared Λ) : Prop where
  drawn : Drawn uuid 0 s.issued eventId
  rows : ∀ row, s.db.outbox.get? eventId = some row → row.delivered ≠ none

theorem Delivered.reaches (distinct : Function.Injective uuid) (delivered : Delivered uuid eventId s)
    (reaches : Relation.ReflTransGen (fun s t => Sound uuid s ∧ Served allowed uuid s t) s t) :
    Delivered uuid eventId t := by
  induction reaches with
  | refl => exact delivered
  | tail _ next ih =>
      refine ⟨ih.drawn.later next.2.issued, fun row found => ?_⟩
      rcases next.2.change.event found with isFresh | ⟨old, isOld, -, same | absent⟩
      · exact (ih.drawn.apart distinct isFresh).elim
      · rw [← same]
        exact ih.rows old isOld
      · exact absurd absent (ih.rows old isOld)

theorem finishTx_of_serve {choice : Choice} {ticket : Ticket} {event : ApprovalAuditEvent}
    {receiptJson : Text}
    (isServed : serve uuid sink choice ticket s (.finish event receiptJson) = (.ok (), t)) :
    finishTx event receiptJson choice.reading s.db = .ok t.db ∧ t.issued = s.issued := by
  have committed : s.commit choice.works 0
      ((finishTx event receiptJson choice.reading s.db).map ((), ·)) = (.ok (), t) := isServed
  obtain ⟨isOk, isIssued⟩ := commit_ok committed
  refine ⟨?_, isIssued⟩
  cases isFinished : finishTx event receiptJson choice.reading s.db with
  | error failure => simp [isFinished, Except.map] at isOk
  | ok changed =>
      simp only [isFinished, Except.map, Except.ok.injEq, Prod.mk.injEq] at isOk
      rw [isOk.2]

theorem delivered_of_serve {choice : Choice} {ticket : Ticket} {event : ApprovalAuditEvent}
    {receiptJson : Text} (sound : Sound uuid s)
    (isServed : serve uuid sink choice ticket s (.finish event receiptJson) = (.ok (), t)) :
    Delivered uuid event.eventId t := by
  obtain ⟨finished, isIssued⟩ := finishTx_of_serve isServed
  obtain ⟨delivered, item, isRow, -, -, ended⟩ := finishTx_ok finished
  refine ⟨isIssued ▸ sound.events _ _ isRow, fun row found => ?_⟩
  rcases ended with ⟨deliveredAt, isDelivered, same⟩ | ⟨-, deliveredAt, isChanged⟩
  · rw [same, isRow] at found
    cases found
    rw [isDelivered]
    exact Option.some_ne_none _
  · rw [isChanged] at found
    cases Dict.get?_set_self.symm.trans found
    exact Option.some_ne_none _

theorem read_of_commit {α : Type} {works : Bool} {a b : α}
    (isServed : s.commit works 0 (.ok (a, s.db)) = (.ok b, t)) : a = b :=
  congrArg Prod.fst (Except.ok.inj (commit_ok isServed).1)

theorem get?_of_serve {choice : Choice} {ticket : Ticket} {approvalId : Str}
    {item : PendingApproval}
    (isServed : serve uuid sink choice ticket s (.get approvalId) = (.ok (some item), t)) :
    s.db.approvals.get? approvalId = some item :=
  read_of_commit isServed

theorem eventState?_of_serve {choice : Choice} {ticket : Ticket}
    {found : Option (OutboxRow × PendingApproval)}
    (isServed : serve uuid sink choice ticket s (.readEvent eventId) = (.ok found, t)) :
    s.db.eventState? eventId = found :=
  read_of_commit isServed

variable [DecidableEq Ticket] {ledger : Λ} {events : List (Calls.Event Ticket Call Choice)}
  {world : World Ticket Call (Shared Λ) (Except Failure Result) Response} {ticket : Ticket}

theorem Flushed.isEvent {row : OutboxRow} {item : PendingApproval} {receipt : Value}
    {receiptJson : Text} {first last read verified finished : Nat}
    (flushed : Flushed (Did (serve uuid sink) program (Shared.new ledger) events ticket) first last
      eventId row item receipt receiptJson read verified finished) :
    row.event.eventId = eventId := by
  obtain ⟨choice, before, after, -, early, -, isServed⟩ := flushed.found
  have found := eventState?_of_serve isServed
  rw [Database.eventState?, Option.bind_eq_some_iff] at found
  obtain ⟨row', isRow, isPair⟩ := found
  obtain ⟨_, -, isPair⟩ := Option.map_eq_some_iff.mp isPair
  cases isPair
  exact (outbox_of_run early).events _ _ isRow

/-- Once its delivery has ended well, an event stays delivered. -/
theorem Flushed.delivered (distinct : Function.Injective uuid) {row : OutboxRow}
    {item : PendingApproval} {receipt : Value} {receiptJson : Text}
    {first last read verified finished k : Nat}
    (flushed : Flushed (Did (serve uuid sink) program (Shared.new ledger) events ticket) first last
      eventId row item receipt receiptJson read verified finished)
    (late : (queues uuid sink (Shared.new ledger)).Run (events.take k) world) (le : last ≤ k) :
    Delivered uuid eventId world.shared := by
  have sound := sound_new uuid ledger
  obtain ⟨choice, before, after, -, early, next, isServed⟩ := flushed.finishes
  have delivered := delivered_of_serve (sound_of_run sound early) isServed
  rw [flushed.isEvent] at delivered
  have ordered := flushed.ordered
  exact delivered.reaches distinct 
    (reaches_between permits_any sound (by omega) next late)

/-- The row that a call has returned, at a moment at which it was there. -/
structure Held (uuid : Nat → Str) (sink : Sink Λ) (ledger : Λ)
    (events : List (Calls.Event Ticket Call Choice)) (approvalId agentId action : Str)
    (required : Members) (item : PendingApproval) (k : Nat)
    (held : World Ticket Call (Shared Λ) (Except Failure Result) Response) : Prop where
  run : (queues uuid sink (Shared.new ledger)).Run (events.take k) held
  found : held.shared.db.approvals.get? approvalId = some item
  status : item.status = .settled .consumed
  agentId : item.agentId = agentId
  action : item.action = action
  context : contextMatches (entriesOf item.context) required = true

theorem Returned.held (distinct : Function.Injective uuid) {config : Config}
    {approvalId agentId action : Str} {required : Members} {item : PendingApproval} {k : Nat}
    (returned : Returned (Did (serve uuid sink) program (Shared.new ledger) events ticket) config
      approvalId agentId action required item k) :
    ∃ m held, Held uuid sink ledger events approvalId agentId action required item m held := by
  have sound := sound_new uuid ledger
  cases returned with
  | consumed did =>
      obtain ⟨before, after, old, row, ⟨isItem, isConsumed⟩, moment⟩ :=
        moment_of_did sound did (.inl ⟨_, rfl⟩)
      rw [isItem] at isConsumed moment
      have follows := moment.consumption.follows
      refine ⟨k + 1, after, moment.late, moment.consumption.isRow, isConsumed,
        follows.agentId.trans moment.consumption.agentId,
        follows.action.trans moment.consumption.action, ?_⟩
      rw [follows.context]
      exact moment.consumption.context
  | @staged middle j eventId did flush le get =>
      obtain ⟨before, after, old, row, waits, moment⟩ := moment_of_did sound did (.inr ⟨_, rfl⟩)
      have isWaiting : row.status = .auditPending .consumed eventId := waits
      have hasSink : config.hasSink = true := by
        cases isSink : config.hasSink with
        | true => rfl
        | false =>
            rw [moment.consumption.waits isSink] at isWaiting
            cases isWaiting
      obtain ⟨outboxRow, _, receipt, receiptJson, read, verified, finished, flushed⟩ :=
        flushed_of_path hasSink flush
      obtain ⟨choice, held, _, -, run, -, isServed⟩ := get
      have found := get?_of_serve isServed
      have follows := moment.consumption.follows
      have spent := (moment.spent sound).reaches distinct 
        (reaches_between permits_any sound (flush.le.trans le) moment.late run)
      obtain ⟨statuses, sameAgent, sameAction, sameContext⟩ := spent.rows item found
      refine ⟨j, held, run, found, ?_, sameAgent.trans (follows.agentId.trans
        moment.consumption.agentId), sameAction.trans (follows.action.trans
        moment.consumption.action), ?_⟩
      · rcases statuses with same | settled
        · rw [isWaiting] at same
          obtain ⟨event, isEvent, -⟩ := (outbox_of_run run).waiting _ _ _ _ found same
          exact absurd rfl ((flushed.delivered distinct run le).rows _ isEvent)
        · rw [moment.consumption.consumed] at settled
          exact settled
      · rw [sameContext, follows.context]
        exact moment.consumption.context

/-- What a call gets is an approval for its agent, its action and its context, which an operator
has decided, and which it has consumed in time. -/
theorem consumed_as_approved (distinct : Function.Injective uuid)
    (run : (queues uuid sink (Shared.new ledger)).Run events world) {config : Config}
    {approvalId agentId action : Str} {required : Members} {item : PendingApproval}
    (isEnd : world.progress ticket =
      some ⟨⟨config, .consumeApproved approvalId agentId action required⟩,
        some (.done (.ok (.consumed (some item))))⟩) :
    item.approvalId = approvalId ∧ item.agentId = agentId ∧ item.action = action ∧
      contextMatches (entriesOf item.context) required = true ∧
      item.status = .settled .consumed ∧ Granted item ∧
      ((∀ ticket call, Calls.Event.start ticket call ∈ events → call.config.auditRequired = true) →
        Attested item) := by
  obtain ⟨_, _, -, -, path⟩ := Calls.steps_of_run run isEnd
  obtain ⟨k, returned⟩ := returned_of_path path
  obtain ⟨m, world', held⟩ := returned.held distinct
  have none_new (holds : PendingApproval → Prop) (approvalId : Str) (item : PendingApproval)
      (found : (Shared.new ledger).db.approvals.get? approvalId = some item) : holds item := by
    cases found
  refine ⟨(sound_of_run (sound_new uuid ledger) held.run).named _ _ held.found, held.agentId,
    held.action, held.context, held.status, ?_, fun required => ?_⟩
  · exact rows_of_reaches granted_submittedRow (fun _ _ granted follows => granted.follows follows)
      (reaches_new permits_any held.run) (none_new _) held.found
  · have permits : Permits audited uuid sink (Shared.new ledger) (events.take m) :=
      .of_config (fun ticket call started =>
        required ticket call (List.mem_of_mem_take started)) (fun _ _ _ _ _ _ _ => trivial)
        (fun _ _ => trivial) fun _ _ => trivial
    exact rows_of_reaches attested_submittedRow
      (fun _ _ attested follows => attested.follows (fun _ used => used) follows)
      (reaches_new permits held.run) (none_new _) held.found

end Runs

theorem consumed_as_approved_consuming : ∃ world required, ∃ item : PendingApproval,
    (queues sampleUuid brokenSink (Shared.new ())).Run consuming world ∧
      contextMatches (entriesOf item.context) required = true ∧
      item.status = .settled .consumed ∧ Granted item := by
  obtain ⟨world, run, holds⟩ := run_of_sampleRun consuming_sampleRun
  obtain ⟨config, approvalId, agentId, action, required, item, isEnd⟩ :=
    consumed_of_hasConsumed holds
  obtain ⟨-, -, -, isContext, isStatus, granted, -⟩ :=
    consumed_as_approved sampleUuid_injective run isEnd
  exact ⟨world, required, item, run, isContext, isStatus, granted⟩

end SelfConnect.Operator
