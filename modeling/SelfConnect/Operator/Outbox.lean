import SelfConnect.Operator.Approvals

namespace SelfConnect.Operator

open SelfConnect.Python SelfConnect.Library

/-! The outbox beside the approvals. -/

/-- The event is one of this approval, as the approval stands. -/
structure Describes (event : ApprovalAuditEvent) (item : PendingApproval) : Prop where
  agentId : event.agentId = item.agentId
  action : event.action = item.action
  operatorId : event.operatorId = item.operatorId
  decisionProof : event.decisionProof = item.decisionProof

theorem describes_of_validEventState {event : ApprovalAuditEvent} {item : PendingApproval}
    {delivered : Option (Text × FiniteFloat)}
    (valid : validEventState ⟨event, delivered⟩ item = true) : Describes event item := by
  simp only [validEventState, Bool.and_eq_true, decide_eq_true_eq] at valid
  obtain ⟨⟨⟨⟨⟨⟨agentId, action⟩, -⟩, operatorId⟩, decisionProof⟩, -⟩, -⟩ := valid
  exact ⟨agentId, action, operatorId, decisionProof⟩

/-- An approval waits for the sink exactly as long as one event of it is undelivered. -/
structure Consistent (db : Database) : Prop where
  events : ∀ eventId row, db.outbox.get? eventId = some row → row.event.eventId = eventId
  approvals : ∀ eventId row, db.outbox.get? eventId = some row →
    ∃ item, db.approvals.get? row.event.approvalId = some item
  undelivered : ∀ eventId event, db.outbox.get? eventId = some ⟨event, none⟩ →
    ∃ item, db.approvals.get? event.approvalId = some item ∧
      item.status = .auditPending event.transition eventId
  waiting : ∀ approvalId item transition eventId, db.approvals.get? approvalId = some item →
    item.status = .auditPending transition eventId →
    ∃ event, db.outbox.get? eventId = some ⟨event, none⟩ ∧ event.approvalId = approvalId ∧
      event.transition = transition ∧ Describes event item

theorem consistent_empty : Consistent .empty := by
  refine ⟨?_, ?_, ?_, ?_⟩
  · intro _ _ found
    cases found
  · intro _ _ found
    cases found
  · intro _ _ found
    cases found
  · intro _ _ _ _ found
    cases found

section Staging

variable {db : Database} {approvals : Dict Str PendingApproval} {outbox : Dict Str OutboxRow}
  {tombstones : Dict Str Tombstone} {row : PendingApproval} {event : ApprovalAuditEvent}

/-- One approval gets its next event, and waits for it. -/
theorem Consistent.stage (consistent : Consistent db) (row : PendingApproval)
    (event : ApprovalAuditEvent)
    (settled : ∀ item, db.approvals.get? event.approvalId = some item →
      ∃ transition, item.status = .settled transition)
    (unused : db.outbox.get? event.eventId = none)
    (isApprovals : approvals = db.approvals.set event.approvalId row)
    (isOutbox : outbox = db.outbox.set event.eventId ⟨event, none⟩)
    (waits : row.status = .auditPending event.transition event.eventId)
    (describes : Describes event row) : Consistent ⟨approvals, outbox, tombstones⟩ := by
  have apart {eventId : Str} {other : OutboxRow} (found : db.outbox.get? eventId = some other) :
      eventId ≠ event.eventId := by
    intro same
    rw [same, unused] at found
    cases found
  have kept {eventId : Str} {other : OutboxRow}
      (found : outbox.get? eventId = some other) :
      eventId = event.eventId ∧ other = ⟨event, none⟩ ∨ db.outbox.get? eventId = some other := by
    rw [isOutbox, Dict.get?_set] at found
    split at found
    · next same => exact .inl ⟨same, (Option.some.inj found).symm⟩
    · exact .inr found
  have present {approvalId : Str} (found : ∃ item, db.approvals.get? approvalId = some item) :
      ∃ item, approvals.get? approvalId = some item := by
    obtain ⟨item, found⟩ := found
    rw [isApprovals, Dict.get?_set]
    split
    · exact ⟨_, rfl⟩
    · exact ⟨item, found⟩
  refine ⟨?_, ?_, ?_, ?_⟩
  · intro eventId other found
    rcases kept found with ⟨same, isRow⟩ | earlier
    · rw [same, isRow]
    · exact consistent.events _ _ earlier
  · intro eventId other found
    rcases kept found with ⟨-, isRow⟩ | earlier
    · rw [isRow, isApprovals, Dict.get?_set_self]
      exact ⟨row, rfl⟩
    · exact present (consistent.approvals _ _ earlier)
  · intro eventId other found
    rcases kept found with ⟨same, isRow⟩ | earlier
    · cases isRow
      rw [isApprovals, Dict.get?_set_self, same]
      exact ⟨row, rfl, waits⟩
    · obtain ⟨item, isItem, isWaiting⟩ := consistent.undelivered _ _ earlier
      have differs : other.approvalId ≠ event.approvalId := by
        intro same
        rw [same] at isItem
        obtain ⟨transition, isSettled⟩ := settled item isItem
        rw [isSettled] at isWaiting
        cases isWaiting
      rw [isApprovals, Dict.get?_set_of_ne differs]
      exact ⟨item, isItem, isWaiting⟩
  · intro approvalId item transition eventId found isWaiting
    rw [isApprovals, Dict.get?_set] at found
    rw [isOutbox]
    split at found
    · next own =>
      cases found
      rw [waits] at isWaiting
      cases isWaiting
      exact ⟨event, Dict.get?_set_self, own.symm, rfl, describes⟩
    · obtain ⟨other, isOther, isDescribed⟩ := consistent.waiting _ _ _ _ found isWaiting
      rw [Dict.get?_set_of_ne (apart isOther)]
      exact ⟨other, isOther, isDescribed⟩

/-- An event is delivered, and its approval waits no more. -/
theorem Consistent.deliver (consistent : Consistent db) {item : PendingApproval}
    {delivered : Option (Text × FiniteFloat)} (isDelivered : delivered ≠ none)
    (present : db.approvals.get? event.approvalId = some item)
    (isEvent : db.outbox.get? event.eventId = some ⟨event, none⟩)
    (isWaiting : item.status = .auditPending event.transition event.eventId)
    (isApprovals : approvals = db.approvals.set event.approvalId row)
    (isOutbox : outbox = db.outbox.set event.eventId ⟨event, delivered⟩)
    (isSettled : row.status = .settled event.transition) :
    Consistent ⟨approvals, outbox, tombstones⟩ := by
  have kept {eventId : Str} {other : OutboxRow} (found : outbox.get? eventId = some other) :
      eventId = event.eventId ∧ other = ⟨event, delivered⟩ ∨
        eventId ≠ event.eventId ∧ db.outbox.get? eventId = some other := by
    rw [isOutbox, Dict.get?_set] at found
    split at found
    · next same => exact .inl ⟨same, (Option.some.inj found).symm⟩
    · next differs => exact .inr ⟨differs, found⟩
  refine ⟨?_, ?_, ?_, ?_⟩
  · intro eventId other found
    rcases kept found with ⟨same, isRow⟩ | ⟨-, earlier⟩
    · rw [same, isRow]
    · exact consistent.events _ _ earlier
  · intro eventId other found
    rw [isApprovals, Dict.get?_set]
    split
    · exact ⟨_, rfl⟩
    · next differs =>
      rcases kept found with ⟨-, isRow⟩ | ⟨-, earlier⟩
      · rw [isRow] at differs
        exact absurd rfl differs
      · exact consistent.approvals _ _ earlier
  · intro eventId other found
    rcases kept found with ⟨-, isRow⟩ | ⟨differs, earlier⟩
    · cases isRow
      exact absurd rfl isDelivered
    · obtain ⟨owner, isOwner, ownerWaits⟩ := consistent.undelivered _ _ earlier
      have apart : other.approvalId ≠ event.approvalId := by
        intro same
        rw [same, present] at isOwner
        cases isOwner
        rw [isWaiting, Status.auditPending.injEq] at ownerWaits
        exact differs ownerWaits.2.symm
      rw [isApprovals, Dict.get?_set_of_ne apart]
      exact ⟨owner, isOwner, ownerWaits⟩
  · intro approvalId owner transition eventId found waits
    rw [isApprovals, Dict.get?_set] at found
    split at found
    · cases found
      rw [isSettled] at waits
      cases waits
    · next apart =>
      obtain ⟨other, isOther, isOwn, describes⟩ := consistent.waiting _ _ _ _ found waits
      have differs : eventId ≠ event.eventId := by
        intro same
        rw [same, isEvent] at isOther
        cases isOther
        exact apart isOwn.symm
      rw [isOutbox, Dict.get?_set_of_ne differs]
      exact ⟨other, isOther, isOwn, describes⟩

/-- An approval that does not wait is replaced by one that does not. -/
theorem Consistent.replace (consistent : Consistent db) {approvalId : Str}
    (settled : ∀ item, db.approvals.get? approvalId = some item →
      ∃ transition, item.status = .settled transition)
    (isApprovals : approvals = db.approvals.set approvalId row)
    (isSettled : ∃ transition, row.status = .settled transition) :
    Consistent ⟨approvals, db.outbox, tombstones⟩ := by
  refine ⟨consistent.events, ?_, ?_, ?_⟩
  · intro eventId other found
    obtain ⟨item, isItem⟩ := consistent.approvals _ _ found
    rw [isApprovals, Dict.get?_set]
    split
    · exact ⟨_, rfl⟩
    · exact ⟨item, isItem⟩
  · intro eventId other found
    obtain ⟨item, isItem, isWaiting⟩ := consistent.undelivered _ _ found
    have differs : other.approvalId ≠ approvalId := by
      intro same
      rw [same] at isItem
      obtain ⟨transition, isSettled⟩ := settled item isItem
      rw [isSettled] at isWaiting
      cases isWaiting
    rw [isApprovals, Dict.get?_set_of_ne differs]
    exact ⟨item, isItem, isWaiting⟩
  · intro other item transition eventId found isWaiting
    rw [isApprovals, Dict.get?_set] at found
    split at found
    · cases found
      obtain ⟨transition', isSettled⟩ := isSettled
      rw [isSettled] at isWaiting
      cases isWaiting
    · exact consistent.waiting _ _ _ _ found isWaiting

end Staging

section Purge

variable {db : Database} {config : Config} {current : FiniteFloat}

theorem get?_purgeTx_approvals {approvalId : Str} {item : PendingApproval} :
    (purgeTx config current db).2.approvals.get? approvalId = some item ↔
      db.approvals.get? approvalId = some item ∧
        db.purges (earlier current config.maxAge) item = false := by
  change (db.approvals.filter _).get? approvalId = some item ↔ _
  rw [Dict.get?_filter, Option.filter_eq_some_iff, Bool.not_eq_true']

theorem get?_purgeTx_outbox {eventId : Str} {row : OutboxRow} :
    (purgeTx config current db).2.outbox.get? eventId = some row ↔
      db.outbox.get? eventId = some row ∧
        ∀ item, db.approvals.get? row.event.approvalId = some item →
          db.purges (earlier current config.maxAge) item = false := by
  change (db.outbox.filter _).get? eventId = some row ↔ _
  rw [Dict.get?_filter, Option.filter_eq_some_iff]
  refine and_congr_right fun _ => ?_
  rw [Bool.not_eq_true', List.any_eq_false]
  constructor
  · intro absent item found
    cases isPurged : db.purges (earlier current config.maxAge) item with
    | false => rfl
    | true =>
        refine absurd (absent row.event.approvalId ?_) (by simp)
        refine List.mem_map.mpr ⟨_, List.mem_filter.mpr ⟨Dict.get?_eq_some_iff.mp found, ?_⟩, rfl⟩
        exact isPurged
  · intro kept approvalId member
    obtain ⟨entry, inside, isId⟩ := List.mem_map.mp member
    obtain ⟨isEntry, isPurged⟩ := List.mem_filter.mp inside
    intro same
    have isApproval : approvalId = row.event.approvalId := by simpa using same
    rw [← isApproval, ← isId] at kept
    rw [kept entry.2 (Dict.get?_eq_some_iff.mpr isEntry)] at isPurged
    cases isPurged

theorem settled_of_purges {cutoff : Number} {item : PendingApproval}
    (purges : db.purges cutoff item = true) :
    ∃ transition, transition.isTerminal = true ∧ item.status = .settled transition := by
  simp only [Database.purges, Bool.and_eq_true, List.any_cons, List.any_nil, Bool.or_eq_true,
    Bool.or_false, decide_eq_true_eq] at purges
  rcases purges.1.1 with denied | consumed | expired
  · exact ⟨_, rfl, denied⟩
  · exact ⟨_, rfl, consumed⟩
  · exact ⟨_, rfl, expired⟩

theorem Consistent.purge (consistent : Consistent db) :
    Consistent (purgeTx config current db).2 := by
  refine ⟨?_, ?_, ?_, ?_⟩
  · intro eventId row found
    exact consistent.events _ _ (get?_purgeTx_outbox.mp found).1
  · intro eventId row found
    obtain ⟨found, kept⟩ := get?_purgeTx_outbox.mp found
    obtain ⟨item, isItem⟩ := consistent.approvals _ _ found
    exact ⟨item, get?_purgeTx_approvals.mpr ⟨isItem, kept item isItem⟩⟩
  · intro eventId event found
    obtain ⟨found, kept⟩ := get?_purgeTx_outbox.mp found
    obtain ⟨item, isItem, isWaiting⟩ := consistent.undelivered _ _ found
    exact ⟨item, get?_purgeTx_approvals.mpr ⟨isItem, kept item isItem⟩, isWaiting⟩
  · intro approvalId item transition eventId found isWaiting
    obtain ⟨found, kept⟩ := get?_purgeTx_approvals.mp found
    obtain ⟨event, isEvent, describes⟩ := consistent.waiting _ _ _ _ found isWaiting
    refine ⟨event, get?_purgeTx_outbox.mpr ⟨isEvent, fun other isOther => ?_⟩, describes⟩
    obtain ⟨owner, isOwner, ownerWaits⟩ := consistent.undelivered _ _ isEvent
    rw [isOther] at isOwner
    cases isOwner
    cases isPurged : db.purges (earlier current config.maxAge) other with
    | false => rfl
    | true =>
        obtain ⟨_, -, isSettled⟩ := settled_of_purges isPurged
        rw [isSettled] at ownerWaits
        cases ownerWaits

end Purge

section Changes

variable {allowed : Allowed} {fresh : Str → Prop} {db changed : Database}

theorem settled_of_takes {config : Config} {item : PendingApproval} {transition : Transition}
    {operatorId : Str} {transitionTs : FiniteFloat} {proof : Option DecisionProofEnvelope}
    (takes : Takes config item transition operatorId transitionTs proof)
    (found : db.approvals.get? item.approvalId = some item) (other : PendingApproval)
    (isOther : db.approvals.get? item.approvalId = some other) :
    ∃ transition, other.status = .settled transition := by
  rw [found] at isOther
  cases isOther
  obtain ⟨first, isSettled, -⟩ := takes.moves
  exact ⟨first, isSettled⟩

theorem Takes.operatorId {config : Config} {item : PendingApproval} {transition : Transition}
    {operatorId : Str} {transitionTs : FiniteFloat} {proof : Option DecisionProofEnvelope}
    (takes : Takes config item transition operatorId transitionTs proof) :
    (if operatorId.isEmpty then item.operatorId else operatorId) = operatorId := by
  cases takes with
  | decides _ valid =>
      rw [validOperatorId, isBounded, Bool.and_eq_true, Bool.and_eq_true,
        Bool.not_eq_true'] at valid
      rw [valid.1.1]
      rfl
  | consumes => exact ite_self _
  | expires => exact ite_self _

theorem Consistent.change (consistent : Consistent db) (change : Change allowed fresh db changed) :
    Consistent changed := by
  cases change with
  | kept => exact consistent
  | inserted _ _ _ absent =>
      refine consistent.replace (fun item found => ?_) rfl ⟨_, rfl⟩
      rw [absent] at found
      cases found
  | @insertedStaged approvalId eventId agentId action context contextDigest submittedAt _ _ absent
      noEvent =>
      refine consistent.stage
        (submittedRow approvalId agentId action context submittedAt (.auditPending .pending eventId))
        ⟨eventId, approvalId, .pending, agentId, action, [], contextDigest, submittedAt, none⟩
        (fun item found => ?_) noEvent rfl rfl rfl ⟨rfl, rfl, rfl, rfl⟩
      rw [absent] at found
      cases found
  | @staged config item eventId operatorId transition contextDigest transitionTs proof _ _ found
      takes _ _ _ noEvent =>
      exact consistent.stage
        (staged config item eventId transition operatorId transitionTs
          (proof.or item.decisionProof))
        ⟨eventId, item.approvalId, transition, item.agentId, item.action, operatorId, contextDigest,
          transitionTs, proof.or item.decisionProof⟩
        (settled_of_takes takes found) noEvent rfl rfl rfl ⟨rfl, rfl, takes.operatorId.symm, rfl⟩
  | updated _ _ found updates =>
      obtain ⟨first, second, isSettled, isRow, -⟩ := updates.moves
      refine consistent.replace (fun item isItem => ?_) rfl ⟨second, isRow⟩
      rw [found] at isItem
      cases isItem
      exact ⟨first, isSettled⟩
  | finished _ isEvent isItem valid =>
      exact consistent.deliver (Option.some_ne_none _) isItem isEvent
        (status_of_validEventState valid) rfl rfl rfl
  | purged => exact consistent.purge

end Changes

section Runs

variable {Λ Ticket : Type} [DecidableEq Ticket] {allowed : Allowed} {uuid : Nat → Str}
  {sink : Sink Λ} {s t : Shared Λ} {ledger : Λ} {events : List (Calls.Event Ticket Call Choice)}
  {world : Calls.World Ticket Call (Shared Λ) (Except Failure Result) Response}

theorem Consistent.reaches (consistent : Consistent s.db)
    (reaches : Relation.ReflTransGen (fun s t => Sound uuid s ∧ Served allowed uuid s t) s t) :
    Consistent t.db := by
  induction reaches with
  | refl => exact consistent
  | tail _ next ih => exact ih.change next.2.change

theorem reaches_new (permits : Permits allowed uuid sink (Shared.new ledger) events)
    (run : (queues uuid sink (Shared.new ledger)).Run events world) :
    Relation.ReflTransGen (fun s t => Sound uuid s ∧ Served allowed uuid s t) (Shared.new ledger)
      world.shared := by
  have idle : (queues uuid sink (Shared.new ledger)).Run (events.take 0) ⟨Shared.new ledger, fun
      (_ : Ticket) => none⟩ := by
    rw [List.take_zero]
    exact .start ⟨rfl, fun _ => rfl⟩
  have isAll : events.take events.length = events := List.take_length
  exact reaches_between permits (sound_new uuid ledger) (Nat.zero_le _) idle (isAll.symm ▸ run)

/-- Whatever is cut short, an approval waits for its evidence if and only if one event of it is
undelivered, and then it is the one that its row names. -/
theorem outbox_of_run (run : (queues uuid sink (Shared.new ledger)).Run events world) :
    Consistent world.shared.db :=
  consistent_empty.reaches (reaches_new permits_any run)

end Runs

/-! Runs that can be computed. -/

/-- Identifiers that differ in their length. -/
def sampleUuid (n : Nat) : Str := List.replicate (n + 1) (CodePoint.ofChar 'a')

theorem sampleUuid_injective : Function.Injective sampleUuid := by
  intro m n same
  have lengths := congrArg List.length same
  rw [sampleUuid, sampleUuid, List.length_replicate, List.length_replicate] at lengths
  exact Nat.succ_injective lengths

def oneSecond : FiniteFloat where
  toFloat := Float.ofScientific 1 false 0
  printable := by decide +kernel

/-- A queue whose approvals never expire, and that forgets at once what has ended. -/
def sampleConfig (hasSink : Bool) : Config where
  maxAge := .infinity true
  approvalTtl := .infinity false
  hasSink := hasSink
  auditRequired := false
  nonceRetention := oneSecond
  sinkRequired absurdly := by cases absurdly
  retains := by decide +kernel

def sampleChoice : Choice := ⟨true, some .zero, some .zero, none⟩

def sampleSubmission (hasSink : Bool) : Call :=
  ⟨sampleConfig hasSink, .submit (Str.lit "agent") (Str.lit "action") (.dict [])⟩

def sampleRun {Λ : Type} (sink : Sink Λ) (ledger : Λ) (events : List (Calls.Event Nat Call Choice)) :
    Option (Calls.World Nat Call (Shared Λ) (Except Failure Result) Response) :=
  events.foldlM (Calls.World.step (serve sampleUuid sink) program)
    ⟨Shared.new ledger, fun _ => none⟩

theorem run_of_sampleRun {Λ : Type} {sink : Sink Λ} {ledger : Λ}
    {events : List (Calls.Event Nat Call Choice)}
    {holds : Calls.World Nat Call (Shared Λ) (Except Failure Result) Response → Bool}
    (found : (sampleRun sink ledger events).any holds = true) :
    ∃ world, (queues sampleUuid sink (Shared.new ledger)).Run events world ∧
      holds world = true := by
  obtain ⟨world, isFound, isWanted⟩ := (Option.any_eq_true ..).mp found
  have idle : (queues sampleUuid sink (Shared.new ledger)).Run []
      (⟨Shared.new ledger, fun (_ : Nat) => none⟩ : Calls.World ..) := .start ⟨rfl, fun _ => rfl⟩
  exact ⟨world, System.Run.fold (fun _ _ _ next => next) idle isFound, isWanted⟩

/-- A sink that raises. -/
def brokenSink : Sink Unit := ⟨fun _ _ => (none, ()), fun _ _ _ => (none, ())⟩

/-- A submission whose event is not delivered. -/
def undelivered : List (Calls.Event Nat Call Choice) :=
  .start 0 (sampleSubmission true) :: List.replicate 4 (.serve 0 sampleChoice)

theorem undelivered_sampleRun : (sampleRun brokenSink () undelivered).any
    (fun world => !world.shared.db.pendingEvents.isEmpty) = true := by
  decide +kernel

theorem outbox_of_run_undelivered : ∃ world,
    (queues sampleUuid brokenSink (Shared.new ())).Run undelivered world ∧
      world.shared.db.pendingEvents.isEmpty = false ∧ Consistent world.shared.db := by
  obtain ⟨world, run, isPending⟩ := run_of_sampleRun undelivered_sampleRun
  exact ⟨world, run, (Bool.not_eq_true' _).mp isPending, outbox_of_run run⟩

end SelfConnect.Operator
