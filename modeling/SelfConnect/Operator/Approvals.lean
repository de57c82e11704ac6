import SelfConnect.Operator.Changes

namespace SelfConnect.Operator

open SelfConnect.Python SelfConnect.Library

/-! One approval while any number of queues work on its database. -/

/-- The transitions that an approval may take, one after the other. -/
inductive Moves : Transition → Transition → Prop
  | approve : Moves .pending .approved
  | deny : Moves .pending .denied
  | consume : Moves .approved .consumed
  | expire : Moves .approved .expired

theorem Moves.not_terminal {first second : Transition} (moves : Moves first second) :
    first.isTerminal = false := by
  cases moves <;> rfl

theorem Moves.ne_pending {first second : Transition} (moves : Moves first second) :
    second ≠ .pending := by
  cases moves <;> exact Transition.noConfusion

inductive Follows (allowed : Allowed) (item : PendingApproval) : PendingApproval → Prop
  | same : Follows allowed item item
  | staged {config : Config} {eventId operatorId : Str} {transition : Transition}
      {transitionTs : FiniteFloat} {proof : Option DecisionProofEnvelope} : allowed.config config →
      Takes config item transition operatorId transitionTs proof →
      Follows allowed item (Operator.staged config item eventId transition operatorId transitionTs
        (proof.or item.decisionProof))
  | updated {config : Config} {row : PendingApproval} : allowed.config config → config.hasSink = false →
      Updates config item row → Follows allowed item row
  | finished {event : ApprovalAuditEvent} {receiptJson : Text} :
      allowed.receipt event receiptJson → event.approvalId = item.approvalId →
      validEventState ⟨event, none⟩ item = true →
      Follows allowed item { item with
        status := .settled event.transition
        lastAuditEventId := event.eventId
        lastAuditReceiptJson := some receiptJson }

inductive Fate (allowed : Allowed) (fresh : Str → Prop) (db : Database) (approvalId : Str) :
    Option PendingApproval → Option PendingApproval → Prop
  | absent : Fate allowed fresh db approvalId none none
  | follows {item row : PendingApproval} :
      Follows allowed item row → Fate allowed fresh db approvalId (some item) (some row)
  | inserted {agentId action : Str} {context : Value} {submittedAt : FiniteFloat}
      {status : Status} : fresh approvalId → status.transition = .pending →
      (∀ transition, status = .settled transition →
        ∃ config, allowed.config config ∧ config.hasSink = false) →
      Fate allowed fresh db approvalId none
        (some (submittedRow approvalId agentId action context submittedAt status))
  | purged {item : PendingApproval} {config : Config} {current : FiniteFloat} :
      allowed.purge config current →
      db.purges (earlier current config.maxAge) item = true →
      Fate allowed fresh db approvalId (some item) none

theorem status_of_validEventState {event : ApprovalAuditEvent} {item : PendingApproval}
    (valid : validEventState ⟨event, none⟩ item = true) :
    item.status = .auditPending event.transition event.eventId := by
  simp only [validEventState, Bool.and_eq_true, decide_eq_true_eq] at valid
  exact valid.2

theorem Takes.moves {config : Config} {item : PendingApproval} {transition : Transition}
    {operatorId : Str} {transitionTs : FiniteFloat} {proof : Option DecisionProofEnvelope}
    (takes : Takes config item transition operatorId transitionTs proof) :
    ∃ first, item.status = .settled first ∧ Moves first transition := by
  cases takes with
  | @decides verdict _ _ _ waits =>
      cases verdict with
      | approved => exact ⟨_, waits, .approve⟩
      | denied => exact ⟨_, waits, .deny⟩
  | consumes approved => exact ⟨_, approved, .consume⟩
  | expires approved => exact ⟨_, approved, .expire⟩

theorem Updates.moves {config : Config} {item row : PendingApproval}
    (updates : Updates config item row) :
    ∃ first second, item.status = .settled first ∧ row.status = .settled second ∧
      Moves first second := by
  cases updates with
  | @decided verdict _ _ waits =>
      cases verdict with
      | approved => exact ⟨_, _, waits, rfl, .approve⟩
      | denied => exact ⟨_, _, waits, rfl, .deny⟩
  | consumed approved => exact ⟨_, _, approved, rfl, .consume⟩
  | expired approved => exact ⟨_, _, approved, rfl, .expire⟩

namespace Follows

variable {allowed : Allowed} {item row : PendingApproval} (follows : Follows allowed item row)

include follows

theorem moves : row.status.transition = item.status.transition ∨
    Moves item.status.transition row.status.transition := by
  cases follows with
  | same => exact .inl rfl
  | staged _ takes =>
      obtain ⟨first, isStatus, moves⟩ := takes.moves
      rw [isStatus]
      exact .inr moves
  | updated _ _ updates =>
      obtain ⟨first, second, isStatus, isRow, moves⟩ := updates.moves
      rw [isStatus, isRow]
      exact .inr moves
  | finished _ _ valid =>
      rw [status_of_validEventState valid]
      exact .inl rfl

theorem approvalId : row.approvalId = item.approvalId := by
  cases follows with
  | updated _ _ updates => cases updates <;> rfl
  | _ => rfl

theorem agentId : row.agentId = item.agentId := by
  cases follows with
  | updated _ _ updates => cases updates <;> rfl
  | _ => rfl

theorem action : row.action = item.action := by
  cases follows with
  | updated _ _ updates => cases updates <;> rfl
  | _ => rfl

theorem context : row.context = item.context := by
  cases follows with
  | updated _ _ updates => cases updates <;> rfl
  | _ => rfl

/-- An approval that has ended takes no further transition. -/
theorem ended (terminal : item.status.transition.isTerminal = true) :
    row.status.transition = item.status.transition := by
  rcases follows.moves with same | moves
  · exact same
  · rw [moves.not_terminal] at terminal
    cases terminal

end Follows

section Fates

variable {allowed : Allowed} {fresh : Str → Prop} {db changed : Database}

theorem fate_set {approvals : Dict Str PendingApproval} {item row : PendingApproval}
    (isApprovals : approvals = db.approvals.set item.approvalId row)
    (found : db.approvals.get? item.approvalId = some item) (follows : Follows allowed item row)
    (approvalId : Str) :
    Fate allowed fresh db approvalId (db.approvals.get? approvalId) (approvals.get? approvalId) := by
  rw [isApprovals]
  by_cases own : approvalId = item.approvalId
  · rw [own, found, Dict.get?_set_self]
    exact .follows follows
  · rw [Dict.get?_set_of_ne own]
    cases db.approvals.get? approvalId with
    | none => exact .absent
    | some other => exact .follows .same

theorem fate_insert {approvals : Dict Str PendingApproval} {own agentId action : Str}
    {context : Value} {submittedAt : FiniteFloat} {status : Status} (isFresh : fresh own)
    (absent : db.approvals.get? own = none) (isPending : status.transition = .pending)
    (noSink : ∀ transition, status = .settled transition →
      ∃ config, allowed.config config ∧ config.hasSink = false)
    (isApprovals : approvals =
      db.approvals.set own (submittedRow own agentId action context submittedAt status))
    (approvalId : Str) :
    Fate allowed fresh db approvalId (db.approvals.get? approvalId) (approvals.get? approvalId) := by
  rw [isApprovals]
  by_cases isOwn : approvalId = own
  · rw [isOwn, absent, Dict.get?_set_self]
    exact .inserted isFresh isPending noSink
  · rw [Dict.get?_set_of_ne isOwn]
    cases db.approvals.get? approvalId with
    | none => exact .absent
    | some other => exact .follows .same

theorem Change.fate (named : db.Named) (change : Change allowed fresh db changed) (approvalId : Str) :
    Fate allowed fresh db approvalId (db.approvals.get? approvalId) (changed.approvals.get? approvalId) := by
  cases change with
  | kept =>
      cases db.approvals.get? approvalId with
      | none => exact .absent
      | some item => exact .follows .same
  | inserted used noSink isFresh absent =>
      exact fate_insert isFresh absent rfl (fun _ _ => ⟨_, used, noSink⟩) rfl approvalId
  | insertedStaged isFresh _ absent _ =>
      exact fate_insert isFresh absent rfl (fun _ same => by cases same) rfl approvalId
  | staged used _ found takes => exact fate_set rfl found (.staged used takes) approvalId
  | updated used noSink found updates =>
      exact fate_set rfl found (.updated used noSink updates) approvalId
  | @finished event item receiptJson _ kept _ isItem valid =>
      have own := named _ _ isItem
      have follows : Follows allowed item { item with
          status := .settled event.transition
          lastAuditEventId := event.eventId
          lastAuditReceiptJson := some receiptJson } :=
        .finished kept own.symm valid
      rw [← own] at isItem
      exact fate_set (by rw [own]) isItem follows approvalId
  | @purged config current used =>
      change Fate allowed fresh db approvalId _ ((db.approvals.filter _).get? approvalId)
      rw [Dict.get?_filter]
      cases db.approvals.get? approvalId with
      | none => exact .absent
      | some item =>
          cases isPurged : db.purges (earlier current config.maxAge) item with
          | false =>
              rw [Option.filter_some, isPurged]
              exact .follows .same
          | true =>
              rw [Option.filter_some, isPurged]
              exact .purged used isPurged

theorem Change.named (named : db.Named) (change : Change allowed fresh db changed) : changed.Named := by
  intro approvalId row isRow
  have fate := change.fate named approvalId
  rw [isRow] at fate
  generalize isItem : db.approvals.get? approvalId = found at fate
  cases fate with
  | follows follows => exact follows.approvalId.trans (named _ _ isItem)
  | inserted => rfl

/-- An event that is kept is the same, and stays delivered. -/
theorem Change.event (change : Change allowed fresh db changed) {eventId : Str} {row : OutboxRow}
    (found : changed.outbox.get? eventId = some row) :
    fresh eventId ∨ ∃ old, db.outbox.get? eventId = some old ∧ old.event = row.event ∧
      (old.delivered = row.delivered ∨ old.delivered = none) := by
  have of_set {own : Str} {new : OutboxRow} (isFresh : fresh own)
      (found : (db.outbox.set own new).get? eventId = some row) :
      fresh eventId ∨ ∃ old, db.outbox.get? eventId = some old ∧ old.event = row.event ∧
        (old.delivered = row.delivered ∨ old.delivered = none) := by
    rw [Dict.get?_set] at found
    split at found
    · next same => exact .inl (same ▸ isFresh)
    · exact .inr ⟨row, found, rfl, .inl rfl⟩
  cases change with
  | kept => exact .inr ⟨row, found, rfl, .inl rfl⟩
  | inserted => exact .inr ⟨row, found, rfl, .inl rfl⟩
  | insertedStaged _ isFresh => exact of_set isFresh found
  | staged _ isFresh => exact of_set isFresh found
  | updated => exact .inr ⟨row, found, rfl, .inl rfl⟩
  | @finished event _ _ _ _ isEvent =>
      change (db.outbox.set event.eventId _).get? eventId = some row at found
      rw [Dict.get?_set] at found
      split at found
      · next same =>
        cases found
        exact .inr ⟨⟨event, none⟩, same ▸ isEvent, rfl, .inr rfl⟩
      · exact .inr ⟨row, found, rfl, .inl rfl⟩
  | purged =>
      change (db.outbox.filter _).get? eventId = some row at found
      rw [Dict.get?_filter, Option.filter_eq_some_iff] at found
      exact .inr ⟨row, found.1, rfl, .inl rfl⟩

end Fates

/-! Runs. -/

section Runs

variable {Λ Ticket : Type} {allowed : Allowed} {uuid : Nat → Str} {sink : Sink Λ}
  {start s t : Shared Λ}

/-- Every approval and every event has an identifier of its own, which has been drawn. -/
structure Sound (uuid : Nat → Str) (s : Shared Λ) : Prop where
  named : s.db.Named
  drawn : ∀ approvalId item, s.db.approvals.get? approvalId = some item →
    Drawn uuid 0 s.issued approvalId
  events : ∀ eventId row, s.db.outbox.get? eventId = some row → Drawn uuid 0 s.issued eventId

def Shared.new (ledger : Λ) : Shared Λ := ⟨.empty, 0, ledger⟩

theorem sound_new (uuid : Nat → Str) (ledger : Λ) : Sound uuid (Shared.new ledger) :=
  ⟨fun _ _ found => (by cases found), fun _ _ found => (by cases found),
    fun _ _ found => (by cases found)⟩

theorem Drawn.later {first last last' : Nat} {identifier : Str}
    (drawn : Drawn uuid first last identifier) (le : last ≤ last') :
    Drawn uuid 0 last' identifier := by
  obtain ⟨k, _, inside, isDrawn⟩ := drawn
  exact ⟨k, Nat.zero_le _, Nat.lt_of_lt_of_le inside le, isDrawn⟩

theorem Drawn.apart (distinct : Function.Injective uuid) {first middle last : Nat}
    {identifier : Str} (early : Drawn uuid first middle identifier)
    (late : Drawn uuid middle last identifier) : False := by
  obtain ⟨k, -, before, isDrawn⟩ := early
  obtain ⟨k', after, -, isDrawn'⟩ := late
  have same : k = k' := distinct (isDrawn.trans isDrawn'.symm)
  omega

theorem Sound.served (sound : Sound uuid s) (isServed : Served allowed uuid s t) : Sound uuid t := by
  refine ⟨isServed.change.named sound.named, fun approvalId row isRow => ?_,
    fun eventId row isRow => ?_⟩
  · have fate := isServed.change.fate sound.named approvalId
    rw [isRow] at fate
    generalize isItem : s.db.approvals.get? approvalId = found at fate
    cases fate with
    | follows => exact (sound.drawn _ _ isItem).later isServed.issued
    | inserted isFresh => exact isFresh.later (Nat.le_refl _)
  · rcases isServed.change.event isRow with isFresh | ⟨old, isOld, -⟩
    · exact isFresh.later (Nat.le_refl _)
    · exact (sound.events _ _ isOld).later isServed.issued

variable [DecidableEq Ticket]
  {events : List (Calls.Event Ticket Call Choice)}
  {world other : Calls.World Ticket Call (Shared Λ) (Except Failure Result) Response}

/-- The calls of a run and the receipts that they keep are as allowed. -/
structure Permits (allowed : Allowed) (uuid : Nat → Str) (sink : Sink Λ) (start : Shared Λ)
    (events : List (Calls.Event Ticket Call Choice)) : Prop where
  config : ∀ ticket call, Calls.Event.start ticket call ∈ events → allowed.config call.config
  context : ∀ ticket call, Calls.Event.start ticket call ∈ events → call.Submits allowed.context
  receipt : ∀ ticket k event receiptJson response,
    Calls.Did (serve uuid sink) program start events ticket k (.finish event receiptJson) response →
    allowed.receipt event receiptJson
  purge : ∀ ticket k config current response,
    Calls.Did (serve uuid sink) program start events ticket k (.purge config current) response →
    allowed.purge config current

theorem permits_any : Permits Allowed.any uuid sink start events :=
  ⟨fun _ _ _ => trivial, fun _ _ _ _ _ _ _ => trivial, fun _ _ _ _ _ _ => trivial,
    fun _ _ _ _ _ _ => trivial⟩

theorem Permits.of_config (config : ∀ ticket call, Calls.Event.start ticket call ∈ events →
    allowed.config call.config)
    (context : ∀ ticket call, Calls.Event.start ticket call ∈ events → call.Submits allowed.context)
    (receipt : ∀ event receiptJson, allowed.receipt event receiptJson)
    (purge : ∀ config current, allowed.purge config current) :
    Permits allowed uuid sink start events :=
  ⟨config, context, fun _ _ _ _ _ _ => receipt _ _, fun _ _ _ _ _ _ => purge _ _⟩

/-- Between any two moments the database takes the steps of its queues. -/
theorem served_between (permits : Permits allowed uuid sink start events) {k l : Nat} (le : k ≤ l)
    (early : (queues uuid sink start).Run (events.take k) world) (sound : Sound uuid world.shared)
    (late : (queues uuid sink start).Run (events.take l) other) :
    Sound uuid other.shared ∧
      Relation.ReflTransGen (fun s t => Sound uuid s ∧ Served allowed uuid s t) world.shared
        other.shared := by
  have steps (k : Nat) (choice : Choice) (ticket : Ticket) (call : Call) (s : Shared Λ)
      (request : Request) (isWanted : allowed.config call.config ∧ call.Submits allowed.context)
      (isOwned : request.Owned call)
      (did : Calls.Did (serve uuid sink) program start events ticket k request
        (serve uuid sink choice ticket s request).1) (holds : Sound uuid s) :
      Sound uuid (serve uuid sink choice ticket s request).2 ∧
        Sound uuid s ∧ Served allowed uuid s (serve uuid sink choice ticket s request).2 := by
    have used : request.Uses allowed := by
      refine isOwned.uses isWanted.1 isWanted.2 (fun event receiptJson isFinish => ?_)
        fun config current isPurge => ?_
      · cases isFinish
        exact permits.receipt _ _ _ _ _ did
      · cases isPurge
        exact permits.purge _ _ _ _ _ did
    have isServed : Served allowed uuid s (serve uuid sink choice ticket s request).2 :=
      served holds.named choice ticket used
    exact ⟨holds.served isServed, holds, isServed⟩
  exact Calls.reaches_of_run owned_program steps
    (fun ticket call started => ⟨permits.config _ _ started, permits.context _ _ started⟩)
    le early sound late

theorem owned_of_run (run : (queues uuid sink start).Run events world) {ticket : Ticket}
    {call : Call} {request : Request} {rest : Response request → Script Response _}
    (known : world.progress ticket = some ⟨call, some (.ask request rest)⟩) :
    request.Owned call ∧ Calls.Event.start ticket call ∈ events :=
  ⟨(Calls.asks_of_run owned_program run ticket call _ known).1, Calls.start_of_progress run known⟩

theorem sound_of_run (sound : Sound uuid start)
    (run : (queues uuid sink start).Run events world) : Sound uuid world.shared := by
  have idle : (queues uuid sink start).Run (events.take 0) ⟨start, fun (_ : Ticket) => none⟩ := by
    rw [List.take_zero]
    exact .start ⟨rfl, fun _ => rfl⟩
  have isAll : events.take events.length = events := List.take_length
  exact (served_between permits_any (Nat.zero_le _) idle sound (isAll.symm ▸ run)).1

theorem reaches_between (permits : Permits allowed uuid sink start events)
    (sound : Sound uuid start) {k l : Nat} (le : k ≤ l)
    (early : (queues uuid sink start).Run (events.take k) world)
    (late : (queues uuid sink start).Run (events.take l) other) :
    Relation.ReflTransGen (fun s t => Sound uuid s ∧ Served allowed uuid s t) world.shared
      other.shared :=
  (served_between permits le early (sound_of_run sound early) late).2

/-- What holds of every new row, and lasts, holds of every row. -/
theorem rows_of_reaches {holds : PendingApproval → Prop}
    (initially : ∀ approvalId agentId action context submittedAt status,
      Status.transition status = .pending →
      holds (submittedRow approvalId agentId action context submittedAt status))
    (lasts : ∀ item row, holds item → Follows allowed item row → holds row)
    (reaches : Relation.ReflTransGen (fun s t => Sound uuid s ∧ Served allowed uuid s t) s t)
    (begins : ∀ approvalId item, s.db.approvals.get? approvalId = some item → holds item)
    {approvalId : Str} {item : PendingApproval}
    (found : t.db.approvals.get? approvalId = some item) : holds item := by
  induction reaches generalizing item with
  | refl => exact begins _ _ found
  | @tail middle last _ next ih =>
      have fate := next.2.change.fate next.1.named approvalId
      rw [found] at fate
      generalize isEarlier : middle.db.approvals.get? approvalId = earlier at fate
      cases fate with
      | follows follows => exact lasts _ _ (ih isEarlier) follows
      | inserted _ isPending => exact initially _ _ _ _ _ _ isPending

end Runs

end SelfConnect.Operator
