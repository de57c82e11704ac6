import SelfConnect.Operator.Receipts
import SelfConnect.Operator.Sink

namespace SelfConnect.Operator

open SelfConnect.Python SelfConnect.Library
open SelfConnect.Library.Calls (World)
open Script (Earns)

/-! The ledger has the transitions of each approval once, in the order in which they came. -/

/-- What may be recorded after the last transition. -/
def Next : Option Transition → Transition → Prop
  | none, transition => transition = .pending
  | some last, transition => Moves last transition

/-- Each transition follows the one before it, from `pending` on. -/
inductive Lineage : List Transition → Prop
  | nil : Lineage []
  | snoc {history : List Transition} {transition : Transition} :
      Lineage history → Next history.getLast? transition → Lineage (history ++ [transition])

/-- What the ledger has of an approval, in its order. -/
def AuditLedger.history (ledger : AuditLedger) (approvalId : Str) : List Transition :=
  (ledger.entries.filter fun entry => entry.event.approvalId = approvalId).map fun entry =>
    entry.event.transition

def AuditLedger.Has (ledger : AuditLedger) (eventId : Str) : Prop :=
  ∃ entry ∈ ledger.entries, entry.event.eventId = eventId

structure Traced (uuid : Nat → Str) (s : Shared AuditLedger) : Prop where
  unique : (s.sink.entries.map fun entry => entry.event.eventId).Nodup
  drawn : ∀ entry ∈ s.sink.entries, Drawn uuid 0 s.issued entry.event.eventId ∧
    Drawn uuid 0 s.issued entry.event.approvalId
  lineage : ∀ approvalId, Lineage (s.sink.history approvalId)
  settled : ∀ approvalId item transition, s.db.approvals.get? approvalId = some item →
    item.status = .settled transition → (s.sink.history approvalId).getLast? = some transition
  waiting : ∀ approvalId item transition eventId, s.db.approvals.get? approvalId = some item →
    item.status = .auditPending transition eventId →
    s.sink.Has eventId ∧ (s.sink.history approvalId).getLast? = some transition ∨
      ¬s.sink.Has eventId ∧ Next (s.sink.history approvalId).getLast? transition
  agrees : ∀ entry ∈ s.sink.entries, ∀ row,
    s.db.outbox.get? entry.event.eventId = some row → row.event = entry.event

structure Accounted (uuid : Nat → Str) (s : Shared AuditLedger) : Prop where
  sound : Sound uuid s
  consistent : Consistent s.db
  traced : Traced uuid s

section Steps

variable {uuid : Nat → Str} {s t : Shared AuditLedger} {event : ApprovalAuditEvent}

theorem history_log (ledger : AuditLedger) (event : ApprovalAuditEvent) (approvalId : Str) :
    (ledger.log event).history approvalId = ledger.history approvalId ++
      if event.approvalId = approvalId then [event.transition] else [] := by
  unfold AuditLedger.history AuditLedger.log
  rw [List.filter_append, List.map_append]
  by_cases same : event.approvalId = approvalId
  · simp [AuditLedger.written, same]
  · simp [AuditLedger.written, same]

theorem has_of_recorded {ledger : AuditLedger} (recorded : ledger.Recorded event) :
    ledger.Has event.eventId := by
  obtain ⟨entry, member, same⟩ := recorded
  exact ⟨entry, member, by rw [same]⟩

theorem Accounted.log (accounted : Accounted uuid s)
    (undelivered : s.db.outbox.get? event.eventId = some ⟨event, none⟩)
    (absent : s.sink.existing event = .absent) :
    Accounted uuid { s with sink := s.sink.log event } := by
  obtain ⟨sound, consistent, traced⟩ := accounted
  have unused : ¬s.sink.Has event.eventId := by
    intro has
    obtain ⟨entry, member, same⟩ := has
    exact AuditLedger.existing_eq_absent_iff.mp absent entry member same
  obtain ⟨item, isItem, isWaiting⟩ := consistent.undelivered _ _ undelivered
  have isNext : Next (s.sink.history event.approvalId).getLast? event.transition := by
    rcases traced.waiting _ _ _ _ isItem isWaiting with ⟨has, -⟩ | ⟨-, isNext⟩
    · exact absurd has unused
    · exact isNext
  refine ⟨⟨sound.named, sound.drawn, sound.events⟩, consistent, ?_⟩
  refine ⟨?_, ?_, ?_, ?_, ?_, ?_⟩
  · change ((s.sink.entries ++ [s.sink.written event]).map _).Nodup
    rw [List.map_append]
    refine List.nodup_append.mpr ⟨traced.unique, List.nodup_singleton _, fun first member second last
      same => unused ?_⟩
    obtain ⟨entry, inside, isFirst⟩ := List.mem_map.mp member
    rw [List.map_singleton, List.mem_singleton] at last
    exact ⟨entry, inside, isFirst.trans (same.trans last)⟩
  · intro entry member
    rcases List.mem_append.mp member with earlier | last
    · exact traced.drawn entry earlier
    · rw [List.mem_singleton.mp last]
      exact ⟨sound.events _ _ undelivered, sound.drawn _ _ isItem⟩
  · intro approvalId
    change Lineage ((s.sink.log event).history approvalId)
    rw [history_log]
    split
    · next same =>
      rw [← same]
      exact .snoc (traced.lineage _) isNext
    · rw [List.append_nil]
      exact traced.lineage approvalId
  · intro approvalId other transition found isSettled
    change ((s.sink.log event).history approvalId).getLast? = some transition
    rw [history_log]
    split
    · next same =>
      change s.db.approvals.get? approvalId = some other at found
      rw [← same, isItem] at found
      cases found
      rw [isWaiting] at isSettled
      cases isSettled
    · rw [List.append_nil]
      exact traced.settled _ _ _ found isSettled
  · intro approvalId other transition eventId found waits
    change (s.sink.log event).Has eventId ∧ ((s.sink.log event).history approvalId).getLast? = _ ∨
      ¬(s.sink.log event).Has eventId ∧ Next ((s.sink.log event).history approvalId).getLast? _
    rw [history_log]
    have has_log : (s.sink.log event).Has eventId ↔ s.sink.Has eventId ∨ eventId = event.eventId := by
      unfold AuditLedger.Has AuditLedger.log
      simp only [List.mem_append, List.mem_singleton]
      constructor
      · rintro ⟨entry, earlier | last, same⟩
        · exact .inl ⟨entry, earlier, same⟩
        · rw [last] at same
          exact .inr same.symm
      · rintro (⟨entry, member, same⟩ | same)
        · exact ⟨entry, .inl member, same⟩
        · exact ⟨_, .inr rfl, same.symm⟩
    split
    · next same =>
      change s.db.approvals.get? approvalId = some other at found
      rw [← same, isItem] at found
      cases found
      rw [isWaiting, Status.auditPending.injEq] at waits
      obtain ⟨isTransition, isEvent⟩ := waits
      refine .inl ⟨has_log.mpr (.inr isEvent.symm), ?_⟩
      rw [List.getLast?_concat, isTransition]
    · next differs =>
      rw [List.append_nil]
      have apart : eventId ≠ event.eventId := by
        intro same
        obtain ⟨other', isOther', isOwn, -⟩ := consistent.waiting _ _ _ _ found waits
        rw [same, undelivered] at isOther'
        cases isOther'
        exact differs isOwn
      rw [has_log, or_iff_left apart]
      exact traced.waiting _ _ _ _ found waits
  · intro entry member row found
    rcases List.mem_append.mp member with earlier | last
    · exact traced.agrees entry earlier row found
    · rw [List.mem_singleton.mp last] at found ⊢
      cases undelivered.symm.trans found
      rfl

theorem AuditLedger.history_eq_nil {ledger : AuditLedger} {approvalId : Str}
    (none : ∀ entry ∈ ledger.entries, entry.event.approvalId ≠ approvalId) :
    ledger.history approvalId = [] := by
  unfold AuditLedger.history
  rw [List.map_eq_nil_iff, List.filter_eq_nil_iff]
  exact fun entry member same => none entry member (of_decide_eq_true same)

/-- What the ledger has says nothing of an identifier that is new. -/
theorem Traced.unused (traced : Traced uuid s) (distinct : Function.Injective uuid) {last : Nat}
    {identifier : Str} (isFresh : Drawn uuid s.issued last identifier) :
    ¬s.sink.Has identifier ∧ s.sink.history identifier = [] := by
  constructor
  · intro has
    obtain ⟨entry, member, same⟩ := has
    exact (same ▸ (traced.drawn entry member).1).apart distinct isFresh
  · exact AuditLedger.history_eq_nil fun entry member same =>
      (same ▸ (traced.drawn entry member).2).apart distinct isFresh

variable {allowed : Allowed}

/-- A transaction of queues that have the sink agrees with the ledger. -/
theorem Traced.change (traced : Traced uuid s) (distinct : Function.Injective uuid)
    (sinks : ∀ config, allowed.config config → config.hasSink = true)
    (recorded : ∀ event receiptJson, allowed.receipt event receiptJson → s.sink.Recorded event)
    (isServed : Served allowed uuid s t) (same : t.sink = s.sink) : Traced uuid t := by
  obtain ⟨issued, change⟩ := isServed
  have drawn (entry : LedgerEntry) (member : entry ∈ t.sink.entries) :
      Drawn uuid 0 t.issued entry.event.eventId ∧ Drawn uuid 0 t.issued entry.event.approvalId := by
    rw [same] at member
    have before := traced.drawn entry member
    exact ⟨before.1.later issued, before.2.later issued⟩
  have unique : (t.sink.entries.map fun entry => entry.event.eventId).Nodup := same ▸ traced.unique
  have lineage (approvalId : Str) : Lineage (t.sink.history approvalId) := same ▸ traced.lineage _
  refine ⟨unique, drawn, lineage, ?_, ?_, ?_⟩
  · intro approvalId row transition found isSettled
    rw [same]
    generalize t.db = changed at change found
    cases change with
    | kept => exact traced.settled _ _ _ found isSettled
    | inserted used noSink => exact Bool.noConfusion (noSink.symm.trans (sinks _ used))
    | insertedStaged =>
        rw [Dict.get?_set] at found
        split at found
        · cases found
          cases isSettled
        · exact traced.settled _ _ _ found isSettled
    | staged =>
        rw [Dict.get?_set] at found
        split at found
        · cases found
          cases isSettled
        · exact traced.settled _ _ _ found isSettled
    | updated used noSink => exact Bool.noConfusion (noSink.symm.trans (sinks _ used))
    | finished kept _ isItem valid =>
        rw [Dict.get?_set] at found
        split at found
        · next own =>
          cases found
          cases isSettled
          rcases traced.waiting _ _ _ _ isItem (status_of_validEventState valid) with
            ⟨-, isLast⟩ | ⟨unused, -⟩
          · exact own ▸ isLast
          · exact absurd (has_of_recorded (recorded _ _ kept)) unused
        · exact traced.settled _ _ _ found isSettled
    | purged => exact traced.settled _ _ _ (get?_purgeTx_approvals.mp found).1 isSettled
  · intro approvalId row transition eventId found waits
    rw [same]
    generalize t.db = changed at change found
    cases change with
    | kept => exact traced.waiting _ _ _ _ found waits
    | inserted used noSink => exact Bool.noConfusion (noSink.symm.trans (sinks _ used))
    | insertedStaged isFresh freshEvent =>
        rw [Dict.get?_set] at found
        split at found
        · next own =>
          cases found
          cases waits
          rw [own, (traced.unused distinct isFresh).2]
          exact .inr ⟨(traced.unused distinct freshEvent).1, rfl⟩
        · exact traced.waiting _ _ _ _ found waits
    | staged used freshEvent isItem takes =>
        rw [Dict.get?_set] at found
        split at found
        · next own =>
          cases found
          cases waits
          obtain ⟨first, isFirst, moves⟩ := takes.moves
          rw [own, traced.settled _ _ _ isItem isFirst]
          exact .inr ⟨(traced.unused distinct freshEvent).1, moves⟩
        · exact traced.waiting _ _ _ _ found waits
    | updated used noSink => exact Bool.noConfusion (noSink.symm.trans (sinks _ used))
    | finished =>
        rw [Dict.get?_set] at found
        split at found
        · cases found
          cases waits
        · exact traced.waiting _ _ _ _ found waits
    | purged => exact traced.waiting _ _ _ _ (get?_purgeTx_approvals.mp found).1 waits
  · intro entry member row found
    rw [same] at member
    rcases change.event found with isFresh | ⟨old, isOld, isEvent, -⟩
    · exact ((traced.drawn entry member).1.apart distinct isFresh).elim
    · rw [← isEvent]
      exact traced.agrees entry member old isOld

/-- An event that waits goes on waiting until it is finished. -/
theorem Change.undelivered {fresh : Str → Prop} {db changed : Database}
    (consistent : Consistent db) (change : Change allowed fresh db changed)
    (found : db.outbox.get? event.eventId = some ⟨event, none⟩) :
    changed.outbox.get? event.eventId = some ⟨event, none⟩ ∨
      ∃ receiptJson, allowed.receipt event receiptJson := by
  cases change with
  | kept => exact .inl found
  | inserted => exact .inl found
  | insertedStaged _ _ _ noEvent =>
      refine .inl ((Dict.get?_set_of_ne ?_).trans found)
      intro same
      rw [← same, found] at noEvent
      cases noEvent
  | staged _ _ _ _ _ _ _ noEvent =>
      refine .inl ((Dict.get?_set_of_ne ?_).trans found)
      intro same
      rw [← same, found] at noEvent
      cases noEvent
  | updated => exact .inl found
  | @finished finished _ receiptJson _ kept isEvent =>
      by_cases same : event.eventId = finished.eventId
      · rw [← same, found] at isEvent
        cases isEvent
        exact .inr ⟨receiptJson, kept⟩
      · exact .inl ((Dict.get?_set_of_ne same).trans found)
  | purged =>
      refine .inl (get?_purgeTx_outbox.mpr ⟨found, fun item isItem => ?_⟩)
      obtain ⟨owner, isOwner, ownerWaits⟩ := consistent.undelivered _ _ found
      rw [isItem] at isOwner
      cases isOwner
      refine Bool.eq_false_iff.mpr fun purges => ?_
      obtain ⟨_, -, isSettled⟩ := settled_of_purges purges
      rw [isSettled] at ownerWaits
      cases ownerWaits

end Steps

/-! What a call learns of an event. -/

inductive Learned
  | waiting (event : ApprovalAuditEvent)
  | recorded (event : ApprovalAuditEvent)

def Learned.Holds (s : Shared AuditLedger) : Learned → Prop
  | .waiting event =>
      s.db.outbox.get? event.eventId = some ⟨event, none⟩ ∨ s.sink.Recorded event
  | .recorded event => s.sink.Recorded event

/-- An event is recorded only where it waits, and finished only where it is recorded. -/
def needsEntry : Request → Learned → Prop
  | .record event, learned => learned = .waiting event
  | .finish event _, learned => learned = .recorded event
  | _, _ => False

def givesEntry : (request : Request) → Response request → Learned → Prop
  | .readEvent _, .ok (some (row, _)), learned =>
      row.delivered = none ∧ learned = .waiting row.event
  | .verifyReceipt event _, .ok true, learned => learned = .recorded event
  | _, _, _ => False

theorem needsEntry_delivers (request : Request) (learned : Learned)
    (need : needsEntry request learned) : request.Delivers := by
  cases request with
  | record => trivial
  | finish => trivial
  | _ => exact need.elim

theorem flushEvent_earns (known : Learned → Prop) (config : Config) (eventId : Str) :
    Earns needsEntry givesEntry known (flushEvent config eventId).run := by
  unfold flushEvent
  split
  · refine earns_ask (fun _ need => need.elim) fun found => earns_raising fun pair isPair => ?_
    rw [present_eq_ok] at isPair
    rw [isPair]
    obtain ⟨row, item⟩ := pair
    refine earns_raising fun _ _ => .bindExcept ?_ fun receipt => earns_raising fun names _ =>
      earns_raising fun _ _ => earns_ask (fun _ need => need.elim) fun verified =>
      earns_raising fun _ holds => earns_raising fun receiptJson _ => ?_
    · unfold receiptOf
      split
      · trivial
      · next undelivered =>
        refine ⟨fun learned need => .inr ⟨undelivered, need⟩, fun _ => trivial⟩
    · rw [insist_eq_ok] at holds
      refine ⟨fun learned need => .inr ?_, fun _ => trivial⟩
      rw [holds]
      exact need
  · trivial

section Serving

variable {Ticket : Type} {uuid : Nat → Str} {s t : Shared AuditLedger} {allowed : Allowed}

theorem Learned.Holds.of_entries {learned : Learned} (holds : learned.Holds s)
    (same : t.db = s.db) (kept : ∀ entry ∈ s.sink.entries, entry ∈ t.sink.entries) :
    learned.Holds t := by
  have further (event : ApprovalAuditEvent) (recorded : s.sink.Recorded event) :
      t.sink.Recorded event := by
    obtain ⟨entry, member, isEvent⟩ := recorded
    exact ⟨entry, kept entry member, isEvent⟩
  cases learned with
  | waiting event =>
      rcases holds with waits | recorded
      · exact .inl (same ▸ waits)
      · exact .inr (further event recorded)
  | recorded event => exact further event holds

/-- Nothing is said of the ledger but what its entries say. -/
theorem Accounted.of_entries (accounted : Accounted uuid s) (same : t.db = s.db)
    (issued : t.issued = s.issued) (kept : t.sink.entries = s.sink.entries) :
    Accounted uuid t := by
  obtain ⟨sound, consistent, traced⟩ := accounted
  obtain ⟨db, drawn, ledger⟩ := t
  cases same
  cases issued
  change ledger.entries = s.sink.entries at kept
  have isHistory (approvalId : Str) : ledger.history approvalId = s.sink.history approvalId := by
    unfold AuditLedger.history
    rw [kept]
  have isHas (eventId : Str) : ledger.Has eventId ↔ s.sink.Has eventId := by
    unfold AuditLedger.Has
    exact kept ▸ Iff.rfl
  refine ⟨⟨sound.named, sound.drawn, sound.events⟩, consistent, ?_⟩
  refine ⟨kept ▸ traced.unique, kept ▸ traced.drawn, ?_, ?_, ?_, kept ▸ traced.agrees⟩
  · exact fun approvalId => isHistory approvalId ▸ traced.lineage approvalId
  · exact fun approvalId => isHistory approvalId ▸ traced.settled approvalId
  · intro approvalId item transition eventId found waits
    change ledger.Has eventId ∧ (ledger.history approvalId).getLast? = _ ∨
      ¬ledger.Has eventId ∧ Next (ledger.history approvalId).getLast? _
    rw [isHas, isHistory]
    exact traced.waiting _ _ _ _ found waits

/-- One transaction of queues that finish only what is recorded. -/
theorem Accounted.transaction (accounted : Accounted uuid s) (distinct : Function.Injective uuid)
    (sinks : ∀ config, allowed.config config → config.hasSink = true)
    (recorded : ∀ event receiptJson, allowed.receipt event receiptJson → s.sink.Recorded event)
    (isServed : Served allowed uuid s t) (same : t.sink = s.sink) :
    Accounted uuid t ∧ ∀ learned : Learned, learned.Holds s → learned.Holds t := by
  obtain ⟨sound, consistent, traced⟩ := accounted
  refine ⟨⟨sound.served isServed, consistent.change isServed.change,
    traced.change distinct sinks recorded isServed same⟩, fun learned holds => ?_⟩
  cases learned with
  | waiting event =>
      rcases holds with waits | isRecorded
      · rcases isServed.change.undelivered consistent waits with still | ⟨receiptJson, kept⟩
        · exact .inl still
        · exact .inr (same ▸ recorded event receiptJson kept)
      · exact .inr (same ▸ isRecorded)
  | recorded event =>
      change t.sink.Recorded event
      exact same ▸ holds

theorem sink_commit {Λ α : Type} (s : Shared Λ) (works : Bool) (drawn : Nat)
    (outcome : Except Failure (α × Database)) : (s.commit works drawn outcome).2.sink = s.sink := by
  rcases commit_cases s works drawn outcome with ⟨_, _, -, same⟩ | ⟨_, -, -, -, same⟩
  · rw [same]
  · exact same

def Allowed.sinks : Allowed :=
  ⟨fun config => config.hasSink = true, fun _ _ => True, fun _ _ => True, fun _ => True⟩

/-- The account is kept, and so is what was learned; what is learned now is so. -/
structure Keeps (uuid : Nat → Str) (s t : Shared AuditLedger) (request : Request)
    (response : Response request) : Prop where
  accounted : Accounted uuid t
  lasts : ∀ learned : Learned, learned.Holds s → learned.Holds t
  teaches : ∀ learned, givesEntry request response learned → learned.Holds t

theorem Accounted.readEvent (accounted : Accounted uuid s) (choice : Choice) (ticket : Ticket)
    {eventId : Str} {learned : Learned}
    (gave : givesEntry (.readEvent eventId)
      (serve uuid ledgerSink choice ticket s (.readEvent eventId)).1 learned) :
    learned.Holds s := by
  change givesEntry (.readEvent eventId)
    (s.commit choice.works 0 (.ok (s.db.eventState? eventId, s.db))).1 learned at gave
  rcases commit_cases s choice.works 0 (.ok (s.db.eventState? eventId, s.db)) with
    ⟨found, db, isOk, same⟩ | ⟨failure, failed, -⟩
  · cases isOk
    rw [same] at gave
    cases isFound : s.db.eventState? eventId with
    | none =>
        rw [isFound] at gave
        exact gave.elim
    | some pair =>
        rw [isFound] at gave
        obtain ⟨row, item⟩ := pair
        obtain ⟨undelivered, isLearned⟩ := gave
        rw [Database.eventState?, Option.bind_eq_some_iff] at isFound
        obtain ⟨row', isRow, isPair⟩ := isFound
        obtain ⟨item', -, isPair⟩ := Option.map_eq_some_iff.mp isPair
        cases isPair
        have isEvent : row.event.eventId = eventId := accounted.consistent.events _ _ isRow
        obtain ⟨event, delivered⟩ := row
        cases undelivered
        rw [isLearned]
        exact .inl (isEvent ▸ isRow)
  · rw [failed] at gave
    exact gave.elim

theorem Accounted.record (accounted : Accounted uuid s) {event : ApprovalAuditEvent}
    (knows : (Learned.waiting event).Holds s) :
    Accounted uuid { s with sink := (s.sink.record event).2 } ∧
      ∀ learned : Learned, learned.Holds s →
        learned.Holds { s with sink := (s.sink.record event).2 } := by
  rcases AuditLedger.record_cases s.sink event with ⟨same, -⟩ | ⟨absent, isLog⟩
  · exact ⟨accounted.of_entries rfl rfl same,
      fun learned holds => holds.of_entries rfl fun _ member => same ▸ member⟩
  · rw [isLog]
    rcases knows with waits | ⟨entry, member, isEvent⟩
    · exact ⟨accounted.log waits absent,
        fun learned holds => holds.of_entries rfl fun _ member => List.mem_append_left _ member⟩
    · have isId : entry.event.eventId = event.eventId := congrArg _ isEvent
      exact absurd isId (AuditLedger.existing_eq_absent_iff.mp absent entry member)

theorem Accounted.verifyReceipt (accounted : Accounted uuid s) (event : ApprovalAuditEvent)
    (receipt : Value) :
    Keeps uuid s { s with sink := (s.sink.verifyReceipt event receipt).2 }
      (.verifyReceipt event receipt)
      (present (s.sink.verifyReceipt event receipt).1 .receiptUnverified) := by
  have same : (s.sink.verifyReceipt event receipt).2.entries = s.sink.entries :=
    (AuditLedger.verifyReceipt_entries receipt).1
  have kept (learned : Learned) (holds : learned.Holds s) :
      learned.Holds { s with sink := (s.sink.verifyReceipt event receipt).2 } :=
    holds.of_entries rfl fun _ member => same ▸ member
  refine ⟨accounted.of_entries rfl rfl same, kept, fun learned gave => ?_⟩
  cases isVerified : (s.sink.verifyReceipt event receipt).1 with
  | none =>
      rw [isVerified] at gave
      exact gave.elim
  | some verified =>
      rw [isVerified] at gave
      cases verified with
      | false => exact gave.elim
      | true =>
          cases gave
          exact kept _ (AuditLedger.recorded_of_verified isVerified)

theorem accounted_serve (distinct : Function.Injective uuid) (choice : Choice) (ticket : Ticket)
    (accounted : Accounted uuid s) {request : Request} (used : request.Uses .sinks)
    (knows : ∀ learned, needsEntry request learned → learned.Holds s) :
    Keeps uuid s (serve uuid ledgerSink choice ticket s request).2 request
      (serve uuid ledgerSink choice ticket s request).1 := by
  have transaction (uses : request.Uses
        ⟨fun config => config.hasSink = true, fun event _ => s.sink.Recorded event, fun _ _ => True,
          fun _ => True⟩)
      (same : (serve uuid ledgerSink choice ticket s request).2.sink = s.sink)
      (teaches : ∀ learned, givesEntry request (serve uuid ledgerSink choice ticket s request).1
        learned → learned.Holds s) :
      Keeps uuid s (serve uuid ledgerSink choice ticket s request).2 request
        (serve uuid ledgerSink choice ticket s request).1 := by
    obtain ⟨kept, lasts⟩ := accounted.transaction distinct (fun _ hasSink => hasSink)
      (fun _ _ recorded => recorded) (served accounted.sound.named choice ticket uses) same
    exact ⟨kept, lasts, fun learned gave => lasts learned (teaches learned gave)⟩
  cases request with
  | readClock => exact transaction used rfl fun _ gave => gave.elim
  | record event =>
      obtain ⟨kept, lasts⟩ := accounted.record (knows _ rfl)
      exact ⟨kept, lasts, fun _ gave => gave.elim⟩
  | verifyReceipt event receipt => exact accounted.verifyReceipt event receipt
  | readEvent => exact transaction used (sink_commit ..) fun _ gave => accounted.readEvent _ _ gave
  | finish => exact transaction (knows _ rfl) (sink_commit ..) fun _ gave => gave.elim
  | _ => exact transaction used (sink_commit ..) fun _ gave => gave.elim

end Serving

section Runs

variable {Ticket : Type} [DecidableEq Ticket] {uuid : Nat → Str} {ledger : AuditLedger}
  {events : List (Calls.Event Ticket Call Choice)}
  {world : World Ticket Call (Shared AuditLedger) (Except Failure Result) Response}

theorem accounted_new (isNew : ledger.entries = []) : Accounted uuid (Shared.new ledger) := by
  refine ⟨sound_new uuid ledger, consistent_empty, ?_⟩
  have isNil (approvalId : Str) : ledger.history approvalId = [] := by
    unfold AuditLedger.history
    rw [isNew]
    rfl
  have none (entry : LedgerEntry) (member : entry ∈ (Shared.new ledger).sink.entries) : False := by
    rw [show (Shared.new ledger).sink.entries = [] from isNew] at member
    cases member
  refine ⟨isNew ▸ List.nodup_nil, fun entry member => (none entry member).elim, fun approvalId => ?_,
    ?_, ?_, fun entry member => (none entry member).elim⟩
  · exact (isNil approvalId).symm ▸ .nil
  · intro _ _ _ found
    cases found
  · intro _ _ _ _ found
    cases found

theorem accounted_of_run (distinct : Function.Injective uuid) (isNew : ledger.entries = [])
    (run : (queues uuid ledgerSink (Shared.new ledger)).Run events world)
    (sinks : ∀ ticket call, Calls.Event.start ticket call ∈ events → call.config.hasSink = true) :
    Accounted uuid world.shared := by
  have asks (call : Call) (hasSink : call.config.hasSink = true) :
      (program call).Asks (Request.Uses .sinks) :=
    (owned_program call).mono fun request owned =>
      owned.uses hasSink (fun _ _ _ _ => trivial) (fun _ _ _ => trivial) fun _ _ _ => trivial
  have steps (choice : Choice) (ticket : Ticket) (s : Shared AuditLedger) (request : Request)
      (used : request.Uses .sinks) (accounted : Accounted uuid s)
      (knows : ∀ learned : Learned, needsEntry request learned → learned.Holds s) :
      Accounted uuid (serve uuid ledgerSink choice ticket s request).2 ∧
        (∀ learned : Learned, learned.Holds s →
          learned.Holds (serve uuid ledgerSink choice ticket s request).2) ∧
        ∀ learned, givesEntry request (serve uuid ledgerSink choice ticket s request).1 learned →
          learned.Holds (serve uuid ledgerSink choice ticket s request).2 := by
    obtain ⟨kept, lasts, teaches⟩ := accounted_serve distinct choice ticket accounted used knows
    exact ⟨kept, lasts, teaches⟩
  have earns (call : Call) : Earns needsEntry givesEntry (fun _ => False) (program call) :=
    earns_program needsEntry_delivers flushEvent_earns call
  exact Script.inv_of_earns steps earns asks (accounted_new isNew) run sinks

/-- Where every queue has the sink, the ledger has each event once, and of each approval
everything that it has become, one transition after the other. -/
theorem lineage_of_run (distinct : Function.Injective uuid) (isNew : ledger.entries = [])
    (run : (queues uuid ledgerSink (Shared.new ledger)).Run events world)
    (sinks : ∀ ticket call, Calls.Event.start ticket call ∈ events → call.config.hasSink = true) :
    (world.shared.sink.entries.map fun entry => entry.event.eventId).Nodup ∧
      ∀ approvalId, Lineage (world.shared.sink.history approvalId) ∧
        ∀ item transition, world.shared.db.approvals.get? approvalId = some item →
          item.status = .settled transition →
          (world.shared.sink.history approvalId).getLast? = some transition := by
  have accounted := accounted_of_run distinct isNew run sinks
  exact ⟨accounted.traced.unique, fun approvalId =>
    ⟨accounted.traced.lineage approvalId, accounted.traced.settled approvalId⟩⟩

end Runs

theorem lineage_of_run_delivering : ∃ world,
    (queues sampleUuid ledgerSink (Shared.new emptyLedger)).Run delivering world ∧
      (world.shared.sink.history (sampleUuid 0)).getLast? = some .pending := by
  obtain ⟨world, run, holds⟩ := run_of_sampleRun delivering_sampleRun
  obtain ⟨item, found, isSettled⟩ := (Option.any_eq_true ..).mp holds
  exact ⟨world, run, ((lineage_of_run sampleUuid_injective rfl run sinks_delivering).2 _).2 item _
    found (of_decide_eq_true isSettled)⟩

end SelfConnect.Operator
