import SelfConnect.Library.Evidence
import SelfConnect.Operator.Outbox
import SelfConnect.Operator.Sink

namespace SelfConnect.Operator

open SelfConnect.Python SelfConnect.Library
open SelfConnect.Library.Calls (Did World Changed)
open Script (Earns)

/-! No transition is final before the sink has verified a receipt for it. -/

section Programs

variable {Fact α : Type} {needs : Request → Fact → Prop}
  {gives : (request : Request) → Response request → Fact → Prop} {known : Fact → Prop}

theorem earns_raising {outcome : Except Failure α} {β : Type} {f : α → Action β}
    (next : ∀ a, outcome = .ok a → Earns needs gives known (f a).run) :
    Earns needs gives known (raising outcome >>= f).run := by
  cases outcome with
  | error raised => trivial
  | ok a => exact next a rfl

theorem earns_ask {request : Request} {β : Type} {f : request.Answer → Action β}
    (knows : ∀ fact, needs request fact → known fact)
    (next : ∀ answer, Earns needs gives (fun fact => known fact ∨ gives request (.ok answer) fact)
      (f answer).run) : Earns needs gives known (ask request >>= f).run := by
  refine ⟨knows, fun response => ?_⟩
  cases response with
  | error raised => trivial
  | ok answer => exact next answer

def Request.Delivers : Request → Prop
  | .record _ | .finish .. => True
  | _ => False

variable (free : ∀ request fact, needs request fact → request.Delivers)
  (flush : ∀ known config eventId, Earns needs gives known (flushEvent config eventId).run)

include free in
theorem earns_free {request : Request} (other : ¬request.Delivers) :
    Earns needs gives known (ask request).run :=
  ⟨fun fact need => (other (free _ fact need)).elim, fun _ => trivial⟩

include flush in
theorem earns_flushAll (config : Config) (pending : List Str) :
    Earns needs gives known (flushAll config pending).run := by
  induction pending with
  | nil => trivial
  | cons eventId rest ih => exact .bindExcept (flush known config eventId) fun _ => ih

include flush in
theorem earns_settle (config : Config) (decided : Decided) :
    Earns needs gives known (settle config decided).run := by
  cases decided with
  | refused => trivial
  | settled => trivial
  | staged eventId => exact .bindExcept (flush known config eventId) fun _ => trivial

include free in
theorem earns_backed (evidence : List (ApprovalAuditEvent × Value)) :
    Earns needs gives known (backed evidence).run := by
  induction evidence with
  | nil => trivial
  | cons pair rest ih =>
      obtain ⟨event, receipt⟩ := pair
      refine earns_raising fun names _ => ?_
      split
      · refine .bindExcept (.bind (earns_free free id) fun _ => trivial) fun answer => ?_
        split
        · exact ih
        · trivial
      · trivial

include free in
theorem earns_verifyConsumedBinding (config : Config) (item : PendingApproval)
    (agentId action : Str) (required : Members) :
    Earns needs gives known (verifyConsumedBinding config item agentId action required).run := by
  unfold verifyConsumedBinding
  split
  · trivial
  · split
    · trivial
    · refine .bindExcept (earns_free free id) fun rows => ?_
      split
      · split
        · refine earns_raising fun expected _ => ?_
          split
          · exact earns_backed free _
          · trivial
        · trivial
      · trivial

include free flush in
theorem earns_program (call : Call) : Earns needs gives known (program call) := by
  unfold program
  split
  · refine .mapExcept (.bindExcept (earns_free free id) fun submittedAt =>
      .bindExcept (earns_free free id) fun pair => ?_)
    obtain ⟨approvalId, staged⟩ := pair
    cases staged with
    | none => trivial
    | some eventId => exact .bindExcept (flush known _ eventId) fun _ => trivial
  · exact .mapExcept (.bindExcept (earns_free free id) (earns_settle flush _))
  · exact .mapExcept (.bindExcept (earns_free free id) (earns_settle flush _))
  · exact .mapExcept (.bindExcept (earns_free free id) (earns_settle flush _))
  · refine .mapExcept (.bindExcept (earns_free free id) fun consumed => ?_)
    cases consumed with
    | refused => trivial
    | consumed item => trivial
    | stagedConsumption eventId =>
        exact .bindExcept (flush known _ eventId) fun _ => earns_free free id
    | stagedExpiry eventId => exact .bindExcept (flush known _ eventId) fun _ => trivial
  · exact .mapExcept (.bindExcept (earns_free free id) fun pending =>
      .bindExcept (earns_flushAll flush _ pending) fun _ => trivial)
  · exact .mapExcept (.bindExcept (earns_free free id) fun _ => earns_free free id)
  · exact .mapExcept (earns_verifyConsumedBinding free ..)
  · exact .mapExcept (earns_free free id)

end Programs

abbrev Kept : Type := ApprovalAuditEvent × Text

def needsReceipt : Request → Kept → Prop
  | .finish event receiptJson, kept => kept = (event, receiptJson)
  | _, _ => False

/-- The sink has verified this receipt, which names the event. -/
def givesReceipt : (request : Request) → Response request → Kept → Prop
  | .verifyReceipt event receipt, .ok true, kept => kept.1 = event ∧
      receiptMatchesEvent receipt event = some true ∧
      Json.dumpsSorted .compact receipt = some kept.2
  | _, _, _ => False

theorem delivers_of_needs (request : Request) (kept : Kept) (need : needsReceipt request kept) :
    request.Delivers := by
  cases request with
  | finish => trivial
  | _ => exact need.elim

theorem earns_flushEvent (known : Kept → Prop) (config : Config) (eventId : Str) :
    Earns needsReceipt givesReceipt known (flushEvent config eventId).run := by
  unfold flushEvent
  split
  · refine earns_ask (fun _ need => need.elim) fun found => earns_raising fun pair _ => ?_
    obtain ⟨row, item⟩ := pair
    refine earns_raising fun _ _ => .bindExcept ?_ fun receipt => earns_raising fun names isNames =>
      earns_raising fun _ matching => earns_ask (fun _ need => need.elim) fun verified =>
      earns_raising fun _ holds => earns_raising fun receiptJson isJson => ?_
    · unfold receiptOf
      split
      · trivial
      · exact ⟨fun _ need => need.elim, fun _ => trivial⟩
    · rw [insist_eq_ok] at matching holds
      rw [present_eq_ok] at isNames isJson
      refine ⟨fun kept need => .inr ?_, fun _ => trivial⟩
      rw [need, holds]
      exact ⟨rfl, matching ▸ isNames, isJson⟩
  · trivial

section Runs

variable {Λ Ticket : Type} [DecidableEq Ticket] {uuid : Nat → Str} {sink : Sink Λ} {ledger : Λ}
  {events : List (Calls.Event Ticket Call Choice)}
  {world : World Ticket Call (Shared Λ) (Except Failure Result) Response}

/-- A call that finishes an event has had its receipt verified. -/
theorem verified_of_progress (run : (queues uuid sink (Shared.new ledger)).Run events world)
    {ticket : Ticket} {call : Call} {event : ApprovalAuditEvent} {receiptJson : Text}
    {rest : Response (.finish event receiptJson) → Script Response _}
    (known : world.progress ticket = some ⟨call, some (.ask (.finish event receiptJson) rest)⟩) :
    ∃ k receipt, k < events.length ∧ Did (serve uuid sink) program (Shared.new ledger) events ticket k
      (.verifyReceipt event receipt) (.ok true) ∧
      receiptMatchesEvent receipt event = some true ∧
      Json.dumpsSorted .compact receipt = some receiptJson := by
  obtain ⟨begun, upto, -, inside, path⟩ := Calls.steps_of_run run known
  have earns : Earns needsReceipt givesReceipt (fun _ => False) (program call) := earns_program delivers_of_needs earns_flushEvent call
  rcases (earns.path path).1 (event, receiptJson) rfl with absurdly | ⟨k, request, response, earlier,
    did, gave⟩
  · exact absurdly.elim
  · cases request with
    | verifyReceipt event' receipt =>
        cases response with
        | error raised => exact gave.elim
        | ok verified =>
            cases verified with
            | false => exact gave.elim
            | true =>
                obtain ⟨same, names, isJson⟩ := gave
                cases same
                exact ⟨k, receipt, by omega, did, names, isJson⟩
    | _ => exact gave.elim

/-- Where every queue has a sink, what an approval has become is what the sink has verified. -/
theorem settled_with_evidence (run : (queues uuid sink (Shared.new ledger)).Run events world)
    (sinks : ∀ ticket call, Calls.Event.start ticket call ∈ events → call.config.hasSink = true)
    {approvalId : Str} {item : PendingApproval} {transition : Transition}
    (found : world.shared.db.approvals.get? approvalId = some item)
    (settled : item.status = .settled transition) :
    ∃ j k ticket event receipt receiptJson, k < j ∧
      Did (serve uuid sink) program (Shared.new ledger) events ticket k
        (.verifyReceipt event receipt) (.ok true) ∧
      Did (serve uuid sink) program (Shared.new ledger) events ticket j
        (.finish event receiptJson) (.ok ()) ∧
      receiptMatchesEvent receipt event = some true ∧
      Json.dumpsSorted .compact receipt = some receiptJson ∧
      event.approvalId = approvalId ∧ event.transition = transition ∧ Describes event item ∧
      item.lastAuditEventId = event.eventId ∧ item.lastAuditReceiptJson = some receiptJson := by
  have isAll : events.take events.length = events := List.take_length
  have idle : (queues uuid sink (Shared.new ledger)).Run (events.take 0) ⟨Shared.new ledger, fun
      (_ : Ticket) => none⟩ := by
    rw [List.take_zero]
    exact .start ⟨rfl, fun _ => rfl⟩
  obtain ⟨j, ticket, request, before, after, -, inside, changed⟩ :=
    Calls.changed_between (fun s => s.db.approvals.get? approvalId ≠ some item) (Nat.zero_le _) idle
      (isAll.symm ▸ run) (Option.some_ne_none _).symm (fun absent => absent found)
  obtain ⟨⟨earlier, call, rest, early, isBefore, known⟩, -, differs, same, choice, isServed, did⟩ :=
    changed
  obtain ⟨isOwned, started⟩ := owned_of_run early known
  have hasSink := sinks ticket call (List.mem_of_mem_take started)
  have sound := sound_of_run (sound_new uuid ledger) early
  rw [isBefore] at sound
  have step : Served (.only (fun config => config.hasSink = true) request) uuid before after :=
    served_owned sound.named isServed isOwned hasSink
  have isAfter : after.db.approvals.get? approvalId = some item := Classical.not_not.mp same
  have fate := step.change.fate sound.named approvalId
  rw [isAfter] at fate
  generalize isOld : before.db.approvals.get? approvalId = old at fate
  cases fate with
  | inserted _ _ noSink =>
      obtain ⟨config, isSink, absent⟩ := noSink transition settled
      exact Bool.noConfusion (absent.symm.trans isSink)
  | @follows old _ follows =>
      cases follows with
      | same => exact absurd isOld differs
      | staged => cases settled
      | updated isSink absent => exact Bool.noConfusion (absent.symm.trans isSink)
      | @finished event receiptJson isFinish own valid =>
          cases isFinish
          cases settled
          obtain ⟨k, receipt, earlierStill, verified, names, isJson⟩ :=
            verified_of_progress early known
          have isOwn := own.trans (sound.named _ _ isOld)
          have committed : before.commit choice.works 0
              ((finishTx event receiptJson choice.reading before.db).map ((), ·)) =
              ((serve uuid sink choice ticket before (.finish event receiptJson)).1, after) := isServed
          have changes : after.db ≠ before.db := by
            intro unchanged
            rw [unchanged] at isAfter
            exact differs isAfter
          obtain ⟨⟨⟩, isOk⟩ := ok_of_commit committed changes
          rw [isOk] at did
          rw [List.length_take] at earlierStill
          obtain ⟨agentId, action, operatorId, decisionProof⟩ := describes_of_validEventState valid
          exact ⟨j, k, ticket, event, receipt, receiptJson, by omega, verified.of_take, did, names, isJson,
            isOwn, rfl, ⟨agentId, action, operatorId, decisionProof⟩, rfl, rfl⟩

end Runs

def emptyLedger : AuditLedger := ⟨[], 0, fun _ => ⟨true, true, true, 0, Str.lit "signature"⟩, 0⟩

/-- A submission whose event is delivered to a ledger. -/
def delivering : List (Calls.Event Nat Call Choice) :=
  .start 0 (sampleSubmission true) :: List.replicate 6 (.serve 0 sampleChoice)

theorem delivering_sampleRun : (sampleRun ledgerSink emptyLedger delivering).any
    (fun world => (world.shared.db.approvals.get? (sampleUuid 0)).any fun item =>
      item.status = .settled .pending) = true := by
  decide +kernel

theorem sinks_delivering (ticket : Nat) (call : Call)
    (started : Calls.Event.start ticket call ∈ delivering) : call.config.hasSink = true := by
  simp only [delivering, List.replicate, List.mem_cons, Calls.Event.start.injEq, reduceCtorEq,
    List.not_mem_nil, or_false] at started
  rw [started.2]
  rfl

theorem settled_with_evidence_delivering : ∃ j ticket event receiptJson,
    Did (serve sampleUuid ledgerSink) program (Shared.new emptyLedger) delivering ticket j
      (.finish event receiptJson) (.ok ()) ∧
      event.approvalId = sampleUuid 0 ∧ event.transition = .pending := by
  obtain ⟨world, run, holds⟩ := run_of_sampleRun delivering_sampleRun
  obtain ⟨item, found, isSettled⟩ := (Option.any_eq_true ..).mp holds
  obtain ⟨j, k, ticket, event, receipt, receiptJson, -, -, finished, -, -, isApproval,
    isTransition, -⟩ :=
    settled_with_evidence run sinks_delivering found (of_decide_eq_true isSettled)
  exact ⟨j, ticket, event, receiptJson, finished, isApproval, isTransition⟩

end SelfConnect.Operator
