import SelfConnect.Operator.Outbox

namespace SelfConnect.Operator

open SelfConnect.Python SelfConnect.Library
open SelfConnect.Library.Calls (Path Did World)

/-! An approval is consumed at most once, and only as it was approved. -/

section Paths

variable {took : Nat → (request : Request) → Response request → Prop} {first last : Nat}

theorem asked_of_path {request : Request} {answer : request.Answer}
    (path : Path took first (ask request).run last (.done (.ok answer))) :
    ∃ k, first ≤ k ∧ last = k + 1 ∧ took k request (.ok answer) := by
  obtain ⟨k, response, begun, answered, rest⟩ := Path.of_ask path
  have ended := rest.last_of_done
  cases rest.of_done
  exact ⟨k, begun, ended, answered⟩

theorem raised_of_path {α : Type} {outcome : Except Failure α} {a : α}
    (path : Path took first (raising outcome).run last (.done (.ok a))) :
    outcome = .ok a ∧ last = first := by
  have ended := path.last_of_done
  cases path.of_done
  exact ⟨rfl, ended⟩

inductive Returned (took : Nat → (request : Request) → Response request → Prop) (config : Config)
    (approvalId agentId action : Str) (required : Members) (item : PendingApproval) : Nat → Prop
  | consumed {k : Nat} :
      took k (.consume config approvalId agentId action required) (.ok (.consumed item)) →
      Returned took config approvalId agentId action required item k
  | staged {k middle j : Nat} {eventId : Str} :
      took k (.consume config approvalId agentId action required)
        (.ok (.stagedConsumption eventId)) →
      Path took (k + 1) (flushEvent config eventId).run middle (.done (.ok ())) →
      middle ≤ j → took j (.get approvalId) (.ok (some item)) →
      Returned took config approvalId agentId action required item k

theorem returned_of_path {config : Config} {approvalId agentId action : Str} {required : Members}
    {item : PendingApproval}
    (path : Path took first (program ⟨config, .consumeApproved approvalId agentId action required⟩)
      last (.done (.ok (.consumed (some item))))) :
    ∃ k, Returned took config approvalId agentId action required item k := by
  obtain ⟨found, isFound, path⟩ := Path.of_mapExcept path
  cases isFound
  obtain ⟨answer, middle, front, back⟩ := Path.of_bindExcept path
  obtain ⟨k, -, isMiddle, answered⟩ := asked_of_path front
  refine ⟨k, ?_⟩
  cases answer with
  | refused => cases back.of_done
  | consumed consumed =>
      cases back.of_done
      exact .consumed answered
  | stagedConsumption eventId =>
      obtain ⟨⟨⟩, flushed, flush, get⟩ := Path.of_bindExcept back
      obtain ⟨j, begun, -, isItem⟩ := asked_of_path get
      rw [isMiddle] at flush
      exact .staged answered flush begun isItem
  | stagedExpiry eventId =>
      obtain ⟨⟨⟩, flushed, -, rest⟩ := Path.of_bindExcept back
      cases rest.of_done

end Paths

section Runs

variable {Λ Ticket : Type} {allowed : Allowed} {uuid : Nat → Str} {sink : Sink Λ}
  {s t : Shared Λ}

/-- The approval has ended as this row says, or is gone. -/
structure Spent (uuid : Nat → Str) (approvalId : Str) (old : PendingApproval) (s : Shared Λ) :
    Prop where
  drawn : Drawn uuid 0 s.issued approvalId
  ended : old.status.transition.isTerminal = true
  rows : ∀ item, s.db.approvals.get? approvalId = some item →
    (item.status = old.status ∨ item.status = .settled old.status.transition) ∧
      item.agentId = old.agentId ∧ item.action = old.action ∧ item.context = old.context

theorem Follows.status_of_terminal {allowed : Allowed} {item row : PendingApproval}
    (follows : Follows allowed item row) (terminal : item.status.transition.isTerminal = true) :
    row.status = item.status ∨ row.status = .settled item.status.transition := by
  cases follows with
  | same => exact .inl rfl
  | staged _ takes =>
      obtain ⟨first, isStatus, moves⟩ := takes.moves
      rw [isStatus, Status.transition, moves.not_terminal] at terminal
      cases terminal
  | updated _ _ updates =>
      obtain ⟨first, second, isStatus, -, moves⟩ := updates.moves
      rw [isStatus, Status.transition, moves.not_terminal] at terminal
      cases terminal
  | finished _ _ valid =>
      rw [status_of_validEventState valid]
      exact .inr rfl

theorem Spent.transition {approvalId : Str} {old item : PendingApproval}
    (spent : Spent uuid approvalId old s) (found : s.db.approvals.get? approvalId = some item) :
    item.status.transition = old.status.transition := by
  rcases (spent.rows item found).1 with same | settled
  · rw [same]
  · rw [settled, Status.transition]

theorem Spent.served (distinct : Function.Injective uuid) {approvalId : Str} {old : PendingApproval}
    (spent : Spent uuid approvalId old s) (sound : Sound uuid s) (isServed : Served allowed uuid s t) :
    Spent uuid approvalId old t := by
  refine ⟨spent.drawn.later isServed.issued, spent.ended, fun row isRow => ?_⟩
  have fate := isServed.change.fate sound.named approvalId
  rw [isRow] at fate
  generalize isItem : s.db.approvals.get? approvalId = found at fate
  cases fate with
  | @follows item _ follows =>
      obtain ⟨statuses, sameAgent, sameAction, sameContext⟩ := spent.rows _ isItem
      have isEnd := spent.transition isItem
      refine ⟨?_, follows.agentId.trans sameAgent, follows.action.trans sameAction,
        follows.context.trans sameContext⟩
      rcases follows.status_of_terminal (isEnd ▸ spent.ended) with same | settled
      · rw [same]
        exact statuses
      · rw [settled, isEnd]
        exact .inr rfl
  | inserted isFresh => exact (spent.drawn.apart distinct isFresh).elim

theorem Spent.reaches (distinct : Function.Injective uuid) {approvalId : Str}
    {old : PendingApproval} (spent : Spent uuid approvalId old s)
    (reaches : Relation.ReflTransGen (fun s t => Sound uuid s ∧ Served allowed uuid s t) s t) :
    Spent uuid approvalId old t := by
  induction reaches with
  | refl => exact spent
  | tail _ next ih => exact ih.served distinct next.1 next.2

theorem consumes_of_serve {choice : Choice} {ticket : Ticket} {config : Config}
    {approvalId agentId action : Str} {required : Members} {answer : Consumed}
    (isServed : serve uuid sink choice ticket s
      (.consume config approvalId agentId action required) = (.ok answer, t)) :
    Consumes config approvalId agentId action required (uuid s.issued) s.db answer t.db := by
  have committed : s.commit choice.works 1 (consumeTx config approvalId agentId action required
      (uuid s.issued) choice.reading s.db) = (.ok answer, t) := isServed
  exact consumes_of_consumeTx (commit_ok committed).1

/-- The row from which an approval was consumed, and the row that it became. -/
structure Consumption (config : Config) (approvalId agentId action : Str) (required : Members)
    (s t : Shared Λ) (item row : PendingApproval) : Prop where
  found : s.db.approvals.get? approvalId = some item
  approved : item.status = .settled .approved
  agentId : item.agentId = agentId
  action : item.action = action
  context : contextMatches (entriesOf item.context) required = true
  isRow : t.db.approvals.get? approvalId = some row
  consumed : row.status.transition = .consumed
  waits : config.hasSink = false → row.status = .settled .consumed
  follows : Follows Allowed.any item row

def Consumed.names (answer : Consumed) (row : PendingApproval) : Prop :=
  match answer with
  | .consumed item => row = item ∧ row.status = .settled .consumed
  | .stagedConsumption eventId => row.status = .auditPending .consumed eventId
  | _ => False

theorem consumption_of_consumes {config : Config} {approvalId agentId action eventId : Str}
    {required : Members} {answer : Consumed} (named : s.db.Named)
    (consumes : Consumes config approvalId agentId action required eventId s.db answer t.db)
    (isConsumption : (∃ item, answer = .consumed item) ∨
      ∃ eventId, answer = .stagedConsumption eventId) :
    ∃ item row, answer.names row ∧
      Consumption config approvalId agentId action required s t item row := by
  generalize isDb : t.db = changed at consumes
  cases consumes with
  | refused => rcases isConsumption with ⟨_, same⟩ | ⟨_, same⟩ <;> cases same
  | @consumed item current noSink found approved sameAgent sameAction sameContext timely =>
      refine ⟨item, _, ⟨rfl, rfl⟩, found, approved, sameAgent, sameAction, sameContext, ?_, rfl,
        fun _ => rfl, .updated trivial noSink (.consumed approved timely)⟩
      rw [isDb]
      exact Dict.get?_set_self
  | @stagedConsumption item current _ hasSink found approved sameAgent sameAction sameContext timely
      isStaged =>
      obtain ⟨-, -, -, contextDigest, -, isChanged⟩ := stageExisting_ok isStaged
      refine ⟨item, staged config item eventId .consumed item.operatorId current
        (Option.or none item.decisionProof), rfl, found, approved, sameAgent, sameAction, sameContext,
        ?_, rfl, fun noSink => ?_, .staged trivial (.consumes approved timely)⟩
      · rw [isDb, isChanged, named _ _ found]
        exact Dict.get?_set_self
      · rw [hasSink] at noSink
        cases noSink
  | expired => rcases isConsumption with ⟨_, same⟩ | ⟨_, same⟩ <;> cases same
  | stagedExpiry => rcases isConsumption with ⟨_, same⟩ | ⟨_, same⟩ <;> cases same

variable [DecidableEq Ticket] {start : Shared Λ} {events : List (Calls.Event Ticket Call Choice)}
  {world : World Ticket Call (Shared Λ) (Except Failure Result) Response} {ticket : Ticket}

structure Moment (uuid : Nat → Str) (sink : Sink Λ) (start : Shared Λ)
    (events : List (Calls.Event Ticket Call Choice)) (ticket : Ticket) (config : Config)
    (approvalId agentId action : Str) (required : Members) (k : Nat)
    (before after : World Ticket Call (Shared Λ) (Except Failure Result) Response)
    (item row : PendingApproval) : Prop where
  serves : ∃ choice, events[k]? = some (.serve ticket choice)
  early : (queues uuid sink start).Run (events.take k) before
  late : (queues uuid sink start).Run (events.take (k + 1)) after
  consumption : Consumption config approvalId agentId action required before.shared after.shared item
    row

theorem moment_of_did (sound : Sound uuid start) {config : Config}
    {approvalId agentId action : Str} {required : Members} {k : Nat} {answer : Consumed}
    (did : Did (serve uuid sink) program start events ticket k
      (.consume config approvalId agentId action required) (.ok answer))
    (isConsumption : (∃ item, answer = .consumed item) ∨
      ∃ eventId, answer = .stagedConsumption eventId) :
    ∃ before after item row, answer.names row ∧ Moment uuid sink start events ticket config approvalId
      agentId action required k before after item row := by
  obtain ⟨choice, before, after, here, early, late, isServed⟩ := did
  obtain ⟨item, row, names, consumption⟩ := consumption_of_consumes (sound_of_run sound early).named
    (consumes_of_serve isServed) isConsumption
  exact ⟨before, after, item, row, names, ⟨choice, here⟩, early, late, consumption⟩

theorem Returned.moment (sound : Sound uuid start) {config : Config}
    {approvalId agentId action : Str} {required : Members} {item : PendingApproval} {k : Nat}
    (returned : Returned (Did (serve uuid sink) program start events ticket) config approvalId agentId
      action required item k) :
    ∃ before after old row, Moment uuid sink start events ticket config approvalId agentId action
      required k before after old row := by
  cases returned with
  | consumed did =>
      obtain ⟨before, after, old, row, -, moment⟩ := moment_of_did sound did (.inl ⟨_, rfl⟩)
      exact ⟨before, after, old, row, moment⟩
  | staged did =>
      obtain ⟨before, after, old, row, -, moment⟩ := moment_of_did sound did (.inr ⟨_, rfl⟩)
      exact ⟨before, after, old, row, moment⟩

theorem Moment.spent (sound : Sound uuid start) {config : Config}
    {approvalId agentId action : Str} {required : Members} {k : Nat} {item row : PendingApproval}
    {before after : World Ticket Call (Shared Λ) (Except Failure Result) Response}
    (moment : Moment uuid sink start events ticket config approvalId agentId action required k before
      after item row) : Spent uuid approvalId row after.shared := by
  have consumption := moment.consumption
  refine ⟨(sound_of_run sound moment.late).drawn _ _ consumption.isRow, ?_, fun other isOther => ?_⟩
  · rw [consumption.consumed]
    rfl
  · rw [consumption.isRow] at isOther
    cases isOther
    exact ⟨.inl rfl, rfl, rfl, rfl⟩

/-- No consumption of an approval comes after another. -/
theorem Moment.not_before (distinct : Function.Injective uuid) (sound : Sound uuid start)
    {config config' : Config} {other : Ticket}
    {approvalId agentId agentId' action action' : Str} {required required' : Members} {k l : Nat}
    {item row item' row' : PendingApproval}
    {before after before' after' : World Ticket Call (Shared Λ) (Except Failure Result) Response}
    (first : Moment uuid sink start events ticket config approvalId agentId action required k before
      after item row)
    (second : Moment uuid sink start events other config' approvalId agentId' action' required' l
      before' after' item' row') : ¬k < l := by
  intro earlier
  have reaches := reaches_between permits_any sound earlier first.late second.early
  have spent := (first.spent sound).reaches distinct reaches
  have ended := spent.transition second.consumption.found
  rw [second.consumption.approved, first.consumption.consumed] at ended
  cases ended

/-- At most one call ever gets an approval. -/
theorem consumed_once (distinct : Function.Injective uuid) {ledger : Λ}
    (run : (queues uuid sink (Shared.new ledger)).Run events world) {first second : Ticket} {approvalId : Str}
    {config config' : Config} {agentId agentId' action action' : Str} {required required' : Members}
    {item item' : PendingApproval}
    (isFirst : world.progress first =
      some ⟨⟨config, .consumeApproved approvalId agentId action required⟩,
        some (.done (.ok (.consumed (some item))))⟩)
    (isSecond : world.progress second =
      some ⟨⟨config', .consumeApproved approvalId agentId' action' required'⟩,
        some (.done (.ok (.consumed (some item'))))⟩) : first = second := by
  have sound := sound_new uuid ledger
  obtain ⟨_, _, -, -, path⟩ := Calls.steps_of_run run isFirst
  obtain ⟨_, _, -, -, path'⟩ := Calls.steps_of_run run isSecond
  obtain ⟨k, returned⟩ := returned_of_path path
  obtain ⟨l, returned'⟩ := returned_of_path path'
  obtain ⟨before, after, old, row, moment⟩ := returned.moment sound
  obtain ⟨before', after', old', row', moment'⟩ := returned'.moment sound
  have same : k = l := Nat.le_antisymm
    (Nat.le_of_not_lt (moment'.not_before distinct sound moment))
    (Nat.le_of_not_lt (moment.not_before distinct sound moment'))
  obtain ⟨choice, here⟩ := moment.serves
  obtain ⟨choice', here'⟩ := moment'.serves
  rw [same, here'] at here
  cases here
  rfl

end Runs

/-- An approval without a sink: submitted, granted and consumed. -/
def consuming : List (Calls.Event Nat Call Choice) := [
  .start 0 (sampleSubmission false), .serve 0 sampleChoice, .serve 0 sampleChoice,
  .start 1 ⟨sampleConfig false, .approve (sampleUuid 0) (Str.lit "operator") none⟩,
  .serve 1 sampleChoice,
  .start 2 ⟨sampleConfig false,
    .consumeApproved (sampleUuid 0) (Str.lit "agent") (Str.lit "action") []⟩,
  .serve 2 sampleChoice]

/-- The call has returned an approval that it has consumed. -/
def hasConsumed (ticket : Nat)
    (world : World Nat Call (Shared Unit) (Except Failure Result) Response) : Bool :=
  match world.progress ticket with
  | some ⟨⟨_, .consumeApproved ..⟩, some (.done (.ok (.consumed (some _))))⟩ => true
  | _ => false

theorem consumed_of_hasConsumed {ticket : Nat}
    {world : World Nat Call (Shared Unit) (Except Failure Result) Response}
    (holds : hasConsumed ticket world = true) : ∃ config approvalId agentId action required item,
      world.progress ticket = some ⟨⟨config, .consumeApproved approvalId agentId action required⟩,
        some (.done (.ok (.consumed (some item))))⟩ := by
  unfold hasConsumed at holds
  split at holds
  · next known => exact ⟨_, _, _, _, _, _, known⟩
  · cases holds

theorem consuming_sampleRun :
    (sampleRun brokenSink () consuming).any (hasConsumed 2) = true := by
  decide +kernel

theorem consumed_once_consuming : ∃ world config approvalId agentId action required item,
    (queues sampleUuid brokenSink (Shared.new ())).Run consuming world ∧
      world.progress 2 = some ⟨⟨config, .consumeApproved approvalId agentId action required⟩,
        some (.done (.ok (.consumed (some item))))⟩ ∧ (2 : Nat) = 2 := by
  obtain ⟨world, run, holds⟩ := run_of_sampleRun consuming_sampleRun
  obtain ⟨config, approvalId, agentId, action, required, item, isEnd⟩ :=
    consumed_of_hasConsumed holds
  exact ⟨world, config, approvalId, agentId, action, required, item, run, isEnd,
    consumed_once sampleUuid_injective run isEnd isEnd⟩

end SelfConnect.Operator
