import SelfConnect.Operator.Outbox

namespace SelfConnect.Operator

open SelfConnect.Python SelfConnect.Library
open SelfConnect.Library.Calls (Did World Changed)

/-! What a purge may remove. -/

/-- All that there is to say of the approval is before the cutoff. -/
structure Ended (db : Database) (cutoff : Number) (item : PendingApproval) : Prop where
  status : ∃ transition, transition.isTerminal = true ∧ item.status = .settled transition
  terminal : ∃ terminalAt, item.terminalAt = some terminalAt ∧ isBefore terminalAt cutoff = true
  delivered : ∀ eventId row, db.outbox.get? eventId = some row →
    row.event.approvalId = item.approvalId → ∃ receiptJson deliveredAt,
      row.delivered = some (receiptJson, deliveredAt) ∧ isBefore deliveredAt cutoff = true

theorem ended_of_purges {db : Database} {cutoff : Number} {item : PendingApproval}
    (purges : db.purges cutoff item = true) : Ended db cutoff item := by
  have settled := settled_of_purges purges
  simp only [Database.purges, Bool.and_eq_true, Option.any_eq_true, List.all_eq_true,
    Bool.or_eq_true, ne_eq, decide_not, Bool.not_eq_true',
    decide_eq_false_iff_not] at purges
  obtain ⟨⟨-, terminalAt, isTerminal, early⟩, delivered⟩ := purges
  refine ⟨settled, ⟨terminalAt, isTerminal, early⟩, fun eventId row found own => ?_⟩
  rcases delivered _ (Dict.get?_eq_some_iff.mp found) with other | ⟨delivery, isDelivery, before⟩
  · exact absurd own other
  · exact ⟨delivery.1, delivery.2, isDelivery, before⟩

section Runs

variable {Λ Ticket : Type} [DecidableEq Ticket] {uuid : Nat → Str} {sink : Sink Λ} {ledger : Λ}
  {events : List (Calls.Event Ticket Call Choice)}
  {world other : World Ticket Call (Shared Λ) (Except Failure Result) Response} {k l : Nat}

/-- An approval is there until a purge finds that it has ended, with all its evidence delivered,
before the cutoff. -/
theorem purged_after_end (le : k ≤ l)
    (early : (queues uuid sink (Shared.new ledger)).Run (events.take k) world)
    (late : (queues uuid sink (Shared.new ledger)).Run (events.take l) other) {approvalId : Str}
    {item : PendingApproval} (found : world.shared.db.approvals.get? approvalId = some item)
    (absent : other.shared.db.approvals.get? approvalId = none) :
    ∃ j ticket config current count before row, k ≤ j ∧ j < l ∧
      Did (serve uuid sink) program (Shared.new ledger) events ticket j (.purge config current)
        (.ok count) ∧
      (queues uuid sink (Shared.new ledger)).Run (events.take j) before ∧
      before.shared.db.approvals.get? approvalId = some row ∧
      Ended before.shared.db (earlier current config.maxAge) row := by
  obtain ⟨j, ticket, request, before, after, begun, ended, changed⟩ :=
    Calls.changed_between (fun s => ∃ row, s.db.approvals.get? approvalId = some row) le early late
      ⟨item, found⟩ (by rw [absent]; simp)
  obtain ⟨⟨world', _, _, early', isBefore, known⟩, -, ⟨row, isRow⟩, fails, choice, isServed, did⟩ := changed
  have sound := sound_of_run (sound_new uuid ledger) early'
  rw [isBefore] at sound
  have gone : after.db.approvals.get? approvalId = none := by
    cases isAfter : after.db.approvals.get? approvalId with
    | none => rfl
    | some row => exact absurd ⟨row, isAfter⟩ fails
  have step : Served (.only (fun _ => True) request) uuid before after :=
    served_owned sound.named isServed (owned_of_run early' known).1 trivial
  have isChange := step.change
  have fate := isChange.fate sound.named approvalId
  rw [isRow, gone] at fate
  cases fate with
  | @purged _ config current isPurge purges =>
      cases isPurge
      have differs : after.db ≠ before.db := by
        intro same
        rw [same, isRow] at gone
        cases gone
      have served : before.commit choice.works 0 (.ok (purgeTx config current before.db)) =
          ((serve uuid sink choice ticket before (.purge config current)).1, after) := isServed
      obtain ⟨count, isOk⟩ := ok_of_commit served differs
      rw [isOk] at did
      exact ⟨j, ticket, config, current, count, world', row, begun, ended, did, early', isBefore ▸ isRow,
        isBefore ▸ ended_of_purges purges⟩

end Runs

/-- An approval without a sink: submitted, denied and purged. -/
def forgetting : List (Calls.Event Nat Call Choice) := [
  .start 0 (sampleSubmission false), .serve 0 sampleChoice, .serve 0 sampleChoice,
  .start 1 ⟨sampleConfig false, .deny (sampleUuid 0) (Str.lit "operator") none⟩,
  .serve 1 sampleChoice,
  .start 2 ⟨sampleConfig false, .purgeExpired⟩, .serve 2 sampleChoice, .serve 2 sampleChoice]

theorem submitted_sampleRun : (sampleRun brokenSink () (forgetting.take 3)).any
    (fun world => (world.shared.db.approvals.get? (sampleUuid 0)).isSome) = true := by
  decide +kernel

theorem forgotten_sampleRun : (sampleRun brokenSink () (forgetting.take 8)).any
    (fun world => (world.shared.db.approvals.get? (sampleUuid 0)).isNone) = true := by
  decide +kernel

theorem purged_after_end_forgetting : ∃ j ticket config current count,
    j < 8 ∧ Did (serve sampleUuid brokenSink) program (Shared.new ()) forgetting ticket j
      (.purge config current) (.ok count) := by
  obtain ⟨world, early, isThere⟩ := run_of_sampleRun submitted_sampleRun
  obtain ⟨other, late, isGone⟩ := run_of_sampleRun forgotten_sampleRun
  obtain ⟨item, found⟩ := Option.isSome_iff_exists.mp isThere
  obtain ⟨j, ticket, config, current, count, -, -, -, inside, did, -⟩ :=
    purged_after_end (by decide) early late found (Option.isNone_iff_eq_none.mp isGone)
  exact ⟨j, ticket, config, current, count, inside, did⟩

end SelfConnect.Operator
