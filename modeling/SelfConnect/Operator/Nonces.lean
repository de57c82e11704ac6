import SelfConnect.Operator.Retention

namespace SelfConnect.Operator

open SelfConnect.Python SelfConnect.Library
open SelfConnect.Library.Calls (Did World Changed)

/-! A decision nonce is used once while it is retained. -/

/-- An approval that waits for its decision has no proof. -/
def Unproven (item : PendingApproval) : Prop :=
  item.status.transition = .pending → item.decisionProof = none

theorem Unproven.follows {allowed : Allowed} {item row : PendingApproval} (unproven : Unproven item)
    (follows : Follows allowed item row) : Unproven row := by
  intro isPending
  cases follows with
  | same => exact unproven isPending
  | staged _ takes =>
      obtain ⟨first, -, moves⟩ := takes.moves
      exact absurd isPending moves.ne_pending
  | updated _ _ updates =>
      obtain ⟨first, second, -, isRow, moves⟩ := updates.moves
      rw [isRow] at isPending
      exact absurd isPending moves.ne_pending
  | finished _ _ valid =>
      apply unproven
      rw [status_of_validEventState valid]
      exact isPending

theorem Change.tombstone {allowed : Allowed} {fresh : Str → Prop} {db changed : Database}
    (change : Change allowed fresh db changed) {nonce : Str} {tombstone : Tombstone}
    (found : db.tombstones.get? nonce = some tombstone) :
    changed.tombstones.get? nonce = some tombstone ∨ ∃ config current,
      allowed.purge config current ∧ (number current).lt tombstone.retainUntil = false := by
  cases change with
  | @staged config item _ _ _ _ transitionTs proof _ _ _ _ _ unused =>
      refine .inl ?_
      change (retained config item transitionTs proof db.tombstones).get? nonce = some tombstone
      cases proof with
      | none => exact found
      | some envelope =>
          rw [retained, Dict.get?_set_of_ne]
          · exact found
          · intro same
            rw [same, unused envelope rfl] at found
            cases found
  | @purged config current isPurge =>
      cases keeps : (number current).lt tombstone.retainUntil with
      | false => exact .inr ⟨config, current, isPurge, keeps⟩
      | true =>
          refine .inl ?_
          change (db.tombstones.filter _).get? nonce = some tombstone
          rw [Dict.get?_filter, found, Option.filter_some, if_pos keeps]
  | _ => exact .inl found

section Runs

variable {Λ Ticket : Type} [DecidableEq Ticket] {uuid : Nat → Str} {sink : Sink Λ} {ledger : Λ}
  {events : List (Calls.Event Ticket Call Choice)}

variable (uuid sink ledger events) in
/-- At this moment a decision was taken on the word of the envelope. -/
structure Decided.At (k : Nat) (config : Config) (approvalId : Str)
    (envelope : DecisionProofEnvelope) (decidedAt : FiniteFloat) : Prop where
  did : (∃ ticket operatorId verdict proof eventId,
      Did (serve uuid sink) program (Shared.new ledger) events ticket k
        (.decide config approvalId operatorId verdict proof) (.ok (.staged eventId))) ∨
    ∃ ticket operatorId eventId, Did (serve uuid sink) program (Shared.new ledger) events ticket k
      (.denyForSystemSafety config approvalId operatorId) (.ok (.staged eventId))
  row : ∃ world row, (queues uuid sink (Shared.new ledger)).Run (events.take (k + 1)) world ∧
    world.shared.db.approvals.get? approvalId = some row ∧
    row.decisionProof = some envelope ∧ row.decidedAt = some decidedAt

theorem tombstone_of_stages {config : Config} {approvalId operatorId eventId : Str}
    {verdict : Verdict} {db changed : Database} (named : db.Named)
    (unproven : ∀ approvalId item, db.approvals.get? approvalId = some item → Unproven item)
    (stages : Stages config approvalId operatorId verdict eventId db changed)
    {row : PendingApproval} {envelope : DecisionProofEnvelope} {decidedAt : FiniteFloat}
    (isRow : changed.approvals.get? approvalId = some row)
    (isProof : row.decisionProof = some envelope) (isDecided : row.decidedAt = some decidedAt) :
    db.tombstones.get? envelope.nonce = none ∧
      changed.tombstones.get? envelope.nonce =
        some ⟨approvalId, decidedAt, later decidedAt (.finite config.nonceRetention)⟩ := by
  obtain ⟨item, transitionTs, proof, found, waits, isStaged⟩ := stages
  obtain ⟨unused, -, -, contextDigest, -, isChanged⟩ := stageExisting_ok isStaged
  have own := named _ _ found
  have isNone : item.decisionProof = none := unproven _ _ found (by rw [waits]; rfl)
  rw [isChanged, own] at isRow
  cases Dict.get?_set_self.symm.trans isRow
  change proof.or item.decisionProof = some envelope at isProof
  rw [isNone, Option.or_none] at isProof
  have isTime : transitionTs = decidedAt := by
    cases verdict <;> exact Option.some.inj isDecided
  refine ⟨unused envelope isProof, ?_⟩
  rw [isChanged, isProof, ← isTime, ← own]
  exact Dict.get?_set_self

theorem Decided.At.tombstone {k : Nat} {config : Config} {approvalId : Str}
    {envelope : DecisionProofEnvelope} {decidedAt : FiniteFloat}
    (decided : Decided.At uuid sink ledger events k config approvalId envelope decidedAt) :
    ∃ before after, (queues uuid sink (Shared.new ledger)).Run (events.take k) before ∧
      (queues uuid sink (Shared.new ledger)).Run (events.take (k + 1)) after ∧
      before.shared.db.tombstones.get? envelope.nonce = none ∧
      after.shared.db.tombstones.get? envelope.nonce =
        some ⟨approvalId, decidedAt, later decidedAt (.finite config.nonceRetention)⟩ := by
  obtain ⟨did, world, row, late, isRow, isProof, isDecided⟩ := decided
  have of_stages {before after : World Ticket Call (Shared Λ) (Except Failure Result) Response}
      {operatorId eventId : Str} {verdict : Verdict}
      (early : (queues uuid sink (Shared.new ledger)).Run (events.take k) before)
      (reached : (queues uuid sink (Shared.new ledger)).Run (events.take (k + 1)) after)
      (stages : Stages config approvalId operatorId verdict eventId before.shared.db
        after.shared.db) :
      before.shared.db.tombstones.get? envelope.nonce = none ∧
        after.shared.db.tombstones.get? envelope.nonce =
          some ⟨approvalId, decidedAt, later decidedAt (.finite config.nonceRetention)⟩ := by
    have unproven (approvalId : Str) (item : PendingApproval)
        (found : before.shared.db.approvals.get? approvalId = some item) : Unproven item :=
      rows_of_reaches (fun _ _ _ _ _ _ _ _ => rfl) (fun _ _ unproven => unproven.follows)
        (reaches_new permits_any early) (fun _ _ found => by cases found) found
    rw [Calls.run_unique late reached] at isRow
    exact tombstone_of_stages (sound_of_run (sound_new uuid ledger) early).named unproven stages isRow
      isProof isDecided
  rcases did with ⟨ticket, operatorId, verdict, proof, eventId, choice, before, after, -, early,
    reached, isServed⟩ | ⟨ticket, operatorId, eventId, choice, before, after, -, early, reached,
    isServed⟩
  · have committed : before.shared.commit choice.works 1 (decideTx config approvalId operatorId verdict
        proof (uuid before.shared.issued) choice.verification choice.checked choice.reading
        before.shared.db) = (.ok (.staged eventId), after.shared) := isServed
    exact ⟨before, after, early, reached,
      of_stages early reached (stages_of_decideTx (commit_ok committed).1).2⟩
  · have committed : before.shared.commit choice.works 2 (systemDenyTx config approvalId operatorId
        (uuid before.shared.issued) (uuid (before.shared.issued + 1)) choice.reading
        before.shared.db) = (.ok (.staged eventId), after.shared) := isServed
    exact ⟨before, after, early, reached,
      of_stages early reached (stages_of_systemDenyTx (commit_ok committed).1).2⟩

/-- A nonce is taken again only after a purge that has seen the end of its retention. -/
theorem nonce_of_run {k l : Nat} {config config' : Config} {approvalId approvalId' : Str}
    {envelope envelope' : DecisionProofEnvelope} {decidedAt decidedAt' : FiniteFloat}
    (first : Decided.At uuid sink ledger events k config approvalId envelope decidedAt)
    (second : Decided.At uuid sink ledger events l config' approvalId' envelope' decidedAt')
    (same : envelope.nonce = envelope'.nonce) (earlier : k < l) :
    ∃ j ticket config'' current count, k < j ∧ j < l ∧
      Did (serve uuid sink) program (Shared.new ledger) events ticket j (.purge config'' current)
        (.ok count) ∧
      (number current).lt (later decidedAt (.finite config.nonceRetention)) = false := by
  obtain ⟨_, after, -, early, -, isTombstone⟩ := first.tombstone
  obtain ⟨before', _, late, -, unused, -⟩ := second.tombstone
  rw [← same] at unused
  obtain ⟨j, ticket, request, before, next, begun, ended, changed⟩ :=
    Calls.changed_between (fun s => s.db.tombstones.get? envelope.nonce =
      some ⟨approvalId, decidedAt, later decidedAt (.finite config.nonceRetention)⟩) earlier early late
      isTombstone (by rw [unused]; exact (Option.some_ne_none _).symm)
  obtain ⟨⟨world, _, _, run, isBefore, known⟩, -, held, fails, choice, isServed, did⟩ := changed
  have sound := sound_of_run (sound_new uuid ledger) run
  rw [isBefore] at sound
  have step : Served (.only (fun _ => True) request) uuid before next :=
    served_owned sound.named isServed (owned_of_run run known).1 trivial
  have isChange := step.change
  rcases isChange.tombstone held with kept | ⟨config'', current,
    isPurge, expired⟩
  · exact absurd kept fails
  · cases isPurge
    have committed : before.commit choice.works 0 (.ok (purgeTx config'' current before.db)) =
        ((serve uuid sink choice ticket before (.purge config'' current)).1, next) := isServed
    have differs : next.db ≠ before.db := by
      intro unchanged
      rw [unchanged] at fails
      exact fails held
    obtain ⟨count, isOk⟩ := ok_of_commit committed differs
    rw [isOk] at did
    exact ⟨j, ticket, config'', current, count, begun, ended, did, expired⟩

end Runs

end SelfConnect.Operator
