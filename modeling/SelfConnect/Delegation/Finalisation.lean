import SelfConnect.Delegation.Runs

namespace SelfConnect.Delegation

open SelfConnect.Python SelfConnect.Library

/-! Which delegated calls finalise the action they have claimed. -/

section Run

variable {Ticket : Type} [DecidableEq Ticket]
  {events : List (Calls.Event Ticket DelegationCall Bool)} {world : DelegationWorld Ticket}
  (run : (delegations Ticket).Run events world)
  (restrained : ∀ ticket call, .start ticket call ∈ events → call.Restrained)
  {ticket : Ticket} {call : DelegationCall} {dispatcher : Dispatcher}
  {surroundings : Surroundings} {request : DelegatedRequest} {tuple : ActionTuple}
  {outcome : Except Str (Option Members)}
  (delegated : call.delegated? = some (dispatcher, surroundings, request))
  (claimed : (ticket, .claimed tuple) ∈ world.shared.happened)
  (isOver : world.progress ticket = some ⟨call, some (.done outcome)⟩)

include run restrained delegated claimed isOver

/-- A delegated call that has claimed an action and is over. -/
theorem ended_of_over : ∃ authentic, dispatcher.authenticate surroundings request = .ok authentic ∧
    Ended ticket tuple authentic.identity authentic.authorization
      (dispatcher.reaches surroundings authentic.authorization.proof.action authentic.arguments
        authentic.authorization)
      (WellBehaved dispatcher surroundings authentic.authorization.proof.action
        authentic.authorization) world.shared := by
  have upheld := upheld_of_restrained run restrained
  have isClaimed : .claimed tuple ∈ world.shared.own ticket := ReplayDb.mem_own.mpr claimed
  have done : Done ticket call outcome world.shared :=
    upheld.safe ticket call _ isOver _ upheld.holds ⟨rfl, fun _ _ => rfl⟩
  rcases done dispatcher surroundings request delegated with idle | concluded
  · exact absurd isClaimed (idle.unclaimed tuple)
  obtain ⟨authentic, tuple', isAuthentic, ended⟩ := concluded
  have same : tuple = tuple' := by
    rcases ended with ⟨_, _, _, stage, -⟩ | ⟨_, _, settled, -⟩
    · exact stage.only tuple isClaimed
    · exact settled.only tuple isClaimed
  rw [same]
  exact ⟨authentic, isAuthentic, ended⟩

variable {authentic : AuthenticCall}
  (isAuthentic : dispatcher.authenticate surroundings request = .ok authentic)
  (answered : (ticket, .unanswered) ∉ world.shared.happened)

include isAuthentic answered

/-- Short of a statement that raises, the action is still admitted if it has not been
reached, and completed if it has. -/
theorem left_of_over :
    (∃ row, world.shared.rows.get? tuple.actionId = some row ∧ row.outcome = .admitted ∧
      (WellBehaved dispatcher surroundings authentic.authorization.proof.action
        authentic.authorization → dispatcher.reaches surroundings
          authentic.authorization.proof.action authentic.arguments
          authentic.authorization = false)) ∨
    (∃ row, world.shared.rows.get? tuple.actionId = some row ∧
      Completed authentic.identity authentic.authorization row) ∧
      dispatcher.reaches surroundings authentic.authorization.proof.action authentic.arguments
        authentic.authorization = true := by
  obtain ⟨authentic', isAuthentic', ended⟩ :=
    ended_of_over run restrained delegated claimed isOver
  cases isAuthentic.symm.trans isAuthentic'
  have untroubled : ∀ {troubled : Bool},
      (troubled = true ↔ .unanswered ∈ world.shared.own ticket) → troubled = false := by
    intro troubled isTroubled
    apply Bool.eq_false_iff.mpr
    intro raised
    exact answered (ReplayDb.mem_own.mp (isTroubled.mp raised))
  rcases ended with ⟨begun, entered, troubled, stage, unreached⟩ |
    ⟨row, troubled, settled, completed, reached⟩
  · obtain ⟨row, found, -, isAdmitted, -⟩ := stage.row
    exact .inl ⟨row, found, isAdmitted,
      fun wellBehaved => unreached wellBehaved (untroubled stage.troubled)⟩
  · exact .inr ⟨⟨row, settled.found, completed⟩, reached (untroubled settled.troubled)⟩

omit [DecidableEq Ticket] run restrained delegated claimed isOver isAuthentic answered in
theorem not_completed_of_admitted {row : ReplayRow} {actionId : Str}
    (found : world.shared.rows.get? actionId = some row) (isAdmitted : row.outcome = .admitted)
    (identity : AgentIdentity) (authorization : VerifiedDelegatedCall) :
    ¬ ∃ row, world.shared.rows.get? actionId = some row ∧
      Completed identity authorization row := by
  intro completes
  obtain ⟨row', found', completed⟩ := completes
  rw [found] at found'
  cases found'
  rcases completed.outcome with isOutcome | isOutcome
  · rw [isAdmitted] at isOutcome
    cases isOutcome
  · rw [isAdmitted] at isOutcome
    cases isOutcome

/-- The action that a delegated call has claimed is completed just when the call comes to
begin it. -/
theorem completed_iff_reaches
    (wellBehaved : WellBehaved dispatcher surroundings authentic.authorization.proof.action
      authentic.authorization) :
    (∃ row, world.shared.rows.get? tuple.actionId = some row ∧
      Completed authentic.identity authentic.authorization row) ↔
    dispatcher.reaches surroundings authentic.authorization.proof.action authentic.arguments
      authentic.authorization = true := by
  rcases left_of_over run restrained delegated claimed isOver isAuthentic answered with
    ⟨row, found, isAdmitted, unreached⟩ | ⟨completes, reached⟩
  · rw [unreached wellBehaved]
    exact iff_of_false (not_completed_of_admitted found isAdmitted _ _) Bool.false_ne_true
  · exact iff_of_true completes reached

end Run

/-! The sample call is refused by the verification at the actuator, and never finalised. -/

private theorem demand_error {α : Type} {condition : Prop} [Decidable condition] {text : String}
    {f : Unit → Except Str α} (rest : ∃ raised, f () = .error (Str.lit raised)) :
    ∃ raised, (demand condition text >>= f) = .error (Str.lit raised) := by
  unfold demand
  split
  · exact rest
  · exact ⟨text, rfl⟩

theorem refused_sample (name : Str) (authorization : VerifiedDelegatedCall) (count : Nat)
    (args : Members) : ∃ text, sampleDispatcher.checkAt sampleSurroundings name authorization
      count args = .error (Str.lit text) := by
  unfold Dispatcher.checkAt Dispatcher.checkDelegatedCall
  have hasBoundary : sampleDispatcher.hasBoundary = true := rfl
  rw [hasBoundary]
  dsimp only
  apply demand_error
  split
  · exact ⟨_, rfl⟩
  · apply demand_error
    exact ⟨_, rfl⟩

theorem wellBehaved_sample (name : Str) (authorization : VerifiedDelegatedCall) :
    WellBehaved sampleDispatcher sampleSurroundings name authorization := by
  refine ⟨fun _ => rfl, rfl, ⟨_, rfl, ?_⟩, rfl, ?_, ?_, ?_, ?_⟩
  · decide
  · intro identity isIdentity
    cases isIdentity
    rfl
  · exact fun _ _ => rfl
  · intro count args raised isRaised
    obtain ⟨text, isRefused⟩ := refused_sample name authorization count args
    cases isRefused.symm.trans isRaised
    exact Json.encodable_lit text
  · intro control args absurdly
    cases absurdly

theorem unreached_sample (name : Str) (args : Members) (authorization : VerifiedDelegatedCall) :
    sampleDispatcher.reaches sampleSurroundings name args authorization = false := by
  unfold Dispatcher.reaches
  dsimp only
  rw [Bool.and_eq_false_iff]
  right
  split
  · rfl
  · next validated _ =>
      obtain ⟨text, isRefused⟩ := refused_sample name authorization 0 validated
      change (sampleDispatcher.checkAt sampleSurroundings name authorization 0 validated).isOk = _
      rw [isRefused]
      rfl

/-- The sample call claims its action, and is over without a failure of the store. -/
theorem over_sample : ∃ world, (delegations Nat).Run sampleEvents world ∧
    ∃ tuple outcome, (0, .claimed tuple) ∈ world.shared.happened ∧
      world.progress 0 = some ⟨sampleCall, some (.done outcome)⟩ ∧
      (0, .unanswered) ∉ world.shared.happened := by
  obtain ⟨world, run, isOver⟩ := sample_run
  refine ⟨world, run, ?_⟩
  unfold claimedAndOver at isOver
  rw [Bool.and_eq_true_iff, Bool.and_eq_true_iff] at isOver
  obtain ⟨⟨hasClaimed, areAnswered⟩, hasEnded⟩ := isOver
  have claimed : ∃ tuple, (0, .claimed tuple) ∈ world.shared.happened := by
    obtain ⟨⟨ticket, happening⟩, member, isClaim⟩ := List.any_eq_true.mp hasClaimed
    split at isClaim
    · next isEvent => exact ⟨_, isEvent ▸ member⟩
    · cases isClaim
  have ended : ∃ outcome, world.progress 0 = some ⟨sampleCall, some (.done outcome)⟩ := by
    split at hasEnded
    · next call outcome isKnown =>
        have started := Calls.start_of_progress run isKnown
        simp only [sampleEvents, List.mem_cons, List.not_mem_nil, or_false] at started
        rcases started with same | absurdly | absurdly | absurdly
        · cases same
          exact ⟨outcome, isKnown⟩
        · cases absurdly
        · cases absurdly
        · cases absurdly
    · cases hasEnded
  obtain ⟨tuple, claimed⟩ := claimed
  obtain ⟨outcome, isOver⟩ := ended
  refine ⟨tuple, outcome, claimed, isOver, ?_⟩
  intro unanswered
  cases List.all_eq_true.mp areAnswered _ unanswered

theorem completed_iff_reaches_sample : ∃ world tuple, ∃ authentic : AuthenticCall,
    (delegations Nat).Run sampleEvents world ∧ (0, .claimed tuple) ∈ world.shared.happened ∧
    ((∃ row, world.shared.rows.get? tuple.actionId = some row ∧
      Completed authentic.identity authentic.authorization row) ↔
    sampleDispatcher.reaches sampleSurroundings authentic.authorization.proof.action
      authentic.arguments authentic.authorization = true) := by
  obtain ⟨world, run, tuple, outcome, claimed, isOver, answered⟩ := over_sample
  obtain ⟨authentic, isAuthentic, -⟩ :=
    ended_of_over run restrained_sample rfl claimed isOver
  exact ⟨world, tuple, authentic, run, claimed, completed_iff_reaches run restrained_sample rfl
    claimed isOver isAuthentic answered (wellBehaved_sample _ _)⟩

/-- The call is over, the store and the ledger have stayed writable, and yet the action is
left admitted, with neither a receipt nor a result. -/
theorem unfinalised_sample : ∃ world tuple outcome, ∃ authentic : AuthenticCall,
    (delegations Nat).Run sampleEvents world ∧
    sampleCall.delegated? = some (sampleDispatcher, sampleSurroundings, sampleRequest) ∧
    (0, .claimed tuple) ∈ world.shared.happened ∧
    world.progress 0 = some ⟨sampleCall, some (.done outcome)⟩ ∧
    sampleDispatcher.authenticate sampleSurroundings sampleRequest = .ok authentic ∧
    (0, .unanswered) ∉ world.shared.happened ∧
    WellBehaved sampleDispatcher sampleSurroundings authentic.authorization.proof.action
      authentic.authorization ∧
    ¬ ∃ row, world.shared.rows.get? tuple.actionId = some row ∧
      Completed authentic.identity authentic.authorization row := by
  obtain ⟨world, run, tuple, outcome, claimed, isOver, answered⟩ := over_sample
  obtain ⟨authentic, isAuthentic, -⟩ :=
    ended_of_over run restrained_sample rfl claimed isOver
  refine ⟨world, tuple, outcome, authentic, run, rfl, claimed, isOver, isAuthentic, answered,
    wellBehaved_sample _ _, ?_⟩
  rcases left_of_over run restrained_sample rfl claimed isOver isAuthentic answered with
    ⟨row, found, isAdmitted, -⟩ | ⟨-, reached⟩
  · exact not_completed_of_admitted found isAdmitted _ _
  · rw [unreached_sample] at reached
    cases reached

end SelfConnect.Delegation
