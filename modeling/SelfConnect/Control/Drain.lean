import SelfConnect.Control.Replay

namespace SelfConnect.Control

open SelfConnect.Python SelfConnect.Library

/-! Whether a command that drains the queue can be given again until it has. -/

/-- The call that drains the approvals of the agents it moves. -/
def ControlCall.drains : ControlCall → Bool
  | .quarantine _ _ _ | .killAll _ _ => true
  | .register _ | .pause _ _ _ | .resume _ _ _ | .revoke _ _ _ => false

/-- A turn in which every ledger write and every denial works. -/
structure ControlTurn.Works (turn : ControlTurn) : Prop where
  appends : ∀ count, (turn.transitions count).log = .appends
  denies : ∀ count, turn.denials count = .works

def ControlPlane.approval? (plane : ControlPlane) (approvalId : Str) : Option Approval :=
  plane.queue.bind fun queue => queue.approvals.get? approvalId

/-- The same call, given again and again. -/
def ControlCall.reissue (call : ControlCall) (turns : Nat → ControlTurn) :
    Nat → ControlPlane → ControlPlane
  | 0, plane => plane
  | count + 1, plane => (call.run (turns count) (call.reissue turns count plane)).2

/-- Once a draining call has moved an agent, giving it again with a working queue comes to
leave no approval pending that the agent had. -/
def Reissuable (plane : ControlPlane) : ControlLabel → Prop
  | .call turn call => call.drains = true → ∀ agentId,
      (call.run turn plane).2.getState agentId ≠ plane.getState agentId →
      ∀ turns : Nat → ControlTurn, (∀ count, (turns count).Works) → ∃ enough, ∀ count, enough ≤ count →
        ∀ approvalId approval, plane.approval? approvalId = some approval →
          approval.agentId = agentId → ∀ now,
          (call.reissue turns count (call.run turn plane).2).approval? approvalId = some now →
            now.status ≠ .pending
  | .logs _ | .decides _ | .closes => True

/-- The denials of a drain work, but that the last one may raise once it has changed its
approval. -/
def DrainWorks (turns : Nat → DenyTurn) (count : Nat) (approvalIds : List Str) : Prop :=
  ∀ index, index < approvalIds.length → turns (count + index) = .works ∨
    index + 1 = approvalIds.length ∧ turns (count + index) = .raisesAfter

/-- A drain comes to its end. -/
def ApprovalQueue.Drains (queue : ApprovalQueue) (turns : Nat → DenyTurn)
    (approvalIds : List Str) : Prop :=
  approvalIds = [] ∨ queue.denier = true ∧ DrainWorks turns 0 approvalIds

/-- The drain of a call comes to its end, or a target of a kill switch is left for the next
one, because its ledger write raises. -/
def DrainsFully (plane : ControlPlane) : ControlLabel → Prop
  | .call turn (.quarantine agentId _ _) => ∀ queue, plane.queue = some queue →
      queue.Drains turn.denials
        ((queue.getPending.filter fun entry => entry.2.agentId = agentId).map Prod.fst)
  | .call turn (.killAll _ _) => ∀ queue, plane.queue = some queue →
      (queue.Drains turn.denials (queue.getPending.map Prod.fst) ∨
        queue.denier = true ∧ plane.ledger ≠ none ∧ ∃ index < plane.targets.length,
          ∃ isValueError, (turn.transitions index).log = .raises isValueError)
  | .call _ _ | .logs _ | .decides _ | .closes => True

/-! Drains. -/

namespace ApprovalQueue

variable {queue : ApprovalQueue} {approvalId other operatorId : Str}

def NotPending (queue : ApprovalQueue) (approvalId : Str) : Prop :=
  ∀ approval, queue.approvals.get? approvalId = some approval → approval.status ≠ .pending

theorem notPending_put {ended : Approval} (ends : ended.status ≠ .pending)
    (notPending : other = approvalId ∨ queue.NotPending other) :
    (queue.put approvalId ended).NotPending other := by
  intro approval found
  dsimp only [put] at found
  rw [Dict.get?_set] at found
  split at found
  · cases found
    exact ends
  · next differs => exact (notPending.resolve_left differs) approval found

/-- A denial that changes anything ends its approval and no other. -/
theorem systemDeny_notPending (turn : DenyTurn)
    (notPending : turn ≠ .raisesBefore ∧ other = approvalId ∨ queue.NotPending other) :
    (queue.systemDeny turn approvalId operatorId).2.NotPending other := by
  have late : ∀ ended : Approval, ended.status ≠ .pending →
      (queue.put approvalId ended).NotPending other :=
    fun ended ends => notPending_put ends (notPending.imp_left And.right)
  have unchanged : (∀ approval, queue.approvals.get? approvalId = some approval →
      approval.status ≠ .pending) → turn ≠ .raisesBefore → queue.NotPending other := by
    intro ended _
    rcases notPending with isIt | already
    · rw [isIt.2]
      exact ended
    · exact already
  cases turn with
  | raisesBefore => exact notPending.resolve_left fun absurd => absurd.1 rfl
  | works | raisesAfter =>
      unfold systemDeny
      dsimp only
      split
      · next absent =>
          apply unchanged
          · intro approval found
            rw [absent] at found
            cases found
          · intro same
            cases same
      · next approval found =>
          split
          · split
            · apply late
              dsimp only
              decide
            · apply late
              dsimp only
              split <;> decide
          · next ended =>
              apply unchanged
              · intro again foundAgain
                rw [found] at foundAgain
                cases foundAgain
                exact ended
              · intro same
                cases same

theorem systemDeny_ok (approvalId operatorId : Str) (queue : ApprovalQueue) :
    ∃ done changed, queue.systemDeny .works approvalId operatorId = (.ok done, changed) := by
  unfold systemDeny
  dsimp only
  split
  · exact ⟨_, _, rfl⟩
  · split
    · exact ⟨_, _, rfl⟩
    · exact ⟨_, _, rfl⟩

theorem denier_systemDeny (turn : DenyTurn) :
    (queue.systemDeny turn approvalId operatorId).2.denier = queue.denier := by
  cases turn with
  | raisesBefore => rfl
  | works | raisesAfter =>
      unfold systemDeny
      dsimp only
      split
      · rfl
      · split
        · split <;> rfl
        · rfl

theorem denyEach_notPending (turns : Nat → DenyTurn) (count : Nat) (approvalIds : List Str)
    (notPending : queue.NotPending other) :
    (queue.denyEach turns operatorId count approvalIds).2.NotPending other := by
  induction approvalIds generalizing count queue with
  | nil => exact notPending
  | cons approvalId rest ih =>
      have denied : (queue.systemDeny (turns count) approvalId operatorId).2.NotPending other :=
        systemDeny_notPending _ (.inr notPending)
      unfold denyEach
      split
      · split
        · next done changed isDenied =>
            rw [isDenied] at denied
            exact ih (count + 1) denied
        · next raised changed isDenied =>
            rw [isDenied] at denied
            exact denied
      · exact notPending

theorem drainWorks_tail {turns : Nat → DenyTurn} {count : Nat} {approvalIds : List Str}
    (works : DrainWorks turns count (approvalId :: approvalIds)) :
    DrainWorks turns (count + 1) approvalIds := by
  intro index bound
  have there := works (index + 1) (by simpa using bound)
  rw [Nat.add_assoc, Nat.add_comm 1 index]
  simpa using there

/-- A drain that comes to its end has denied every approval. -/
theorem denyEach_denies {turns : Nat → DenyTurn} {count : Nat} {approvalIds : List Str}
    (denier : queue.denier = true) (works : DrainWorks turns count approvalIds)
    (member : other ∈ approvalIds) :
    (queue.denyEach turns operatorId count approvalIds).2.NotPending other := by
  induction approvalIds generalizing count queue with
  | nil => cases member
  | cons approvalId rest ih =>
      have first := works 0 (by simp)
      rw [Nat.add_zero] at first
      have changes : turns count ≠ .raisesBefore := by
        rcases first with isTurn | isLast
        · rw [isTurn]
          decide
        · rw [isLast.2]
          decide
      have denied : other = approvalId →
          (queue.systemDeny (turns count) approvalId operatorId).2.NotPending other :=
        fun same => systemDeny_notPending _ (.inl ⟨changes, same⟩)
      have stillDenier := @denier_systemDeny queue approvalId operatorId (turns count)
      unfold denyEach
      rw [if_pos denier]
      split
      · next done changed isDenied =>
          rw [isDenied] at denied stillDenier
          rcases List.mem_cons.mp member with same | later
          · exact denyEach_notPending turns (count + 1) rest (denied same)
          · exact ih (stillDenier.trans denier) (drainWorks_tail works) later
      · next raised changed isDenied =>
          rw [isDenied] at denied
          rcases first with isTurn | isLast
          · obtain ⟨done, after, isOk⟩ := systemDeny_ok approvalId operatorId queue
            rw [isTurn, isOk] at isDenied
            cases isDenied
          · have ended : rest = [] := List.length_eq_zero_iff.mp (by simpa using isLast.1.symm)
            rw [ended] at member
            exact denied (List.mem_singleton.mp member)

/-- After a drain that comes to its end, what it was given is not pending. -/
theorem drains_notPending {turns : Nat → DenyTurn} {approvalIds : List Str}
    (drains : queue.Drains turns approvalIds) (member : other ∈ approvalIds) :
    (queue.denyEach turns operatorId 0 approvalIds).2.NotPending other := by
  rcases drains with isEmpty | ⟨denier, works⟩
  · rw [isEmpty] at member
    cases member
  · exact denyEach_denies denier works member

theorem mem_getPending {approval : Approval}
    (found : queue.approvals.get? approvalId = some approval)
    (pending : approval.status = .pending) :
    (approvalId, approval) ∈ queue.getPending :=
  List.mem_filter.mpr ⟨Dict.get?_eq_some_iff.mp found, decide_eq_true pending⟩

end ApprovalQueue

/-! Calls. -/

def ControlPlane.NotPending (plane : ControlPlane) (approvalId : Str) : Prop :=
  ∀ queue, plane.queue = some queue → queue.NotPending approvalId

namespace ControlPlane

variable {plane : ControlPlane} {approvalId : Str}

theorem queue_transition (turn : TransitionTurn) (agentId : Str) (command : ControlCommand)
    (operatorId reason : Str) (plane : ControlPlane) :
    (plane.transition turn agentId command operatorId reason).2.queue = plane.queue := by
  rcases plane.transition_cases turn agentId command operatorId reason with
    ⟨raised, isError⟩ | ⟨record, after, isOk, -, recorded⟩
  · rw [isError]
  · rw [isOk]
    exact recorded.queue

theorem queue_revokeEach (turns : Nat → TransitionTurn) (operatorId reason : Str) (count : Nat)
    (agentIds : List Str) (plane : ControlPlane) :
    (plane.revokeEach turns operatorId reason count agentIds).2.queue = plane.queue := by
  induction agentIds generalizing count plane with
  | nil => rfl
  | cons agentId rest ih =>
      have same := plane.queue_transition (turns count) agentId .revoke operatorId reason
      unfold revokeEach
      split
      · next record changed isMoved =>
          rw [isMoved] at same
          exact (ih (count + 1) changed).trans same
      · next raised changed isMoved =>
          rw [isMoved] at same
          split
          · exact (ih (count + 1) changed).trans same
          · exact same

theorem quarantine_notPending (turn : ControlTurn) (agentId operatorId reason : Str)
    (notPending : plane.NotPending approvalId) :
    (plane.quarantine turn agentId operatorId reason).2.NotPending approvalId := by
  have same := plane.queue_transition (turn.transitions 0) agentId .quarantine operatorId reason
  unfold quarantine
  split
  · next raised changed isMoved =>
      rw [isMoved] at same
      intro queue isQueue
      exact notPending queue (same.symm.trans isQueue)
  · next record changed isMoved =>
      rw [isMoved] at same
      intro after isAfter
      split at isAfter
      · exact notPending after (same.symm.trans isAfter)
      · next queue isQueue =>
          cases isAfter
          exact ApprovalQueue.denyEach_notPending _ _ _
            (notPending queue (same.symm.trans isQueue))

theorem killAll_notPending (turn : ControlTurn) (operatorId reason : Str)
    (notPending : plane.NotPending approvalId) :
    (plane.killAll turn operatorId reason).2.NotPending approvalId := by
  have same := plane.queue_revokeEach turn.transitions operatorId reason 0 plane.targets
  unfold killAll
  split
  · next raised changed isRevoked =>
      rw [isRevoked] at same
      intro queue isQueue
      exact notPending queue (same.symm.trans isQueue)
  · next records changed isRevoked =>
      rw [isRevoked] at same
      intro after isAfter
      split at isAfter
      · exact notPending after (same.symm.trans isAfter)
      · next queue isQueue =>
          have before := notPending queue (same.symm.trans isQueue)
          split at isAfter
          · rw [isQueue] at isAfter
            cases isAfter
            exact before
          · cases isAfter
            exact ApprovalQueue.denyEach_notPending _ _ _ before

end ControlPlane

/-- No call of the control plane makes an approval pending. -/
theorem ControlCall.run_notPending {plane : ControlPlane} {approvalId : Str} (call : ControlCall)
    (turn : ControlTurn) (notPending : plane.NotPending approvalId) :
    (call.run turn plane).2.NotPending approvalId := by
  unfold run
  dsimp only
  split
  · cases call with
    | register agentId =>
        dsimp only
        unfold ControlPlane.register
        split <;> exact notPending
    | quarantine agentId operatorId reason =>
        exact ControlPlane.quarantine_notPending turn agentId operatorId reason notPending
    | killAll operatorId reason =>
        exact ControlPlane.killAll_notPending turn operatorId reason notPending
    | pause | resume | revoke =>
        intro queue isQueue
        exact notPending queue ((plane.queue_transition _ _ _ _ _).symm.trans isQueue)
  · exact notPending

theorem ControlCall.reissue_notPending {plane : ControlPlane} {approvalId : Str}
    (call : ControlCall) (turns : Nat → ControlTurn) {enough count : Nat} (later : enough ≤ count)
    (notPending : (call.reissue turns enough plane).NotPending approvalId) :
    (call.reissue turns count plane).NotPending approvalId := by
  induction later with
  | refl => exact notPending
  | step _ ih => exact call.run_notPending _ ih

/-! What a kill switch leaves for the next one. -/

/-- What revocations keep. -/
structure Framed (plane after : ControlPlane) : Prop where
  accepting : after.accepting = plane.accepting
  registered : ∀ agentId, plane.states.get? agentId ≠ none → after.states.get? agentId ≠ none
  denier : after.queue.map ApprovalQueue.denier = plane.queue.map ApprovalQueue.denier

theorem Framed.refl (plane : ControlPlane) : Framed plane plane := ⟨rfl, fun _ => id, rfl⟩

theorem Framed.trans {first second third : ControlPlane} (before : Framed first second)
    (after : Framed second third) : Framed first third :=
  ⟨after.accepting.trans before.accepting,
    fun agentId known => after.registered agentId (before.registered agentId known),
    after.denier.trans before.denier⟩

theorem Recorded.framed {plane after : ControlPlane} {record : AgentControlRecord}
    (recorded : Recorded plane record after) : Framed plane after := by
  refine ⟨recorded.accepting, ?_, by rw [recorded.queue]⟩
  intro agentId known
  rw [recorded.states, Dict.get?_set]
  split
  · intro absent
    cases absent
  · exact known

theorem ApprovalQueue.denier_denyEach (turns : Nat → DenyTurn) (operatorId : Str) (count : Nat)
    (approvalIds : List Str) (queue : ApprovalQueue) :
    (queue.denyEach turns operatorId count approvalIds).2.denier = queue.denier := by
  induction approvalIds generalizing count queue with
  | nil => rfl
  | cons approvalId rest ih =>
      have same := @denier_systemDeny queue approvalId operatorId (turns count)
      unfold denyEach
      split
      · split
        · next done changed isDenied =>
            rw [isDenied] at same
            exact (ih (count + 1) changed).trans same
        · next raised changed isDenied =>
            rw [isDenied] at same
            exact same
      · rfl

namespace ControlPlane

variable {plane : ControlPlane}

theorem framed_revokeEach (turns : Nat → TransitionTurn) (operatorId reason : Str) (count : Nat)
    (agentIds : List Str) (plane : ControlPlane) :
    Framed plane (plane.revokeEach turns operatorId reason count agentIds).2 := by
  induction agentIds generalizing count plane with
  | nil => exact .refl plane
  | cons agentId rest ih =>
      unfold revokeEach
      rcases plane.transition_cases (turns count) agentId .revoke operatorId reason with
        ⟨raised, isError⟩ | ⟨record, after, isOk, -, recorded⟩
      · rw [isError]
        dsimp only
        split
        · exact ih (count + 1) plane
        · exact .refl plane
      · rw [isOk]
        exact recorded.framed.trans (ih (count + 1) after)

theorem framed_killAll (turn : ControlTurn) (operatorId reason : Str) (plane : ControlPlane) :
    Framed plane (plane.killAll turn operatorId reason).2 := by
  have framed := plane.framed_revokeEach turn.transitions operatorId reason 0 plane.targets
  unfold killAll
  split
  · next raised changed isRevoked =>
      rw [isRevoked] at framed
      exact framed
  · next records changed isRevoked =>
      rw [isRevoked] at framed
      split
      · exact framed
      · next queue isQueue =>
          split
          · exact framed
          · refine framed.trans ⟨rfl, fun _ => id, ?_⟩
            rw [isQueue]
            exact congrArg some (queue.denier_denyEach _ _ _ _)

theorem mem_targets {agentId : Str} :
    agentId ∈ plane.targets ↔ plane.states.get? agentId ≠ none ∧
      plane.getState agentId ≠ .revoked := by
  constructor
  · intro member
    obtain ⟨entry, isEntry, isAgent⟩ := List.mem_map.mp member
    obtain ⟨inStates, notRevoked⟩ := List.mem_filter.mp isEntry
    have found : plane.states.get? agentId = some entry.2 := by
      rw [← isAgent]
      exact Dict.get?_eq_some_iff.mpr inStates
    rw [getState, Dict.getD, found]
    refine ⟨?_, of_decide_eq_true notRevoked⟩
    intro absent
    cases absent
  · intro target
    obtain ⟨known, notRevoked⟩ := target
    obtain ⟨state, found⟩ := Option.ne_none_iff_exists'.mp known
    rw [getState, Dict.getD, found] at notRevoked
    apply List.mem_map.mpr
    exact ⟨(agentId, state), List.mem_filter.mpr
      ⟨Dict.get?_eq_some_iff.mp found, decide_eq_true notRevoked⟩, rfl⟩

/-- A transition that the table admits is recorded when its ledger write works. -/
theorem transition_of_appends {turn : TransitionTurn} {agentId : Str} {command : ControlCommand}
    (operatorId reason : Str) (permitted : nextState (plane.getState agentId) command ≠ none)
    (appends : plane.ledger ≠ none → turn.log = .appends) :
    ∃ record after, plane.transition turn agentId command operatorId reason =
      (.ok record, after) := by
  obtain ⟨new, isNext⟩ := Option.ne_none_iff_exists'.mp permitted
  unfold transition
  dsimp only
  rw [isNext]
  unfold log
  dsimp only
  cases isLedger : plane.ledger with
  | none => exact ⟨_, _, rfl⟩
  | some entries =>
      rw [appends (by rw [isLedger]; exact Option.some_ne_none _)]
      exact ⟨_, _, rfl⟩

theorem nextState_revoke {state : AgentState} (notRevoked : state ≠ .revoked) :
    nextState state .revoke ≠ none := by
  cases state with
  | revoked => exact absurd rfl notRevoked
  | active | paused | quarantined =>
      intro absent
      cases absent

/-- Where the ledger writes work, a kill switch revokes all its targets. -/
theorem revokeEach_of_appends {turns : Nat → TransitionTurn} (operatorId reason : Str)
    {count : Nat} {agentIds : List Str} (nodup : agentIds.Nodup)
    (standing : ∀ agentId ∈ agentIds, plane.getState agentId ≠ .revoked)
    (appends : plane.ledger ≠ none → ∀ index < agentIds.length,
      (turns (count + index)).log = .appends) :
    ∃ records after, plane.revokeEach turns operatorId reason count agentIds =
      (.ok records, after) ∧ records.length = agentIds.length := by
  induction agentIds generalizing count plane with
  | nil => exact ⟨[], plane, rfl, rfl⟩
  | cons agentId rest ih =>
      obtain ⟨fresh, restNodup⟩ := List.nodup_cons.mp nodup
      have first : ∃ record after, plane.transition (turns count) agentId .revoke operatorId
          reason = (.ok record, after) :=
        transition_of_appends operatorId reason
          (nextState_revoke (standing agentId List.mem_cons_self))
          fun hasLedger => appends hasLedger 0 (by simp)
      rcases plane.transition_cases (turns count) agentId .revoke operatorId reason with
        ⟨raised, isError⟩ | ⟨record, after, isOk, isAgent, recorded⟩
      · obtain ⟨record, after, isOk⟩ := first
        rw [isError] at isOk
        cases isOk
      · have stillStanding : ∀ other ∈ rest, after.getState other ≠ .revoked := by
          intro other member
          have differs : other ≠ record.agentId := by
            intro same
            rw [same, isAgent] at member
            exact fresh member
          rw [recorded.getState, if_neg differs]
          exact standing other (List.mem_cons_of_mem _ member)
        have stillAppends : after.ledger ≠ none → ∀ index < rest.length,
            (turns (count + 1 + index)).log = .appends := by
          intro hasLedger index bound
          rw [Nat.add_assoc, Nat.add_comm 1 index]
          apply appends
          · intro noLedger
            rw [recorded.ledger, noLedger] at hasLedger
            exact hasLedger rfl
          · simpa using bound
        obtain ⟨records, last, isRevoked, count⟩ := ih restNodup stillStanding stillAppends
        refine ⟨record :: records, last, ?_, by simp [count]⟩
        unfold revokeEach
        rw [isOk]
        dsimp only
        rw [isRevoked]
        rfl

/-- A kill switch with targets whose ledger writes work drains the whole queue. -/
theorem killAll_drains {turn : ControlTurn} (operatorId reason : Str)
    (appends : plane.ledger ≠ none → ∀ index < plane.targets.length,
      (turn.transitions index).log = .appends)
    (hasTargets : plane.targets ≠ [])
    (drains : ∀ queue, plane.queue = some queue →
      queue.Drains turn.denials (queue.getPending.map Prod.fst)) (approvalId : Str) :
    (plane.killAll turn operatorId reason).2.NotPending approvalId := by
  have same := plane.queue_revokeEach turn.transitions operatorId reason 0 plane.targets
  obtain ⟨records, changed, isRevoked, isCount⟩ : ∃ records after,
      plane.revokeEach turn.transitions operatorId reason 0 plane.targets =
        (.ok records, after) ∧ records.length = plane.targets.length :=
    revokeEach_of_appends operatorId reason plane.nodup_targets
      (fun agentId member => (mem_targets.mp member).2) (by simpa using appends)
  have someRecords : records.isEmpty = false := by
    rw [← Bool.not_eq_true, List.isEmpty_iff, ← List.length_eq_zero_iff, isCount,
      List.length_eq_zero_iff]
    exact hasTargets
  rw [isRevoked] at same
  unfold killAll
  rw [isRevoked]
  dsimp only
  intro after isAfter
  split at isAfter
  · next noQueue =>
      rw [noQueue] at isAfter
      cases isAfter
  · next queue isQueue =>
      rw [someRecords, if_neg Bool.false_ne_true] at isAfter
      cases isAfter
      have drained := drains queue (same.symm.trans isQueue)
      by_cases pending : ∃ approval, queue.approvals.get? approvalId = some approval ∧
          approval.status = .pending
      · obtain ⟨approval, found, isPending⟩ := pending
        apply ApprovalQueue.drains_notPending drained
        exact List.mem_map_of_mem (ApprovalQueue.mem_getPending found isPending)
      · apply ApprovalQueue.denyEach_notPending
        exact fun approval found isPending => pending ⟨approval, found, isPending⟩

end ControlPlane

theorem ApprovalQueue.drains_of_works {queue : ApprovalQueue} (denier : queue.denier = true)
    {turn : ControlTurn} (works : turn.Works) (approvalIds : List Str) :
    queue.Drains turn.denials approvalIds :=
  .inr ⟨denier, fun index _ => .inl (works.denies (0 + index))⟩

/-- The next kill switch finds the target whose ledger write raised, and drains the queue. -/
theorem reissue_killAll {plane : ControlPlane} {turn : ControlTurn} {operatorId reason : Str}
    (accepting : plane.accepting = true) (hasLedger : plane.ledger ≠ none) {index : Nat}
    (bound : index < plane.targets.length) {isValueError : Bool}
    (raises : (turn.transitions index).log = .raises isValueError)
    (denier : ∀ queue, plane.queue = some queue → queue.denier = true)
    {again : ControlTurn} (works : again.Works) (approvalId : Str) :
    ((ControlCall.killAll operatorId reason).run again
      ((ControlCall.killAll operatorId reason).run turn plane).2).2.NotPending approvalId := by
  have run : (ControlCall.killAll operatorId reason).run turn plane =
      plane.killAll turn operatorId reason := by
    rw [ControlCall.run, if_pos accepting]
  have isTarget : plane.targets[index]? = some plane.targets[index] :=
    List.getElem?_eq_getElem bound
  have spared := spared_of_raises isTarget raises hasLedger operatorId reason
  have framed := plane.framed_killAll turn operatorId reason
  rw [run] at spared ⊢
  have target := ControlPlane.mem_targets.mp (List.getElem_mem bound)
  have still : plane.targets[index] ∈ (plane.killAll turn operatorId reason).2.targets := by
    apply ControlPlane.mem_targets.mpr
    refine ⟨framed.registered _ target.1, ?_⟩
    rw [spared.1]
    exact target.2
  rw [ControlCall.run, if_pos (framed.accepting.trans accepting)]
  apply ControlPlane.killAll_drains operatorId reason (fun _ count _ => works.appends count)
    (List.ne_nil_of_mem still)
  intro queue isQueue
  have same := framed.denier
  rw [isQueue, Option.map_some] at same
  obtain ⟨before, isBefore, sameDenier⟩ := Option.map_eq_some_iff.mp same.symm
  exact ApprovalQueue.drains_of_works (sameDenier.symm.trans (denier before isBefore)) works _

theorem accepting_of_changed {plane : ControlPlane} {turn : ControlTurn} {call : ControlCall}
    {agentId : Str}
    (changed : (call.run turn plane).2.getState agentId ≠ plane.getState agentId) :
    plane.accepting = true := by
  by_contra closed
  apply changed
  unfold ControlCall.run
  dsimp only
  rw [if_neg closed]

/-- A quarantine that moved an agent has drained its approvals. -/
theorem quarantine_drains {plane : ControlPlane} {turn : ControlTurn}
    {agentId operatorId reason moved : Str}
    (drains : DrainsFully plane (.call turn (.quarantine agentId operatorId reason)))
    (changed : (plane.quarantine turn agentId operatorId reason).2.getState moved ≠
      plane.getState moved)
    {approvalId : Str} {approval : Approval} (found : plane.approval? approvalId = some approval)
    (isAgent : approval.agentId = moved) :
    (plane.quarantine turn agentId operatorId reason).2.NotPending approvalId := by
  rcases plane.transition_cases (turn.transitions 0) agentId .quarantine operatorId reason with
    ⟨raised, isError⟩ | ⟨record, after, isOk, isRecord, recorded⟩
  · rw [ControlPlane.quarantine, isError] at changed
    exact absurd rfl changed
  · obtain ⟨queue, isQueue, inQueue⟩ := Option.bind_eq_some_iff.mp found
    have quarantined : (plane.quarantine turn agentId operatorId reason).2 =
        { after with queue := some (queue.drain turn.denials agentId operatorId).2 } := by
      rw [ControlPlane.quarantine, isOk]
      dsimp only
      rw [recorded.queue, isQueue]
    rw [quarantined] at changed ⊢
    have isMoved : moved = agentId := by
      by_contra differs
      apply changed
      rw [← isRecord] at differs
      exact (recorded.getState moved).trans (if_neg differs)
    intro last isLast
    cases isLast
    by_cases pending : approval.status = .pending
    · apply ApprovalQueue.drains_notPending (drains queue isQueue)
      apply List.mem_map.mpr
      refine ⟨(approvalId, approval), List.mem_filter.mpr ⟨?_, ?_⟩, rfl⟩
      · exact ApprovalQueue.mem_getPending inQueue pending
      · exact decide_eq_true (isAgent.trans isMoved)
    · apply ApprovalQueue.denyEach_notPending
      intro again foundAgain
      rw [inQueue] at foundAgain
      cases foundAgain
      exact pending

theorem not_pending_of_notPending {plane : ControlPlane} {approvalId : Str} {now : Approval}
    (notPending : plane.NotPending approvalId) (found : plane.approval? approvalId = some now) :
    now.status ≠ .pending := by
  obtain ⟨queue, isQueue, inQueue⟩ := Option.bind_eq_some_iff.mp found
  exact notPending queue isQueue now inQueue

theorem reissuable_quarantine {plane : ControlPlane} {turn : ControlTurn}
    {agentId operatorId reason : Str}
    (drains : DrainsFully plane (.call turn (.quarantine agentId operatorId reason))) :
    Reissuable plane (.call turn (.quarantine agentId operatorId reason)) := by
  intro _ moved changed turns works
  refine ⟨0, ?_⟩
  intro count _ approvalId approval found isAgent now foundNow
  have run : ((ControlCall.quarantine agentId operatorId reason).run turn plane).2 =
      (plane.quarantine turn agentId operatorId reason).2 := by
    rw [ControlCall.run, if_pos (accepting_of_changed changed)]
  rw [run] at changed foundNow
  have ended := quarantine_drains drains changed found isAgent
  exact not_pending_of_notPending
    (ControlCall.reissue_notPending _ turns (Nat.zero_le count) ended) foundNow

theorem killAll_of_no_targets {plane : ControlPlane} (turn : ControlTurn) (operatorId reason : Str)
    (none : plane.targets = []) : (plane.killAll turn operatorId reason).2 = plane := by
  rw [ControlPlane.killAll, none, ControlPlane.revokeEach]
  dsimp only
  split <;> rfl

/-- A kill switch that moved an agent has drained the queue, unless a ledger write raised. -/
theorem killAll_ended {plane : ControlPlane} {turn : ControlTurn}
    {operatorId reason moved : Str}
    (drains : DrainsFully plane (.call turn (.killAll operatorId reason)))
    (changed : (plane.killAll turn operatorId reason).2.getState moved ≠ plane.getState moved)
    (unraised : ¬ ((∀ queue, plane.queue = some queue → queue.denier = true) ∧
      plane.ledger ≠ none ∧ ∃ index < plane.targets.length, ∃ isValueError,
        (turn.transitions index).log = .raises isValueError))
    {approvalId : Str} {approval : Approval} (found : plane.approval? approvalId = some approval) :
    (plane.killAll turn operatorId reason).2.NotPending approvalId := by
  obtain ⟨queue, isQueue, inQueue⟩ := Option.bind_eq_some_iff.mp found
  have only : ∀ other, plane.queue = some other → other = queue := by
    intro other isOther
    exact Option.some.inj (isOther.symm.trans isQueue)
  have drained : queue.Drains turn.denials (queue.getPending.map Prod.fst) := by
    rcases drains queue isQueue with drained | ⟨denier, raising⟩
    · exact drained
    · refine absurd ⟨?_, raising⟩ unraised
      intro other isOther
      rw [only other isOther]
      exact denier
  by_cases denier : queue.denier = true
  · apply ControlPlane.killAll_drains operatorId reason
    · intro hasLedger index bound
      cases isLog : (turn.transitions index).log with
      | appends => rfl
      | raises isValueError =>
          refine absurd ⟨?_, hasLedger, index, bound, isValueError, isLog⟩ unraised
          intro other isOther
          rw [only other isOther]
          exact denier
    · intro none
      rw [killAll_of_no_targets turn operatorId reason none] at changed
      exact changed rfl
    · intro other isOther
      rw [only other isOther]
      exact drained
  · have nothing : queue.getPending.map Prod.fst = [] :=
      drained.resolve_right fun working => denier working.1
    apply ControlPlane.killAll_notPending
    intro other isOther again foundAgain pending
    rw [only other isOther] at foundAgain
    have member := List.mem_map_of_mem (f := Prod.fst)
      (ApprovalQueue.mem_getPending foundAgain pending)
    rw [nothing] at member
    cases member

theorem reissuable_killAll {plane : ControlPlane} {turn : ControlTurn} {operatorId reason : Str}
    (drains : DrainsFully plane (.call turn (.killAll operatorId reason))) :
    Reissuable plane (.call turn (.killAll operatorId reason)) := by
  intro _ moved changed turns works
  have accepting := accepting_of_changed changed
  have run : ((ControlCall.killAll operatorId reason).run turn plane).2 =
      (plane.killAll turn operatorId reason).2 := by
    rw [ControlCall.run, if_pos accepting]
  by_cases raising : (∀ queue, plane.queue = some queue → queue.denier = true) ∧
      plane.ledger ≠ none ∧ ∃ index < plane.targets.length, ∃ isValueError,
        (turn.transitions index).log = .raises isValueError
  · obtain ⟨denier, hasLedger, index, bound, isValueError, raises⟩ := raising
    refine ⟨1, ?_⟩
    intro count later approvalId approval _ _ now foundNow
    have ended := @reissue_killAll plane turn operatorId reason accepting hasLedger index bound
      isValueError raises denier (turns 0) (works 0) approvalId
    exact not_pending_of_notPending (ControlCall.reissue_notPending _ turns later ended) foundNow
  · refine ⟨0, ?_⟩
    intro count _ approvalId approval found _ now foundNow
    rw [run] at changed foundNow
    have ended := killAll_ended drains changed raising found
    exact not_pending_of_notPending
      (ControlCall.reissue_notPending _ turns (Nat.zero_le count) ended) foundNow

/-- In every run whose draining calls come to the end of their drains, each of them can be
given again until no approval is pending that an agent it moved had. -/
theorem reissuable_of_run {first : ControlPlane} {labels : List ControlLabel}
    (drains : (controlSystem first).Guarded DrainsFully labels) :
    (controlSystem first).Guarded Reissuable labels := by
  intro front label rest plane split run
  have fully := drains front label rest plane split run
  cases label with
  | call turn call =>
      cases call with
      | quarantine => exact reissuable_quarantine fully
      | killAll => exact reissuable_killAll fully
      | register | pause | resume | revoke =>
          intro absent
          cases absent
  | logs | decides | closes => trivial

/-! Samples: a quarantine whose denials work, and one whose first denial raises. -/

def sampleQueue : ApprovalQueue where
  durable := true
  denier := true
  approvals := Dict.empty.set (Str.lit "approval") ⟨Str.lit "agent", .pending, []⟩

def sampleQuarantine (denials : DenyTurn) : ControlLabel :=
  .call ⟨fun _ => ⟨.finite .zero, .appends⟩, fun _ => denials⟩
    (.quarantine (Str.lit "agent") (Str.lit "operator") [])

theorem reissuable_of_run_denied :
    (controlSystem (freshPlane (some sampleQueue))).Guarded Reissuable
      [sampleQuarantine .works] := by
  apply reissuable_of_run
  intro front label rest plane split run
  cases front with
  | cons first more => simp at split
  | nil =>
      cases split
      intro queue isQueue
      rw [run.initial.1] at isQueue
      cases isQueue
      exact .inr ⟨rfl, fun _ _ => .inl rfl⟩

/-- A quarantine whose denial raised leaves its agent where no second one is admitted. -/
theorem raising_quarantine_not_reissuable :
    ¬ (controlSystem (freshPlane (some sampleQueue))).Guarded Reissuable
      [sampleQuarantine .raisesBefore] := by
  intro reissuable
  let call : ControlCall := .quarantine (Str.lit "agent") (Str.lit "operator") []
  let again : ControlTurn := ⟨fun _ => ⟨.finite .zero, .appends⟩, fun _ => .works⟩
  let plane := (sampleQuarantine .raisesBefore).next (freshPlane (some sampleQueue))
  have stuck : (call.run again plane).2 = plane := by
    rfl
  have same : ∀ count, call.reissue (fun _ => again) count plane = plane := by
    intro count
    induction count with
    | zero => rfl
    | succ count ih =>
        rw [ControlCall.reissue, ih]
        exact stuck
  have pending : plane.approval? (Str.lit "approval") = some ⟨Str.lit "agent", .pending, []⟩ := by
    rfl
  obtain ⟨enough, ended⟩ := reissuable [] _ [] _ rfl
    (.start ⟨rfl, fresh_freshPlane (some sampleQueue)⟩) rfl (Str.lit "agent") (by decide +kernel)
    (fun _ => again) (fun _ => ⟨fun _ => rfl, fun _ => rfl⟩)
  apply ended enough (Nat.le_refl enough) (Str.lit "approval") ⟨Str.lit "agent", .pending, []⟩ rfl
    rfl ⟨Str.lit "agent", .pending, []⟩
  · exact (congrArg (fun last => last.approval? (Str.lit "approval")) (same enough)).trans pending
  · rfl

end SelfConnect.Control
