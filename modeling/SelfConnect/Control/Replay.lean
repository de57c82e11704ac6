import SelfConnect.Control.Plane
import SelfConnect.Library.History

namespace SelfConnect.Control

open SelfConnect.Python SelfConnect.Library

/-! The history of a control plane: its replay gives the states of the agents, and the
ledger holds it. -/

/-- The states that a history leads to, from the initial state. -/
def replay (history : List AgentControlRecord) : Str → AgentState :=
  history.foldl (fun states record => Function.update states record.agentId record.newState)
    fun _ => .active

theorem replay_snoc (history : List AgentControlRecord) (record : AgentControlRecord) :
    replay (history ++ [record]) =
      Function.update (replay history) record.agentId record.newState := by
  rw [replay, List.foldl_append]
  rfl

/-- A record that the transition table admits after the records before it. -/
def Admitted (front : List AgentControlRecord) (record : AgentControlRecord) : Prop :=
  record.prevState = replay front record.agentId ∧
    nextState record.prevState record.command = some record.newState

/-- The entries of operator control in a ledger. -/
def controlEntries (entries : List LedgerEntry) : List LedgerEntry :=
  entries.filter fun entry => entry.action = operatorControl

structure Replayed (plane : ControlPlane) : Prop where
  states : ∀ agentId, plane.getState agentId = replay plane.history agentId
  admitted : Each Admitted plane.history
  logged : ∀ entries, plane.ledger = some entries →
    controlEntries entries = plane.history.map AgentControlRecord.entry

/-- How the state of an agent may go on. -/
def Onward (first second : AgentState) : Prop :=
  (first = .revoked → second = .revoked) ∧
    (first = .quarantined → second = .quarantined ∨ second = .revoked)

theorem Onward.refl (state : AgentState) : Onward state state := ⟨id, .inl⟩

theorem Onward.trans {first second third : AgentState} (before : Onward first second)
    (after : Onward second third) : Onward first third := by
  refine ⟨fun isRevoked => after.1 (before.1 isRevoked), ?_⟩
  intro isQuarantined
  rcases before.2 isQuarantined with still | revoked
  · exact after.2 still
  · exact .inr (after.1 revoked)

theorem onward_of_nextState {state new : AgentState} {command : ControlCommand}
    (isNext : nextState state command = some new) : Onward state new := by
  constructor
  · intro isRevoked
    rw [isRevoked] at isNext
    cases command <;> cases isNext
  · intro isQuarantined
    rw [isQuarantined] at isNext
    cases command <;> cases isNext
    exact .inr rfl

/-- What every step keeps: the replay, and the way each agent goes. -/
structure Continues (plane after : ControlPlane) : Prop where
  replayed : Replayed plane → Replayed after
  onward : ∀ agentId, Onward (plane.getState agentId) (after.getState agentId)

theorem Continues.refl (plane : ControlPlane) : Continues plane plane :=
  ⟨id, fun _ => .refl _⟩

theorem Continues.trans {first second third : ControlPlane} (before : Continues first second)
    (after : Continues second third) : Continues first third :=
  ⟨fun replayed => after.replayed (before.replayed replayed),
    fun agentId => (before.onward agentId).trans (after.onward agentId)⟩

/-- Steps that leave what was recorded alone. -/
theorem Continues.of_same {plane after : ControlPlane}
    (states : ∀ agentId, after.getState agentId = plane.getState agentId)
    (history : after.history = plane.history)
    (ledger : ∀ entries, after.ledger = some entries → ∃ before, plane.ledger = some before ∧
      controlEntries entries = controlEntries before) : Continues plane after := by
  constructor
  · intro replayed
    constructor
    · intro agentId
      rw [states, history]
      exact replayed.states agentId
    · rw [history]
      exact replayed.admitted
    · intro entries isLedger
      obtain ⟨before, wasLedger, same⟩ := ledger entries isLedger
      rw [same, history]
      exact replayed.logged before wasLedger
  · intro agentId
    rw [states]
    exact .refl _

/-- What a transition that returns has done. -/
structure Recorded (plane : ControlPlane) (record : AgentControlRecord) (after : ControlPlane) :
    Prop where
  prevState : record.prevState = plane.getState record.agentId
  permitted : nextState record.prevState record.command = some record.newState
  states : after.states = plane.states.set record.agentId record.newState
  history : after.history = plane.history ++ [record]
  ledger : after.ledger = plane.ledger.map (· ++ [record.entry])
  queue : after.queue = plane.queue
  accepting : after.accepting = plane.accepting

namespace Recorded

variable {plane after : ControlPlane} {record : AgentControlRecord}

theorem getState (recorded : Recorded plane record after) (agentId : Str) :
    after.getState agentId =
      if agentId = record.agentId then record.newState else plane.getState agentId := by
  unfold ControlPlane.getState Dict.getD
  rw [recorded.states, Dict.get?_set]
  split <;> rfl

theorem continues (recorded : Recorded plane record after) : Continues plane after := by
  constructor
  · intro replayed
    constructor
    · intro agentId
      rw [recorded.getState, recorded.history, replay_snoc, Function.update_apply]
      split
      · rfl
      · exact replayed.states agentId
    · rw [recorded.history]
      apply replayed.admitted.snoc
      refine ⟨?_, recorded.permitted⟩
      rw [recorded.prevState]
      exact replayed.states _
    · intro entries isLedger
      rw [recorded.ledger] at isLedger
      obtain ⟨before, wasLedger, isAppended⟩ := Option.map_eq_some_iff.mp isLedger
      rw [← isAppended, recorded.history, controlEntries, List.filter_append, List.map_append]
      congr 1
      exact replayed.logged before wasLedger
  · intro agentId
    rw [recorded.getState]
    split
    · next same =>
        rw [same, ← recorded.prevState]
        exact onward_of_nextState recorded.permitted
    · exact .refl _

end Recorded

namespace ControlPlane

variable {plane : ControlPlane}

/-- A transition changes nothing, or it records what it does. -/
theorem transition_cases (turn : TransitionTurn) (agentId : Str) (command : ControlCommand)
    (operatorId reason : Str) (plane : ControlPlane) :
    (∃ raised, plane.transition turn agentId command operatorId reason = (.error raised, plane)) ∨
      ∃ record after, plane.transition turn agentId command operatorId reason =
        (.ok record, after) ∧ record.agentId = agentId ∧ Recorded plane record after := by
  unfold transition
  dsimp only
  cases isNext : nextState (plane.getState agentId) command with
  | none => exact .inl ⟨_, rfl⟩
  | some new =>
      dsimp only
      let record : AgentControlRecord :=
        ⟨agentId, command, operatorId, reason, plane.getState agentId, new, turn.ts⟩
      cases isLogged : plane.log turn.log record with
      | error raised => exact .inl ⟨raised, rfl⟩
      | ok ledger =>
          refine .inr ⟨record, _, rfl, rfl, rfl, isNext, rfl, rfl, ?_, rfl, rfl⟩
          unfold log at isLogged
          cases isLedger : plane.ledger with
          | none =>
              rw [isLedger] at isLogged
              cases isLogged
              rfl
          | some entries =>
              rw [isLedger] at isLogged
              cases isTurn : turn.log with
              | appends =>
                  rw [isTurn] at isLogged
                  cases isLogged
                  rfl
              | raises isValueError =>
                  rw [isTurn] at isLogged
                  cases isLogged

theorem continues_transition (turn : TransitionTurn) (agentId : Str) (command : ControlCommand)
    (operatorId reason : Str) (plane : ControlPlane) :
    Continues plane (plane.transition turn agentId command operatorId reason).2 := by
  rcases plane.transition_cases turn agentId command operatorId reason with
    ⟨raised, isError⟩ | ⟨record, after, isOk, -, recorded⟩
  · rw [isError]
    exact .refl plane
  · rw [isOk]
    exact recorded.continues

theorem continues_register (agentId : Str) (plane : ControlPlane) :
    Continues plane (plane.register agentId) := by
  unfold register
  split
  · exact .refl plane
  · next absent =>
      apply Continues.of_same
      · intro other
        unfold getState Dict.getD
        dsimp only
        rw [Dict.get?_set]
        split
        · next same =>
            rw [same, Dict.get?_eq_none_iff.mpr absent]
            rfl
        · rfl
      · rfl
      · exact fun entries isLedger => ⟨entries, isLedger, rfl⟩

/-- The queue is no part of what is recorded. -/
theorem continues_queue (plane : ControlPlane) (queue : Option ApprovalQueue) :
    Continues plane { plane with queue } :=
  .of_same (fun _ => rfl) rfl fun entries isLedger => ⟨entries, isLedger, rfl⟩

theorem continues_quarantine (turn : ControlTurn) (agentId operatorId reason : Str)
    (plane : ControlPlane) :
    Continues plane (plane.quarantine turn agentId operatorId reason).2 := by
  have moved := plane.continues_transition (turn.transitions 0) agentId .quarantine operatorId
    reason
  unfold quarantine
  split
  · next isMoved =>
      rw [isMoved] at moved
      exact moved
  · next record changed isMoved =>
      rw [isMoved] at moved
      split
      · exact moved
      · exact moved.trans (changed.continues_queue _)

theorem continues_revokeEach (turns : Nat → TransitionTurn) (operatorId reason : Str)
    (count : Nat) (agentIds : List Str) (plane : ControlPlane) :
    Continues plane (plane.revokeEach turns operatorId reason count agentIds).2 := by
  induction agentIds generalizing count plane with
  | nil => exact .refl plane
  | cons agentId rest ih =>
      have moved := plane.continues_transition (turns count) agentId .revoke operatorId reason
      unfold revokeEach
      split
      · next record changed isMoved =>
          rw [isMoved] at moved
          exact moved.trans (ih (count + 1) changed)
      · next raised changed isMoved =>
          rw [isMoved] at moved
          split
          · exact moved.trans (ih (count + 1) changed)
          · exact moved

theorem continues_killAll (turn : ControlTurn) (operatorId reason : Str) (plane : ControlPlane) :
    Continues plane (plane.killAll turn operatorId reason).2 := by
  have revoked := plane.continues_revokeEach turn.transitions operatorId reason 0 plane.targets
  unfold killAll
  split
  · next isRevoked =>
      rw [isRevoked] at revoked
      exact revoked
  · next records changed isRevoked =>
      rw [isRevoked] at revoked
      split
      · exact revoked
      · split
        · exact revoked
        · exact revoked.trans (changed.continues_queue _)

end ControlPlane

theorem ControlCall.continues (turn : ControlTurn) (plane : ControlPlane) (call : ControlCall) :
    Continues plane (call.run turn plane).2 := by
  unfold run
  dsimp only
  split
  · cases call with
    | register agentId => exact plane.continues_register agentId
    | quarantine agentId operatorId reason =>
        exact plane.continues_quarantine turn agentId operatorId reason
    | killAll operatorId reason => exact plane.continues_killAll turn operatorId reason
    | pause | resume | revoke => exact plane.continues_transition _ _ _ _ _
  · exact .refl plane

theorem ControlLabel.continues {label : ControlLabel} (admissible : label.Admissible)
    (plane : ControlPlane) : Continues plane (label.next plane) := by
  cases label with
  | call turn request => exact request.continues turn plane
  | logs entry =>
      refine Continues.of_same (fun _ => rfl) rfl ?_
      intro entries isLedger
      obtain ⟨before, wasLedger, isAppended⟩ := Option.map_eq_some_iff.mp isLedger
      refine ⟨before, wasLedger, ?_⟩
      have excluded : controlEntries [entry] = [] :=
        List.filter_cons_of_neg (mt of_decide_eq_true admissible)
      rw [← isAppended, controlEntries, List.filter_append]
      exact (congrArg (controlEntries before ++ ·) excluded).trans (List.append_nil _)
  | decides approvals => exact plane.continues_queue _
  | closes => exact .of_same (fun _ => rfl) rfl fun entries isLedger => ⟨entries, isLedger, rfl⟩

/-! A ledger write that raises. -/

/-- What a step leaves of one agent: its state, and no record about it. -/
def Untouched (agentId : Str) (plane after : ControlPlane) : Prop :=
  after.getState agentId = plane.getState agentId ∧
    ∃ records, after.history = plane.history ++ records ∧
      ∀ record ∈ records, record.agentId ≠ agentId

namespace Untouched

variable {agentId : Str} {plane : ControlPlane}

theorem of_same {after : ControlPlane}
    (states : after.getState agentId = plane.getState agentId)
    (history : after.history = plane.history) : Untouched agentId plane after := by
  refine ⟨states, [], ?_, ?_⟩
  · rw [history, List.append_nil]
  · intro record absent
    cases absent

theorem trans {second third : ControlPlane} (before : Untouched agentId plane second)
    (after : Untouched agentId second third) : Untouched agentId plane third := by
  obtain ⟨sameState, records, isHistory, others⟩ := before
  obtain ⟨stillSame, further, isFurther, stillOthers⟩ := after
  refine ⟨stillSame.trans sameState, records ++ further, ?_, ?_⟩
  · rw [isFurther, isHistory, List.append_assoc]
  · intro record member
    rcases List.mem_append.mp member with earlier | later
    · exact others record earlier
    · exact stillOthers record later

end Untouched

theorem Recorded.untouched {plane after : ControlPlane} {record : AgentControlRecord}
    (recorded : Recorded plane record after) {agentId : Str} (differs : agentId ≠ record.agentId) :
    Untouched agentId plane after := by
  refine ⟨?_, [record], recorded.history, ?_⟩
  · rw [recorded.getState, if_neg differs]
  · intro other member
    rw [List.mem_singleton.mp member]
    exact differs.symm

/-- The command that a call gives to one agent. -/
def ControlCall.command : ControlCall → Option (Str × ControlCommand)
  | .pause agentId _ _ => some (agentId, .pause)
  | .resume agentId _ _ => some (agentId, .resume)
  | .quarantine agentId _ _ => some (agentId, .quarantine)
  | .revoke agentId _ _ => some (agentId, .revoke)
  | .register _ | .killAll _ _ => none

namespace ControlPlane

variable {plane : ControlPlane} {operatorId reason : Str} {isValueError : Bool}

theorem transition_of_raises {turn : TransitionTurn} {agentId : Str} {command : ControlCommand}
    (raises : turn.log = .raises isValueError) (hasLedger : plane.ledger ≠ none) :
    ∃ raised, plane.transition turn agentId command operatorId reason = (.error raised, plane) := by
  unfold transition
  dsimp only
  cases nextState (plane.getState agentId) command with
  | none => exact ⟨_, rfl⟩
  | some new =>
      unfold log
      cases isLedger : plane.ledger with
      | none => exact absurd isLedger hasLedger
      | some entries =>
          rw [raises]
          exact ⟨_, rfl⟩

theorem revokeEach_untouched (turns : Nat → TransitionTurn) (count : Nat) {agentIds : List Str}
    {agentId : Str} (absent : agentId ∉ agentIds) (plane : ControlPlane) :
    Untouched agentId plane (plane.revokeEach turns operatorId reason count agentIds).2 := by
  induction agentIds generalizing count plane with
  | nil => exact .of_same rfl rfl
  | cons first rest ih =>
      have later := List.not_mem_of_not_mem_cons absent
      unfold revokeEach
      rcases plane.transition_cases (turns count) first .revoke operatorId reason with
        ⟨raised, isError⟩ | ⟨record, after, isOk, isFirst, recorded⟩
      · rw [isError]
        dsimp only
        split
        · exact ih (count + 1) later plane
        · exact .of_same rfl rfl
      · rw [isOk]
        have differs : agentId ≠ record.agentId := by
          rw [isFirst]
          exact List.ne_of_not_mem_cons absent
        exact (recorded.untouched differs).trans (ih (count + 1) later after)

/-- The loop leaves an agent alone whose own ledger write raises. -/
theorem revokeEach_of_raises {turns : Nat → TransitionTurn} {count index : Nat}
    {agentIds : List Str} {agentId : Str} (nodup : agentIds.Nodup)
    (isAgent : agentIds[index]? = some agentId)
    (raises : (turns (count + index)).log = .raises isValueError)
    (hasLedger : plane.ledger ≠ none) :
    Untouched agentId plane (plane.revokeEach turns operatorId reason count agentIds).2 := by
  induction agentIds generalizing count index plane with
  | nil => cases isAgent
  | cons first rest ih =>
      obtain ⟨fresh, restNodup⟩ := List.nodup_cons.mp nodup
      cases index with
      | zero =>
          cases isAgent
          rw [Nat.add_zero] at raises
          obtain ⟨raised, isError⟩ := @transition_of_raises plane operatorId reason isValueError
            (turns count) agentId .revoke raises hasLedger
          unfold revokeEach
          rw [isError]
          dsimp only
          split
          · exact revokeEach_untouched turns (count + 1) fresh plane
          · exact .of_same rfl rfl
      | succ index =>
          have inRest : rest[index]? = some agentId := isAgent
          have raisesThere : (turns (count + 1 + index)).log = .raises isValueError := by
            rw [Nat.add_assoc, Nat.add_comm 1 index]
            exact raises
          unfold revokeEach
          rcases plane.transition_cases (turns count) first .revoke operatorId reason with
            ⟨raised, isError⟩ | ⟨record, after, isOk, isFirst, recorded⟩
          · rw [isError]
            dsimp only
            split
            · exact ih restNodup inRest raisesThere hasLedger
            · exact .of_same rfl rfl
          · rw [isOk]
            have differs : agentId ≠ record.agentId := by
              rw [isFirst]
              intro same
              rw [same] at inRest
              exact fresh (List.mem_of_getElem? inRest)
            have stillLedger : after.ledger ≠ none := by
              rw [recorded.ledger]
              simpa using hasLedger
            exact (recorded.untouched differs).trans
              (ih restNodup inRest raisesThere stillLedger)

theorem killAll_untouched (turn : ControlTurn) {agentId : Str}
    (untouched : Untouched agentId plane
      (plane.revokeEach turn.transitions operatorId reason 0 plane.targets).2) :
    Untouched agentId plane (plane.killAll turn operatorId reason).2 := by
  unfold killAll
  split
  · next isRevoked =>
      rw [isRevoked] at untouched
      exact untouched
  · next records changed isRevoked =>
      rw [isRevoked] at untouched
      split
      · exact untouched
      · split
        · exact untouched
        · exact untouched.trans (.of_same rfl rfl)

theorem nodup_targets (plane : ControlPlane) : plane.targets.Nodup :=
  plane.states.nodup.sublist (List.filter_sublist.map Prod.fst)

end ControlPlane

/-- What holds of a control plane in every state of every run: its states replay its
history, which is in the ledger; agents go on as they may; and a ledger write that raises
leaves its agent as it was. -/
structure Sound (plane : ControlPlane) : Prop where
  replayed : Replayed plane
  onward : ∀ first labels later, ((controlSystem first).since plane).Run labels later →
    ∀ agentId, Onward (plane.getState agentId) (later.getState agentId)
  refused : ∀ (turn : ControlTurn) (call : ControlCall) agentId command isValueError,
    call.command = some (agentId, command) → (turn.transitions 0).log = .raises isValueError →
      plane.ledger ≠ none → (call.run turn plane).2 = plane
  spared : ∀ (turn : ControlTurn) operatorId reason index agentId isValueError,
    plane.targets[index]? = some agentId →
    (turn.transitions index).log = .raises isValueError → plane.ledger ≠ none →
      Untouched agentId plane ((ControlCall.killAll operatorId reason).run turn plane).2

theorem refused_of_raises {turn : ControlTurn} {call : ControlCall} {plane : ControlPlane}
    {agentId : Str} {command : ControlCommand} {isValueError : Bool}
    (isCommand : call.command = some (agentId, command))
    (raises : (turn.transitions 0).log = .raises isValueError) (hasLedger : plane.ledger ≠ none) :
    (call.run turn plane).2 = plane := by
  have refused := fun agentId command operatorId reason =>
    @ControlPlane.transition_of_raises plane operatorId reason isValueError (turn.transitions 0)
      agentId command raises hasLedger
  unfold ControlCall.run
  dsimp only
  split
  · cases call with
    | register agentId | killAll operatorId reason => cases isCommand
    | pause agentId operatorId reason | resume agentId operatorId reason
    | revoke agentId operatorId reason =>
        obtain ⟨raised, isError⟩ := refused agentId _ operatorId reason
        exact congrArg Prod.snd isError
    | quarantine agentId operatorId reason =>
        obtain ⟨raised, isError⟩ := refused agentId .quarantine operatorId reason
        dsimp only
        rw [ControlPlane.quarantine, isError]
  · rfl

theorem spared_of_raises {turn : ControlTurn} {plane : ControlPlane} {index : Nat} {agentId : Str}
    {isValueError : Bool} (isTarget : plane.targets[index]? = some agentId)
    (raises : (turn.transitions index).log = .raises isValueError) (hasLedger : plane.ledger ≠ none)
    (operatorId reason : Str) :
    Untouched agentId plane ((ControlCall.killAll operatorId reason).run turn plane).2 := by
  rw [← Nat.zero_add index] at raises
  unfold ControlCall.run
  dsimp only
  split
  · apply ControlPlane.killAll_untouched
    exact ControlPlane.revokeEach_of_raises plane.nodup_targets isTarget raises hasLedger
  · exact .of_same rfl rfl

theorem replayed_of_fresh {plane : ControlPlane} (fresh : plane.Fresh) : Replayed plane := by
  obtain ⟨noStates, noHistory, uncontrolled⟩ := fresh
  constructor
  · intro agentId
    rw [ControlPlane.getState, noStates, noHistory]
    rfl
  · rw [noHistory]
    exact .nil
  · intro entries isLedger
    rw [noHistory, controlEntries]
    apply List.filter_eq_nil_iff.mpr
    intro entry member
    exact mt of_decide_eq_true (uncontrolled entries isLedger entry member)

def sampleControlTurn (raisesFrom : Nat) : ControlTurn where
  transitions count :=
    ⟨.finite .zero, if count < raisesFrom then .appends else .raises false⟩
  denials _ := .works

def sampleLabels : List ControlLabel :=
  [.call (sampleControlTurn 1) (.register (Str.lit "first")),
    .call (sampleControlTurn 1) (.register (Str.lit "second"))]

def freshPlane (queue : Option ApprovalQueue) : ControlPlane :=
  ⟨true, .empty, [], some [], queue⟩

theorem fresh_freshPlane (queue : Option ApprovalQueue) : (freshPlane queue).Fresh := by
  refine ⟨rfl, rfl, ?_⟩
  intro entries isLedger entry member
  cases isLedger
  cases member

def samplePlane : ControlPlane :=
  sampleLabels.foldl ControlLabel.next (freshPlane none)

theorem run_foldl {first : ControlPlane} (fresh : first.Fresh) {labels : List ControlLabel}
    (admissible : ∀ label ∈ labels, label.Admissible) :
    (controlSystem first).Run labels (labels.foldl ControlLabel.next first) := by
  induction labels using List.reverseRecOn with
  | nil => exact .start ⟨rfl, fresh⟩
  | append_singleton front label ih =>
      rw [List.foldl_append]
      have before := ih fun other member => admissible other (List.mem_append_left _ member)
      exact before.step ⟨admissible label (by simp), rfl⟩

theorem run_samplePlane : (controlSystem (freshPlane none)).Run sampleLabels samplePlane := by
  apply run_foldl (fresh_freshPlane none)
  · intro label member
    simp only [sampleLabels, List.mem_cons, List.not_mem_nil, or_false] at member
    rcases member with isLabel | isLabel
    · rw [isLabel]
      trivial
    · rw [isLabel]
      trivial

end SelfConnect.Control
