import SelfConnect.Python.Dict
import SelfConnect.Python.Value
import SelfConnect.Library.System

namespace SelfConnect.Control

open SelfConnect.Python SelfConnect.Library

inductive AgentState
  | active
  | paused
  | quarantined
  | revoked
  deriving DecidableEq

inductive ControlCommand
  | pause
  | resume
  | quarantine
  | revoke
  deriving DecidableEq

def AgentState.text : AgentState → Str
  | .active => Str.lit "active"
  | .paused => Str.lit "paused"
  | .quarantined => Str.lit "quarantined"
  | .revoked => Str.lit "revoked"

def ControlCommand.text : ControlCommand → Str
  | .pause => Str.lit "pause"
  | .resume => Str.lit "resume"
  | .quarantine => Str.lit "quarantine"
  | .revoke => Str.lit "revoke"

/-- `_TRANSITIONS`. -/
def nextState : AgentState → ControlCommand → Option AgentState
  | .active, .pause => some .paused
  | .active, .quarantine => some .quarantined
  | .active, .revoke => some .revoked
  | .paused, .resume => some .active
  | .paused, .quarantine => some .quarantined
  | .paused, .revoke => some .revoked
  | .quarantined, .revoke => some .revoked
  | _, _ => none

structure AgentControlRecord where
  agentId : Str
  command : ControlCommand
  operatorId : Str
  reason : Str
  prevState : AgentState
  newState : AgentState
  ts : PyFloat

/-- What `log` is called with. -/
structure LedgerEntry where
  action : Str
  result : Str
  metadata : Value

def operatorControl : Str := Str.lit "operator_control"

def AgentControlRecord.entry (record : AgentControlRecord) : LedgerEntry where
  action := operatorControl
  result := Str.lit "agent " ++ record.agentId ++ Str.lit " " ++ record.newState.text
  metadata := .object [
    ("command", .str record.command.text),
    ("subject_agent_id", .str record.agentId),
    ("operator_id", .str record.operatorId),
    ("reason", .str record.reason),
    ("prev_state", .str record.prevState.text),
    ("new_state", .str record.newState.text),
    ("event_ts", .float record.ts)]

inductive ControlError
  | closed
  | notPermitted (command : ControlCommand) (agentId : Str) (state : AgentState)
  | ledger (isValueError : Bool)
  | noDenier
  | denial

def ControlError.isValueError : ControlError → Bool
  | .notPermitted _ _ _ => true
  | .ledger isValueError => isValueError
  | .closed | .noDenier | .denial => false

/-! The approval queue, as far as a drain sees it. -/

inductive ApprovalStatus
  | pending
  | auditPending
  | approved
  | denied
  | consumed
  | expired
  deriving DecidableEq

structure Approval where
  agentId : Str
  status : ApprovalStatus
  operatorId : Str

/-- Whether a denial raises, and then whether it has changed the approval before. -/
inductive DenyTurn
  | works
  | raisesBefore
  | raisesAfter
  deriving DecidableEq

structure ApprovalQueue where
  durable : Bool
  /-- `_system_deny` is set. -/
  denier : Bool
  approvals : Dict Str Approval

namespace ApprovalQueue

/-- `get_pending`. -/
def getPending (queue : ApprovalQueue) : List (Str × Approval) :=
  queue.approvals.entries.filter fun entry => entry.2.status = .pending

def put (queue : ApprovalQueue) (approvalId : Str) (approval : Approval) : ApprovalQueue :=
  { queue with approvals := queue.approvals.set approvalId approval }

/-- `OperatorQueue.deny` and `_deny_for_system_safety`. The durable queue stages the
denial and then records it; the other one changes the status and then reads its clock. -/
def systemDeny (turn : DenyTurn) (approvalId operatorId : Str) (queue : ApprovalQueue) :
    Except ControlError Bool × ApprovalQueue :=
  match turn with
  | .raisesBefore => (.error .denial, queue)
  | .works | .raisesAfter =>
      match queue.approvals.get? approvalId with
      | none => (.ok false, queue)
      | some approval =>
          if approval.status = .pending then
            let leave status := queue.put approvalId ⟨approval.agentId, status, operatorId⟩
            if turn = .works then (.ok true, leave .denied)
            else (.error .denial, leave (if queue.durable then .auditPending else .denied))
          else (.ok false, queue)

/-- The loop of both drains. -/
def denyEach (turns : Nat → DenyTurn) (operatorId : Str) :
    Nat → List Str → ApprovalQueue → Except ControlError Nat × ApprovalQueue
  | count, [], queue => (.ok count, queue)
  | count, approvalId :: rest, queue =>
      if queue.denier then
        match queue.systemDeny (turns count) approvalId operatorId with
        | (.ok _, changed) => denyEach turns operatorId (count + 1) rest changed
        | (.error raised, changed) => (.error raised, changed)
      else (.error .noDenier, queue)

/-- `_drain_queue`. -/
def drain (turns : Nat → DenyTurn) (agentId operatorId : Str) (queue : ApprovalQueue) :
    Except ControlError Nat × ApprovalQueue :=
  queue.denyEach turns (Str.lit "system/quarantine:" ++ operatorId) 0
    ((queue.getPending.filter fun entry => entry.2.agentId = agentId).map Prod.fst)

/-- `_drain_all_queue`. -/
def drainAll (turns : Nat → DenyTurn) (operatorId : Str) (queue : ApprovalQueue) :
    Except ControlError Nat × ApprovalQueue :=
  queue.denyEach turns (Str.lit "system/kill_all:" ++ operatorId) 0
    (queue.getPending.map Prod.fst)

end ApprovalQueue

/-! The control plane. -/

inductive LogTurn
  | appends
  | raises (isValueError : Bool)

structure TransitionTurn where
  ts : PyFloat
  log : LogTurn

/-- What the surroundings do during one call. -/
structure ControlTurn where
  transitions : Nat → TransitionTurn
  denials : Nat → DenyTurn

/-- A control plane with the ledger and the queue it was given, if any. -/
structure ControlPlane where
  accepting : Bool
  states : Dict Str AgentState
  history : List AgentControlRecord
  ledger : Option (List LedgerEntry)
  queue : Option ApprovalQueue

namespace ControlPlane

/-- `get_state`. -/
def getState (plane : ControlPlane) (agentId : Str) : AgentState :=
  plane.states.getD agentId .active

/-- `_log`: the entries of the ledger afterwards. -/
def log (turn : LogTurn) (record : AgentControlRecord) (plane : ControlPlane) :
    Except ControlError (Option (List LedgerEntry)) :=
  match plane.ledger with
  | none => .ok none
  | some entries =>
      match turn with
      | .appends => .ok (some (entries ++ [record.entry]))
      | .raises isValueError => .error (.ledger isValueError)

/-- `_transition`. -/
def transition (turn : TransitionTurn) (agentId : Str) (command : ControlCommand)
    (operatorId reason : Str) (plane : ControlPlane) :
    Except ControlError AgentControlRecord × ControlPlane :=
  let prev := plane.getState agentId
  match nextState prev command with
  | none => (.error (.notPermitted command agentId prev), plane)
  | some new =>
      let record : AgentControlRecord :=
        ⟨agentId, command, operatorId, reason, prev, new, turn.ts⟩
      match plane.log turn.log record with
      | .error raised => (.error raised, plane)
      | .ok ledger => (.ok record, { plane with
          ledger
          states := plane.states.set agentId new
          history := plane.history ++ [record] })

def register (agentId : Str) (plane : ControlPlane) : ControlPlane :=
  if agentId ∈ plane.states.keys then plane
  else { plane with states := plane.states.set agentId .active }

def quarantine (turn : ControlTurn) (agentId operatorId reason : Str) (plane : ControlPlane) :
    Except ControlError AgentControlRecord × ControlPlane :=
  match plane.transition (turn.transitions 0) agentId .quarantine operatorId reason with
  | (.error raised, changed) => (.error raised, changed)
  | (.ok record, changed) =>
      match changed.queue with
      | none => (.ok record, changed)
      | some queue =>
          let drained := queue.drain turn.denials agentId operatorId
          (drained.1.map fun _ => record, { changed with queue := some drained.2 })

/-- The loop of `kill_all`. -/
def revokeEach (turns : Nat → TransitionTurn) (operatorId reason : Str) :
    Nat → List Str → ControlPlane → Except ControlError (List AgentControlRecord) × ControlPlane
  | _, [], plane => (.ok [], plane)
  | count, agentId :: rest, plane =>
      match plane.transition (turns count) agentId .revoke operatorId reason with
      | (.ok record, changed) =>
          let revoked := revokeEach turns operatorId reason (count + 1) rest changed
          (revoked.1.map (record :: ·), revoked.2)
      | (.error raised, changed) =>
          if raised.isValueError then
            revokeEach turns operatorId reason (count + 1) rest changed
          else (.error raised, changed)

/-- The registered agents that are not revoked. -/
def targets (plane : ControlPlane) : List Str :=
  (plane.states.entries.filter fun entry => entry.2 ≠ .revoked).map Prod.fst

def killAll (turn : ControlTurn) (operatorId reason : Str) (plane : ControlPlane) :
    Except ControlError (List AgentControlRecord) × ControlPlane :=
  match plane.revokeEach turn.transitions operatorId reason 0 plane.targets with
  | (.error raised, changed) => (.error raised, changed)
  | (.ok records, changed) =>
      match changed.queue with
      | none => (.ok records, changed)
      | some queue =>
          if records.isEmpty then (.ok records, changed)
          else
            let drained := queue.drainAll turn.denials operatorId
            (drained.1.map fun _ => records, { changed with queue := some drained.2 })

end ControlPlane

inductive ControlCall
  | register (agentId : Str)
  | pause (agentId operatorId reason : Str)
  | resume (agentId operatorId reason : Str)
  | quarantine (agentId operatorId reason : Str)
  | revoke (agentId operatorId reason : Str)
  | killAll (operatorId reason : Str)

/-- `@governed_operation`: a closed runtime admits no operation. -/
def ControlCall.run (turn : ControlTurn) (plane : ControlPlane) (call : ControlCall) :
    Except ControlError (List AgentControlRecord) × ControlPlane :=
  let single (outcome : Except ControlError AgentControlRecord × ControlPlane) :=
    (outcome.1.map ([·]), outcome.2)
  if plane.accepting then
    match call with
    | .register agentId => (.ok [], plane.register agentId)
    | .pause agentId operatorId reason =>
        single (plane.transition (turn.transitions 0) agentId .pause operatorId reason)
    | .resume agentId operatorId reason =>
        single (plane.transition (turn.transitions 0) agentId .resume operatorId reason)
    | .quarantine agentId operatorId reason =>
        single (plane.quarantine turn agentId operatorId reason)
    | .revoke agentId operatorId reason =>
        single (plane.transition (turn.transitions 0) agentId .revoke operatorId reason)
    | .killAll operatorId reason => plane.killAll turn operatorId reason
  else (.error .closed, plane)

/-- A call of the control plane, or what the rest of the runtime does to the ledger, to the
queue and to the lifetime they share. -/
inductive ControlLabel
  | call (turn : ControlTurn) (request : ControlCall)
  | logs (entry : LedgerEntry)
  | decides (approvals : Dict Str Approval)
  | closes

def ControlLabel.next (plane : ControlPlane) : ControlLabel → ControlPlane
  | .call turn request => (request.run turn plane).2
  | .logs entry => { plane with ledger := plane.ledger.map (· ++ [entry]) }
  | .decides approvals =>
      { plane with queue := plane.queue.map fun queue => { queue with approvals } }
  | .closes => { plane with accepting := false }

/-- Entries of operator control are the control plane's own. -/
def ControlLabel.Admissible : ControlLabel → Prop
  | .logs entry => entry.action ≠ operatorControl
  | .call _ _ | .decides _ | .closes => True

/-- A new control plane over a ledger in which nothing was controlled yet. -/
def ControlPlane.Fresh (plane : ControlPlane) : Prop :=
  plane.states = .empty ∧ plane.history = [] ∧
    ∀ entries, plane.ledger = some entries → ∀ entry ∈ entries, entry.action ≠ operatorControl

def controlSystem (first : ControlPlane) : System ControlPlane ControlLabel where
  initial plane := plane = first ∧ first.Fresh
  next plane label t := label.Admissible ∧ t = label.next plane

end SelfConnect.Control
