import Mathlib.Logic.Function.Basic
import SelfConnect.Library.FairLock
import SelfConnect.Library.System

namespace SelfConnect.Ultra.Boundary

open SelfConnect.Library

/-! `haLockMiddleware` of a node with HA enabled: the advisory lock around the governed requests
and the HA commands, and the response events that end it. -/

inductive Kind
  | governed
  | command
  deriving DecidableEq, Repr

/-- `requireWriterLease` takes the lock in its shared form, `serializeHaTransition` exclusively. -/
def Kind.lockMode : Kind → LockMode
  | .governed => .shared
  | .command => .exclusive

/-- Where the middleware stands with a request; `serving` is inside `waitForResponse`. -/
inductive Stage
  | arrived
  | queued
  | locked
  | asserting (lease : Option Int)
  | serving
  | settled
  | unlocked
  deriving DecidableEq, Repr

/-- The handlers behind the middleware, as one promise. -/
inductive Handler
  | idle
  | running
  | done
  deriving DecidableEq, Repr

structure Exchange where
  stage : Stage
  handler : Handler
  /-- The response was written, flushed, or its connection closed. -/
  sent : Bool
  finished : Bool
  closed : Bool
  scFenceEpoch : Option Int
  deriving DecidableEq, Repr

namespace Exchange

def new : Exchange where
  stage := .arrived
  handler := .idle
  sent := false
  finished := false
  closed := false
  scFenceEpoch := none

/-- `done` of `waitForResponse`, which listens from `serving` on only. -/
def settle (exchange : Exchange) : Exchange :=
  if exchange.stage = .serving then { exchange with stage := .settled } else exchange

def finish (exchange : Exchange) : Exchange := { exchange with finished := true }.settle

def close (exchange : Exchange) : Exchange := { exchange with closed := true }.settle

end Exchange

/-- One node: the epoch of its controller's lease, the transition lock, and its requests. -/
structure Node (Request : Type) where
  lease : Option Int
  lock : FairLock Request
  exchange : Request → Exchange

namespace Node

variable {Request : Type} [DecidableEq Request]

def put (node : Node Request) (r : Request) (exchange : Exchange) : Node Request :=
  { node with exchange := Function.update node.exchange r exchange }

def withLock (node : Node Request) (lock : FairLock Request) : Node Request :=
  { node with lock := lock }

end Node

inductive Action
  | asked
  | locked
  | asserted
  | refused
  | served
  | wrote
  | transitioned (lease : Option Int)
  | responded
  | completed
  | finished
  | closed
  | unlocked
  deriving DecidableEq, Repr

structure NodeLabel (Request : Type) where
  request : Request
  action : Action
  deriving DecidableEq, Repr

variable {Request : Type} [DecidableEq Request]

/-- What the event loop may do next. The answer of `assertWritable` is `ok` for the epoch of the
lease it began with, or a refusal; the handlers are any code that writes to the stores. -/
inductive NodeStep (kind : Request → Kind) :
    Node Request → NodeLabel Request → Node Request → Prop
  | asked {node : Node Request} {r : Request} :
      (node.exchange r).stage = .arrived →
      NodeStep kind node ⟨r, .asked⟩
        ((node.withLock (node.lock.ask r (kind r).lockMode)).put r
          { node.exchange r with stage := .queued })
  | locked {node : Node Request} {r : Request} {lock : FairLock Request} :
      (node.exchange r).stage = .queued → node.lock.Granted r (kind r).lockMode lock →
      NodeStep kind node ⟨r, .locked⟩
        ((node.withLock lock).put r { node.exchange r with stage := .locked })
  | asserted {node : Node Request} {r : Request} :
      kind r = .governed → (node.exchange r).stage = .locked →
      NodeStep kind node ⟨r, .asserted⟩
        (node.put r { node.exchange r with stage := .asserting node.lease })
  | notReady {node : Node Request} {r : Request} :
      kind r = .governed → (node.exchange r).stage = .locked →
      NodeStep kind node ⟨r, .refused⟩
        (node.put r { node.exchange r with stage := .settled, sent := true })
  | fenced {node : Node Request} {r : Request} {lease : Option Int} :
      (node.exchange r).stage = .asserting lease →
      NodeStep kind node ⟨r, .refused⟩
        (node.put r { node.exchange r with stage := .settled, sent := true })
  | admitted {node : Node Request} {r : Request} {epoch : Int} :
      (node.exchange r).stage = .asserting (some epoch) →
      NodeStep kind node ⟨r, .served⟩
        (node.put r { node.exchange r with
          stage := .serving, handler := .running, scFenceEpoch := some epoch })
  | served {node : Node Request} {r : Request} :
      kind r = .command → (node.exchange r).stage = .locked →
      NodeStep kind node ⟨r, .served⟩
        (node.put r { node.exchange r with stage := .serving, handler := .running })
  | wrote {node : Node Request} {r : Request} :
      kind r = .governed → (node.exchange r).handler = .running →
      NodeStep kind node ⟨r, .wrote⟩ node
  | transitioned {node : Node Request} {r : Request} {lease : Option Int} :
      kind r = .command → (node.exchange r).handler = .running →
      NodeStep kind node ⟨r, .transitioned lease⟩ { node with lease := lease }
  | responded {node : Node Request} {r : Request} :
      (node.exchange r).handler = .running →
      NodeStep kind node ⟨r, .responded⟩ (node.put r { node.exchange r with sent := true })
  | completed {node : Node Request} {r : Request} :
      (node.exchange r).handler = .running →
      NodeStep kind node ⟨r, .completed⟩ (node.put r { node.exchange r with handler := .done })
  | finished {node : Node Request} {r : Request} :
      (node.exchange r).sent = true →
      NodeStep kind node ⟨r, .finished⟩ (node.put r (node.exchange r).finish)
  | closed {node : Node Request} {r : Request} :
      NodeStep kind node ⟨r, .closed⟩ (node.put r (node.exchange r).close)
  | unlocked {node : Node Request} {r : Request} :
      (node.exchange r).stage = .settled →
      NodeStep kind node ⟨r, .unlocked⟩
        ((node.withLock (node.lock.release r (kind r).lockMode)).put r
          { node.exchange r with stage := .unlocked })

/-- A node with any lease and no request yet. -/
def boundary (kind : Request → Kind) : System (Node Request) (NodeLabel Request) where
  initial := fun node => node.lock = .free ∧ ∀ r, node.exchange r = .new
  next := NodeStep kind

/-- When an HA command changes the lease, every handler still running holds its lock. -/
def Kept (kind : Request → Kind) (node : Node Request) (label : NodeLabel Request) : Prop :=
  ∀ lease, label.action = .transitioned lease →
    ∀ r, (node.exchange r).handler = .running → (r, (kind r).lockMode) ∈ node.lock.held

/-- A handler behind `requireWriterLease` that is still executing. -/
def Executing (kind : Request → Kind) (node : Node Request) (r : Request) : Prop :=
  kind r = .governed ∧ (node.exchange r).handler = .running

/-- No transition during a governed handler, and so no write of one across a transition. -/
structure Fenced (kind : Request → Kind)
    (system : System (Node Request) (NodeLabel Request)) (node : Node Request) : Prop where
  epoch : ∀ r, Executing kind node r →
    ∃ epoch, (node.exchange r).scFenceEpoch = some epoch ∧ node.lease = some epoch
  exclusive : ∀ r lease after, system.next node ⟨r, .transitioned lease⟩ after →
    ∀ q, ¬ Executing kind node q
  writes : ∀ r after, system.next node ⟨r, .wrote⟩ after →
    ∃ epoch, (node.exchange r).scFenceEpoch = some epoch ∧ node.lease = some epoch

section Steps

variable {kind : Request → Kind} {node after : Node Request} {label : NodeLabel Request}
  {r q : Request}

/-- The middleware of a request is between taking the lock and giving it back. -/
def Exchange.Locked (exchange : Exchange) : Prop :=
  exchange.stage ≠ .arrived ∧ exchange.stage ≠ .queued ∧ exchange.stage ≠ .unlocked

theorem Exchange.settle_handler (exchange : Exchange) :
    exchange.settle.handler = exchange.handler := by
  unfold settle
  split <;> rfl

theorem Exchange.settle_scFenceEpoch (exchange : Exchange) :
    exchange.settle.scFenceEpoch = exchange.scFenceEpoch := by
  unfold settle
  split <;> rfl

theorem Exchange.settle_stage (exchange : Exchange) :
    exchange.settle.stage = exchange.stage ∨
      (exchange.stage = .serving ∧ exchange.settle.stage = .settled) := by
  unfold settle
  split
  · exact .inr ⟨by assumption, rfl⟩
  · exact .inl rfl

theorem exchange_other (step : NodeStep kind node label after) (other : q ≠ label.request) :
    after.exchange q = node.exchange q := by
  cases step with
  | wrote => rfl
  | transitioned => rfl
  | _ => exact Function.update_of_ne other _ _

theorem held_other {mode : LockMode} (step : NodeStep kind node label after)
    (other : q ≠ label.request) (held : (q, mode) ∈ node.lock.held) :
    (q, mode) ∈ after.lock.held := by
  cases step with
  | locked _ granted => exact granted.held ▸ List.mem_cons_of_mem _ held
  | unlocked => exact FairLock.mem_release held other
  | _ => exact held

/-- Only a transition changes the lease. -/
theorem lease_step (step : NodeStep kind node label after)
    (still : ∀ lease, label.action ≠ .transitioned lease) : after.lease = node.lease := by
  cases step with
  | transitioned => exact absurd rfl (still _)
  | _ => rfl

/-- While the transition lock is kept, nothing but its holder changes the lease. -/
structure Guarding (kind : Request → Kind) (node : Node Request) : Prop where
  holds : ∀ r, (node.exchange r).Locked → (r, (kind r).lockMode) ∈ node.lock.held
  asserting : ∀ r lease, (node.exchange r).stage = .asserting lease →
    kind r = .governed ∧ lease = node.lease
  epoch : ∀ r, Executing kind node r →
    ∃ epoch, (node.exchange r).scFenceEpoch = some epoch ∧ node.lease = some epoch

omit [DecidableEq Request] in
theorem not_held_of_transition {lease : Option Int}
    (kept : Kept kind node ⟨r, .transitioned lease⟩) (isCommand : kind r = .command)
    (runs : (node.exchange r).handler = .running) (isGoverned : kind q = .governed) :
    (q, LockMode.shared) ∉ node.lock.held := by
  have exclusive := kept lease rfl r runs
  rw [isCommand] at exclusive
  intro held
  refine FairLock.sole exclusive held ?_
  rintro rfl
  cases isGoverned.symm.trans isCommand

theorem Exchange.locked_of_settle {exchange : Exchange} (locked : exchange.settle.Locked) :
    exchange.Locked := by
  rcases exchange.settle_stage with same | ⟨serving, _⟩
  · exact ⟨same ▸ locked.1, same ▸ locked.2.1, same ▸ locked.2.2⟩
  · simp [Locked, serving]

theorem Exchange.locked_of_finish {exchange : Exchange} (locked : exchange.finish.Locked) :
    exchange.Locked := by
  have within : ({ exchange with finished := true } : Exchange).Locked := locked_of_settle locked
  exact within

theorem Exchange.locked_of_close {exchange : Exchange} (locked : exchange.close.Locked) :
    exchange.Locked := by
  have within : ({ exchange with closed := true } : Exchange).Locked := locked_of_settle locked
  exact within

theorem step_holds (step : NodeStep kind node label after)
    (holds : ∀ r, (node.exchange r).Locked → (r, (kind r).lockMode) ∈ node.lock.held) :
    ∀ r, (after.exchange r).Locked → (r, (kind r).lockMode) ∈ after.lock.held := by
  intro q within
  by_cases own : q = label.request
  · rw [own] at within ⊢
    cases step with
    | asked => simp [Node.put, Node.withLock, Exchange.Locked] at within
    | locked _ granted => exact granted.held ▸ List.mem_cons_self
    | asserted _ stage => exact holds _ (by simp [Exchange.Locked, stage])
    | notReady _ stage => exact holds _ (by simp [Exchange.Locked, stage])
    | fenced stage => exact holds _ (by simp [Exchange.Locked, stage])
    | admitted stage => exact holds _ (by simp [Exchange.Locked, stage])
    | served _ stage => exact holds _ (by simp [Exchange.Locked, stage])
    | wrote => exact holds _ within
    | transitioned => exact holds _ within
    | responded => exact holds _ (by simpa [Node.put, Exchange.Locked] using within)
    | completed => exact holds _ (by simpa [Node.put, Exchange.Locked] using within)
    | finished =>
        simp only [Node.put, Function.update_self] at within
        exact holds _ (Exchange.locked_of_finish within)
    | closed =>
        simp only [Node.put, Function.update_self] at within
        exact holds _ (Exchange.locked_of_close within)
    | unlocked => simp [Node.put, Node.withLock, Exchange.Locked] at within
  · rw [exchange_other step own] at within
    exact held_other step own (holds q within)

theorem step_asserting (step : NodeStep kind node label after) (kept : Kept kind node label)
    (guarding : Guarding kind node) :
    ∀ r lease, (after.exchange r).stage = .asserting lease →
      kind r = .governed ∧ lease = after.lease := by
  intro q lease stage
  by_cases own : q = label.request
  · rw [own] at stage ⊢
    cases step with
    | asserted isGoverned =>
        simp only [Node.put, Function.update_self, Stage.asserting.injEq] at stage
        exact ⟨isGoverned, stage.symm⟩
    | wrote => exact guarding.asserting _ _ stage
    | transitioned isCommand runs =>
        have isGoverned := (guarding.asserting _ _ stage).1
        cases isGoverned.symm.trans isCommand
    | responded =>
        simp only [Node.put, Function.update_self] at stage
        exact guarding.asserting _ _ stage
    | completed =>
        simp only [Node.put, Function.update_self] at stage
        exact guarding.asserting _ _ stage
    | @finished r =>
        simp only [Node.put, Function.update_self] at stage
        rcases ({ node.exchange r with finished := true } : Exchange).settle_stage
          with same | ⟨_, settled⟩
        · exact guarding.asserting _ _ (same.symm.trans stage)
        · cases settled.symm.trans stage
    | @closed r =>
        simp only [Node.put, Function.update_self] at stage
        rcases ({ node.exchange r with closed := true } : Exchange).settle_stage
          with same | ⟨_, settled⟩
        · exact guarding.asserting _ _ (same.symm.trans stage)
        · cases settled.symm.trans stage
    | _ => simp [Node.put, Node.withLock] at stage
  · rw [exchange_other step own] at stage
    obtain ⟨isGoverned, same⟩ := guarding.asserting q lease stage
    refine ⟨isGoverned, same.trans ?_⟩
    by_cases moves : ∃ lease, label.action = .transitioned lease
    · cases step with
      | transitioned isCommand runs =>
          have held := guarding.holds q (by simp [Exchange.Locked, stage])
          rw [isGoverned] at held
          exact absurd held (not_held_of_transition kept isCommand runs isGoverned)
      | _ => simp at moves
    · exact (lease_step step (not_exists.mp moves)).symm

theorem step_epoch (step : NodeStep kind node label after) (kept : Kept kind node label)
    (guarding : Guarding kind node) :
    ∀ r, Executing kind after r →
      ∃ epoch, (after.exchange r).scFenceEpoch = some epoch ∧ after.lease = some epoch := by
  rintro q ⟨isGoverned, runs⟩
  by_cases own : q = label.request
  · rw [own] at runs isGoverned ⊢
    cases step with
    | @admitted r epoch stage =>
        refine ⟨epoch, by simp [Node.put], ?_⟩
        exact (guarding.asserting r (some epoch) stage).2.symm
    | served isCommand => cases isGoverned.symm.trans isCommand
    | transitioned isCommand => cases isGoverned.symm.trans isCommand
    | completed => simp [Node.put] at runs
    | wrote => exact guarding.epoch _ ⟨isGoverned, runs⟩
    | finished =>
        simp only [Node.put, Function.update_self, Exchange.finish, Exchange.settle_handler] at runs
        simpa [Node.put, Exchange.finish, Exchange.settle_scFenceEpoch]
          using guarding.epoch _ ⟨isGoverned, runs⟩
    | closed =>
        simp only [Node.put, Function.update_self, Exchange.close, Exchange.settle_handler] at runs
        simpa [Node.put, Exchange.close, Exchange.settle_scFenceEpoch]
          using guarding.epoch _ ⟨isGoverned, runs⟩
    | _ =>
        simp only [Node.put, Node.withLock, Function.update_self] at runs
        simpa [Node.put, Node.withLock] using guarding.epoch _ ⟨isGoverned, runs⟩
  · rw [exchange_other step own] at runs ⊢
    obtain ⟨epoch, admitted, same⟩ := guarding.epoch q ⟨isGoverned, runs⟩
    refine ⟨epoch, admitted, ?_⟩
    by_cases moves : ∃ lease, label.action = .transitioned lease
    · cases step with
      | @transitioned r lease isCommand commandRuns =>
          have held := kept lease rfl q runs
          rw [isGoverned] at held
          exact absurd held (not_held_of_transition kept isCommand commandRuns isGoverned)
      | _ => simp at moves
    · rw [lease_step step (not_exists.mp moves), same]

theorem guarding_of_run {labels : List (NodeLabel Request)}
    (run : ((boundary kind).under (Kept kind)).Run labels node) : Guarding kind node := by
  have initially (node : Node Request)
      (isNew : node.lock = .free ∧ ∀ r, node.exchange r = .new) : Guarding kind node := by
    refine ⟨fun r within => ?_, fun r lease stage => ?_, fun r executing => ?_⟩
    · simp [isNew.2 r, Exchange.Locked, Exchange.new] at within
    · simp [isNew.2 r, Exchange.new] at stage
    · simp [Executing, isNew.2 r, Exchange.new] at executing
  have preserved (node : Node Request) (label : NodeLabel Request) (after : Node Request)
      (guarding : Guarding kind node)
      (step : Kept kind node label ∧ NodeStep kind node label after) : Guarding kind after :=
    ⟨step_holds step.2 guarding.holds, step_asserting step.2 step.1 guarding,
      step_epoch step.2 step.1 guarding⟩
  exact run.invariant initially preserved

theorem step_exclusive {lease : Option Int}
    (step : NodeStep kind node ⟨r, .transitioned lease⟩ after)
    (kept : Kept kind node ⟨r, .transitioned lease⟩) : ¬ Executing kind node q := by
  rintro ⟨isGoverned, runs⟩
  cases step with
  | transitioned isCommand commandRuns =>
      have held := kept lease rfl q runs
      rw [isGoverned] at held
      exact not_held_of_transition kept isCommand commandRuns isGoverned held

theorem fenced_of_run {labels : List (NodeLabel Request)}
    (run : ((boundary kind).under (Kept kind)).Run labels node) :
    Fenced kind ((boundary kind).under (Kept kind)) node where
  epoch := (guarding_of_run run).epoch
  exclusive := fun _ _ _ step _ => step_exclusive step.2 step.1
  writes := by
    intro r after step
    cases step.2 with
    | wrote isGoverned runs => exact (guarding_of_run run).epoch r ⟨isGoverned, runs⟩

theorem run_cons {labels : List (NodeLabel Request)} {last : Node Request}
    (step : NodeStep kind node label after)
    (run : ((boundary kind).since after).Run labels last) :
    ((boundary kind).since node).Run (label :: labels) last :=
  run.cons step

theorem kept_cons {labels : List (NodeLabel Request)} {last : Node Request}
    (step : NodeStep kind node label after) (kept : Kept kind node label)
    (run : (((boundary kind).under (Kept kind)).since after).Run labels last) :
    (((boundary kind).under (Kept kind)).since node).Run (label :: labels) last :=
  run.cons ⟨kept, step⟩

theorem still_cons {labels : List (NodeLabel Request)} {last : Node Request}
    (step : NodeStep kind node label after)
    (still : ∀ lease, label.action ≠ .transitioned lease)
    (run : (((boundary kind).under (Kept kind)).since after).Run labels last) :
    (((boundary kind).under (Kept kind)).since node).Run (label :: labels) last :=
  kept_cons step (fun lease moves => absurd moves (still lease)) run

end Steps

/-- Request 1 is an HA command. -/
def sampleKind (r : Nat) : Kind := if r = 1 then .command else .governed

def sampleNode : Node Nat where
  lease := some 1
  lock := .free
  exchange := fun _ => .new

/-- The command waits for the governed request to finish. -/
def orderly : List (NodeLabel Nat) :=
  [⟨0, .asked⟩, ⟨0, .locked⟩, ⟨1, .asked⟩, ⟨0, .asserted⟩, ⟨0, .served⟩, ⟨0, .wrote⟩,
    ⟨0, .responded⟩, ⟨0, .completed⟩, ⟨0, .finished⟩, ⟨0, .unlocked⟩, ⟨1, .locked⟩,
    ⟨1, .served⟩, ⟨1, .transitioned (some 2)⟩]

/-- The client of the governed request leaves during the handler. -/
def disconnected : List (NodeLabel Nat) :=
  [⟨0, .asked⟩, ⟨0, .locked⟩, ⟨0, .asserted⟩, ⟨0, .served⟩, ⟨0, .closed⟩, ⟨0, .unlocked⟩,
    ⟨1, .asked⟩, ⟨1, .locked⟩, ⟨1, .served⟩, ⟨1, .transitioned (some 2)⟩]

theorem run_orderly :
    ∃ node, ((boundary sampleKind).under (Kept sampleKind)).Run orderly node := by
  refine ⟨_, .of_since (s := sampleNode) ⟨rfl, fun _ => rfl⟩ <|
    still_cons (.asked rfl) (by simp) <|
    still_cons (.locked rfl (.intro [] [] rfl (by decide))) (by simp) <|
    still_cons (.asked rfl) (by simp) <| still_cons (.asserted rfl rfl) (by simp) <|
    still_cons (.admitted rfl) (by simp) <| still_cons (.wrote rfl rfl) (by simp) <|
    still_cons (.responded rfl) (by simp) <| still_cons (.completed rfl) (by simp) <|
    still_cons (.finished rfl) (by simp) <| still_cons (.unlocked rfl) (by simp) <|
    still_cons (.locked rfl (.intro [] [] rfl (by decide))) (by simp) <|
    still_cons (.served rfl rfl) (by simp) <|
    kept_cons (.transitioned rfl rfl) (fun _ _ r runs => ?_) <| .nil _⟩
  rcases r with _ | _ | r
  · cases runs
  · exact List.mem_cons_self
  · cases runs

theorem fenced_of_run_orderly :
    ∃ node, Fenced sampleKind ((boundary sampleKind).under (Kept sampleKind)) node := by
  obtain ⟨node, run⟩ := run_orderly
  exact ⟨node, fenced_of_run run⟩

theorem not_fenced_after_disconnect :
    ∃ node, (boundary sampleKind).Run disconnected node ∧
      ¬ Fenced sampleKind (boundary sampleKind) node := by
  refine ⟨_, .of_since (s := sampleNode) ⟨rfl, fun _ => rfl⟩ <|
    run_cons (.asked rfl) <| run_cons (.locked rfl (.intro [] [] rfl (by decide))) <|
    run_cons (.asserted rfl rfl) <| run_cons (.admitted rfl) <| run_cons .closed <|
    run_cons (.unlocked rfl) <| run_cons (.asked rfl) <|
    run_cons (.locked rfl (.intro [] [] rfl (by decide))) <| run_cons (.served rfl rfl) <|
    run_cons (.transitioned rfl rfl) <| .nil _, fun fenced => ?_⟩
  obtain ⟨epoch, admitted, same⟩ := fenced.epoch 0 ⟨rfl, rfl⟩
  have isOne : epoch = 1 := (Option.some.inj admitted).symm
  have isTwo : epoch = 2 := (Option.some.inj same).symm
  omega

end SelfConnect.Ultra.Boundary
