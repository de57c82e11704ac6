import Mathlib.Logic.Function.Basic
import SelfConnect.Js.Json
import SelfConnect.Library.CallPaths
import SelfConnect.Library.Outcomes

namespace SelfConnect.Ultra.Controller

open SelfConnect.Js SelfConnect.Library SelfConnect.Library.Calls

/-! `UltraHaController`: signed commands, the lease in memory and the fence of the cluster. -/

inductive Role
  | primary
  | replica
  deriving DecidableEq, Repr

inductive CommandName
  | activate
  | promote
  | demote
  deriving DecidableEq, Repr

structure Config where
  clusterId : Text
  nodeId : Text
  role : Role
  maxCommandAgeMs : Int
  maxLeaseMs : Int
  minLeaseRemainingMs : Int

/-- A body that has passed `commandShapeError`. -/
structure Command where
  command : CommandName
  commandId : Text
  nodeId : Text
  clusterId : Text
  fenceEpoch : Int
  issuedAt : Int
  expiresAt : Int
  actor : Text
  reason : Option Text
  signature : Text
  deriving DecidableEq

def allowedCommandFields : List Text :=
  ["by", "clusterId", "command", "commandId", "expiresAt", "fenceEpoch", "issuedAt", "nodeId",
    "reason", "signature"].map text

def commandName? (name : Text) : Option CommandName :=
  if name = text "activate" then some .activate
  else if name = text "promote" then some .promote
  else if name = text "demote" then some .demote
  else none

/-- `/^[A-Za-z0-9_.:-]{8,128}$/` -/
def isCommandId (value : Text) : Bool := matchesRun isIdentifierUnit 8 128 value

/-- `/^[A-Za-z0-9_-]{43}$/` -/
def isSignature (value : Text) : Bool :=
  matchesRun (fun u => isUpper u || isLower u || isDigit u || (text "_-").contains u) 43 43 value

def reason? : Option Json → Option (Option Text)
  | none => some none
  | some (.str reason) => if reason.length ≤ 1024 then some (some reason) else none
  | some _ => none

/-- The error of a body, or the command that it is. -/
def commandShapeError (value : Json) : Except String Command := do
  let members ← present value.members? "invalid_body"
  insist (members.all fun member => allowedCommandFields.contains member.1)
    "unexpected_command_field"
  let command ← present ((value.getStr? "command").bind commandName?) "invalid_command"
  let commandId ← present ((value.getStr? "commandId").filter isCommandId) "invalid_command_id"
  let nodeId ← present ((value.getStr? "nodeId").filter isIdentifier) "invalid_node_id"
  let clusterId ← present ((value.getStr? "clusterId").filter isIdentifier) "invalid_cluster_id"
  let fenceEpoch ← present ((value.getSafeInteger? "fenceEpoch").filter (1 ≤ ·))
    "invalid_fence_epoch"
  let issuedAt ← present (value.getSafeInteger? "issuedAt") "invalid_time"
  let expiresAt ← present (value.getSafeInteger? "expiresAt") "invalid_time"
  let actor ← present ((value.getStr? "by").filter fun actor =>
    1 ≤ actor.length && actor.length ≤ 128) "invalid_actor"
  let reason ← present (reason? (value.get? "reason")) "invalid_reason"
  let signature ← present ((value.getStr? "signature").filter isSignature) "invalid_signature"
  return { command, commandId, nodeId, clusterId, fenceEpoch, issuedAt, expiresAt, actor, reason,
           signature }

/-- What a claim gives the fence store. -/
structure Holder where
  nodeId : Text
  fenceEpoch : Int
  expiresAt : Int
  commandId : Text
  deriving DecidableEq

/-- A store that claims epochs in ascending order only. Its claims, the last one first, and
whether the last one is active still. -/
structure Fence where
  claims : List Holder
  active : Bool
  ascending : claims.Pairwise fun later earlier => earlier.fenceEpoch < later.fenceEpoch

namespace Fence

def current (fence : Fence) : Option (Holder × Bool) :=
  fence.claims.head?.map fun holder => (holder, fence.active)

def claim (fence : Fence) (holder : Holder) : Option Fence :=
  if newer : ∀ earlier ∈ fence.claims, earlier.fenceEpoch < holder.fenceEpoch then
    some { claims := holder :: fence.claims, active := true,
           ascending := .cons newer fence.ascending }
  else none

def lapse (fence : Fence) : Fence := { fence with active := false }

/-- Whether the active holder is this one. -/
def heldBy (fence : Fence) (nodeId : Text) (fenceEpoch : Int) (commandId : Text) : Bool :=
  match fence.current with
  | some (holder, active) =>
      active && holder.nodeId = nodeId && holder.fenceEpoch = fenceEpoch &&
        holder.commandId = commandId
  | none => false

def release (fence : Fence) (nodeId : Text) (fenceEpoch : Int) (commandId : Text) :
    Option Fence :=
  if fence.heldBy nodeId fenceEpoch commandId then some fence.lapse else none

end Fence

/-- The fence store, and the lease that each controller has in memory. -/
structure Shared (Instance : Type) where
  fence : Fence
  lease : Instance → Option Command

inductive Request (Instance : Type)
  | now
  | lease (self : Instance)
  | setLease (self : Instance) (lease : Option Command)
  | current
  | claim (holder : Holder)
  | release (nodeId : Text) (fenceEpoch : Int) (commandId : Text)

/-- The store's answers are `none` where the call throws. -/
def Response {Instance : Type} : Request Instance → Type
  | .now => Int
  | .lease _ => Option Command
  | .setLease _ _ => Unit
  | .current => Option (Option (Holder × Bool))
  | .claim _ => Option Bool
  | .release _ _ _ => Option Bool

/-- What the clock shows, and what the store does of its own: the holder may lapse first, the
store may refuse, and its answer may be lost. -/
structure Choice where
  clock : Int
  lapses : Bool
  refuses : Bool
  lost : Bool

def answered (choice : Choice) {α : Type} (answer : α) : Option α :=
  if choice.lost then none else some answer

variable {Instance Ticket : Type} [DecidableEq Instance]

namespace Shared

def settle (s : Shared Instance) (choice : Choice) : Shared Instance :=
  if choice.lapses then { s with fence := s.fence.lapse } else s

/-- A claim or release that the store performs, or refuses. -/
def perform (s : Shared Instance) (choice : Choice) (change : Fence → Option Fence) :
    Option Bool × Shared Instance :=
  match if choice.refuses then none else change (s.settle choice).fence with
  | some fence => (answered choice true, { s with fence := fence })
  | none => (answered choice false, s.settle choice)

end Shared

def serve : Serve Ticket Choice (Shared Instance) (@Response Instance) :=
  fun choice _ s request =>
    match request with
    | .now => (choice.clock, s)
    | .lease self => (s.lease self, s)
    | .setLease self lease => ((), { s with lease := Function.update s.lease self lease })
    | .current => (answered choice (s.settle choice).fence.current, s.settle choice)
    | .claim holder => s.perform choice fun fence => fence.claim holder
    | .release nodeId fenceEpoch commandId =>
        s.perform choice fun fence => fence.release nodeId fenceEpoch commandId

abbrev Program (Instance α : Type) := Script (@Response Instance) α

inductive Assertion
  | ok (fenceEpoch : Int)
  | refused (status : Nat) (error : String)
  deriving DecidableEq

def notWritable : Assertion := .refused 503 "writer_lease_missing_stale_or_fenced"

/-- The comparison of the store's record with the lease, up to its last clause. -/
def records (config : Config) (lease : Command) (current : Holder × Bool) : Bool :=
  current.2 && current.1.nodeId = config.nodeId && current.1.fenceEpoch = lease.fenceEpoch &&
    current.1.commandId = lease.commandId && current.1.expiresAt = lease.expiresAt

def compareLease (config : Config) (lease : Command) :
    Option (Option (Holder × Bool)) → Program Instance Assertion
  | some (some current) =>
      if records config lease current then do
        let now : Int ← Script.request Request.now
        if now < current.1.expiresAt then pure (.ok lease.fenceEpoch) else pure notWritable
      else pure notWritable
  | _ => pure notWritable

def assertLease (config : Config) (minRemainingMs : Int) :
    Option Command → Program Instance Assertion
  | none => pure notWritable
  | some lease => do
      let now : Int ← Script.request Request.now
      if lease.expiresAt - now < minRemainingMs then pure notWritable
      else do
        let current ← Script.request Request.current
        compareLease config lease current

def assertWritable (config : Config) (self : Instance) (minRemainingMs : Int) :
    Program Instance Assertion := do
  let lease ← Script.request (Request.lease self)
  if isSafeInteger minRemainingMs = false ∨ minRemainingMs < 0 then pure notWritable
  else assertLease config minRemainingMs lease

def Assertion.isOk : Assertion → Bool
  | .ok _ => true
  | .refused _ _ => false

structure Snapshot where
  acceptingWrites : Bool
  clusterId : Text
  fenceEpoch : Option Int
  leaseExpiresAt : Option Int
  leaseRemainingMs : Option Int
  nodeId : Text
  role : Role
  writable : Bool
  deriving DecidableEq

def Assertion.epochOr (lease : Option Command) : Assertion → Option Int
  | .ok fenceEpoch => some fenceEpoch
  | .refused _ _ => lease.map (·.fenceEpoch)

def leaseRemaining : Option Command → Program Instance (Option Int)
  | none => pure none
  | some lease => do
      let now : Int ← Script.request Request.now
      pure (some (max 0 (lease.expiresAt - now)))

def snapshot (config : Config) (self : Instance) : Program Instance Snapshot := do
  let writable ← assertWritable config self 0
  let accepting ← assertWritable config self config.minLeaseRemainingMs
  let lease ← Script.request (Request.lease self)
  let remaining ← leaseRemaining lease
  pure {
    acceptingWrites := accepting.isOk
    clusterId := config.clusterId
    fenceEpoch := writable.epochOr lease
    leaseExpiresAt := lease.map (·.expiresAt)
    leaseRemainingMs := remaining
    nodeId := config.nodeId
    role := config.role
    writable := writable.isOk }

inductive Outcome
  | refused (status : Nat) (error : String)
  | applied (snapshot : Snapshot)
  deriving DecidableEq

def freshnessError (config : Config) (now : Int) (command : Command) : Option String :=
  if now < command.issuedAt ∨ config.maxCommandAgeMs < now - command.issuedAt then
    some "command_stale"
  else if command.expiresAt ≤ now ∨ config.maxLeaseMs < command.expiresAt - command.issuedAt then
    some "invalid_lease_window"
  else if command.expiresAt - now < config.minLeaseRemainingMs then
    some "lease_window_too_short"
  else none

def expectedCommand : Role → CommandName
  | .primary => .activate
  | .replica => .promote

/-- The new lease, once the store has answered. -/
def keepLease (config : Config) (self : Instance) (lease : Option Command) (refusal : String) :
    Option Bool → Program Instance Outcome
  | none => pure (.refused 503 "fencing_authority_unavailable")
  | some false => pure (.refused 409 refusal)
  | some true => do
      let _ ← Script.request (Request.setLease self lease)
      let taken ← snapshot config self
      pure (.applied taken)

def releaseLease (config : Config) (self : Instance) (command : Command) :
    Option Command → Program Instance Outcome
  | none => pure (.refused 409 "lease_mismatch")
  | some lease =>
      if lease.fenceEpoch ≠ command.fenceEpoch then pure (.refused 409 "lease_mismatch")
      else do
        let released ←
          Script.request (Request.release config.nodeId lease.fenceEpoch lease.commandId)
        keepLease config self none "fence_release_failed" released

def demote (config : Config) (self : Instance) (command : Command) :
    Program Instance Outcome := do
  let lease ← Script.request (Request.lease self)
  releaseLease config self command lease

def holderOf (config : Config) (command : Command) : Holder where
  nodeId := config.nodeId
  fenceEpoch := command.fenceEpoch
  expiresAt := command.expiresAt
  commandId := command.commandId

def claim (config : Config) (self : Instance) (command : Command) : Program Instance Outcome := do
  let claimed ← Script.request (Request.claim (holderOf config command))
  keepLease config self (some command) "fence_epoch_not_monotonic" claimed

def applyFresh (config : Config) (self : Instance) (command : Command) :
    Option String → Program Instance Outcome
  | some error => pure (.refused 401 error)
  | none =>
      if command.command = .demote then demote config self command
      else if command.command = expectedCommand config.role then claim config self command
      else pure (.refused 409 "wrong_command_for_role")

/-- `verify` is `verifyGuardCommandSignature` under the guard's secret. -/
def applyCommand (config : Config) (verify : Json → Bool) (self : Instance) (body : Json) :
    Program Instance Outcome :=
  match commandShapeError body with
  | .error error => pure (.refused 400 error)
  | .ok command =>
      if verify body = false then pure (.refused 401 "signature_invalid")
      else if command.clusterId ≠ config.clusterId ∨ command.nodeId ≠ config.nodeId then
        pure (.refused 409 "wrong_cluster_or_node")
      else do
        let now : Int ← Script.request Request.now
        applyFresh config self command (freshnessError config now command)

inductive Method
  | applyCommand (body : Json)
  | assertWritable (minRemainingMs : Int)
  | isWritable
  | snapshot

structure Call (Instance : Type) where
  self : Instance
  method : Method

inductive Result
  | outcome (outcome : Outcome)
  | assertion (assertion : Assertion)
  | writable (writable : Bool)
  | snapshot (snapshot : Snapshot)
  deriving DecidableEq

def program (config : Instance → Config) (verify : Json → Bool) (call : Call Instance) :
    Program Instance Result :=
  match call.method with
  | .applyCommand body => do
      let outcome ← applyCommand (config call.self) verify call.self body
      pure (.outcome outcome)
  | .assertWritable minRemainingMs => do
      let assertion ← assertWritable (config call.self) call.self minRemainingMs
      pure (.assertion assertion)
  | .isWritable => do
      let assertion ← assertWritable (config call.self) call.self 0
      pure (.writable assertion.isOk)
  | .snapshot => do
      let taken ← snapshot (config call.self) call.self
      pure (.snapshot taken)

end SelfConnect.Ultra.Controller
