import SelfConnect.Revocation.Epochs
import SelfConnect.Python.Dict
import SelfConnect.Library.System

namespace SelfConnect.Revocation

open SelfConnect.Python SelfConnect.Library

/-! The sessions of an ACP shim, and the watcher that takes revocations to them. -/

/-- A snapshot that ACP admits. -/
structure RevocationSnapshot extends RevocationState where
  nonneg : 0 ≤ epoch

/-- `acp_snapshot`, once the epoch and the rows have been read. -/
def acpSnapshot (epoch : Int) (rows : List (TargetType × Str)) : Option RevocationSnapshot :=
  if nonneg : 0 ≤ epoch then some ⟨⟨epoch, idsOf .agent rows, idsOf .grant rows⟩, nonneg⟩ else none

namespace RevocationDb

/-- What `SELECT epoch` yields. -/
def readEpoch (db : RevocationDb) : Option Int :=
  (RegistryQuery.selectEpoch.exec db).bind Prod.fst

/-- What `SELECT target_type, target_id` yields. -/
def readRows (db : RevocationDb) : Option (List (TargetType × Str)) :=
  (RegistryQuery.selectRows.exec db).map Prod.fst

/-- What the transaction of a revocation commits, which no other transaction overlaps. -/
def revoke (db : RevocationDb) (targetType : TargetType) (targetId operatorId reason : Str)
    (revokedAt : PyFloat) : RevocationDb :=
  match (RegistryQuery.selectExisting targetType targetId).exec db with
  | some (none, _) =>
      match RegistryQuery.bumpEpoch.exec db with
      | some (some epoch, bumped) =>
          match (RegistryQuery.insertRevocation
            ⟨targetType, targetId, operatorId, reason, revokedAt, epoch⟩).exec bumped with
          | some (_, inserted) => inserted
          | none => db
      | some (none, _) | none => db
  | some (some _, _) | none => db

end RevocationDb

/-- `poll_once` of the watcher, or `refresh_revocations`, which compares no epoch. -/
inductive PollStage
  | reading (watched : Bool) (epoch : Option Int)
  | comparing (snapshot : RevocationSnapshot)
  | applying (watched : Bool) (snapshot : RevocationSnapshot)
  | finishing (snapshot : RevocationSnapshot)

/-- `_prompt` of an agent in a session, from its snapshot on. What it has read is kept with
the number of snapshots that the shim had applied by then. -/
inductive PromptStage
  | reading (sessionId agentId : Str) (epoch : Option Int)
  | verifying (sessionId agentId : Str) (snapshot : RevocationSnapshot) (since : Nat)
  | calling (sessionId agentId : Str) (snapshot : RevocationSnapshot) (since : Nat)

/-- The shim and its watcher beside the registry. The snapshots applied and the epochs of
the polls that have completed are kept in their order. -/
structure ShimWorld where
  registry : RevocationDb
  sessions : Dict Str (Finset Str)
  lastEpoch : Int
  polls : Nat → Option PollStage
  prompts : Nat → Option PromptStage
  applied : List RevocationSnapshot
  observed : List Int

namespace ShimWorld

/-- `apply_revocations`. -/
def applyRevocations (w : ShimWorld) (snapshot : RevocationSnapshot) : ShimWorld :=
  { w with
    sessions := w.sessions.filter fun _ agentIds =>
      decide (agentIds ∩ snapshot.revokedAgentKeyIds = ∅)
    applied := w.applied ++ [snapshot] }

/-- `_sessions.pop(session_id, None)`. -/
def pop (w : ShimWorld) (sessionId : Str) : ShimWorld :=
  { w with sessions := w.sessions.filter fun other _ => other ≠ sessionId }

/-- `agent_ids.add`, where the session is still held. -/
def bindAgent (w : ShimWorld) (sessionId agentId : Str) : ShimWorld :=
  match w.sessions.get? sessionId with
  | some agentIds => { w with sessions := w.sessions.set sessionId (insert agentId agentIds) }
  | none => w

def setPoll (w : ShimWorld) (poll : Nat) (stage : Option PollStage) : ShimWorld :=
  { w with polls := Function.update w.polls poll stage }

def setPrompt (w : ShimWorld) (prompt : Nat) (stage : Option PromptStage) : ShimWorld :=
  { w with prompts := Function.update w.prompts prompt stage }

end ShimWorld

inductive ShimLabel
  | revoke (targetType : TargetType) (targetId operatorId reason : Str) (revokedAt : PyFloat)
  | newSession (sessionId : Str)
  | endSession (sessionId : Str)
  | startPoll (poll : Nat) (watched : Bool)
  | poll (poll : Nat)
  | failPoll (poll : Nat)
  | startPrompt (prompt : Nat) (sessionId agentId : Str)
  | prompt (prompt : Nat) (passes : Bool)
  | failPrompt (prompt : Nat)

namespace ShimWorld

/-- The next step of a poll. A read that finds nothing raises. -/
def stepPoll (w : ShimWorld) (poll : Nat) : PollStage → ShimWorld
  | .reading watched none => w.setPoll poll ((w.registry.readEpoch).map fun epoch =>
      .reading watched (some epoch))
  | .reading watched (some epoch) =>
      w.setPoll poll ((w.registry.readRows.bind (acpSnapshot epoch)).map fun snapshot =>
        if watched then .comparing snapshot else .applying false snapshot)
  | .comparing snapshot =>
      if snapshot.epoch = w.lastEpoch then
        { w.setPoll poll none with observed := w.observed ++ [snapshot.epoch] }
      else w.setPoll poll (some (.applying true snapshot))
  | .applying watched snapshot => (w.applyRevocations snapshot).setPoll poll
      (if watched then some (.finishing snapshot) else none)
  | .finishing snapshot =>
      { w.setPoll poll none with
        lastEpoch := snapshot.epoch
        observed := w.observed ++ [snapshot.epoch] }

/-- The next step of a prompt; `passes` is what the other checks of the delegation say. -/
def stepPrompt (w : ShimWorld) (prompt : Nat) (passes : Bool) : PromptStage → ShimWorld
  | .reading sessionId agentId none =>
      w.setPrompt prompt (w.registry.readEpoch.map fun epoch =>
        .reading sessionId agentId (some epoch))
  | .reading sessionId agentId (some epoch) =>
      w.setPrompt prompt ((w.registry.readRows.bind (acpSnapshot epoch)).map fun snapshot =>
        .verifying sessionId agentId snapshot w.applied.length)
  | .verifying sessionId agentId snapshot since =>
      if agentId ∈ snapshot.revokedAgentKeyIds then (w.pop sessionId).setPrompt prompt none
      else w.setPrompt prompt
        (if passes then some (.calling sessionId agentId snapshot since) else none)
  | .calling sessionId agentId _ _ => (w.bindAgent sessionId agentId).setPrompt prompt none

def step (w : ShimWorld) : ShimLabel → Option ShimWorld
  | .revoke targetType targetId operatorId reason revokedAt => some { w with
      registry := w.registry.revoke targetType targetId operatorId reason revokedAt }
  | .newSession sessionId =>
      if w.sessions.get? sessionId = none then
        some { w with sessions := w.sessions.set sessionId ∅ }
      else none
  | .endSession sessionId => some (w.pop sessionId)
  | .startPoll poll watched =>
      match w.polls poll with
      | none => some (w.setPoll poll (some (.reading watched none)))
      | some _ => none
  | .poll poll => (w.polls poll).map (w.stepPoll poll)
  | .failPoll poll => some (w.setPoll poll none)
  | .startPrompt prompt sessionId agentId =>
      match w.prompts prompt, w.sessions.get? sessionId with
      | none, some _ => some (w.setPrompt prompt (some (.reading sessionId agentId none)))
      | _, _ => none
  | .prompt prompt passes => (w.prompts prompt).map (w.stepPrompt prompt passes)
  | .failPrompt prompt => some (w.setPrompt prompt none)

end ShimWorld

/-- A shim without sessions beside a registry, before its watcher has polled. -/
def ShimWorld.Fresh (w : ShimWorld) : Prop :=
  w.registry.Valid ∧ w.sessions = .empty ∧ w.lastEpoch = -1 ∧ (∀ poll, w.polls poll = none) ∧
    (∀ prompt, w.prompts prompt = none) ∧ w.applied = [] ∧ w.observed = []

def shimSystem : System ShimWorld ShimLabel where
  initial := ShimWorld.Fresh
  next w label t := w.step label = some t

/-- No epoch that a completed poll has observed reaches the revocation of an agent to which
a session is bound. -/
def Enforced (w : ShimWorld) : Prop :=
  ∀ epoch ∈ w.observed, ∀ sessionId agentIds, w.sessions.get? sessionId = some agentIds →
    ∀ agentId ∈ agentIds, ∀ row ∈ w.registry.rows, row.target = (.agent, agentId) →
      epoch < row.epoch

/-- No snapshot that names the agent of a prompt was applied between the prompt's own
snapshot and its binding. -/
def Timely (w : ShimWorld) : ShimLabel → Prop
  | .prompt prompt _ => ∀ sessionId agentId snapshot since,
      w.prompts prompt = some (.calling sessionId agentId snapshot since) →
        ∀ later ∈ w.applied.drop since, agentId ∉ later.revokedAgentKeyIds
  | _ => True

end SelfConnect.Revocation
