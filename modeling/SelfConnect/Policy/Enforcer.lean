import SelfConnect.Labels
import SelfConnect.Control.Plane
import SelfConnect.Policy.Composition
import SelfConnect.Python.Codec

namespace SelfConnect.Policy

open SelfConnect.Python SelfConnect.Python.Json SelfConnect.Ledger SelfConnect.Control

/-! Policy bundles, the classified profile, and the gates of `check` in their order. -/

structure AgentPolicy where
  allowedTargets : List Str
  allowedApps : List Str
  blockedApps : List Str
  allowedActions : List Str
  requiresOperatorApproval : List Str
  maxClassification : Str
  revoked : Bool

structure PolicyBundle where
  raw : Members
  policyId : Str
  signedByPub : Str
  sig : Str
  validFrom : PyFloat
  validUntil : Option PyFloat
  agents : Dict Str AgentPolicy

namespace PolicyBundle

variable (bundle : PolicyBundle)

/-- `to_signable_bytes`. -/
def toSignableBytes : Option Bytes :=
  (dumpsSorted .compact (.dict (Members.erase (Str.lit "signed_by_pub")
    (Members.erase (Str.lit "sig") bundle.raw)))).map encode

def isTimeValid (now : PyFloat) : Bool :=
  !(Number.ofFloat now).lt (Number.ofFloat bundle.validFrom) &&
    bundle.validUntil.all fun valid_until =>
      !(Number.ofFloat valid_until).lt (Number.ofFloat now)

end PolicyBundle

/-- The verifiers of the two schemes: data, signature and key. -/
structure Schemes where
  ed25519 : Bytes → Bytes → Bytes → Bool
  p384 : Bytes → Bytes → Bytes → Bool

def verifyPolicySignature (schemes : Schemes) (bundle : PolicyBundle) (pubKey : Bytes) : Bool :=
  match fromHex bundle.sig, bundle.toSignableBytes with
  | some signature, some data =>
      if bundle.sig.isEmpty then false
      else if pubKey.length = 32 then schemes.ed25519 data signature pubKey
      else if pubKey.length = 96 then schemes.p384 data signature pubKey
      else false
  | _, _ => false

structure ClassifiedModeProfile where
  maxClassification : Classification
  allowedCaveats : List Str
  requireCngIdentity : Bool
  requireSignedPolicy : Bool
  requireOperatorApprovalFor : List Str
  allowedApps : List Str
  blockedApps : List Str
  profileId : Str

inductive ApprovalMode
  | autonomous
  | humanApproved
  | denied
  | quarantined
  | paused
  | revoked
  | compositionDenied
  deriving DecidableEq

structure PolicyDecision where
  allowed : Bool
  reason : Str
  requiresApproval : Bool
  policyId : Str
  classification : Str
  approvalMode : ApprovalMode
  agentId : Str
  action : Str

structure CheckRequest where
  agentId : Str
  action : Str
  targetAgent : Option Str
  app : Option Str
  classification : Str
  label : Option LabelEnvelope
  identityType : Str

/-- What a check meets: the control plane as it stands, the clock as it is read for the
time window and by the monitor, and whether the ledger raises. -/
structure CheckTurn where
  plane : ControlPlane
  policyNow : PyFloat
  monitorNow : PyFloat
  logRaises : Bool

/-- An enforcer. Whether it has a control plane and a ledger is all that is kept of these
here; the bundle and the roots of trust never change, and so neither does the verdict on
the signature, which is cached. -/
structure PolicyEnforcer where
  policy : PolicyBundle
  trustRootPub : Option Bytes
  requireSig : Bool
  controlled : Bool
  profile : Option ClassifiedModeProfile
  compositionMonitor : Option CompositionMonitor
  ledgered : Bool

/-- A check is refused with a decision, or it raises. -/
inductive Refusal
  | denied (reason : Str) (mode : ApprovalMode)
  | raised

def demand (condition : Bool) (reason : Str) (mode : ApprovalMode) : Except Refusal Unit :=
  if condition then .ok () else .error (.denied reason mode)

section Gates

variable (schemes : Schemes) (upper repr : Str → Str)

/-- The classification that counts. -/
def CheckRequest.effectiveClassification (request : CheckRequest) : Str :=
  match request.label with
  | some label => Str.lit label.classification.name
  | none => request.classification

def CheckRequest.effectiveRank (request : CheckRequest) : Option Nat :=
  match request.label with
  | some label => some label.classification.rank
  | none => rankOf upper request.classification

def controlGate (state : AgentState) (agentId : Str) : Except Refusal Unit :=
  match state with
  | .active => .ok ()
  | .paused =>
      .error (.denied (Str.lit "agent " ++ repr agentId ++ Str.lit " is paused by operator")
        .paused)
  | .quarantined =>
      .error (.denied (Str.lit "agent " ++ repr agentId ++ Str.lit " is quarantined by operator")
        .quarantined)
  | .revoked =>
      .error (.denied (Str.lit "agent " ++ repr agentId ++ Str.lit " has been revoked") .revoked)

def ClassifiedModeProfile.gates (profile : ClassifiedModeProfile) (rank : Nat)
    (request : CheckRequest) : Except Refusal Unit := do
  demand (rank ≤ profile.maxClassification.rank)
    (Str.lit "classification " ++ repr request.effectiveClassification ++
      Str.lit " exceeds profile ceiling " ++ repr (Str.lit profile.maxClassification.name)) .denied
  demand (!profile.requireCngIdentity || request.identityType = Str.lit "cng")
    (Str.lit "profile " ++ repr profile.profileId ++
      Str.lit " requires CNG identity; identity_type " ++ repr request.identityType ++
      Str.lit " rejected for agent " ++ repr request.agentId ++
      Str.lit " (only 'cng' is accepted)") .denied
  demand (request.app.all fun app => !profile.blockedApps.contains app)
    (Str.lit "app " ++ repr (request.app.getD []) ++ Str.lit " is blocked by classified profile " ++
      repr profile.profileId) .denied
  demand (request.app.all fun app =>
      profile.allowedApps.isEmpty || profile.allowedApps.contains app)
    (Str.lit "app " ++ repr (request.app.getD []) ++
      Str.lit " is not in allowed_apps for profile " ++ repr profile.profileId) .denied

/-- `_verify_sig`. -/
def PolicyEnforcer.verifySig (enforcer : PolicyEnforcer) : Bool :=
  let embedded : Option Bytes :=
    if enforcer.policy.signedByPub.isEmpty then none else fromHex enforcer.policy.signedByPub
  match enforcer.trustRootPub.or embedded with
  | some pub => !enforcer.policy.sig.isEmpty && verifyPolicySignature schemes enforcer.policy pub
  | none => false

/-- The agent, which has to be registered. -/
def registered (policy : PolicyBundle) (agentId : Str) : Except Refusal AgentPolicy :=
  match policy.agents.get? agentId with
  | some agent => .ok agent
  | none =>
      .error (.denied (Str.lit "agent " ++ repr agentId ++ Str.lit " not registered in policy " ++
        repr policy.policyId) .denied)

/-- `rank(level)` where it is not caught. -/
def rankOrRaise (level : Str) : Except Refusal Nat :=
  match rankOf upper level with
  | some rank => .ok rank
  | none => .error .raised

/-- `{strings!r}` of a list. -/
def reprStrings (strings : List Str) : Str :=
  Str.lit "[" ++ ((strings.map repr).intersperse (Str.lit ", ")).flatten ++ Str.lit "]"

def AgentPolicy.gates (agent : AgentPolicy) (policy : PolicyBundle) (now : PyFloat)
    (signed : Bool) (rank : Nat) (request : CheckRequest) : Except Refusal Unit := do
  demand (!agent.revoked)
    (Str.lit "agent " ++ repr request.agentId ++ Str.lit " is revoked") .quarantined
  demand (policy.isTimeValid now)
    (Str.lit "policy " ++ repr policy.policyId ++ Str.lit " is outside its valid time window")
    .denied
  demand signed
    (Str.lit "policy " ++ repr policy.policyId ++ Str.lit " signature invalid or missing") .denied
  demand (request.targetAgent.all fun target =>
      agent.allowedTargets.isEmpty || agent.allowedTargets.contains target)
    (Str.lit "target " ++ repr (request.targetAgent.getD []) ++
      Str.lit " not in allowed_targets for " ++ repr request.agentId) .denied
  demand (request.app.all fun app => !agent.blockedApps.contains app)
    (Str.lit "app " ++ repr (request.app.getD []) ++ Str.lit " is explicitly blocked for " ++
      repr request.agentId) .denied
  demand (request.app.all fun app => agent.allowedApps.isEmpty || agent.allowedApps.contains app)
    (Str.lit "app " ++ repr (request.app.getD []) ++ Str.lit " not in allowed_apps for " ++
      repr request.agentId) .denied
  demand (agent.allowedActions.contains request.action)
    (Str.lit "action " ++ repr request.action ++ Str.lit " not in allowed_actions for " ++
      repr request.agentId) .denied
  let ceiling ← rankOrRaise upper agent.maxClassification
  demand (rank ≤ ceiling)
    (Str.lit "classification " ++ repr request.effectiveClassification ++ Str.lit " exceeds max " ++
      repr agent.maxClassification ++ Str.lit " for " ++ repr request.agentId) .denied
  demand (request.label.all validateLabel)
    (Str.lit "label for agent " ++ repr request.agentId ++ Str.lit " contains invalid caveats: " ++
      reprStrings repr (sortStrings ((request.label.elim [] LabelEnvelope.caveats).filter
        fun caveat => !allowedCaveats.contains caveat))) .denied

namespace PolicyEnforcer

variable (enforcer : PolicyEnforcer) (turn : CheckTurn) (request : CheckRequest)

/-- The rank of the classification that counts. -/
def ranked : Except Refusal Nat :=
  match request.effectiveRank upper with
  | some rank => .ok rank
  | none =>
      .error (.denied
        (Str.lit "unknown classification " ++ repr request.effectiveClassification) .denied)

def controlGates : Except Refusal Unit :=
  if enforcer.controlled then
    controlGate repr (turn.plane.getState request.agentId) request.agentId
  else .ok ()

def profileGates (rank : Nat) : Except Refusal Unit :=
  match enforcer.profile with
  | some profile => profile.gates repr rank request
  | none => .ok ()

/-- The gates before the monitor; the result says whether an approval is required. -/
def authorize : Except Refusal Bool := do
  let rank ← ranked upper repr request
  enforcer.controlGates repr turn request
  enforcer.profileGates repr request rank
  let agent ← registered repr enforcer.policy request.agentId
  agent.gates upper repr enforcer.policy turn.policyNow
    (!enforcer.requireSig || enforcer.verifySig schemes) rank request
  return agent.requiresOperatorApproval.contains request.action ||
    enforcer.profile.any fun profile => profile.requireOperatorApprovalFor.contains request.action

def deny (reason : Str) (mode : ApprovalMode) : PolicyDecision where
  allowed := false
  reason := reason
  requiresApproval := false
  policyId := enforcer.policy.policyId
  classification := request.effectiveClassification
  approvalMode := mode
  agentId := request.agentId
  action := request.action

def allow (requiresApproval : Bool) : PolicyDecision where
  allowed := true
  reason := Str.lit "action " ++ repr request.action ++ Str.lit " permitted for agent " ++
    repr request.agentId
  requiresApproval := requiresApproval
  policyId := enforcer.policy.policyId
  classification := request.effectiveClassification
  approvalMode := if requiresApproval then .humanApproved else .autonomous
  agentId := request.agentId
  action := request.action

/-- `check`; `none` where it raises. -/
def check : Option PolicyDecision × PolicyEnforcer :=
  match enforcer.authorize schemes upper repr turn request with
  | .error (.denied reason mode) => (some (enforcer.deny request reason mode), enforcer)
  | .error .raised => (none, enforcer)
  | .ok requiresApproval =>
      match enforcer.compositionMonitor with
      | none => (some (enforcer.allow repr request requiresApproval), enforcer)
      | some monitor =>
          let observed := monitor.observe request.agentId request.action turn.monitorNow
          let after := { enforcer with compositionMonitor := some observed.2 }
          if observed.1.allowed then (some (enforcer.allow repr request requiresApproval), after)
          else if enforcer.ledgered && turn.logRaises then (none, after)
          else (some (enforcer.deny request observed.1.reason .compositionDenied), after)

end PolicyEnforcer

end Gates

/-- The overlays that an enforcer is configured with. -/
structure Overlays where
  controlled : Bool
  profile : Option ClassifiedModeProfile
  compositionMonitor : Option CompositionMonitor

/-- `PolicyEnforcer(...)`; a profile that demands a signed policy has the last word. -/
def newEnforcer (policy : PolicyBundle) (trustRootPub : Option Bytes) (requireSignature : Bool)
    (ledgered : Bool) (overlays : Overlays) : PolicyEnforcer where
  policy := policy
  trustRootPub := trustRootPub
  requireSig := (overlays.profile.any ClassifiedModeProfile.requireSignedPolicy) || requireSignature
  controlled := overlays.controlled
  profile := overlays.profile
  compositionMonitor := overlays.compositionMonitor
  ledgered := ledgered

end SelfConnect.Policy
