import SelfConnect.Library.Outcomes
import SelfConnect.Policy.Enforcer

namespace SelfConnect.Policy

open SelfConnect.Python SelfConnect.Library SelfConnect.Ledger SelfConnect.Control

/-! What it takes for a request to get through. -/

structure ProfileAdmits (profile : ClassifiedModeProfile) (rank : Nat) (request : CheckRequest) :
    Prop where
  ceiling : rank ≤ profile.maxClassification.rank
  identity : profile.requireCngIdentity = true → request.identityType = Str.lit "cng"
  notBlocked : ∀ app ∈ request.app, app ∉ profile.blockedApps
  listed : ∀ app ∈ request.app, profile.allowedApps ≠ [] → app ∈ profile.allowedApps

structure AgentAdmits (upper : Str → Str) (agent : AgentPolicy) (policy : PolicyBundle)
    (now : PyFloat) (rank : Nat) (request : CheckRequest) : Prop where
  notRevoked : agent.revoked = false
  inTime : policy.isTimeValid now = true
  target : ∀ target ∈ request.targetAgent, agent.allowedTargets ≠ [] →
    target ∈ agent.allowedTargets
  notBlocked : ∀ app ∈ request.app, app ∉ agent.blockedApps
  listed : ∀ app ∈ request.app, agent.allowedApps ≠ [] → app ∈ agent.allowedApps
  action : request.action ∈ agent.allowedActions
  ceiling : ∃ ceiling, rankOf upper agent.maxClassification = some ceiling ∧ rank ≤ ceiling
  caveats : ∀ label ∈ request.label, validateLabel label = true

/-- Every gate before the monitor lets the request through. -/
structure Authorized (schemes : Schemes) (upper : Str → Str) (enforcer : PolicyEnforcer)
    (turn : CheckTurn) (request : CheckRequest) (agent : AgentPolicy) (rank : Nat) : Prop where
  ranked : request.effectiveRank upper = some rank
  active : enforcer.controlled = true → turn.plane.getState request.agentId = .active
  profile : ∀ profile ∈ enforcer.profile, ProfileAdmits profile rank request
  registered : enforcer.policy.agents.get? request.agentId = some agent
  signed : enforcer.requireSig = true → enforcer.verifySig schemes = true
  admits : AgentAdmits upper agent enforcer.policy turn.policyNow rank request

/-- An approval is required of the request. -/
def PolicyEnforcer.approval (enforcer : PolicyEnforcer) (agent : AgentPolicy)
    (request : CheckRequest) : Bool :=
  agent.requiresOperatorApproval.contains request.action ||
    enforcer.profile.any fun profile => profile.requireOperatorApprovalFor.contains request.action

section Gates

variable {schemes : Schemes} {upper repr : Str → Str} {enforcer : PolicyEnforcer}
  {turn : CheckTurn} {request : CheckRequest}

theorem demand_eq_ok {condition : Bool} {reason : Str} {mode : ApprovalMode} {u : Unit} :
    demand condition reason mode = .ok u ↔ condition = true := by
  cases condition with
  | true => exact iff_of_true rfl rfl
  | false => exact iff_of_false (fun same => by cases same) Bool.false_ne_true

theorem controlGate_eq_ok {state : AgentState} {agentId : Str} {u : Unit} :
    controlGate repr state agentId = .ok u ↔ state = .active := by
  cases state with
  | active => exact iff_of_true rfl rfl
  | paused | quarantined | revoked =>
      exact iff_of_false (fun same => by cases same) fun same => by cases same

/-- An empty list of allowed values restricts nothing. -/
theorem all_listed_iff {value : Option Str} {allowed : List Str} :
    (value.all fun v => allowed.isEmpty || allowed.contains v) = true ↔
      ∀ v ∈ value, allowed ≠ [] → v ∈ allowed := by
  cases value with
  | none => simp
  | some v =>
      rw [Option.all_some, Bool.or_eq_true, List.isEmpty_iff, List.contains_iff_mem]
      constructor
      · intro holds w isValue filled
        cases isValue
        exact holds.resolve_left filled
      · intro holds
        exact or_iff_not_imp_left.mpr (holds v rfl)

theorem all_unblocked_iff {value : Option Str} {blocked : List Str} :
    (value.all fun v => !blocked.contains v) = true ↔ ∀ v ∈ value, v ∉ blocked := by
  cases value <;> simp

theorem profileGates_eq_ok {profile : ClassifiedModeProfile} {rank : Nat} {u : Unit} :
    profile.gates repr rank request = .ok u ↔ ProfileAdmits profile rank request := by
  unfold ClassifiedModeProfile.gates
  simp only [bind_eq_ok, demand_eq_ok, exists_const, decide_eq_true_eq, all_unblocked_iff,
    all_listed_iff]
  have cng : (!profile.requireCngIdentity || request.identityType = Str.lit "cng") = true ↔
      (profile.requireCngIdentity = true → request.identityType = Str.lit "cng") := by
    cases profile.requireCngIdentity <;> simp
  rw [cng]
  constructor
  · intro holds
    exact ⟨holds.1, holds.2.1, holds.2.2.1, holds.2.2.2⟩
  · intro admits
    exact ⟨admits.ceiling, admits.identity, admits.notBlocked, admits.listed⟩

theorem registered_eq_ok {policy : PolicyBundle} {agentId : Str} {agent : AgentPolicy} :
    registered repr policy agentId = .ok agent ↔ policy.agents.get? agentId = some agent := by
  unfold registered
  cases policy.agents.get? agentId with
  | none => exact iff_of_false (fun same => by cases same) fun same => by cases same
  | some found => rw [Except.ok.injEq, Option.some.injEq]

theorem rankOrRaise_eq_ok {level : Str} {rank : Nat} :
    rankOrRaise upper level = .ok rank ↔ rankOf upper level = some rank := by
  unfold rankOrRaise
  cases rankOf upper level with
  | none => exact iff_of_false (fun same => by cases same) fun same => by cases same
  | some found => rw [Except.ok.injEq, Option.some.injEq]

theorem agentGates_eq_ok {agent : AgentPolicy} {policy : PolicyBundle} {now : PyFloat}
    {signed : Bool} {rank : Nat} {u : Unit} :
    agent.gates upper repr policy now signed rank request = .ok u ↔
      signed = true ∧ AgentAdmits upper agent policy now rank request := by
  unfold AgentPolicy.gates
  simp only [bind_eq_ok, demand_eq_ok, rankOrRaise_eq_ok, all_listed_iff,
    all_unblocked_iff, decide_eq_true_eq, List.contains_iff_mem, Bool.not_eq_true', exists_const]
  constructor
  · rintro ⟨notRevoked, inTime, isSigned, target, notBlocked, listed, action, ceiling, isCeiling,
      below, caveats⟩
    refine ⟨isSigned, notRevoked, inTime, target, notBlocked, listed, action,
      ⟨ceiling, isCeiling, below⟩, ?_⟩
    intro label isLabel
    rw [isLabel] at caveats
    exact caveats
  · rintro ⟨isSigned, admits⟩
    obtain ⟨ceiling, isCeiling, below⟩ := admits.ceiling
    refine ⟨admits.notRevoked, admits.inTime, isSigned, admits.target, admits.notBlocked,
      admits.listed, admits.action, ceiling, isCeiling, below, ?_⟩
    cases isLabel : request.label with
    | none => rfl
    | some label => exact admits.caveats label isLabel

theorem ranked_eq_ok {rank : Nat} :
    PolicyEnforcer.ranked upper repr request = .ok rank ↔
      request.effectiveRank upper = some rank := by
  unfold PolicyEnforcer.ranked
  cases request.effectiveRank upper with
  | none => exact iff_of_false (fun same => by cases same) fun same => by cases same
  | some found => rw [Except.ok.injEq, Option.some.injEq]

theorem controlGates_eq_ok {u : Unit} :
    enforcer.controlGates repr turn request = .ok u ↔
      (enforcer.controlled = true → turn.plane.getState request.agentId = .active) := by
  unfold PolicyEnforcer.controlGates
  split
  · next controlled =>
      rw [controlGate_eq_ok]
      exact ⟨fun active _ => active, fun active => active controlled⟩
  · next free => exact iff_of_true rfl fun controlled => absurd controlled free

theorem enforcerProfileGates_eq_ok {rank : Nat} {u : Unit} :
    enforcer.profileGates repr request rank = .ok u ↔
      ∀ profile ∈ enforcer.profile, ProfileAdmits profile rank request := by
  unfold PolicyEnforcer.profileGates
  cases enforcer.profile with
  | none => exact iff_of_true rfl fun _ isProfile => by cases isProfile
  | some profile =>
      dsimp only
      rw [profileGates_eq_ok]
      constructor
      · intro admits other isProfile
        cases isProfile
        exact admits
      · exact fun admits => admits profile rfl

theorem authorize_eq_ok {requiresApproval : Bool} :
    enforcer.authorize schemes upper repr turn request = .ok requiresApproval ↔
      ∃ agent rank, Authorized schemes upper enforcer turn request agent rank ∧
        requiresApproval = enforcer.approval agent request := by
  have signs : (!enforcer.requireSig || enforcer.verifySig schemes) = true ↔
      (enforcer.requireSig = true → enforcer.verifySig schemes = true) := by
    cases enforcer.requireSig <;> simp
  unfold PolicyEnforcer.authorize
  simp only [bind_eq_ok, ranked_eq_ok, controlGates_eq_ok, enforcerProfileGates_eq_ok,
    registered_eq_ok, agentGates_eq_ok, signs, exists_const]
  constructor
  · rintro ⟨rank, isRank, active, profile, agent, isAgent, ⟨signed, admits⟩, returned⟩
    exact ⟨agent, rank, ⟨isRank, active, profile, isAgent, signed, admits⟩,
      (Except.ok.inj returned).symm⟩
  · rintro ⟨agent, rank, authorized, isApproval⟩
    exact ⟨rank, authorized.ranked, authorized.active, authorized.profile, agent,
      authorized.registered, ⟨authorized.signed, authorized.admits⟩,
      congrArg Except.ok isApproval.symm⟩

end Gates

end SelfConnect.Policy
