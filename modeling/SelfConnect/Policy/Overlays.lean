import SelfConnect.Policy.Gates

namespace SelfConnect.Policy

open SelfConnect.Python SelfConnect.Library SelfConnect.Ledger SelfConnect.Control

/-! What an allowed decision says: of the profile, and of an enforcer with fewer
overlays. -/

section Checks

variable {schemes : Schemes} {upper repr : Str → Str} {enforcer : PolicyEnforcer}
  {turn : CheckTurn} {request : CheckRequest}

/-- The monitor, if there is one, lets the call through. -/
def PolicyEnforcer.Unsuspected (enforcer : PolicyEnforcer) (turn : CheckTurn)
    (request : CheckRequest) : Prop :=
  ∀ monitor ∈ enforcer.compositionMonitor,
    (monitor.observe request.agentId request.action turn.monitorNow).1.allowed = true

theorem check_of_authorized {agent : AgentPolicy} {rank : Nat}
    (authorized : Authorized schemes upper enforcer turn request agent rank)
    (unsuspected : enforcer.Unsuspected turn request) :
    (enforcer.check schemes upper repr turn request).1 =
      some (enforcer.allow repr request (enforcer.approval agent request)) := by
  have isAuthorized : enforcer.authorize schemes upper repr turn request =
      .ok (enforcer.approval agent request) := authorize_eq_ok.mpr ⟨agent, rank, authorized, rfl⟩
  unfold PolicyEnforcer.check
  rw [isAuthorized]
  dsimp only
  cases monitored : enforcer.compositionMonitor with
  | none => rfl
  | some monitor =>
      dsimp only
      rw [unsuspected monitor monitored, if_pos rfl]

theorem authorized_of_check {decision : PolicyDecision}
    (checked : (enforcer.check schemes upper repr turn request).1 = some decision)
    (allowed : decision.allowed = true) :
    ∃ agent rank, Authorized schemes upper enforcer turn request agent rank ∧
      enforcer.Unsuspected turn request ∧
      decision = enforcer.allow repr request (enforcer.approval agent request) := by
  unfold PolicyEnforcer.check at checked
  split at checked
  · cases checked
    cases allowed
  · cases checked
  · next requiresApproval isAuthorized =>
      obtain ⟨agent, rank, authorized, isApproval⟩ := authorize_eq_ok.mp isAuthorized
      refine ⟨agent, rank, authorized, ?_⟩
      rw [← isApproval]
      split at checked
      · next unmonitored =>
          cases checked
          refine ⟨?_, rfl⟩
          intro monitor monitored
          rw [unmonitored] at monitored
          cases monitored
      · next monitor monitored =>
          dsimp only at checked
          split at checked
          · next isAllowed =>
              cases checked
              refine ⟨?_, rfl⟩
              intro other isMonitor
              rw [monitored] at isMonitor
              cases isMonitor
              exact isAllowed
          · split at checked
            · cases checked
            · cases checked
              cases allowed

end Checks

/-! The restrictions of the profile. -/

section Restrictions

variable (schemes : Schemes) (upper repr : Str → Str)

/-- What the profile declares holds of the request. -/
structure Restrictions (profile : ClassifiedModeProfile) (enforcer : PolicyEnforcer)
    (request : CheckRequest) (decision : PolicyDecision) : Prop where
  ceiling : ∃ rank, request.effectiveRank upper = some rank ∧
    rank ≤ profile.maxClassification.rank
  identity : profile.requireCngIdentity = true → request.identityType = Str.lit "cng"
  signed : profile.requireSignedPolicy = true → enforcer.verifySig schemes = true
  notBlocked : ∀ app ∈ request.app, app ∉ profile.blockedApps
  listed : ∀ app ∈ request.app, profile.allowedApps ≠ [] → app ∈ profile.allowedApps
  caveats : ∀ label ∈ request.label, ∀ caveat ∈ label.caveats, caveat ∈ profile.allowedCaveats
  approval : request.action ∈ profile.requireOperatorApprovalFor →
    decision.requiresApproval = true

/-- An allowed decision implies every restriction that the profile declares. -/
def Enforced (profile : ClassifiedModeProfile) (enforcer : PolicyEnforcer) (turn : CheckTurn)
    (request : CheckRequest) : Prop :=
  ∀ decision, (enforcer.check schemes upper repr turn request).1 = some decision →
    decision.allowed = true → Restrictions schemes upper profile enforcer request decision

/-- Some other gate, or the monitor, stops the request. -/
def Stopped (enforcer : PolicyEnforcer) (turn : CheckTurn) (request : CheckRequest) : Prop :=
  ¬ ((∃ agent rank, Authorized schemes upper enforcer turn request agent rank) ∧
    enforcer.Unsuspected turn request)

/-- The caveats of a label are within those of the profile. -/
def CaveatsPermitted (profile : ClassifiedModeProfile) (request : CheckRequest) : Prop :=
  ∀ label ∈ request.label, ∀ caveat ∈ label.caveats, caveat ∈ profile.allowedCaveats

/-- The profile is enforced exactly on requests whose caveats it permits, and on those that
are stopped for another reason: it is not consulted for caveats. -/
theorem enforced_iff (policy : PolicyBundle) (trustRootPub : Option Bytes)
    (requireSignature ledgered controlled : Bool) (profile : ClassifiedModeProfile)
    (monitor : Option CompositionMonitor) (turn : CheckTurn) (request : CheckRequest) :
    let enforcer := newEnforcer policy trustRootPub requireSignature ledgered
      ⟨controlled, some profile, monitor⟩
    Enforced schemes upper repr profile enforcer turn request ↔
      CaveatsPermitted profile request ∨ Stopped schemes upper enforcer turn request := by
  intro enforcer
  constructor
  · intro enforced
    by_cases stopped : Stopped schemes upper enforcer turn request
    · exact .inr stopped
    · obtain ⟨⟨agent, rank, authorized⟩, unsuspected⟩ := not_not.mp stopped
      exact .inl (enforced _ (check_of_authorized authorized unsuspected) rfl).caveats
  · intro condition decision checked allowed
    obtain ⟨agent, rank, authorized, unsuspected, isAllow⟩ := authorized_of_check checked allowed
    have admits := authorized.profile profile rfl
    refine ⟨⟨rank, authorized.ranked, admits.ceiling⟩, admits.identity, ?_, admits.notBlocked,
      admits.listed, ?_, ?_⟩
    · intro demanded
      exact authorized.signed ((Bool.or_eq_true _ _).mpr (.inl demanded))
    · exact condition.resolve_right fun stopped =>
        stopped ⟨⟨agent, rank, authorized⟩, unsuspected⟩
    · intro listed
      rw [isAllow]
      exact (Bool.or_eq_true _ _).mpr (.inr (List.contains_iff_mem.mpr listed))

end Restrictions

/-! Fewer overlays. -/

/-- The smaller configuration has no overlay that the larger one has not. -/
structure Within (smaller larger : Overlays) : Prop where
  controlled : smaller.controlled = true → larger.controlled = true
  profile : ∀ profile ∈ smaller.profile, larger.profile = some profile
  monitor : ∀ monitor ∈ smaller.compositionMonitor, larger.compositionMonitor = some monitor

section Runs

variable (schemes : Schemes) (upper repr : Str → Str)

/-- The enforcer after a sequence of checks. -/
def PolicyEnforcer.after (enforcer : PolicyEnforcer)
    (history : List (CheckTurn × CheckRequest)) : PolicyEnforcer :=
  history.foldl (fun enforcer call => (enforcer.check schemes upper repr call.1 call.2).2) enforcer

/-- The request gets to the monitor. -/
def Reaches (enforcer : PolicyEnforcer) (call : CheckTurn × CheckRequest) : Prop :=
  ∃ agent rank, Authorized schemes upper enforcer call.1 call.2 agent rank

/-- The policy lets the agent do what it asks for. -/
def AgentPermits (policy : PolicyBundle) (turn : CheckTurn) (request : CheckRequest) : Prop :=
  ∃ agent rank, policy.agents.get? request.agentId = some agent ∧
    request.effectiveRank upper = some rank ∧
    AgentAdmits upper agent policy turn.policyNow rank request

/-- The monitor of the first, if it has one, got no request of the agent that did not get
through the gates of the second. -/
def SameCalls (smaller larger : PolicyEnforcer) (agentId : Str)
    (history : List (CheckTurn × CheckRequest)) : Prop :=
  smaller.compositionMonitor = none ∨ ∀ call ∈ history, call.2.agentId = agentId →
    Reaches schemes upper smaller call → Reaches schemes upper larger call

/-- The enforcer allows the request, with no approval that the decision does not require. -/
def AllowsUnder (enforcer : PolicyEnforcer) (turn : CheckTurn) (request : CheckRequest)
    (decision : PolicyDecision) : Prop :=
  ∃ decision', (enforcer.check schemes upper repr turn request).1 = some decision' ∧
    decision'.allowed = true ∧
    (decision'.requiresApproval = true → decision.requiresApproval = true)

/-- After a history, what the larger enforcer allows keeps to the agent's policy, and the
smaller one allows it too when its monitor got the same calls of the agent. -/
def Restricts (smaller larger : PolicyEnforcer) (history : List (CheckTurn × CheckRequest)) :
    Prop :=
  ∀ turn request decision,
    ((larger.after schemes upper repr history).check schemes upper repr turn request).1 =
      some decision → decision.allowed = true →
    AgentPermits upper larger.policy turn request ∧
      (SameCalls schemes upper smaller larger request.agentId history →
        AllowsUnder schemes upper repr (smaller.after schemes upper repr history) turn request
          decision)

end Runs

/-- Two monitors of one configuration that have seen the same of an agent. -/
structure SameFor (agentId : Str) (first second : CompositionMonitor) : Prop where
  config : second = { first with windows := second.windows }
  windows : first.windows agentId = second.windows agentId

namespace SameFor

variable {agentId other action : Str} {first second : CompositionMonitor} {now : PyFloat}

theorem refl (agentId : Str) (monitor : CompositionMonitor) : SameFor agentId monitor monitor :=
  ⟨rfl, rfl⟩

theorem config_windows (same : SameFor agentId first second)
    (windows : Str → List (PyFloat × Str)) :
    { second with windows := windows } = { first with windows := windows } :=
  congrArg (fun monitor : CompositionMonitor => { monitor with windows := windows }) same.config

theorem observeWindow (same : SameFor agentId first second) (window : List (PyFloat × Str)) :
    second.observeWindow window action now = first.observeWindow window action now := by
  rw [same.config]
  rfl

theorem verdict (same : SameFor agentId first second) :
    (second.observe agentId action now).1 = (first.observe agentId action now).1 := by
  unfold CompositionMonitor.observe
  dsimp only
  rw [same.observeWindow, same.windows]

theorem observe (same : SameFor agentId first second) :
    SameFor agentId (first.observe agentId action now).2 (second.observe agentId action now).2 := by
  refine ⟨same.config_windows _, ?_⟩
  unfold CompositionMonitor.observe
  dsimp only
  rw [Function.update_self, Function.update_self, same.observeWindow, same.windows]

theorem observe_first (differs : agentId ≠ other) (same : SameFor agentId first second) :
    SameFor agentId (first.observe other action now).2 second :=
  ⟨same.config, (Function.update_of_ne differs _ _).trans same.windows⟩

theorem observe_second (differs : agentId ≠ other) (same : SameFor agentId first second) :
    SameFor agentId first (second.observe other action now).2 :=
  ⟨same.config_windows _, same.windows.trans (Function.update_of_ne differs _ _).symm⟩

end SameFor

section Monotone

variable {schemes : Schemes} {upper repr : Str → Str} {policy : PolicyBundle}
  {trustRootPub : Option Bytes} {requireSignature ledgered : Bool} {smaller larger : Overlays}

/-- A request that does not reach the monitor leaves the enforcer as it is. -/
theorem check_of_stopped {enforcer : PolicyEnforcer} {turn : CheckTurn} {request : CheckRequest}
    (stopped : ¬ Reaches schemes upper enforcer (turn, request)) :
    (enforcer.check schemes upper repr turn request).2 = enforcer := by
  unfold PolicyEnforcer.check
  split
  · rfl
  · rfl
  · next requiresApproval isAuthorized =>
      obtain ⟨agent, rank, authorized, -⟩ := authorize_eq_ok.mp isAuthorized
      exact absurd ⟨agent, rank, authorized⟩ stopped

/-- One that does is recorded by it. -/
theorem check_of_reaches {enforcer : PolicyEnforcer} {turn : CheckTurn} {request : CheckRequest}
    (reaches : Reaches schemes upper enforcer (turn, request)) :
    (enforcer.check schemes upper repr turn request).2 = { enforcer with
      compositionMonitor := enforcer.compositionMonitor.map fun monitor =>
        (monitor.observe request.agentId request.action turn.monitorNow).2 } := by
  obtain ⟨agent, rank, authorized⟩ := reaches
  have isAuthorized : enforcer.authorize schemes upper repr turn request =
      .ok (enforcer.approval agent request) := authorize_eq_ok.mpr ⟨agent, rank, authorized, rfl⟩
  unfold PolicyEnforcer.check
  rw [isAuthorized]
  dsimp only
  cases monitored : enforcer.compositionMonitor with
  | none =>
      change enforcer = { enforcer with compositionMonitor := none }
      rw [← monitored]
  | some monitor =>
      dsimp only
      split
      · rfl
      · split <;> rfl

theorem authorized_congr {enforcer : PolicyEnforcer} {monitor : Option CompositionMonitor}
    {turn : CheckTurn} {request : CheckRequest} {agent : AgentPolicy} {rank : Nat} :
    Authorized schemes upper { enforcer with compositionMonitor := monitor } turn request agent
        rank ↔
      Authorized schemes upper enforcer turn request agent rank :=
  ⟨fun authorized => ⟨authorized.ranked, authorized.active, authorized.profile,
      authorized.registered, authorized.signed, authorized.admits⟩,
    fun authorized => ⟨authorized.ranked, authorized.active, authorized.profile,
      authorized.registered, authorized.signed, authorized.admits⟩⟩

theorem any_of_within (within : Within smaller larger) {p : ClassifiedModeProfile → Bool}
    (holds : smaller.profile.any p = true) : larger.profile.any p = true := by
  cases isProfile : smaller.profile with
  | none =>
      rw [isProfile] at holds
      cases holds
  | some profile =>
      rw [isProfile] at holds
      rw [within.profile profile isProfile]
      exact holds

/-- Overlays only take away. -/
theorem authorized_of_within (within : Within smaller larger) {turn : CheckTurn}
    {request : CheckRequest} {agent : AgentPolicy} {rank : Nat}
    (authorized : Authorized schemes upper
      (newEnforcer policy trustRootPub requireSignature ledgered larger) turn request agent rank) :
    Authorized schemes upper (newEnforcer policy trustRootPub requireSignature ledgered smaller)
      turn request agent rank where
  ranked := authorized.ranked
  active controlled := authorized.active (within.controlled controlled)
  profile profile isProfile := authorized.profile profile (within.profile profile isProfile)
  registered := authorized.registered
  signed demanded := by
    refine authorized.signed ((Bool.or_eq_true _ _).mpr ?_)
    exact ((Bool.or_eq_true _ _).mp demanded).imp_left (any_of_within within)
  admits := authorized.admits

theorem reaches_check (enforcer : PolicyEnforcer) (turn : CheckTurn) (request : CheckRequest)
    (call : CheckTurn × CheckRequest) :
    Reaches schemes upper (enforcer.check schemes upper repr turn request).2 call ↔
      Reaches schemes upper enforcer call := by
  by_cases reaches : Reaches schemes upper enforcer (turn, request)
  · rw [check_of_reaches reaches]
    exact exists_congr fun agent => exists_congr fun rank => authorized_congr
  · rw [check_of_stopped reaches]

/-- The state of an enforcer in a run: its monitor is all that changes. -/
theorem after_eq (enforcer : PolicyEnforcer) (history : List (CheckTurn × CheckRequest)) :
    ∃ monitor, enforcer.after schemes upper repr history =
      { enforcer with compositionMonitor := monitor } := by
  induction history generalizing enforcer with
  | nil => exact ⟨enforcer.compositionMonitor, rfl⟩
  | cons call rest ih =>
      obtain ⟨monitor, isAfter⟩ := ih (enforcer.check schemes upper repr call.1 call.2).2
      refine ⟨monitor, isAfter.trans ?_⟩
      by_cases reaches : Reaches schemes upper enforcer (call.1, call.2)
      · rw [check_of_reaches reaches]
      · rw [check_of_stopped reaches]

theorem unmonitored_after {enforcer : PolicyEnforcer}
    (unmonitored : enforcer.compositionMonitor = none)
    (history : List (CheckTurn × CheckRequest)) :
    (enforcer.after schemes upper repr history).compositionMonitor = none := by
  induction history generalizing enforcer with
  | nil => exact unmonitored
  | cons call rest ih =>
      apply ih
      dsimp only
      by_cases reaches : Reaches schemes upper enforcer (call.1, call.2)
      · rw [check_of_reaches reaches, unmonitored]
        rfl
      · rw [check_of_stopped reaches]
        exact unmonitored

/-- The monitor of the first, if it has one, has seen the same of the agent as the monitor of
the second. -/
def Matched (agentId : Str) (smaller larger : PolicyEnforcer) : Prop :=
  ∀ monitor ∈ smaller.compositionMonitor, ∃ other ∈ larger.compositionMonitor,
    SameFor agentId other monitor

theorem matched_check {agentId : Str} {smaller larger : PolicyEnforcer}
    (matched : Matched agentId smaller larger) (call : CheckTurn × CheckRequest)
    (alike : call.2.agentId = agentId →
      (Reaches schemes upper smaller call ↔ Reaches schemes upper larger call)) :
    Matched agentId (smaller.check schemes upper repr call.1 call.2).2
      (larger.check schemes upper repr call.1 call.2).2 := by
  by_cases isAgent : call.2.agentId = agentId
  · by_cases reaches : Reaches schemes upper larger call
    · rw [check_of_reaches ((alike isAgent).mpr reaches), check_of_reaches reaches]
      intro monitor isMonitor
      obtain ⟨before, isBefore, isObserved⟩ := Option.map_eq_some_iff.mp isMonitor
      obtain ⟨other, isOther, same⟩ := matched before isBefore
      refine ⟨_, Option.mem_map_of_mem _ isOther, ?_⟩
      rw [← isObserved, isAgent]
      exact same.observe
    · rw [check_of_stopped fun other => reaches ((alike isAgent).mp other),
        check_of_stopped reaches]
      exact matched
  · have second : Matched agentId smaller (larger.check schemes upper repr call.1 call.2).2 := by
      by_cases reaches : Reaches schemes upper larger call
      · rw [check_of_reaches reaches]
        intro monitor isMonitor
        obtain ⟨other, isOther, same⟩ := matched monitor isMonitor
        exact ⟨_, Option.mem_map_of_mem _ isOther, same.observe_first (Ne.symm isAgent)⟩
      · rw [check_of_stopped reaches]
        exact matched
    by_cases reaches : Reaches schemes upper smaller call
    · rw [check_of_reaches reaches]
      intro monitor isMonitor
      obtain ⟨before, isBefore, isObserved⟩ := Option.map_eq_some_iff.mp isMonitor
      obtain ⟨other, isOther, same⟩ := second before isBefore
      rw [← isObserved]
      exact ⟨other, isOther, same.observe_second (Ne.symm isAgent)⟩
    · rw [check_of_stopped reaches]
      exact second

theorem matched_after {agentId : Str} {smaller larger : PolicyEnforcer}
    (matched : Matched agentId smaller larger) (history : List (CheckTurn × CheckRequest))
    (alike : ∀ call ∈ history, call.2.agentId = agentId →
      (Reaches schemes upper smaller call ↔ Reaches schemes upper larger call)) :
    Matched agentId (smaller.after schemes upper repr history)
      (larger.after schemes upper repr history) := by
  induction history generalizing smaller larger with
  | nil => exact matched
  | cons call rest ih =>
      refine ih (matched_check matched call (alike call List.mem_cons_self)) ?_
      intro other member isAgent
      rw [reaches_check, reaches_check]
      exact alike other (List.mem_cons_of_mem call member) isAgent

theorem start_matched (within : Within smaller larger) {agentId : Str} :
    Matched agentId (newEnforcer policy trustRootPub requireSignature ledgered smaller)
      (newEnforcer policy trustRootPub requireSignature ledgered larger) :=
  fun monitor isMonitor => ⟨monitor, within.monitor monitor isMonitor, .refl agentId monitor⟩

/-- Overlays restrict: an allowed decision keeps to the agent's policy, and an enforcer with
fewer overlays allows the request as well. -/
theorem restricts_of_within (within : Within smaller larger)
    (history : List (CheckTurn × CheckRequest)) :
    Restricts schemes upper repr (newEnforcer policy trustRootPub requireSignature ledgered smaller)
      (newEnforcer policy trustRootPub requireSignature ledgered larger) history := by
  intro turn request decision checked allowed
  obtain ⟨agent, rank, authorized, unsuspected, isAllow⟩ := authorized_of_check checked allowed
  obtain ⟨monitor, isLarger⟩ := @after_eq schemes upper repr
    (newEnforcer policy trustRootPub requireSignature ledgered larger) history
  obtain ⟨monitor', isSmaller⟩ := @after_eq schemes upper repr
    (newEnforcer policy trustRootPub requireSignature ledgered smaller) history
  rw [isLarger] at authorized
  have first := authorized_congr.mp authorized
  refine ⟨⟨agent, rank, first.registered, first.ranked, first.admits⟩, ?_⟩
  intro same
  have second := authorized_of_within within first
  have authorized' : Authorized schemes upper
      ((newEnforcer policy trustRootPub requireSignature ledgered smaller).after schemes upper repr
        history) turn request agent rank := by
    rw [isSmaller]
    exact authorized_congr.mpr second
  have unsuspected' : ((newEnforcer policy trustRootPub requireSignature ledgered smaller).after
      schemes upper repr history).Unsuspected turn request := by
    intro seen isSeen
    rcases same with unmonitored | sameCalls
    · rw [unmonitored_after unmonitored] at isSeen
      cases isSeen
    · have matched : Matched request.agentId
          ((newEnforcer policy trustRootPub requireSignature ledgered smaller).after schemes upper
            repr history)
          ((newEnforcer policy trustRootPub requireSignature ledgered larger).after schemes upper
            repr history) :=
        matched_after (start_matched within) history fun call member isAgent =>
          ⟨sameCalls call member isAgent, fun reaches =>
            reaches.imp fun agent => Exists.imp fun rank => authorized_of_within within⟩
      obtain ⟨other, isOther, agree⟩ := matched seen isSeen
      rw [agree.verdict]
      exact unsuspected other isOther
  refine ⟨_, check_of_authorized authorized' unsuspected', rfl, ?_⟩
  intro required
  rw [isAllow, isLarger]
  rw [isSmaller] at required
  refine (Bool.or_eq_true _ _).mpr (((Bool.or_eq_true _ _).mp required).imp_right ?_)
  exact any_of_within within

end Monotone

/-! One agent that may read, run programs and make requests. -/

section Samples

def sampleAgent : AgentPolicy where
  allowedTargets := []
  allowedApps := []
  blockedApps := []
  allowedActions := ["read_text", "subprocess", "http_request"].map Str.lit
  requiresOperatorApproval := []
  maxClassification := Str.lit "SECRET"
  revoked := false

def samplePolicy : PolicyBundle where
  raw := []
  policyId := Str.lit "policy"
  signedByPub := []
  sig := []
  validFrom := .finite .zero
  validUntil := none
  agents := ⟨[(Str.lit "agent", sampleAgent)], List.nodup_singleton _⟩

/-- No signature is valid. -/
def noSchemes : Schemes := ⟨fun _ _ _ => false, fun _ _ _ => false⟩

def turnIn (state : AgentState) : CheckTurn where
  plane := ⟨true, ⟨[(Str.lit "agent", state)], List.nodup_singleton _⟩, [], none, none⟩
  policyNow := .finite .zero
  monitorNow := .finite .zero
  logRaises := false

def sampleRequest (action : String) (label : Option LabelEnvelope) : CheckRequest where
  agentId := Str.lit "agent"
  action := Str.lit action
  targetAgent := none
  app := none
  classification := Str.lit "UNCLASSIFIED"
  label := label
  identityType := []

/-- A profile without caveats. -/
def sampleProfile : ClassifiedModeProfile where
  maxClassification := .secret
  allowedCaveats := []
  requireCngIdentity := false
  requireSignedPolicy := false
  requireOperatorApprovalFor := []
  allowedApps := []
  blockedApps := []
  profileId := Str.lit "profile"

def noforn : LabelEnvelope := ⟨.secret, [Str.lit "NOFORN"], [], .finite .zero⟩

/-- An unlisted caveat gets through. -/
theorem unlisted_caveat_allowed :
    ¬ Enforced noSchemes id id sampleProfile
      (newEnforcer samplePolicy none false false ⟨false, some sampleProfile, none⟩)
      (turnIn .active) (sampleRequest "read_text" (some noforn)) := by
  intro enforced
  have allowed : ((newEnforcer samplePolicy none false false
      ⟨false, some sampleProfile, none⟩).check noSchemes id id (turnIn .active)
        (sampleRequest "read_text" (some noforn))).1.any PolicyDecision.allowed = true := by
    decide +kernel
  obtain ⟨decision, checked, isAllowed⟩ := (Option.any_eq_true _ _).mp allowed
  have permitted := (enforced decision checked isAllowed).caveats noforn rfl (Str.lit "NOFORN")
    List.mem_cons_self
  cases permitted

/-- The decisions of an enforcer on two calls, whether they allow. -/
def allowsBoth (overlays : Overlays) (first second : CheckTurn × CheckRequest) :
    Option Bool × Option Bool :=
  let enforcer := newEnforcer samplePolicy none false false overlays
  ((enforcer.check noSchemes id id first.1 first.2).1.map PolicyDecision.allowed,
    ((enforcer.after noSchemes id id [first]).check noSchemes id id second.1 second.2).1.map
      PolicyDecision.allowed)

theorem restricts_of_within_sample :
    Restricts noSchemes id id (newEnforcer samplePolicy none false false ⟨false, none, none⟩)
      (newEnforcer samplePolicy none false false ⟨true, some sampleProfile, some defaultMonitor⟩)
      [(turnIn .active, sampleRequest "subprocess" none)] := by
  refine restricts_of_within ⟨?_, ?_, ?_⟩ _
  · intro controlled
    cases controlled
  · intro profile isProfile
    cases isProfile
  · intro monitor isMonitor
    cases isMonitor

/-- A call that only the pause kept from the monitor: the enforcer without control plane has
recorded it, and stops the next one. -/
theorem pause_widens :
    Within ⟨false, none, some defaultMonitor⟩ ⟨true, none, some defaultMonitor⟩ ∧
      allowsBoth ⟨true, none, some defaultMonitor⟩
        (turnIn .paused, sampleRequest "subprocess" none)
        (turnIn .active, sampleRequest "http_request" none) = (some false, some true) ∧
      allowsBoth ⟨false, none, some defaultMonitor⟩
        (turnIn .paused, sampleRequest "subprocess" none)
        (turnIn .active, sampleRequest "http_request" none) = (some true, some false) := by
  refine ⟨⟨fun _ => rfl, fun _ isProfile => (by cases isProfile), fun _ isMonitor => isMonitor⟩, ?_⟩
  decide +kernel

end Samples

end SelfConnect.Policy
