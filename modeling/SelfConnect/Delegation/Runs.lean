import SelfConnect.Delegation.Completion

namespace SelfConnect.Delegation

open SelfConnect.Python SelfConnect.Library

/-! All interleavings of the calls on one store. -/

variable {Ticket : Type} [DecidableEq Ticket] {callOf : Ticket → Option DelegationCall}
  {ticket : Ticket} {α β : Type} {s : ReplayDb Ticket}

/-! A call without authorization claims nothing. -/

def Unclaimed (ticket : Ticket) (db : ReplayDb Ticket) : Prop :=
  ∀ tuple, .claimed tuple ∉ db.own ticket

/-- The program claims nothing under the ticket. -/
def Unclaiming (callOf : Ticket → Option DelegationCall) (ticket : Ticket) (p : Delegating α) :
    Prop :=
  ∀ s, Consistent callOf s → Unclaimed ticket s →
    Safely callOf ticket (fun _ t => Unclaimed ticket t) p s

theorem Unclaimed.later {t : ReplayDb Ticket} (unclaimed : Unclaimed ticket s)
    (undisturbed : Undisturbed ticket s t) : Unclaimed ticket t := by
  intro tuple member
  rw [undisturbed.own] at member
  exact unclaimed tuple member

theorem Unclaiming.lift (e : Except Str α) :
    Unclaiming callOf ticket (liftM e : Delegating α) :=
  fun _ _ unclaimed => safely_return fun _ undisturbed => unclaimed.later undisturbed

theorem Unclaiming.done (outcome : Except Str α) :
    Unclaiming callOf ticket (ExceptT.mk (Script.done outcome)) :=
  fun _ _ unclaimed => safely_done fun _ _ undisturbed => unclaimed.later undisturbed

theorem Unclaiming.bind {p : Delegating α} {f : α → Delegating β}
    (first : Unclaiming callOf ticket p) (next : ∀ a, Unclaiming callOf ticket (f a)) :
    Unclaiming callOf ticket (p >>= f) := by
  intro s holds unclaimed
  apply Calls.Contract.Safe.bindExcept holds (first s holds unclaimed)
  · exact fun raised t _ still => safely_done fun u _ undisturbed => still.later undisturbed
  · exact fun a t kept still => next a t kept still

theorem Unclaiming.attempt {p : Delegating α} (claims : Unclaiming callOf ticket p) :
    Unclaiming callOf ticket (attempt p) :=
  fun s holds unclaimed => safely_attempt (claims s holds unclaimed)

theorem Unclaiming.enter {call : DelegationCall} {entry : Entry}
    (isCall : callOf ticket = some call) (ungoverned : Ungoverned call)
    (unauthorized : entry.authorization = none) :
    Unclaiming callOf ticket (execute (.enter entry)) := by
  intro s _ unclaimed
  apply safely_execute
  intro t works holds undisturbed
  refine ⟨holds.enter isCall ?_ fun _ => ungoverned, Acts.record _, ?_⟩
  · intro authorization isAuthorized
    rw [unauthorized] at isAuthorized
    cases isAuthorized
  · intro u further tuple member
    rw [further.own] at member
    change _ ∈ (t.record ticket (.entered entry)).own ticket at member
    rw [ReplayDb.own_record, undisturbed.own] at member
    exact unclaimed tuple (by simpa using member)

theorem Unclaiming.runTool {handle : Nat → Members → Delegating Members}
    (handles : ∀ count effective, Unclaiming callOf ticket (handle count effective))
    (control : ControlScript) (count : Nat) (executed : Option Members) :
    Unclaiming callOf ticket (runTool handle control count executed) := by
  induction control generalizing count executed with
  | done ended =>
      rw [runTool_done]
      exact .lift _
  | ask request next ih =>
      cases isDict : request.isDict with
      | false =>
          rw [runTool_other isDict]
          exact ih _ count executed
      | true =>
          obtain ⟨effective, isEffective⟩ := dict_of_isDict isDict
          rw [isEffective]
          exact (handles count effective).attempt.bind fun outcome =>
            ih outcome (count + 1) (some effective)

variable {dispatcher : Dispatcher} {surroundings : Surroundings} {name : Str} {args : Members}

/-- Without an authorization a governed profile enters no body of a protected tool. -/
theorem unclaiming_callTool
    (isCall : callOf ticket = some (.callTool dispatcher surroundings name args)) :
    Unclaiming callOf ticket (dispatcher.callTool surroundings name args) := by
  have handles : (dispatcher.profile.governed && isProtected name) = false → ∀ count effective,
      Unclaiming callOf ticket
        (dispatcher.handle (surroundings.attempts count) name effective none) := by
    intro allowed count effective
    unfold Dispatcher.handle
    split
    · next isProtected =>
        rw [isProtected, Bool.and_true] at allowed
        have isNormal : dispatcher.profile = .normal := by
          cases isProfile : dispatcher.profile with
          | normal => rfl
          | enterprise | government => rw [isProfile] at allowed; cases allowed
        unfold Dispatcher.requireVerifiedDelegatedCall
        rw [allowed, if_neg Bool.false_ne_true]
        apply (Unclaiming.lift _).bind
        intro isolated
        exact (Unclaiming.enter isCall isNormal rfl).bind fun _ => .lift _
    · exact .lift _
  unfold Dispatcher.callTool Dispatcher.executeTool
  apply Unclaiming.bind
  · apply Unclaiming.attempt
    apply Unclaiming.bind
    · unfold Dispatcher.dispatch
      cases allowed : dispatcher.profile.governed && isProtected name with
      | true => exact .done _
      | false =>
          apply (Unclaiming.lift _).bind
          intro validated
          cases dispatcher.agtControl with
          | none => exact (handles allowed 0 validated).bind fun _ => .done _
          | some control =>
              cases surroundings.inEventLoop with
              | true => exact .done _
              | false => exact .runTool (handles allowed) _ 0 none
    · exact fun done => (Unclaiming.lift _).bind fun _ => .done _
  · intro outcome
    cases outcome with
    | ok result => exact .done _
    | error raised => exact (Unclaiming.lift _).bind fun _ => .done _

/-! The shims. -/

variable {shim : ACPShim} {prompted : PromptSurroundings} {request : PromptRequest}

/-- The path of a tool that is not protected enters no body. -/
theorem safely_callPlain {callTool : Str → Members → Except Str Members} {tool : Str}
    {arguments : Members} {tuple : ActionTuple} {now : PyFloat} (holds : Consistent callOf s)
    (idle : Idle ticket s) :
    Safely callOf ticket (fun _ _ => True) (callPlain callTool tool arguments tuple now) s := by
  have claims : Safely callOf ticket (fun outcome u => outcome = .ok true →
      ∃ troubled, Stage ticket tuple false false troubled u)
      (SQLiteActionReplayStore.claim tuple now) s := by
    apply safely_claim idle
    · exact fun outcome u differs _ same => absurd same differs
    · exact fun u troubled stage _ => ⟨troubled, stage⟩
  unfold callPlain
  apply Calls.Contract.Safe.bindExcept holds claims
  · exact fun raised t _ _ => safely_done fun _ _ _ => trivial
  intro claimed t kept ended
  apply safely_lift
  · exact fun raised _ => safely_done fun _ _ _ => trivial
  intro _ isClaimed
  obtain ⟨troubled, stage⟩ := ended (congrArg _ (demand_eq_ok.mp isClaimed))
  have begins : Safely callOf ticket (fun outcome u => ∃ begun troubled,
      Stage ticket tuple begun false troubled u)
      (SQLiteActionReplayStore.begin tuple) t := by
    apply safely_begin stage
    · exact fun u still => ⟨_, _, still⟩
    · exact fun u _ still => ⟨_, _, still⟩
    · exact fun u _ still => ⟨_, _, still⟩
  apply Calls.Contract.Safe.bindExcept kept begins
  · exact fun raised t _ _ => safely_done fun _ _ _ => trivial
  intro begun u kept ended
  obtain ⟨begun', troubled', stage⟩ := ended
  apply safely_lift
  · exact fun raised _ => safely_done fun _ _ _ => trivial
  intro _ _
  have finishes : ∀ succeeded, Safely callOf ticket (fun _ _ => True)
      (SQLiteActionReplayStore.finish tuple.actionId succeeded none [] none) u := by
    intro succeeded
    apply safely_finish kept stage
    · exact fun _ _ _ _ _ _ => trivial
    · exact fun _ _ _ _ _ _ _ _ _ _ => trivial
  split
  · apply Calls.Contract.Safe.bindExcept kept (finishes false)
    · exact fun raised t _ _ => safely_done fun _ _ _ => trivial
    · exact fun _ t _ _ => safely_done fun _ _ _ => trivial
  · apply Calls.Contract.Safe.bindExcept kept (finishes true)
    · exact fun raised t _ _ => safely_done fun _ _ _ => trivial
    · exact fun _ t _ _ => safely_done fun _ _ _ => trivial

/-- A prompt of a governed backend comes down to a delegated call. -/
theorem safely_prompt {post : Except Str (Option Members) → ReplayDb Ticket → Prop}
    (isCall : callOf ticket = some (.prompt shim prompted request))
    (holds : Consistent callOf s) (idle : Idle ticket s)
    (restrained : ∀ dispatcher surroundings delegated,
      (DelegationCall.prompt shim prompted request).delegated? =
        some (dispatcher, surroundings, delegated) → dispatcher.Restrained)
    (ends : ∀ outcome t, (∀ dispatcher surroundings delegated,
      (DelegationCall.prompt shim prompted request).delegated? =
        some (dispatcher, surroundings, delegated) →
      Idle ticket t ∨ Concluded ticket dispatcher surroundings delegated t) → post outcome t) :
    Safely callOf ticket post (shim.prompt prompted request) s := by
  have idly : ∀ outcome t, Undisturbed ticket s t → post outcome t :=
    fun outcome t undisturbed => ends outcome t fun _ _ _ _ => .inl (idle.later undisturbed)
  unfold ACPShim.prompt
  apply safely_lift
  · exact fun raised _ => safely_done fun t _ undisturbed => idly _ t undisturbed
  intro _ _
  cases request.cancelled with
  | true => exact safely_done fun t _ undisturbed => idly _ t undisturbed
  | false =>
  apply safely_lift
  · exact fun raised _ => safely_done fun t _ undisturbed => idly _ t undisturbed
  intro admitted isAdmitted
  cases isBackend : shim.backend with
  | governedRuntime dispatcher =>
      have delegated : (DelegationCall.prompt shim prompted request).delegated? =
          some (dispatcher, prompted.backend, admitted.2) := by
        unfold DelegationCall.delegated?
        dsimp only
        rw [isBackend, isAdmitted]
      have concludes : ∀ {t}, Idle ticket t ∨
          Concluded ticket dispatcher prompted.backend admitted.2 t →
          ∀ outcome u, Undisturbed ticket t u → post outcome u := by
        intro t ended outcome u undisturbed
        apply ends outcome u
        intro dispatcher' surroundings' request' isDelegated
        cases delegated.symm.trans isDelegated
        rcases ended with idle | concluded
        · exact .inl (idle.later undisturbed)
        · exact .inr (concluded.later undisturbed)
      have called : Safely callOf ticket (fun _ t => Idle ticket t ∨
          Concluded ticket dispatcher prompted.backend admitted.2 t)
          (attempt (callGoverned dispatcher prompted.backend admitted.2)) s := by
        apply safely_attempt
        have calls : Safely callOf ticket (fun _ t => Idle ticket t ∨
            Concluded ticket dispatcher prompted.backend admitted.2 t)
            (dispatcher.callDelegatedTool prompted.backend admitted.2) s :=
          safely_callDelegatedTool isCall delegated (restrained _ _ _ delegated) holds idle
            fun _ t ended => ended
        have still : ∀ {t u}, Idle ticket t ∨
            Concluded ticket dispatcher prompted.backend admitted.2 t → Undisturbed ticket t u →
            Idle ticket u ∨ Concluded ticket dispatcher prompted.backend admitted.2 u := by
          intro t u ended undisturbed
          exact ended.imp (fun idle => idle.later undisturbed)
            fun concluded => concluded.later undisturbed
        apply Calls.Contract.Safe.bindExcept holds calls
        · exact fun raised t _ ended => safely_done fun u _ undisturbed => still ended undisturbed
        intro result t _ ended
        split
        · exact safely_done fun u _ undisturbed => still ended undisturbed
        · exact safely_done fun u _ undisturbed => still ended undisturbed
      apply Calls.Contract.Safe.bindExcept holds called
      · exact fun raised t _ ended => safely_done fun u _ undisturbed =>
          concludes ended _ u undisturbed
      intro outcome t _ ended
      cases outcome with
      | error raised => exact safely_done fun u _ undisturbed => concludes ended _ u undisturbed
      | ok result => exact safely_done fun u _ undisturbed => concludes ended _ u undisturbed
  | plain callTool =>
      have undelegated : (DelegationCall.prompt shim prompted request).delegated? = none := by
        unfold DelegationCall.delegated?
        dsimp only
        rw [isBackend]
      have whatever : ∀ outcome t, post outcome t := by
        intro outcome t
        apply ends
        intro dispatcher surroundings delegated isDelegated
        rw [undelegated] at isDelegated
        cases isDelegated
      dsimp only
      split
      · exact safely_done fun t _ _ => whatever _ t
      apply safely_lift
      · exact fun raised _ => safely_done fun t _ _ => whatever _ t
      intro tuple _
      apply Calls.Contract.Safe.bindExcept holds (safely_callPlain holds idle)
      · exact fun raised t _ _ => safely_done fun u _ _ => whatever _ u
      · exact fun result t _ _ => safely_done fun u _ _ => whatever _ u

/-! Whole runs. -/

/-- What a call that has ended leaves of its delegated call, if it made one. -/
def Done (ticket : Ticket) (call : DelegationCall) (_ : Except Str (Option Members))
    (db : ReplayDb Ticket) : Prop :=
  ∀ dispatcher surroundings request,
    call.delegated? = some (dispatcher, surroundings, request) →
      Idle ticket db ∨ Concluded ticket dispatcher surroundings request db

/-- The tool control of a delegated call outside of the governed profiles has the tool
executed at most once. -/
def DelegationCall.Restrained (call : DelegationCall) : Prop :=
  ∀ dispatcher surroundings request,
    call.delegated? = some (dispatcher, surroundings, request) → dispatcher.Restrained

private theorem run_some (p : Delegating α) :
    (some <$> p : Delegating (Option α)).run =
      p.run >>= fun outcome => pure (outcome.map some) := by
  change (p.run >>= fun outcome => _) = _
  apply congrArg
  funext outcome
  cases outcome with
  | error raised => rfl
  | ok a => rfl

theorem safe_program {call : DelegationCall} (isCall : callOf ticket = some call)
    (holds : Consistent callOf s) (unused : s.own ticket = []) (restrained : call.Restrained) :
    (custody callOf).Safe ReplayDb.serve ticket (Done ticket call) call.program.run s := by
  have idle : Idle ticket s := by
    constructor
    · intro tuple member
      rw [unused] at member
      cases member
    · intro entry member
      rw [unused] at member
      cases member
  cases call with
  | callTool dispatcher surroundings name arguments =>
      rw [DelegationCall.program, run_some]
      apply Calls.Contract.Safe.map
      apply (unclaiming_callTool isCall s holds idle.unclaimed).mono
      intro outcome t _ dispatcher surroundings request absurdly
      cases absurdly
  | callDelegatedTool dispatcher surroundings request =>
      rw [DelegationCall.program, run_some]
      apply Calls.Contract.Safe.map
      apply safely_callDelegatedTool isCall rfl (restrained _ _ _ rfl) holds idle
      intro outcome t ended dispatcher surroundings request same
      cases same
      exact ended
  | prompt shim surroundings request =>
      apply safely_prompt isCall holds idle restrained
      exact fun outcome t done => done

omit [DecidableEq Ticket] in
theorem consistent_empty : Consistent callOf (⟨.empty, []⟩ : ReplayDb Ticket) := by
  refine ⟨?_, ?_, ?_, ?_, ?_, ?_⟩
  · exact fun _ _ absurdly => by cases absurdly
  · intro actionId row found
    cases found
  · exact fun _ _ _ _ absurdly => by cases absurdly
  · exact fun _ => Nat.zero_le _
  · exact fun _ _ _ absurdly => by cases absurdly
  · exact fun _ _ absurdly => by cases absurdly

/-- A call that may enter a body: one that has claimed and verified the action, or one that
needs no authorization. -/
def Entitled (call : DelegationCall) (claimed : ActionTuple → Prop) (entry : Entry) : Prop :=
  match entry.authorization with
  | some authorization => Rightful call claimed entry authorization
  | none => Ungoverned call

section Run

variable {events : List (Calls.Event Ticket DelegationCall Bool)} {world : DelegationWorld Ticket}
  (run : (delegations Ticket).Run events world)
  (restrained : ∀ ticket call, .start ticket call ∈ events → call.Restrained)

include run restrained

theorem upheld_of_restrained :
    world.Upheld ReplayDb.serve (custody world.callOf) Done := by
  have begins : ∀ s : ReplayDb Ticket, s = ⟨.empty, []⟩ → (custody world.callOf).inv s := by
    intro s isEmpty
    rw [isEmpty]
    exact consistent_empty
  have unused : ∀ ticket (s : ReplayDb Ticket), s = ⟨.empty, []⟩ →
      (custody world.callOf).fresh ticket s := by
    intro ticket s isEmpty
    rw [isEmpty]
    rfl
  apply Calls.upheld_of_run _ begins unused run
  · exact fun ticket call started => (Calls.callOf_eq_some_iff run).mpr started
  · exact fun ticket call s isCall holds unused => safe_program isCall holds unused
      (restrained ticket call ((Calls.callOf_eq_some_iff run).mp isCall))

end Run

/-! A call whose grant loses its issuer between the claim and the entry. -/

def sampleKey (n : UInt8) : Bytes := List.replicate 32 n

def sampleGrant : DelegationGrant where
  schema := Str.lit schemaVersion
  issuerPrincipal := Str.lit "owner"
  issuerKeyFingerprint :=
    Str.lit "72cd6e8422c407fb6d098690f1130b7ded7ec2f7f5e1d30bd9d521f015363793"
  subjectAgentId := Str.lit "SC-75877BB4"
  subjectPublicKeyHex := Str.ofText (hexText (sampleKey 2))
  allowedActions := [Str.lit "sc_identity_sign"]
  targetConstraints := []
  governanceMode := Str.lit "enterprise"
  classificationCeiling := Str.lit "internal"
  issuedAt := .int 0
  notBefore := .int 0
  expiresAt := .int 10
  revocationEpoch := .int 0
  nonce := Str.lit "nonce"
  signatureAlgorithm := Str.lit ed25519
  issuerPublicKeyHex := Str.ofText (hexText (sampleKey 1))
  signatureHex := Str.lit "00"

def sampleArguments : Members :=
  .of [("key_provider", Value.lit "software"), ("payload_hex", Value.lit "")]

def samplePayload : Bytes :=
  (canonicalBytes (.object [
    ("tool", Value.lit "sc_identity_sign"),
    ("arguments", .dict sampleArguments),
    ("sessionId", Value.lit "session")])).getD []

def sampleProof : AgentActionProof where
  schema := Str.lit schemaVersion
  grantId := Str.lit "a34fe980979caad2952e1ffa80151da2b63473af4290467479b74511f09885d3"
  actionId := Str.lit "action"
  agentId := Str.lit "SC-75877BB4"
  agentPublicKeyHex := Str.ofText (hexText (sampleKey 2))
  action := Str.lit "sc_identity_sign"
  target := .of [
    ("payload_sha256",
      Value.lit "e3b0c44298fc1c149afbf4c8996fb92427ae41e4649b934ca495991b7852b855"),
    ("key_provider", Value.lit "software")]
  payloadSha256 := Str.lit "d7c60480440af1bb79f8abb73ec2395f33f7fc61136f97adb946c679b74a862a"
  governanceMode := Str.lit "enterprise"
  classification := Str.lit "internal"
  occurredAt := .int 0
  signatureAlgorithm := Str.lit ed25519
  signatureHex := Str.lit "00"

def sampleRequest : DelegatedRequest where
  name := Str.lit "sc_identity_sign"
  arguments := .dict sampleArguments
  grant := sampleGrant
  proof := sampleProof
  payload := samplePayload
  sessionId := Str.lit "session"

def sampleDispatcher : Dispatcher where
  profile := .enterprise
  builtins := ⟨fun _ => false, fun value => value.str?.getD [], fun _ => .invalid⟩
  registry := ⟨fun _ => some (.object [
    ("required", .list [Value.lit "payload_hex"]),
    ("additionalProperties", .bool false),
    ("properties", .object [
      ("payload_hex", .object [("type", Value.lit "string")]),
      ("key_provider", .object [("type", Value.lit "string"),
        ("enum", .list [Value.lit "software", Value.lit "tpm"])])])]), fun _ _ => true⟩
  verifiers := ⟨fun _ _ _ => true, fun _ _ _ => true⟩
  agtControl := none
  delegationIdentity := some ⟨sampleKey 3, fun _ => []⟩
  hasBoundary := true
  hasLedger := true

def sampleLive : Live where
  now := .finite .zero
  leases _ := none
  authorities _ := none
  revoked _ := false
  targetVerifier := none
  logicalTargetResolver := none

def sampleSurroundings : Surroundings where
  issuer _ := .ok (some (sampleKey 1))
  ledgerSound := .ok true
  revocations := .ok noRevocations
  verifiedAt := .finite .zero
  live := sampleLive
  consumedAt := .finite .zero
  inEventLoop := false
  attempts _ := ⟨fun _ => .ok none, .ok noRevocations, sampleLive, fun _ => .ok []⟩
  ledgerLog _ := .ok ()
  ledgerStillSound := .ok true
  ledgerHead := .ok (List.replicate 64 (CodePoint.ofChar '0'))
  issuedAt := .finite .zero
  containsVerifiedHash _ := .ok true

def sampleCall : DelegationCall :=
  .callDelegatedTool sampleDispatcher sampleSurroundings sampleRequest

def sampleEvents : List (Calls.Event Nat DelegationCall Bool) :=
  [.start 0 sampleCall, .serve 0 true, .serve 0 true, .serve 0 true]

/-- The action has been claimed, and the call is over. -/
def claimedAndOver (world : DelegationWorld Nat) : Bool :=
  (world.shared.happened.any fun event => match event with
    | (0, .claimed _) => true
    | _ => false) &&
  (world.shared.happened.all fun event => match event with
    | (_, .unanswered) => false
    | _ => true) &&
  match world.progress 0 with
  | some ⟨_, some (.done _)⟩ => true
  | _ => false

def idleWorld : DelegationWorld Nat := ⟨⟨.empty, []⟩, fun _ => none⟩

/-! The run is evaluated in two halves: up to the statement that reads the store, and from
there on. -/

def sampleIsolated : Members :=
  match (((Json.loadBytes samplePayload).bind fun signedCall => signedCall.get? "arguments").bind
      canonicalBytes).bind Json.loadBytes with
  | some (.dict arguments) => arguments
  | _ => []

def sampleAuthentic : AuthenticCall where
  identity := ⟨sampleKey 3, fun _ => []⟩
  arguments := sampleIsolated
  authorization := ⟨sampleGrant, sampleProof, samplePayload, Str.lit "session"⟩
  issuerKey := sampleKey 1

/-- What is left of an authentic call once no row has been found. -/
def Dispatcher.proceed (dispatcher : Dispatcher) (surroundings : Surroundings)
    (request : DelegatedRequest) (call : AuthenticCall) :
    Script ReplayRequest.Answer (Except Str (Option Members)) :=
  ExceptT.run (some <$> (do
    let tuple ← dispatcher.authorize surroundings request call
    let claimed ← SQLiteActionReplayStore.claim tuple surroundings.consumedAt
    demand claimed "delegation denied: action id has already been consumed"
    dispatcher.complete surroundings call.identity call.arguments call.authorization :
      Delegating Members))

theorem proceeds_of_authentic {dispatcher : Dispatcher} {surroundings : Surroundings}
    {request : DelegatedRequest} {call : AuthenticCall}
    (isAuthentic : dispatcher.authenticate surroundings request = .ok call) : ∃ next,
    (DelegationCall.callDelegatedTool dispatcher surroundings request).program.run =
        .ask (.get call.authorization.proof.actionId) next ∧
      next (some none) = dispatcher.proceed surroundings request call := by
  have unfolded : (DelegationCall.callDelegatedTool dispatcher surroundings request).program.run =
      ExceptT.run (some <$> dispatcher.callDelegatedTool surroundings request) := rfl
  unfold Dispatcher.callDelegatedTool at unfolded
  rw [isAuthentic] at unfolded
  exact ⟨_, unfolded, rfl⟩

theorem claim_of_bounded {tuple : ActionTuple} {consumedAt : PyFloat}
    (isBounded : bounded tuple.actionId = true) (isFinite : consumedAt.isFinite = true) :
    SQLiteActionReplayStore.claim tuple consumedAt = execute (.claim tuple consumedAt) := by
  unfold SQLiteActionReplayStore.claim
  rw [show demand (bounded tuple.actionId) "action_id is invalid" = .ok () from
      demand_eq_ok.mpr isBounded,
    show demand consumedAt.isFinite "consumed_at is invalid" = .ok () from
      demand_eq_ok.mpr isFinite]
  rfl

theorem claims_of_authorized {dispatcher : Dispatcher} {surroundings : Surroundings}
    {request : DelegatedRequest} {call : AuthenticCall} {tuple : ActionTuple}
    (isAuthorized : dispatcher.authorize surroundings request call = .ok tuple)
    (isBounded : bounded tuple.actionId = true)
    (isFinite : surroundings.consumedAt.isFinite = true) : ∃ next,
    dispatcher.proceed surroundings request call =
        .ask (.claim tuple surroundings.consumedAt) next ∧
      next (some true) = ExceptT.run (some <$>
        dispatcher.complete surroundings call.identity call.arguments call.authorization) := by
  unfold Dispatcher.proceed
  rw [isAuthorized]
  change ∃ next, ExceptT.run (some <$> (SQLiteActionReplayStore.claim tuple
    surroundings.consumedAt >>= _ : Delegating Members)) = _ ∧ _
  rw [claim_of_bounded isBounded isFinite]
  exact ⟨_, rfl, rfl⟩

/-- What a tool that has raised returns. -/
def rejected (name raised : Str) : Members :=
  .of [("ok", .bool false), ("tool", .str name), ("error", .str (raised.take 512))]

theorem bind_of_done {α β : Type} {p : Delegating α} {a : α} (isDone : p.run = .done (.ok a))
    (f : α → Delegating β) : (p >>= f) = f a := by
  have same : p = ExceptT.mk (.done (.ok a)) := isDone
  rw [same]
  rfl

theorem executes_of_refused {dispatcher : Dispatcher} {surroundings : Surroundings}
    {name raised : Str} {args : Members} {authorization : Option VerifiedDelegatedCall}
    (isRefused : (dispatcher.dispatch surroundings name args authorization).run =
      .done (.error raised))
    (isRecorded : dispatcher.recordAudit surroundings 1 args
      (.of [("error", .str (raised.take 512))]) = .ok ()) :
    (dispatcher.executeTool surroundings name args authorization).run =
      .done (.ok (rejected name raised)) := by
  unfold Dispatcher.executeTool
  have isAttempted : (attempt do
      let done ← dispatcher.dispatch surroundings name args authorization
      let result := withProfile dispatcher.profile done.1
      dispatcher.recordAudit surroundings 0 done.2 result
      return result).run = .done (.ok (.error raised)) := by
    have same : dispatcher.dispatch surroundings name args authorization =
      ExceptT.mk (.done (.error raised)) := isRefused
    rw [same]
    rfl
  rw [bind_of_done isAttempted]
  dsimp only
  rw [isRecorded]
  rfl

theorem canonical_rejected {name raised : Str} (isName : Json.encodable name = true)
    (isText : Json.encodable (raised.take 512) = true) : Canonical (.dict (rejected name raised)) := by
  apply canonical_object_iff.mpr
  intro field member
  simp only [List.mem_cons, List.not_mem_nil, or_false] at member
  rcases member with isOk | isTool | isError
  · rw [isOk]
    exact ⟨rfl, rfl⟩
  · rw [isTool]
    exact canonical_str isName
  · rw [isError]
    exact canonical_str isText

theorem canonical_stored {name raised : Str} {receipt : Value}
    (isRejected : Canonical (.dict (rejected name raised))) (canonical : Canonical receipt) :
    Canonical (.dict (rejected name raised ++ Members.of [("delegated_receipt", receipt)])) := by
  have plain := canonical_object_iff.mp isRejected
  have stored : Canonical (.object ([("ok", .bool false), ("tool", .str name),
      ("error", .str (raised.take 512))] ++ [("delegated_receipt", receipt)])) := by
    apply canonical_object_iff.mpr
    intro field member
    rcases List.mem_append.mp member with inFields | last
    · exact plain field inFields
    · rw [List.mem_singleton.mp last]
      exact canonical
  exact stored

theorem dumped_of_canonical {value : Value} (canonical : Canonical value) :
    ∃ text, SQLiteActionReplayStore.dumped (some value) = .ok (some text) := by
  obtain ⟨text, isText⟩ := dumpsSorted_of_canonical canonical .compactUnicode
  refine ⟨text, ?_⟩
  unfold SQLiteActionReplayStore.dumped
  dsimp only
  rw [isText]

theorem finishes_of_executed {dispatcher : Dispatcher} {surroundings : Surroundings}
    {identity : AgentIdentity} {arguments : Members} {authorization : VerifiedDelegatedCall}
    {name raised ledgerHead : Str} {receipt : DelegatedActionReceipt}
    (isExecuted : (dispatcher.executeTool surroundings authorization.proof.action arguments
      (some authorization)).run = .done (.ok (rejected name raised)))
    (isSound : surroundings.ledgerStillSound = .ok true)
    (isHead : surroundings.ledgerHead = .ok ledgerHead)
    (isSigned : signDelegatedReceipt identity authorization.grant authorization.proof
      (.dict (rejected name raised)) "failed" ledgerHead (.float surroundings.issuedAt) =
        some receipt)
    (isRejected : Canonical (.dict (rejected name raised))) (canonical : Canonical receipt.toDict) :
    ∃ receiptJson head resultJson next refusal, ExceptT.run (some <$>
        dispatcher.complete surroundings identity arguments authorization) =
      .ask (.finish authorization.proof.actionId .failed receiptJson head resultJson) next ∧
      next (some false) = .done (.error refusal) := by
  have isFailed : ((Value.dict (rejected name raised)).getD "ok" .null).truthy = false := rfl
  obtain ⟨receiptJson, isReceipt⟩ := dumped_of_canonical canonical
  obtain ⟨resultJson, isStored⟩ := dumped_of_canonical (canonical_stored isRejected canonical)
  unfold Dispatcher.complete
  rw [bind_of_done isExecuted]
  dsimp only
  rw [isFailed, isSound, isHead]
  change ∃ receiptJson head resultJson next refusal, ExceptT.run (some <$>
    (liftM (orRaise (signDelegatedReceipt identity authorization.grant authorization.proof
      (.dict (rejected name raised)) "failed" ledgerHead (.float surroundings.issuedAt))
      "delegated receipt is invalid") >>= _ : Delegating Members)) = _ ∧ _
  rw [isSigned]
  change ∃ receiptJson head resultJson next refusal, ExceptT.run (some <$>
    (attempt (SQLiteActionReplayStore.finish authorization.proof.actionId false
      (some receipt.toDict) ledgerHead (some (.dict (rejected name raised ++
        Members.of [("delegated_receipt", receipt.toDict)])))) >>= _ : Delegating Members)) = _ ∧ _
  unfold SQLiteActionReplayStore.finish
  rw [isReceipt, isStored]
  exact ⟨_, _, _, _, _, rfl, rfl⟩

/-- The tool is not run, and why can be written down. -/
def refusedPlainly : Script ReplayRequest.Answer (Except Str (Members × Members)) → Bool
  | .done (.error raised) => Json.encodable (raised.take 512)
  | _ => false

theorem refused_of_plainly {p : Script ReplayRequest.Answer (Except Str (Members × Members))}
    (isRefused : refusedPlainly p = true) :
    ∃ raised, p = .done (.error raised) ∧ Json.encodable (raised.take 512) = true := by
  unfold refusedPlainly at isRefused
  split at isRefused
  · exact ⟨_, rfl, isRefused⟩
  · cases isRefused

theorem recorded_error {dispatcher : Dispatcher} {surroundings : Surroundings} {args : Members}
    (isSorted : Json.sortable (.dict args) = true) (isLogged : surroundings.ledgerLog 1 = .ok ())
    (error : Str) :
    dispatcher.recordAudit surroundings 1 args (.of [("error", .str error)]) = .ok () := by
  have isSortedError : Json.sortable (.dict (Members.of [("error", .str error)])) = true := rfl
  unfold Dispatcher.recordAudit
  rw [isSorted, isSortedError, isLogged]
  cases dispatcher.hasLedger with
  | false => rfl
  | true => rfl

/-- A call whose tool is refused still asks for its action to be finished. -/
theorem finishes_of_refused {dispatcher : Dispatcher} {surroundings : Surroundings}
    {identity : AgentIdentity} {arguments : Members} {authorization : VerifiedDelegatedCall}
    {ledgerHead : Str} {tuple : ActionTuple}
    (isRefused : refusedPlainly (dispatcher.dispatch surroundings authorization.proof.action
      arguments (some authorization)).run = true)
    (isSorted : Json.sortable (.dict arguments) = true)
    (isLogged : surroundings.ledgerLog 1 = .ok ())
    (isSound : surroundings.ledgerStillSound = .ok true)
    (isHead : surroundings.ledgerHead = .ok ledgerHead) (isDigest : validDigest ledgerHead = true)
    (isClock : surroundings.issuedAt.isFinite = true) (isKey : identity.publicKey.length = 32)
    (wellFormed : authorization.proof.wellFormed = true)
    (isTuple : authorization.tuple = some tuple) :
    ∃ receiptJson head resultJson next refusal, ExceptT.run (some <$>
        dispatcher.complete surroundings identity arguments authorization) =
      .ask (.finish authorization.proof.actionId .failed receiptJson head resultJson) next ∧
      next (some false) = .done (.error refusal) := by
  obtain ⟨raised, isDone, isPlain⟩ := refused_of_plainly isRefused
  have isExecuted := executes_of_refused isDone (recorded_error isSorted isLogged _)
  have isTuple' : tupleOf authorization.grant authorization.proof authorization.sessionId =
    some tuple := isTuple
  have isName := (canonical_of_proofId (ids_of_tuple isTuple').2.1).2.2.2
  have isRejected := canonical_rejected isName isPlain
  obtain ⟨receipt, isSigned, canonical⟩ :=
    signed isKey wellFormed isTuple' isRejected (show bounded (Str.lit "failed") = true by decide)
      isDigest isClock
  exact finishes_of_executed isExecuted isSound isHead isSigned isRejected canonical

theorem exists_of_isOk {α : Type} {e : Except Str α} (succeeds : e.isOk = true) :
    ∃ a, e = .ok a := by
  cases e with
  | error raised => cases succeeds
  | ok a => exact ⟨a, rfl⟩

theorem authentic_of_isOk {dispatcher : Dispatcher} {surroundings : Surroundings}
    {request : DelegatedRequest} {identity : AgentIdentity} {issuerKey : Bytes}
    (succeeds : (dispatcher.authenticate surroundings request).isOk = true)
    (isIdentity : dispatcher.delegationIdentity = some identity)
    (isIssuer : ∀ fingerprint, surroundings.issuer fingerprint = .ok (some issuerKey)) :
    ∃ arguments authorization, request.bind = .ok (arguments, authorization) ∧
      dispatcher.authenticate surroundings request =
        .ok ⟨identity, arguments, authorization, issuerKey⟩ := by
  obtain ⟨call, isAuthentic⟩ := exists_of_isOk succeeds
  obtain ⟨hasIdentity, -, -, isBound, isFound, -⟩ := authentic_cases isAuthentic
  rw [isIdentity] at hasIdentity
  rw [isIssuer] at isFound
  obtain ⟨_, arguments, authorization, _⟩ := call
  cases hasIdentity
  cases isFound
  exact ⟨arguments, authorization, isBound, isAuthentic⟩

theorem bound_cases {request : DelegatedRequest} {arguments : Members}
    {authorization : VerifiedDelegatedCall}
    (isBound : request.bind = .ok (arguments, authorization)) :
    authorization = ⟨request.grant, request.proof, request.payload, request.sessionId⟩ := by
  unfold DelegatedRequest.bind at isBound
  split at isBound
  · cases isBound
  · simp only [demand_bind_eq_ok] at isBound
    obtain ⟨-, -, -, rest⟩ := isBound
    split at rest
    · next grant proof _ isGrant isProof =>
        simp only [demand_bind_eq_ok] at rest
        obtain ⟨-, -, done⟩ := rest
        have sameGrant : request.grant = grant := by
          unfold DelegationGrant.isolated at isGrant
          split at isGrant
          · exact Option.some.inj isGrant
          · cases isGrant
        have sameProof : request.proof = proof := by
          unfold AgentActionProof.isolated at isProof
          split at isProof
          · exact Option.some.inj isProof
          · cases isProof
        cases done
        rw [sameGrant, sameProof]
    · cases rest
    · cases rest

theorem served_of_asks {Ticket : Type} [DecidableEq Ticket] {world : DelegationWorld Ticket}
    {ticket : Ticket} {call : DelegationCall} {request : ReplayRequest}
    {next : request.Answer → Script ReplayRequest.Answer (Except Str (Option Members))}
    (asks : world.progress ticket = some ⟨call, some (.ask request next)⟩) (works : Bool) :
    (delegations Ticket).next world (.serve ticket works)
      (world.put ticket ⟨call, some (next (ReplayDb.serve works ticket world.shared request).1)⟩
        (ReplayDb.serve works ticket world.shared request).2) := by
  change Calls.World.step _ _ world (.serve ticket works) = some _
  simp only [Calls.World.step, asks]

def sampleTuple : ActionTuple where
  actionId := Str.lit "action"
  grantId := Str.lit "a34fe980979caad2952e1ffa80151da2b63473af4290467479b74511f09885d3"
  proofId := Str.lit "57dd64e71d22ab41967be0fee11ab8fd3a20867ee41ac1388504050a8c4d2236"
  sessionId := Str.lit "session"

def startedWorld : DelegationWorld Nat :=
  idleWorld.put 0 ⟨sampleCall, some sampleCall.program.run⟩ idleWorld.shared

def readWorld : DelegationWorld Nat :=
  startedWorld.put 0 ⟨sampleCall,
      some (sampleDispatcher.proceed sampleSurroundings sampleRequest sampleAuthentic)⟩
    startedWorld.shared

def claimedWorld : DelegationWorld Nat :=
  readWorld.put 0 ⟨sampleCall, some (ExceptT.run (some <$>
      sampleDispatcher.complete sampleSurroundings sampleAuthentic.identity
        sampleAuthentic.arguments sampleAuthentic.authorization))⟩
    (readWorld.shared.claim 0 sampleTuple sampleSurroundings.consumedAt).2

section Evaluated

set_option maxRecDepth 100000

theorem authenticate_sample_isOk :
    (sampleDispatcher.authenticate sampleSurroundings sampleRequest).isOk = true := by
  decide +kernel

theorem authorize_sample_isOk :
    (sampleDispatcher.authorize sampleSurroundings sampleRequest sampleAuthentic).isOk = true := by
  decide +kernel

theorem tuple_sample : sampleAuthentic.authorization.tuple = some sampleTuple := by
  decide +kernel

theorem wellFormed_sample : sampleAuthentic.authorization.proof.wellFormed = true := by
  decide +kernel

theorem sortable_sample : Json.sortable (.dict sampleAuthentic.arguments) = true := by
  decide +kernel

theorem refused_dispatch_sample : refusedPlainly (sampleDispatcher.dispatch sampleSurroundings
    sampleAuthentic.authorization.proof.action sampleAuthentic.arguments
    (some sampleAuthentic.authorization)).run = true := by
  decide +kernel

end Evaluated

theorem isolated_sample {arguments : Members} {authorization : VerifiedDelegatedCall}
    (isBound : sampleRequest.bind = .ok (arguments, authorization)) :
    arguments = sampleIsolated := by
  obtain ⟨signedCall, isSigned, -, -, -, areIsolated, -⟩ := bind_of_eq_ok isBound
  have isPayload : sampleRequest.payload = samplePayload := rfl
  unfold sampleIsolated
  rw [← isPayload, isSigned, Option.bind_some, areIsolated]

theorem authenticate_sample :
    sampleDispatcher.authenticate sampleSurroundings sampleRequest = .ok sampleAuthentic := by
  have isIdentity : sampleDispatcher.delegationIdentity = some ⟨sampleKey 3, fun _ => []⟩ := rfl
  obtain ⟨arguments, authorization, isBound, isAuthentic⟩ :=
    authentic_of_isOk authenticate_sample_isOk isIdentity fun _ => rfl
  rw [isAuthentic, isolated_sample isBound, bound_cases isBound]
  rfl

theorem authorize_sample :
    sampleDispatcher.authorize sampleSurroundings sampleRequest sampleAuthentic =
      .ok sampleTuple := by
  obtain ⟨tuple, isAuthorized⟩ := exists_of_isOk authorize_sample_isOk
  obtain ⟨-, -, -, isTuple⟩ := authorized_cases isAuthorized
  rw [tuple_sample] at isTuple
  cases isTuple
  exact isAuthorized

theorem completes_sample : ∃ receiptJson head resultJson next refusal, ExceptT.run (some <$>
      sampleDispatcher.complete sampleSurroundings sampleAuthentic.identity
        sampleAuthentic.arguments sampleAuthentic.authorization) =
    .ask (.finish sampleAuthentic.authorization.proof.actionId .failed receiptJson head
      resultJson) next ∧ next (some false) = .done (.error refusal) := by
  have isHead : sampleSurroundings.ledgerHead =
    .ok (List.replicate 64 (CodePoint.ofChar '0')) := rfl
  have isDigest : validDigest (List.replicate 64 (CodePoint.ofChar '0')) = true := by decide
  exact finishes_of_refused refused_dispatch_sample sortable_sample rfl rfl isHead isDigest rfl rfl
    wellFormed_sample tuple_sample

theorem sample_run : ∃ world, (delegations Nat).Run sampleEvents world ∧
    claimedAndOver world = true := by
  have idle : (delegations Nat).initial idleWorld := ⟨rfl, fun _ => rfl⟩
  have started : (delegations Nat).Run [.start 0 sampleCall] startedWorld :=
    (System.Run.start idle).step rfl
  have read : (delegations Nat).Run [.start 0 sampleCall, .serve 0 true] readWorld := by
    obtain ⟨next, isNext, isRest⟩ := proceeds_of_authentic authenticate_sample
    have asks : startedWorld.progress 0 = some ⟨sampleCall,
        some (.ask (.get sampleAuthentic.authorization.proof.actionId) next)⟩ := by
      rw [← isNext]
      exact Calls.World.progress_put ..
    unfold readWorld
    rw [← isRest]
    exact started.step (served_of_asks asks true)
  have claimed : (delegations Nat).Run [.start 0 sampleCall, .serve 0 true, .serve 0 true]
      claimedWorld := by
    obtain ⟨next, isNext, isRest⟩ := claims_of_authorized authorize_sample rfl rfl
    have asks : readWorld.progress 0 = some ⟨sampleCall,
        some (.ask (.claim sampleTuple sampleSurroundings.consumedAt) next)⟩ := by
      rw [← isNext]
      exact Calls.World.progress_put ..
    unfold claimedWorld
    rw [← isRest]
    exact read.step (served_of_asks asks true)
  obtain ⟨receiptJson, head, resultJson, next, refusal, isNext, isRest⟩ := completes_sample
  have asks : claimedWorld.progress 0 = some ⟨sampleCall,
      some (.ask (.finish sampleAuthentic.authorization.proof.actionId .failed receiptJson head
        resultJson) next)⟩ := by
    rw [← isNext]
    exact Calls.World.progress_put ..
  -- The action has not been begun, so that it cannot be finished either.
  have isLeft : ReplayDb.serve true 0 claimedWorld.shared
      (.finish sampleAuthentic.authorization.proof.actionId .failed receiptJson head resultJson) =
        (some false, claimedWorld.shared) := rfl
  have finished := claimed.step (served_of_asks asks true)
  rw [isLeft] at finished
  refine ⟨_, finished, ?_⟩
  unfold claimedAndOver
  rw [Calls.World.progress_put]
  change (_ && match some (Calls.Progress.mk sampleCall (some (next (some false)))) with
    | some ⟨_, some (.done _)⟩ => true
    | _ => false) = true
  rw [isRest]
  rfl

theorem restrained_sample (ticket : Nat) (call : DelegationCall)
    (started : .start ticket call ∈ sampleEvents) : call.Restrained := by
  have isSample : call = sampleCall := by
    simp only [sampleEvents, List.mem_cons, List.not_mem_nil, or_false] at started
    rcases started with same | absurdly | absurdly | absurdly
    · cases same
      rfl
    · cases absurdly
    · cases absurdly
    · cases absurdly
  intro dispatcher surroundings request delegated normal
  rw [isSample] at delegated
  cases delegated
  cases normal

end SelfConnect.Delegation
