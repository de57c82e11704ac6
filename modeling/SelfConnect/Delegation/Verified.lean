import SelfConnect.Delegation.Stages
import SelfConnect.Library.Outcomes

namespace SelfConnect.Delegation

open SelfConnect.Python SelfConnect.Library

/-! What the checks of a delegated call establish. -/

theorem demand_eq_ok {condition : Prop} [Decidable condition] {text : String} {u : Unit} :
    demand condition text = .ok u ↔ condition := by
  unfold demand
  split
  · next holds => exact iff_of_true rfl holds
  · next fails => exact iff_of_false (fun same => by cases same) fails

theorem demand_bind_eq_ok {α : Type} {condition : Prop} [Decidable condition] {text : String}
    {f : Unit → Except Str α} {a : α} :
    (demand condition text >>= f) = .ok a ↔ condition ∧ f () = .ok a := by
  rw [bind_eq_ok]
  constructor
  · intro found
    obtain ⟨u, holds, rest⟩ := found
    exact ⟨demand_eq_ok.mp holds, rest⟩
  · intro found
    exact ⟨(), demand_eq_ok.mpr found.1, found.2⟩

theorem deny_eq_ok {condition : Bool} {text : String} {u : Unit} :
    deny condition text = .ok u ↔ condition = false := by
  cases condition with
  | true => exact iff_of_false (fun same => by cases same) fun same => by cases same
  | false => exact iff_of_true rfl rfl

theorem deny_bind_eq_ok {α : Type} {condition : Bool} {text : String}
    {f : Unit → Except Denial α} {a : α} :
    (deny condition text >>= f) = .ok a ↔ condition = false ∧ f () = .ok a := by
  cases condition with
  | true => exact iff_of_false (fun same => by cases same) fun absurdly => by cases absurdly.1
  | false => exact ⟨fun found => ⟨rfl, found⟩, fun found => found.2⟩

variable {verifiers : Verifiers} {grant : DelegationGrant} {proof : AgentActionProof}
  {payload issuerKey : Bytes}

theorem signedPair_of_verified {now : Value} {revocations : Revocation.RevocationState}
    (verified : verifyDelegatedAction verifiers grant proof now payload issuerKey revocations =
      .ok ()) : SignedPair verifiers grant proof issuerKey ∧
      proof.payloadSha256 = payloadDigest payload := by
  unfold verifyDelegatedAction at verified
  split at verified
  · next grantId proofId grantBytes proofBytes isGrantId _ isGrantBytes isProofBytes =>
      split at verified
      · cases verified
      · next time _ =>
          split at verified
          · next key grantSignature agentKey actionSignature _ isGrantSignature isAgentKey
              isActionSignature =>
              simp only [deny_bind_eq_ok, Bool.or_eq_false_iff, bne_eq_false_iff_eq] at verified
              obtain ⟨isIssuer, ⟨-, grantVerifies⟩, isGrant, ⟨-, isSubject⟩, ⟨-, proofVerifies⟩,
                -, -, -, -, -, -, -, -, -, rest⟩ := verified
              split at rest
              · cases rest
              · rw [← isIssuer]
                refine ⟨⟨⟨grantBytes, grantSignature, isGrantBytes, isGrantSignature, ?_⟩,
                  ⟨agentKey, proofBytes, actionSignature, isAgentKey, isSubject, isProofBytes,
                    isActionSignature, ?_⟩, ?_⟩, ?_⟩
                · simpa using grantVerifies
                · simpa using proofVerifies
                · rw [isGrantId, isGrant]
                · simpa using deny_eq_ok.mp rest
          · cases verified
  · cases verified

variable {dispatcher : Dispatcher} {surroundings : Surroundings} {request : DelegatedRequest}

theorem bind_of_eq_ok {arguments : Members} {authorization : VerifiedDelegatedCall}
    (isBound : request.bind = .ok (arguments, authorization)) :
    ∃ signedCall, Json.loadBytes request.payload = some signedCall ∧
      canonicalBytes signedCall = some request.payload ∧
      (signedCall.getD "tool" .null).eqv (.str request.name) = true ∧
      (signedCall.getD "arguments" .null).eqv request.arguments = true ∧
      ((signedCall.get? "arguments").bind canonicalBytes).bind Json.loadBytes =
        some (.dict arguments) ∧
      authorization.payload = request.payload ∧
      authorization.proof.action = request.name ∧
      authorization.proof.isolated = some authorization.proof ∧
      authorization.proof.payloadSha256 = payloadDigest request.payload := by
  unfold DelegatedRequest.bind at isBound
  split at isBound
  · cases isBound
  · next signedCall isSigned =>
      simp only [demand_bind_eq_ok] at isBound
      obtain ⟨isCanonical, isTool, isArguments, rest⟩ := isBound
      split at rest
      · next members grant proof isMembers isGrant isProof =>
          simp only [demand_bind_eq_ok] at rest
          obtain ⟨isAction, isDigest, done⟩ := rest
          cases done
          refine ⟨signedCall, isSigned, isCanonical, isTool, ?_, isMembers, rfl, isAction,
            ?_, isDigest⟩
          · exact (Bool.and_eq_true_iff.mp isArguments).1
          · unfold AgentActionProof.isolated at isProof ⊢
            split at isProof
            · next isWhole =>
                cases isProof
                exact if_pos isWhole
            · cases isProof
      · cases rest
      · cases rest

theorem orRaise_eq_ok {α : Type} {value : Option α} {text : String} {a : α} :
    orRaise value text = .ok a ↔ value = some a := by
  cases value with
  | none => exact iff_of_false (fun same => by cases same) fun same => by cases same
  | some b =>
      constructor
      · intro same
        cases same
        rfl
      · intro same
        cases same
        rfl

/-- A call that is authentic, and what its request binds. -/
theorem authentic_cases {call : AuthenticCall}
    (isAuthentic : dispatcher.authenticate surroundings request = .ok call) :
    dispatcher.delegationIdentity = some call.identity ∧ dispatcher.hasBoundary = true ∧
      dispatcher.hasLedger = true ∧
      request.bind = .ok (call.arguments, call.authorization) ∧
      surroundings.issuer call.authorization.grant.issuerKeyFingerprint =
        .ok (some call.issuerKey) ∧
      verifyHistoricalDelegatedAction dispatcher.verifiers call.authorization.grant
        call.authorization.proof request.payload call.issuerKey = .ok () := by
  unfold Dispatcher.authenticate at isAuthentic
  split at isAuthentic
  · next identity _ isIdentity hasBoundary =>
      obtain ⟨⟨arguments, authorization⟩, isBound, rest⟩ := bind_eq_ok.mp isAuthentic
      obtain ⟨found, isFound, rest⟩ := bind_eq_ok.mp rest
      cases found with
      | none => cases rest
      | some issuerKey =>
          obtain ⟨hasLedger, rest⟩ := demand_bind_eq_ok.mp rest
          obtain ⟨sound, -, rest⟩ := bind_eq_ok.mp rest
          obtain ⟨-, rest⟩ := demand_bind_eq_ok.mp rest
          split at rest
          · cases rest
          · next verified =>
              cases rest
              exact ⟨isIdentity, hasBoundary, hasLedger, isBound, isFound, verified⟩
  · cases isAuthentic

theorem authorized_cases {call : AuthenticCall} {tuple : ActionTuple}
    (isAuthorized : dispatcher.authorize surroundings request call = .ok tuple) :
    ∃ target, surroundings.live.delegationTargetFor dispatcher.builtins request.name
        call.arguments = .ok target ∧
      (Value.dict call.authorization.proof.target).eqv (.dict target) = true ∧
      call.authorization.tuple = some tuple := by
  unfold Dispatcher.authorize at isAuthorized
  obtain ⟨revocations, -, rest⟩ := bind_eq_ok.mp isAuthorized
  split at rest
  · cases rest
  · obtain ⟨target, isTarget, rest⟩ := bind_eq_ok.mp rest
    obtain ⟨same, isTuple⟩ := demand_bind_eq_ok.mp rest
    exact ⟨target, isTarget, same, orRaise_eq_ok.mp isTuple⟩

theorem vetted_of_authorized {call : AuthenticCall} {tuple : ActionTuple}
    (isAuthentic : dispatcher.authenticate surroundings request = .ok call)
    (isAuthorized : dispatcher.authorize surroundings request call = .ok tuple) :
    Vetted dispatcher surroundings request call.authorization := by
  obtain ⟨-, -, -, isBound, isIssuer, verified⟩ := authentic_cases isAuthentic
  obtain ⟨target, isTarget, same, -⟩ := authorized_cases isAuthorized
  obtain ⟨signedCall, isSigned, isCanonical, isTool, areArguments, areIsolated, isPayload, isAction,
    -, isDigest⟩ := bind_of_eq_ok isBound
  refine ⟨⟨call.issuerKey, isIssuer, (signedPair_of_verified verified).1⟩, isAction, ?_, ?_⟩
  · rw [isPayload]
    exact isDigest
  · rw [isPayload]
    exact ⟨signedCall, call.arguments, target, isSigned, isCanonical, isTool, areArguments,
      areIsolated, isTarget, same⟩

theorem rechecked_of_checked {attempt : Attempt} {name : Str} {given isolated : Members}
    {authorization : VerifiedDelegatedCall} {tuple : ActionTuple}
    (isChecked : dispatcher.checkDelegatedCall attempt name given (some authorization) = .ok tuple)
    (isIsolated : isolate given = .ok isolated) :
    Rechecked dispatcher attempt ⟨name, isolated, some authorization⟩ authorization := by
  unfold Dispatcher.checkDelegatedCall at isChecked
  split at isChecked
  · next known _ isKnown _ =>
      cases isKnown
      obtain ⟨isAction, rest⟩ := demand_bind_eq_ok.mp isChecked
      split at rest
      · cases rest
      · next signed isSigned =>
          obtain ⟨⟨isCanonical, areArguments⟩, rest⟩ := demand_bind_eq_ok.mp rest
          obtain ⟨found, isFound, rest⟩ := bind_eq_ok.mp rest
          cases found with
          | none => cases rest
          | some issuerKey =>
              obtain ⟨revocations, -, rest⟩ := bind_eq_ok.mp rest
              split at rest
              · cases rest
              · next verified =>
                  obtain ⟨target, isTarget, rest⟩ := bind_eq_ok.mp rest
                  obtain ⟨same, -⟩ := demand_bind_eq_ok.mp rest
                  exact ⟨⟨issuerKey, isFound, (signedPair_of_verified verified).1⟩, isAction,
                    signed, given, target, isSigned, isCanonical, areArguments, isIsolated,
                    isTarget, same⟩
  · cases isChecked

theorem tuple_of_checked {attempt : Attempt} {name : Str} {given : Members}
    {authorization : VerifiedDelegatedCall} {tuple : ActionTuple}
    (isChecked : dispatcher.checkDelegatedCall attempt name given (some authorization) =
      .ok tuple) :
    authorization.tuple = some tuple := by
  unfold Dispatcher.checkDelegatedCall at isChecked
  split at isChecked
  · next known _ isKnown _ =>
      cases isKnown
      obtain ⟨-, rest⟩ := demand_bind_eq_ok.mp isChecked
      split at rest
      · cases rest
      · obtain ⟨-, rest⟩ := demand_bind_eq_ok.mp rest
        obtain ⟨found, -, rest⟩ := bind_eq_ok.mp rest
        cases found with
        | none => cases rest
        | some issuerKey =>
            obtain ⟨revocations, -, rest⟩ := bind_eq_ok.mp rest
            split at rest
            · cases rest
            · obtain ⟨target, -, rest⟩ := bind_eq_ok.mp rest
              exact orRaise_eq_ok.mp (demand_bind_eq_ok.mp rest).2
  · cases isChecked

theorem isProtected_lit {tool : String} (isMember : tool ∈ protectedDelegatedTools) :
    isProtected (Str.lit tool) = true :=
  List.any_eq_true.mpr ⟨tool, isMember, decide_eq_true rfl⟩

theorem isProtected_of_roles {name : Str} (hasRoles : (rolesOf name).isSome = true) :
    isProtected name = true := by
  obtain ⟨roles, isRoles⟩ := Option.isSome_iff_exists.mp hasRoles
  obtain ⟨entry, isEntry, -⟩ := Option.map_eq_some_iff.mp isRoles
  have isName : Str.lit entry.1 = name := by simpa using List.find?_some isEntry
  rw [← isName]
  apply isProtected_lit
  have member := List.mem_of_find?_eq_some isEntry
  simp only [leaseToolRoles, List.mem_cons, List.not_mem_nil, or_false] at member
  rcases member with same | same
  · rw [same]
    simp [protectedDelegatedTools]
  · rw [same]
    simp [protectedDelegatedTools]

/-- Only a protected tool has a canonical target. -/
theorem isProtected_of_target {live : Live} {builtins : Replication.Builtins} {name : Str}
    {members target : Members}
    (isTarget : live.delegationTargetFor builtins name members = .ok target) :
    isProtected name = true := by
  unfold Live.delegationTargetFor at isTarget
  dsimp only at isTarget
  split at isTarget
  · next hasRoles => exact isProtected_of_roles hasRoles
  split at isTarget
  · next isName =>
      rw [isName]
      exact isProtected_lit (by simp [protectedDelegatedTools])
  split at isTarget
  · next isName =>
      rw [isName]
      exact isProtected_lit (by simp [protectedDelegatedTools])
  split at isTarget
  · next isName =>
      rw [isName]
      exact isProtected_lit (by simp [protectedDelegatedTools])
  split at isTarget
  · next isName =>
      rcases isName with isName | isName
      · rw [isName]
        exact isProtected_lit (by simp [protectedDelegatedTools])
      · rw [isName]
        exact isProtected_lit (by simp [protectedDelegatedTools])
  split at isTarget
  · next isName =>
      rw [isName]
      exact isProtected_lit (by simp [protectedDelegatedTools])
  · cases isTarget

end SelfConnect.Delegation
