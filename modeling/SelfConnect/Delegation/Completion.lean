import SelfConnect.Delegation.Actuation
import SelfConnect.Delegation.Signing

namespace SelfConnect.Delegation

open SelfConnect.Python SelfConnect.Library

/-! What a delegated call leaves of its action when it has ended. -/

variable {Ticket : Type} [DecidableEq Ticket] {callOf : Ticket → Option DelegationCall}
  {ticket : Ticket} {tuple : ActionTuple} {s : ReplayDb Ticket}
  {troubled : Bool} {dispatcher : Dispatcher} {surroundings : Surroundings}
  {authorization : VerifiedDelegatedCall} {name : Str} {arguments : Members}

section Audit

variable {count : Nat} {args result : Members}

theorem sortable_of_recorded {u : Unit}
    (isRecorded : dispatcher.recordAudit surroundings count args result = .ok u) :
    Json.sortable (.dict result) = true := by
  unfold Dispatcher.recordAudit at isRecorded
  split at isRecorded
  · cases isRecorded
  · next areSortable =>
      rw [Bool.not_eq_true, Bool.not_eq_false', Bool.and_eq_true_iff] at areSortable
      exact areSortable.2

variable (wellBehaved : WellBehaved dispatcher surroundings name authorization)

include wellBehaved

theorem recorded (sortableArgs : Json.sortable (.dict args) = true)
    (sortableResult : Json.sortable (.dict result) = true) :
    dispatcher.recordAudit surroundings count args result = .ok () := by
  unfold Dispatcher.recordAudit
  rw [sortableArgs, sortableResult, wellBehaved.ledgerLog count]
  cases dispatcher.hasLedger with
  | false => rfl
  | true => rfl

theorem encodable_of_unrecorded {raised : Str}
    (isRaised : dispatcher.recordAudit surroundings count args result = .error raised) :
    Json.encodable raised = true := by
  unfold Dispatcher.recordAudit at isRaised
  split at isRaised
  · cases isRaised
    exact Json.encodable_lit _
  · rw [wellBehaved.ledgerLog count] at isRaised
    split at isRaised
    · cases isRaised
    · cases isRaised

end Audit

theorem strictMembers_append (first second : Members) :
    Json.strictMembers (first ++ second) =
      (Json.strictMembers first && Json.strictMembers second) := by
  induction first with
  | nil => rfl
  | cons entry rest ih =>
      obtain ⟨key, value⟩ := entry
      change (_ && _ && Json.strictMembers (rest ++ second)) =
        (_ && _ && Json.strictMembers rest && Json.strictMembers second)
      rw [ih]
      exact (Bool.and_assoc ..).symm

theorem strict_withProfile {profile : Profile} {result : Members}
    (strict : Json.strict (.dict result) = true) :
    Json.strict (.dict (withProfile profile result)) = true := by
  unfold withProfile
  split
  · exact strict
  · change Json.strictMembers (result ++ _) = true
    rw [strictMembers_append, Bool.and_eq_true_iff]
    have profiled : Json.strict (.object [("profile", Value.lit profile.text)]) = true := by
      apply strict_object_iff.mpr
      intro field member
      rw [List.mem_singleton.mp member]
      exact Json.encodable_lit _
    exact ⟨strict, profiled⟩

/-- A dict display of values that can be signed. -/
def Reported (result : Members) : Prop :=
  ∃ fields, result = Members.of fields ∧ ∀ field ∈ fields, Canonical field.2

/-- The tool is executed, and what comes of it is reported. -/
theorem safely_executeTool
    (acting : Acting callOf ticket dispatcher surroundings name authorization tuple)
    (restrained : dispatcher.Restrained) (plain : Json.encodable name = true)
    (sortable : Json.sortable (.dict arguments) = true)
    {post : Except Str Members → ReplayDb Ticket → Prop}
    (holds : Consistent callOf s) (stage : Stage ticket tuple false false troubled s)
    (ends : ∀ outcome t,
      Pending ticket tuple (dispatcher.reaches surroundings name arguments authorization) t →
      (WellBehaved dispatcher surroundings name authorization →
        dispatcher.reaches surroundings name arguments authorization = true →
        ∃ result, outcome = .ok result ∧ Reported result) → post outcome t) :
    Safely callOf ticket post
      (dispatcher.executeTool surroundings name arguments (some authorization)) s := by
  have tried : Safely callOf ticket (fun attempted t => ∃ outcome, attempted = .ok outcome ∧
      Pending ticket tuple (dispatcher.reaches surroundings name arguments authorization) t ∧
      (WellBehaved dispatcher surroundings name authorization →
        dispatcher.reaches surroundings name arguments authorization = true →
        Carried outcome ∧ ∀ result, outcome = .ok result →
          Json.sortable (.dict result) = true))
      (attempt do
        let done ← dispatcher.dispatch surroundings name arguments (some authorization)
        let result := withProfile dispatcher.profile done.1
        dispatcher.recordAudit surroundings 0 done.2 result
        return result) s := by
    apply safely_attempt
    have dispatched : Safely callOf ticket (fun outcome t =>
        Pending ticket tuple (dispatcher.reaches surroundings name arguments authorization) t ∧
        (WellBehaved dispatcher surroundings name authorization →
          dispatcher.reaches surroundings name arguments authorization = true →
          Carried (outcome.map Prod.fst)))
        (dispatcher.dispatch surroundings name arguments (some authorization)) s := by
      apply safely_dispatch acting restrained holds stage
      exact fun outcome t pending carried => ⟨pending, carried⟩
    apply Calls.Contract.Safe.bindExcept holds dispatched
    · intro raised t _ ended
      apply safely_done
      intro u _ undisturbed
      refine ⟨_, rfl, ended.1.later undisturbed, ?_⟩
      exact fun wellBehaved reached =>
        ⟨ended.2 wellBehaved reached, fun result absurdly => by cases absurdly⟩
    · intro done t _ ended
      apply safely_lift
      · intro raised isRaised
        apply safely_done
        intro u _ undisturbed
        refine ⟨_, rfl, ended.1.later undisturbed, ?_⟩
        exact fun wellBehaved _ => ⟨encodable_of_unrecorded wellBehaved isRaised,
          fun result absurdly => by cases absurdly⟩
      · intro _ isRecorded
        apply safely_done
        intro u _ undisturbed
        refine ⟨_, rfl, ended.1.later undisturbed, ?_⟩
        intro wellBehaved reached
        refine ⟨strict_withProfile (ended.2 wellBehaved reached), ?_⟩
        intro result isResult
        cases isResult
        exact sortable_of_recorded isRecorded
  unfold Dispatcher.executeTool
  apply Calls.Contract.Safe.bindExcept holds tried
  · intro raised t _ absurdly
    obtain ⟨_, absurdly, -⟩ := absurdly
    cases absurdly
  intro outcome t _ ended
  obtain ⟨outcome', same, pending, carries⟩ := ended
  cases same
  cases outcome with
  | ok result =>
      apply safely_done
      intro u _ undisturbed
      apply ends _ u (pending.later undisturbed)
      intro wellBehaved reached
      obtain ⟨carried, isSortable⟩ := carries wellBehaved reached
      refine ⟨_, rfl, _, rfl, ?_⟩
      simp only [List.forall_mem_cons]
      exact ⟨⟨rfl, rfl⟩, canonical_str plain, ⟨isSortable result rfl, carried⟩,
        fun _ absurdly => by cases absurdly⟩
  | error raised =>
      apply safely_lift
      · intro raised' isRaised
        apply safely_done
        intro u _ undisturbed
        apply ends _ u (pending.later undisturbed)
        intro wellBehaved _
        rw [recorded wellBehaved sortable rfl] at isRaised
        cases isRaised
      · intro _ _
        apply safely_done
        intro u _ undisturbed
        apply ends _ u (pending.later undisturbed)
        intro wellBehaved reached
        obtain ⟨carried, -⟩ := carries wellBehaved reached
        refine ⟨_, rfl, _, rfl, ?_⟩
        simp only [List.forall_mem_cons]
        refine ⟨⟨rfl, rfl⟩, canonical_str plain, canonical_str ?_,
          fun _ absurdly => by cases absurdly⟩
        exact List.all_eq_true.mpr fun c member =>
          List.all_eq_true.mp carried c (List.mem_of_mem_take member)

/-- A row that a retry finds completed: the result is stored, and a receipt for it that the
executor has signed. -/
structure Completed (identity : AgentIdentity) (authorization : VerifiedDelegatedCall)
    (row : ReplayRow) : Prop where
  outcome : row.outcome = .succeeded ∨ row.outcome = .failed
  stored : ∃ result ledgerHead issuedAt receipt,
    signDelegatedReceipt identity authorization.grant authorization.proof (.dict result)
      row.outcome.text ledgerHead issuedAt = some receipt ∧
    (∃ text, row.receiptJson = some text ∧
      Json.dumpsSorted .compactUnicode receipt.toDict = some text) ∧
    ∃ text, row.resultJson = some text ∧ Json.dumpsSorted .compactUnicode
      (.dict (result ++ Members.of [("delegated_receipt", receipt.toDict)])) = some text

/-- The call has ended: the action is still admitted, or it is completed. -/
def Ended (ticket : Ticket) (tuple : ActionTuple) (identity : AgentIdentity)
    (authorization : VerifiedDelegatedCall) (reached : Bool) (wellBehaved : Prop)
    (db : ReplayDb Ticket) : Prop :=
  (∃ begun entered troubled, Stage ticket tuple begun entered troubled db ∧
    (wellBehaved → troubled = false → reached = false)) ∨
  ∃ row troubled, Settled ticket tuple row troubled db ∧ Completed identity authorization row ∧
    (troubled = false → reached = true)

variable {identity : AgentIdentity} {reached : Bool} {wellBehaved : Prop}

theorem Ended.of_pending (pending : Pending ticket tuple reached s)
    (fails : wellBehaved → reached = true → False) :
    Ended ticket tuple identity authorization reached wellBehaved s := by
  obtain ⟨begun, entered, troubled, stage, -⟩ := pending
  refine .inl ⟨begun, entered, troubled, stage, ?_⟩
  intro holds _
  exact Bool.eq_false_iff.mpr (fails holds)

theorem Ended.later {t : ReplayDb Ticket}
    (ended : Ended ticket tuple identity authorization reached wellBehaved s)
    (undisturbed : Undisturbed ticket s t) :
    Ended ticket tuple identity authorization reached wellBehaved t := by
  rcases ended with ⟨begun, entered, troubled, stage, unreached⟩ |
    ⟨row, troubled, settled, completed, isReached⟩
  · exact .inl ⟨begun, entered, troubled, stage.later undisturbed, unreached⟩
  · exact .inr ⟨row, troubled, settled.later undisturbed, completed, isReached⟩

/-- The tool is executed, its result signed, and the action finalised if it was begun. -/
theorem safely_complete {post : Except Str Members → ReplayDb Ticket → Prop}
    (acting : Acting callOf ticket dispatcher surroundings authorization.proof.action
      authorization tuple)
    (restrained : dispatcher.Restrained)
    (isIdentity : dispatcher.delegationIdentity = some identity)
    (wellFormed : authorization.proof.wellFormed = true)
    (sortable : Json.sortable (.dict arguments) = true)
    (holds : Consistent callOf s) (stage : Stage ticket tuple false false troubled s)
    (ends : ∀ outcome t, Ended ticket tuple identity authorization
      (dispatcher.reaches surroundings authorization.proof.action arguments authorization)
      (WellBehaved dispatcher surroundings authorization.proof.action authorization) t →
      post outcome t) :
    Safely callOf ticket post
      (dispatcher.complete surroundings identity arguments authorization) s := by
  have isTuple : tupleOf authorization.grant authorization.proof authorization.sessionId =
      some tuple := acting.isTuple
  obtain ⟨-, isProof, isAction⟩ := ids_of_tuple isTuple
  have executed : Safely callOf ticket (fun outcome t =>
      Pending ticket tuple (dispatcher.reaches surroundings authorization.proof.action arguments
        authorization) t ∧
      (WellBehaved dispatcher surroundings authorization.proof.action authorization →
        dispatcher.reaches surroundings authorization.proof.action arguments authorization = true →
        ∃ result, outcome = .ok result ∧ Reported result))
      (dispatcher.executeTool surroundings authorization.proof.action arguments
        (some authorization)) s := by
    apply safely_executeTool acting restrained (canonical_of_proofId isProof).2.2.2 sortable holds
      stage
    exact fun outcome t pending reports => ⟨pending, reports⟩
  unfold Dispatcher.complete
  apply Calls.Contract.Safe.bindExcept holds executed
  · intro raised t _ ended
    apply safely_done
    intro u _ undisturbed
    apply ends _ u
    apply Ended.of_pending (ended.1.later undisturbed)
    intro wellBehaved reached
    obtain ⟨result, absurdly, -⟩ := ended.2 wellBehaved reached
    cases absurdly
  intro result t kept ended
  obtain ⟨pending, reports⟩ := ended
  have fails : ∀ raised u, Undisturbed ticket t u →
      (WellBehaved dispatcher surroundings authorization.proof.action authorization →
        dispatcher.reaches surroundings authorization.proof.action arguments authorization =
          true → False) →
      post (.error raised) u := by
    intro raised u undisturbed absurdly
    exact ends _ u (.of_pending (pending.later undisturbed) absurdly)
  apply safely_lift
  · intro raised isRaised
    apply safely_done
    intro u _ undisturbed
    apply fails raised u undisturbed
    intro wellBehaved _
    rw [wellBehaved.ledgerStillSound] at isRaised
    cases isRaised
  intro ledgerOk isSound
  apply safely_lift
  · intro raised isRaised
    apply safely_done
    intro u _ undisturbed
    apply fails raised u undisturbed
    intro wellBehaved _
    rw [wellBehaved.ledgerStillSound] at isSound
    cases isSound
    cases isRaised
  intro _ _
  apply safely_lift
  · intro raised isRaised
    apply safely_done
    intro u _ undisturbed
    apply fails raised u undisturbed
    intro wellBehaved _
    obtain ⟨head, isHead, -⟩ := wellBehaved.ledgerHead
    rw [isHead] at isRaised
    cases isRaised
  intro ledgerHead isHead
  have signs : WellBehaved dispatcher surroundings authorization.proof.action authorization →
      dispatcher.reaches surroundings authorization.proof.action arguments authorization = true →
      Reported result ∧ ∀ status, bounded (Str.lit status) = true →
        ∃ receipt, signDelegatedReceipt identity authorization.grant authorization.proof
          (.dict result) status ledgerHead (.float surroundings.issuedAt) = some receipt ∧
          Canonical receipt.toDict := by
    intro wellBehaved reached
    obtain ⟨result', same, reported⟩ := reports wellBehaved reached
    cases same
    refine ⟨reported, ?_⟩
    obtain ⟨fields, isResult, canonical⟩ := reported
    obtain ⟨head, isHead', valid⟩ := wellBehaved.ledgerHead
    rw [isHead] at isHead'
    cases isHead'
    intro status isStatus
    apply signed (wellBehaved.identity identity isIdentity) wellFormed isTuple _ isStatus valid
      wellBehaved.clock
    rw [isResult]
    exact canonical_object_iff.mpr canonical
  let succeeded := ((Value.dict result).getD "ok" .null).truthy
  have isStatus : bounded (Str.lit (if succeeded then "succeeded" else "failed")) = true := by
    cases succeeded with
    | true => decide
    | false => decide
  have isText : (if succeeded then Outcome.succeeded else Outcome.failed).text =
      if succeeded then "succeeded" else "failed" := by
    cases succeeded with
    | true => rfl
    | false => rfl
  apply safely_lift
  · intro raised isRaised
    apply safely_done
    intro u _ undisturbed
    apply fails raised u undisturbed
    intro wellBehaved reached
    obtain ⟨receipt, isSigned, -⟩ := (signs wellBehaved reached).2 _ isStatus
    change orRaise (signDelegatedReceipt _ _ _ _
      (if succeeded then "succeeded" else "failed") _ _) _ = _ at isRaised
    rw [isSigned] at isRaised
    cases isRaised
  intro receipt isReceipt
  have isSigned := orRaise_eq_ok.mp isReceipt
  let stored := result ++ Members.of [("delegated_receipt", receipt.toDict)]
  have finished : Safely callOf ticket (fun attempted u => ∃ outcome, attempted = .ok outcome ∧
      Ended ticket tuple identity authorization
        (dispatcher.reaches surroundings authorization.proof.action arguments authorization)
        (WellBehaved dispatcher surroundings authorization.proof.action authorization) u)
      (attempt (SQLiteActionReplayStore.finish authorization.proof.actionId succeeded
        (some receipt.toDict) ledgerHead (some (.dict stored)))) t := by
    have dumpable :
        WellBehaved dispatcher surroundings authorization.proof.action authorization →
        dispatcher.reaches surroundings authorization.proof.action arguments authorization =
          true →
        Dumpable (some receipt.toDict) ∧ Dumpable (some (.dict stored)) := by
      intro wellBehaved reached
      obtain ⟨⟨fields, isResult, canonical⟩, signs⟩ := signs wellBehaved reached
      obtain ⟨receipt', isSigned', canonicalReceipt⟩ := signs _ isStatus
      cases isSigned.symm.trans isSigned'
      have canonicalStored : Canonical (.dict stored) := by
        have isObject : Value.dict stored =
            .object (fields ++ [("delegated_receipt", receipt.toDict)]) := by
          simp only [stored, isResult, Value.object, Members.of, List.map_append]
        rw [isObject]
        apply canonical_object_iff.mpr
        intro field member
        rcases List.mem_append.mp member with inResult | last
        · exact canonical field inResult
        · rw [List.mem_singleton.mp last]
          exact canonicalReceipt
      constructor
      · intro given same
        cases same
        exact dumpsSorted_of_canonical canonicalReceipt _
      · intro given same
        cases same
        exact dumpsSorted_of_canonical canonicalStored _
    obtain ⟨begun, entered, troubled', still, isBegun⟩ := pending
    apply safely_attempt
    rw [isAction]
    apply safely_finish kept still
    · intro raised u after grows troubles stage
      refine ⟨_, rfl, .inl ⟨begun, entered, after, stage, ?_⟩⟩
      intro wellBehaved untroubled
      apply Bool.eq_false_iff.mpr
      intro reached
      obtain ⟨dumpsReceipt, dumpsStored⟩ := dumpable wellBehaved reached
      have earlier : troubled' = false :=
        Bool.eq_false_iff.mpr fun isTroubled => by simp [grows isTroubled] at untroubled
      rw [troubles dumpsReceipt dumpsStored ((isBegun earlier).trans reached)] at untroubled
      cases untroubled
    · intro u row wasBegun dumpsReceipt dumpsStored _ isOutcome isReceiptJson isResultJson settled
      refine ⟨_, rfl, .inr ⟨row, troubled', settled, ?_, fun untroubled =>
        (isBegun untroubled).symm.trans wasBegun⟩⟩
      obtain ⟨receiptText, isReceiptText⟩ := dumpsReceipt _ rfl
      obtain ⟨storedText, isStoredText⟩ := dumpsStored _ rfl
      constructor
      · rw [isOutcome]
        cases succeeded with
        | true => exact .inl rfl
        | false => exact .inr rfl
      · refine ⟨result, ledgerHead, .float surroundings.issuedAt, receipt, ?_,
          ⟨receiptText, ?_, isReceiptText⟩, storedText, ?_, isStoredText⟩
        · rw [isOutcome, isText]
          exact isSigned
        · rw [isReceiptJson, Option.bind_some, isReceiptText]
        · rw [isResultJson, Option.bind_some, isStoredText]
  apply Calls.Contract.Safe.bindExcept kept finished
  · intro raised u _ absurdly
    obtain ⟨_, absurdly, -⟩ := absurdly
    cases absurdly
  · intro outcome u _ ended
    obtain ⟨outcome', same, ended⟩ := ended
    cases same
    cases outcome with
    | ok _ => exact safely_done fun v _ undisturbed => ends _ v (ended.later undisturbed)
    | error _ => exact safely_done fun v _ undisturbed => ends _ v (ended.later undisturbed)

/-- What a delegated call leaves of the action it has claimed, if it has claimed one. -/
def Concluded (ticket : Ticket) (dispatcher : Dispatcher) (surroundings : Surroundings)
    (request : DelegatedRequest) (db : ReplayDb Ticket) : Prop :=
  ∃ authentic tuple, dispatcher.authenticate surroundings request = .ok authentic ∧
    Ended ticket tuple authentic.identity authentic.authorization
      (dispatcher.reaches surroundings authentic.authorization.proof.action authentic.arguments
        authentic.authorization)
      (WellBehaved dispatcher surroundings authentic.authorization.proof.action
        authentic.authorization) db

theorem Concluded.later {request : DelegatedRequest} {t : ReplayDb Ticket}
    (concluded : Concluded ticket dispatcher surroundings request s)
    (undisturbed : Undisturbed ticket s t) :
    Concluded ticket dispatcher surroundings request t := by
  obtain ⟨authentic, tuple, isAuthentic, ended⟩ := concluded
  exact ⟨authentic, tuple, isAuthentic, ended.later undisturbed⟩

theorem safely_callDelegatedTool {call : DelegationCall} {request : DelegatedRequest}
    {post : Except Str Members → ReplayDb Ticket → Prop} (isCall : callOf ticket = some call)
    (delegated : call.delegated? = some (dispatcher, surroundings, request))
    (restrained : dispatcher.Restrained) (holds : Consistent callOf s) (idle : Idle ticket s)
    (ends : ∀ outcome t, Idle ticket t ∨ Concluded ticket dispatcher surroundings request t →
      post outcome t) :
    Safely callOf ticket post (dispatcher.callDelegatedTool surroundings request) s := by
  have idly : ∀ outcome t, Idle ticket t → ∀ u, Undisturbed ticket t u → post outcome u :=
    fun outcome t idle u undisturbed => ends outcome u (.inl (idle.later undisturbed))
  unfold Dispatcher.callDelegatedTool
  apply safely_lift
  · exact fun raised _ => safely_done fun t _ undisturbed => idly _ s idle t undisturbed
  intro authentic isAuthentic
  have reads : Safely callOf ticket (fun _ t => Idle ticket t)
      (SQLiteActionReplayStore.get authentic.authorization.proof.actionId) s :=
    safely_get idle fun _ t still => still
  apply Calls.Contract.Safe.bindExcept holds reads
  · exact fun raised t _ still => safely_done fun u _ undisturbed => idly _ t still u undisturbed
  intro recovered t kept still
  split
  · exact safely_return fun u undisturbed => idly _ t still u undisturbed
  apply safely_lift
  · exact fun raised _ => safely_done fun u _ undisturbed => idly _ t still u undisturbed
  intro tuple isAuthorized
  obtain ⟨target, isTarget, -, isTuple⟩ := authorized_cases isAuthorized
  obtain ⟨isIdentity, -, -, isBound, -, -⟩ := authentic_cases isAuthentic
  obtain ⟨signedCall, -, -, -, -, areArguments, -, isAction, isIsolated, -⟩ := bind_of_eq_ok isBound
  have claims : Safely callOf ticket (fun outcome u =>
      (outcome ≠ .ok true ∧ Idle ticket u) ∨
      outcome = .ok true ∧ ∃ troubled, Stage ticket tuple false false troubled u)
      (SQLiteActionReplayStore.claim tuple surroundings.consumedAt) t := by
    apply safely_claim still
    · exact fun outcome u differs idle => .inl ⟨differs, idle⟩
    · exact fun u troubled stage => .inr ⟨rfl, troubled, stage⟩
  apply Calls.Contract.Safe.bindExcept kept claims
  · intro raised u _ ended
    rcases ended with ⟨-, idle⟩ | ⟨absurdly, -⟩
    · exact safely_done fun v _ undisturbed => idly _ u idle v undisturbed
    · cases absurdly
  intro claimed u kept ended
  apply safely_lift
  · intro raised isRaised
    rcases ended with ⟨-, idle⟩ | ⟨isClaimed, -⟩
    · exact safely_done fun v _ undisturbed => idly _ u idle v undisturbed
    · cases isClaimed
      cases isRaised
  intro _ isClaimed
  rcases ended with ⟨differs, -⟩ | ⟨-, troubled, stage⟩
  · rw [demand_eq_ok.mp isClaimed] at differs
    exact absurd rfl differs
  have wellFormed : authentic.authorization.proof.wellFormed = true := by
    unfold AgentActionProof.isolated at isIsolated
    split at isIsolated
    · next isWhole => exact (Bool.and_eq_true_iff.mp isWhole).1
    · cases isIsolated
  have sortable : Json.sortable (.dict authentic.arguments) = true := by
    obtain ⟨bytes, -, isLoaded⟩ := Option.bind_eq_some_iff.mp areArguments
    exact Json.sortable_loadBytes isLoaded
  apply safely_complete _ restrained isIdentity wellFormed sortable kept stage
  · exact fun outcome v ended => ends outcome v (.inr ⟨authentic, tuple, isAuthentic, ended⟩)
  · refine ⟨⟨call, request, isCall, delegated, vetted_of_authorized isAuthentic isAuthorized,
      isAction⟩, isTuple, ?_⟩
    rw [isAction]
    exact isProtected_of_target isTarget

end SelfConnect.Delegation
