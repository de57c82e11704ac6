import SelfConnect.Delegation.Shim

namespace SelfConnect.Delegation

open SelfConnect.Python SelfConnect.Library

/-! Who may act on an action: the call that claimed it, and no other. -/

variable {Ticket : Type}

namespace ReplayDb

variable [DecidableEq Ticket]

/-- What has been done under one ticket. -/
def own (db : ReplayDb Ticket) (ticket : Ticket) : List Happening :=
  (db.happened.filter fun event => event.1 = ticket).map Prod.snd

theorem mem_own {db : ReplayDb Ticket} {ticket : Ticket} {happening : Happening} :
    happening ∈ db.own ticket ↔ (ticket, happening) ∈ db.happened := by
  constructor
  · intro member
    obtain ⟨event, isEvent, isHappening⟩ := List.mem_map.mp member
    obtain ⟨isMember, isTicket⟩ := List.mem_filter.mp isEvent
    have same : event = (ticket, happening) := Prod.ext (of_decide_eq_true isTicket) isHappening
    rw [← same]
    exact isMember
  · intro member
    exact List.mem_map.mpr ⟨_, List.mem_filter.mpr ⟨member, decide_eq_true rfl⟩, rfl⟩

theorem own_record (db : ReplayDb Ticket) (ticket : Ticket) (happening : Happening) :
    (db.record ticket happening).own ticket = db.own ticket ++ [happening] := by
  simp [own, record]

theorem own_record_of_ne (db : ReplayDb Ticket) {ticket other : Ticket} (differs : other ≠ ticket)
    (happening : Happening) : (db.record ticket happening).own other = db.own other := by
  simp [own, record, differs.symm]

@[simp] theorem own_put (db : ReplayDb Ticket) (actionId : Str) (row : ReplayRow)
    (ticket : Ticket) : (db.put actionId row).own ticket = db.own ticket := rfl

omit [DecidableEq Ticket] in
@[simp] theorem rows_record (db : ReplayDb Ticket) (ticket : Ticket) (happening : Happening) :
    (db.record ticket happening).rows = db.rows := rfl

omit [DecidableEq Ticket] in
@[simp] theorem happened_record (db : ReplayDb Ticket) (ticket : Ticket) (happening : Happening) :
    (db.record ticket happening).happened = db.happened ++ [(ticket, happening)] := rfl

omit [DecidableEq Ticket] in
@[simp] theorem happened_put (db : ReplayDb Ticket) (actionId : Str) (row : ReplayRow) :
    (db.put actionId row).happened = db.happened := rfl

omit [DecidableEq Ticket] in
theorem row_put (db : ReplayDb Ticket) (actionId other : Str) (row : ReplayRow) :
    (db.put actionId row).rows.get? other =
      if other = actionId then some row else db.rows.get? other :=
  Dict.get?_set ..

end ReplayDb

/-- The entry of a delegated call for one action. -/
def Happening.entryOf (actionId : Str) : Happening → Option Entry
  | .entered entry =>
      if entry.authorization.map (fun authorization => authorization.proof.actionId) =
          some actionId then some entry
      else none
  | _ => none

/-- The entries into bodies of protected tools, for one action. -/
def ReplayDb.entriesOf (db : ReplayDb Ticket) (actionId : Str) : List Entry :=
  db.happened.filterMap fun event => event.2.entryOf actionId

theorem VerifiedDelegatedCall.actionId_of_tuple {authorization : VerifiedDelegatedCall}
    {found : ActionTuple} (isTuple : authorization.tuple = some found) :
    found.actionId = authorization.proof.actionId := by
  unfold tuple tupleOf at isTuple
  cases grantId : authorization.grant.grantId with
  | none => simp [grantId] at isTuple
  | some grantId' =>
      cases proofId : authorization.proof.proofId with
      | none => simp [grantId, proofId] at isTuple
      | some proofId' =>
          simp only [grantId, proofId, Option.bind_eq_bind, Option.bind_some, Option.pure_def,
            Option.some.injEq] at isTuple
          rw [← isTuple]

theorem Happening.entryOf_eq_some {actionId : Str} {happening : Happening} {entry : Entry}
    (isEntry : happening.entryOf actionId = some entry) : happening = .entered entry ∧
      ∃ authorization, entry.authorization = some authorization ∧
        authorization.proof.actionId = actionId := by
  cases happening with
  | claimed | begun | finalised | unanswered => cases isEntry
  | entered known =>
      unfold entryOf at isEntry
      dsimp only at isEntry
      split at isEntry
      · next isAction =>
          cases isEntry
          obtain ⟨authorization, isAuthorization, isAction⟩ := Option.map_eq_some_iff.mp isAction
          exact ⟨rfl, authorization, isAuthorization, isAction⟩
      · cases isEntry

/-- The delegated call that a call makes of a dispatcher, if any. -/
def DelegationCall.delegated? :
    DelegationCall → Option (Dispatcher × Surroundings × DelegatedRequest)
  | .callTool _ _ _ _ => none
  | .callDelegatedTool dispatcher surroundings request => some (dispatcher, surroundings, request)
  | .prompt shim surroundings request =>
      match shim.backend, shim.admit surroundings request with
      | .governedRuntime dispatcher, .ok admitted =>
          some (dispatcher, surroundings.backend, admitted.2)
      | _, _ => none

/-- The signatures of a grant and of a proof under it verify, the former under a key. -/
structure SignedPair (verifiers : Verifiers) (grant : DelegationGrant) (proof : AgentActionProof)
    (issuerKey : Bytes) : Prop where
  grantSigned : ∃ bytes signature, grant.signingBytes = some bytes ∧
    fromHex grant.signatureHex = some signature ∧
    verifiers.verifySignature grant.signatureAlgorithm issuerKey bytes signature = true
  proofSigned : ∃ agentKey bytes signature, fromHex proof.agentPublicKeyHex = some agentKey ∧
    Str.ofText (hexText agentKey) = grant.subjectPublicKeyHex ∧
    proof.signingBytes = some bytes ∧ fromHex proof.signatureHex = some signature ∧
    verifiers.verifySignature proof.signatureAlgorithm agentKey bytes signature = true
  granted : grant.grantId = some proof.grantId

/-- What a call has verified before it claims its action. -/
structure Vetted (dispatcher : Dispatcher) (surroundings : Surroundings)
    (request : DelegatedRequest) (authorization : VerifiedDelegatedCall) : Prop where
  signed : ∃ issuerKey,
    surroundings.issuer authorization.grant.issuerKeyFingerprint = .ok (some issuerKey) ∧
    SignedPair dispatcher.verifiers authorization.grant authorization.proof issuerKey
  tool : authorization.proof.action = request.name
  digest : authorization.proof.payloadSha256 = payloadDigest authorization.payload
  bound : ∃ signedCall arguments target, Json.loadBytes authorization.payload = some signedCall ∧
    canonicalBytes signedCall = some authorization.payload ∧
    (signedCall.getD "tool" .null).eqv (.str request.name) = true ∧
    (signedCall.getD "arguments" .null).eqv request.arguments = true ∧
    ((signedCall.get? "arguments").bind canonicalBytes).bind Json.loadBytes =
      some (.dict arguments) ∧
    surroundings.live.delegationTargetFor dispatcher.builtins request.name arguments =
      .ok target ∧
    (Value.dict authorization.proof.target).eqv (.dict target) = true

/-- What a governed profile has verified again when it enters a body. -/
structure Rechecked (dispatcher : Dispatcher) (attempt : Attempt) (entry : Entry)
    (authorization : VerifiedDelegatedCall) : Prop where
  signed : ∃ issuerKey,
    attempt.issuer authorization.grant.issuerKeyFingerprint = .ok (some issuerKey) ∧
    SignedPair dispatcher.verifiers authorization.grant authorization.proof issuerKey
  tool : authorization.proof.action = entry.tool
  bound : ∃ signedCall given target, Json.loadBytes authorization.payload = some signedCall ∧
    canonicalBytes signedCall = some authorization.payload ∧
    (signedCall.getD "arguments" .null).eqv (.dict given) = true ∧
    isolate given = .ok entry.arguments ∧
    attempt.live.delegationTargetFor dispatcher.builtins entry.tool given = .ok target ∧
    (Value.dict authorization.proof.target).eqv (.dict target) = true

/-- An entry made with a delegated authorization: its call has claimed the very tuple, and
has verified it. -/
def Rightful (call : DelegationCall) (claimed : ActionTuple → Prop) (entry : Entry)
    (authorization : VerifiedDelegatedCall) : Prop :=
  ∃ dispatcher surroundings request tuple,
    call.delegated? = some (dispatcher, surroundings, request) ∧
    authorization.tuple = some tuple ∧ claimed tuple ∧
    Vetted dispatcher surroundings request authorization ∧
    entry.tool = request.name ∧
    (dispatcher.profile.governed = true →
      ∃ count, Rechecked dispatcher (surroundings.attempts count) entry authorization)

/-- An entry made without one: only outside of the governed profiles. -/
def Ungoverned : DelegationCall → Prop
  | .callTool dispatcher _ _ _ => dispatcher.profile = .normal
  | .callDelegatedTool _ _ _ | .prompt _ _ _ => False

section Contract

variable (callOf : Ticket → Option DelegationCall)

/-- The table agrees with the record. -/
structure Consistent (db : ReplayDb Ticket) : Prop where
  kept : ∀ ticket tuple, (ticket, .claimed tuple) ∈ db.happened →
    ∃ row, db.rows.get? tuple.actionId = some row ∧ row.tuple = tuple
  owned : ∀ actionId row, db.rows.get? actionId = some row →
    ∃ ticket, (ticket, .claimed row.tuple) ∈ db.happened ∧ row.tuple.actionId = actionId
  once : ∀ first second a b, (first, .claimed a) ∈ db.happened →
    (second, .claimed b) ∈ db.happened → a.actionId = b.actionId → first = second
  enteredOnce : ∀ actionId, (db.entriesOf actionId).length ≤ 1
  rightful : ∀ ticket entry authorization, (ticket, .entered entry) ∈ db.happened →
    entry.authorization = some authorization → ∃ call, callOf ticket = some call ∧
      Rightful call (fun tuple => (ticket, .claimed tuple) ∈ db.happened) entry authorization
  ungoverned : ∀ ticket entry, (ticket, .entered entry) ∈ db.happened →
    entry.authorization = none → ∃ call, callOf ticket = some call ∧ Ungoverned call

variable [DecidableEq Ticket]

/-- A call adds to its own record, and changes rows it has claimed. -/
structure Acts (ticket : Ticket) (s t : ReplayDb Ticket) : Prop where
  adds : ∀ other, other ≠ ticket → t.own other = s.own other
  changes : ∀ actionId, t.rows.get? actionId = s.rows.get? actionId ∨
    ∃ tuple, tuple.actionId = actionId ∧ (ticket, .claimed tuple) ∈ t.happened

/-- What a call has done stays, and the rows it has claimed stay as they are. -/
structure Undisturbed (ticket : Ticket) (s t : ReplayDb Ticket) : Prop where
  own : t.own ticket = s.own ticket
  rows : ∀ tuple, .claimed tuple ∈ s.own ticket →
    t.rows.get? tuple.actionId = s.rows.get? tuple.actionId

/-- The contract between the calls on one store. -/
def custody : Calls.Contract Ticket (ReplayDb Ticket) where
  inv := Consistent callOf
  fresh ticket db := db.own ticket = []
  guarantee := Acts
  rely := Undisturbed
  rely_refl := fun _ _ => ⟨rfl, fun _ _ => rfl⟩
  rely_trans := by
    intro ticket s t u first second
    refine ⟨second.own.trans first.own, ?_⟩
    intro tuple claimed
    rw [second.rows tuple (first.own ▸ claimed), first.rows tuple claimed]
  rely_of_guarantee := by
    intro ticket other s t _ holds differs acts
    refine ⟨acts.adds other differs, ?_⟩
    intro tuple claimed
    rcases acts.changes tuple.actionId with unchanged | changed
    · exact unchanged
    · obtain ⟨mine, same, isMine⟩ := changed
      have theirs : (other, Happening.claimed tuple) ∈ t.happened := by
        apply ReplayDb.mem_own.mp
        rw [acts.adds other differs]
        exact claimed
      exact absurd (holds.once other ticket tuple mine theirs isMine same.symm) differs
  fresh_of_rely := by
    intro ticket s t isFresh undisturbed
    exact undisturbed.own.trans isFresh

variable {callOf} {db : ReplayDb Ticket} {ticket : Ticket}

omit [DecidableEq Ticket] in
theorem entriesOf_record (db : ReplayDb Ticket) (ticket : Ticket) (happening : Happening)
    (actionId : Str) : (db.record ticket happening).entriesOf actionId =
      db.entriesOf actionId ++ (happening.entryOf actionId).toList := by
  rw [ReplayDb.entriesOf, ReplayDb.happened_record, List.filterMap_append]
  cases entry : happening.entryOf actionId with
  | none => simp [entry, ReplayDb.entriesOf]
  | some entry' => simp [entry, ReplayDb.entriesOf]

omit [DecidableEq Ticket] in
@[simp] theorem entriesOf_put (db : ReplayDb Ticket) (actionId other : Str) (row : ReplayRow) :
    (db.put actionId row).entriesOf other = db.entriesOf other := rfl

theorem Acts.refl (ticket : Ticket) (db : ReplayDb Ticket) : Acts ticket db db :=
  ⟨fun _ _ => rfl, fun _ => .inl rfl⟩

theorem Acts.record (happening : Happening) : Acts ticket db (db.record ticket happening) :=
  ⟨fun _ differs => db.own_record_of_ne differs happening, fun _ => .inl rfl⟩

/-- A row that a call has claimed changes, and the call makes a note of it. -/
theorem Acts.put {tuple : ActionTuple} (row : ReplayRow) (happening : Happening)
    (claimed : (ticket, .claimed tuple) ∈ (db.record ticket happening).happened) :
    Acts ticket db ((db.put tuple.actionId row).record ticket happening) := by
  constructor
  · intro other differs
    rw [ReplayDb.own_record_of_ne _ differs, ReplayDb.own_put]
  · intro actionId
    by_cases same : actionId = tuple.actionId
    · exact .inr ⟨tuple, same.symm, claimed⟩
    · rw [ReplayDb.rows_record, ReplayDb.row_put, if_neg same]
      exact .inl rfl

omit [DecidableEq Ticket]

/-- A note that claims and enters nothing. -/
theorem Consistent.record (holds : Consistent callOf db) {happening : Happening}
    (claims : ∀ tuple, happening ≠ .claimed tuple) (enters : ∀ entry, happening ≠ .entered entry) :
    Consistent callOf (db.record ticket happening) := by
  have earlier : ∀ {other : Ticket} {tuple}, (other, Happening.claimed tuple) ∈
      (db.record ticket happening).happened → (other, Happening.claimed tuple) ∈ db.happened := by
    intro other tuple member
    rcases List.mem_append.mp member with before | last
    · exact before
    · cases List.mem_singleton.mp last
      exact absurd rfl (claims tuple)
  have before : ∀ {other : Ticket} {entry}, (other, Happening.entered entry) ∈
      (db.record ticket happening).happened → (other, Happening.entered entry) ∈ db.happened := by
    intro other entry member
    rcases List.mem_append.mp member with before | last
    · exact before
    · cases List.mem_singleton.mp last
      exact absurd rfl (enters entry)
  have later : ∀ {event}, event ∈ db.happened → event ∈ (db.record ticket happening).happened :=
    fun member => List.mem_append_left _ member
  refine ⟨?_, ?_, ?_, ?_, ?_, ?_⟩
  · exact fun other tuple member => holds.kept other tuple (earlier member)
  · intro actionId row found
    obtain ⟨other, claimed, isId⟩ := holds.owned actionId row found
    exact ⟨other, later claimed, isId⟩
  · exact fun first second a b isFirst isSecond =>
      holds.once first second a b (earlier isFirst) (earlier isSecond)
  · intro actionId
    have none : happening.entryOf actionId = none := by
      cases happening with
      | entered entry => exact absurd rfl (enters entry)
      | claimed | begun | finalised | unanswered => rfl
    rw [entriesOf_record, none]
    simpa using holds.enteredOnce actionId
  · intro other entry authorization member isAuthorized
    obtain ⟨call, isCall, dispatcher, surroundings, request, tuple, delegated, isTuple, claimed,
      rest⟩ := holds.rightful other entry authorization (before member) isAuthorized
    exact ⟨call, isCall, dispatcher, surroundings, request, tuple, delegated, isTuple,
      later claimed, rest⟩
  · exact fun other entry member => holds.ungoverned other entry (before member)

/-- A row changes, but not its tuple. -/
theorem Consistent.put (holds : Consistent callOf db) {actionId : Str} {row changed : ReplayRow}
    (found : db.rows.get? actionId = some row) (same : changed.tuple = row.tuple) :
    Consistent callOf (db.put actionId changed) := by
  refine ⟨?_, ?_, holds.once, holds.enteredOnce, holds.rightful, holds.ungoverned⟩
  · intro other tuple member
    obtain ⟨there, isThere, isTuple⟩ := holds.kept other tuple member
    rw [ReplayDb.row_put]
    by_cases isId : tuple.actionId = actionId
    · rw [isId, found] at isThere
      cases isThere
      exact ⟨changed, if_pos isId, same.trans isTuple⟩
    · exact ⟨there, (if_neg isId).trans isThere, isTuple⟩
  · intro other there isThere
    rw [ReplayDb.row_put] at isThere
    by_cases isId : other = actionId
    · rw [if_pos isId] at isThere
      cases isThere
      rw [same, isId]
      exact holds.owned actionId row found
    · rw [if_neg isId] at isThere
      exact holds.owned other there isThere

theorem Consistent.change (holds : Consistent callOf db) {actionId : Str} {row changed : ReplayRow}
    (found : db.rows.get? actionId = some row) (same : changed.tuple = row.tuple)
    {happening : Happening} (claims : ∀ tuple, happening ≠ .claimed tuple)
    (enters : ∀ entry, happening ≠ .entered entry) :
    Consistent callOf ((db.put actionId changed).record ticket happening) :=
  (holds.put found same).record claims enters

/-- An action is claimed for the first time. -/
theorem Consistent.claim (holds : Consistent callOf db) {row : ReplayRow}
    (absent : db.rows.get? row.tuple.actionId = none) :
    Consistent callOf
      ((db.put row.tuple.actionId row).record ticket (.claimed row.tuple)) := by
  have unclaimed : ∀ other tuple, (other, Happening.claimed tuple) ∈ db.happened →
      tuple.actionId ≠ row.tuple.actionId := by
    intro other tuple member same
    obtain ⟨there, found, -⟩ := holds.kept other tuple member
    rw [same, absent] at found
    cases found
  have split : ∀ {other : Ticket} {tuple}, (other, Happening.claimed tuple) ∈
      db.happened ++ [(ticket, .claimed row.tuple)] →
      (other, Happening.claimed tuple) ∈ db.happened ∨ other = ticket ∧ tuple = row.tuple := by
    intro other tuple member
    rcases List.mem_append.mp member with before | last
    · exact .inl before
    · cases List.mem_singleton.mp last
      exact .inr ⟨rfl, rfl⟩
  refine ⟨?_, ?_, ?_, ?_, ?_, ?_⟩
  · intro other tuple member
    rw [ReplayDb.rows_record, ReplayDb.row_put]
    rcases split member with before | ⟨-, isTuple⟩
    · rw [if_neg (unclaimed other tuple before)]
      exact holds.kept other tuple before
    · exact ⟨row, if_pos (congrArg ActionTuple.actionId isTuple), isTuple.symm⟩
  · intro actionId there found
    rw [ReplayDb.rows_record, ReplayDb.row_put] at found
    by_cases same : actionId = row.tuple.actionId
    · rw [if_pos same] at found
      cases found
      exact ⟨ticket, List.mem_append_right _ List.mem_cons_self, same.symm⟩
    · rw [if_neg same] at found
      obtain ⟨other, claimed, isId⟩ := holds.owned actionId there found
      exact ⟨other, List.mem_append_left _ claimed, isId⟩
  · intro first second a b isFirst isSecond same
    rcases split isFirst with earlier | ⟨isTicket, isTuple⟩
    · rcases split isSecond with before | ⟨isTicket, isTuple⟩
      · exact holds.once first second a b earlier before same
      · rw [isTuple] at same
        exact absurd same (unclaimed first a earlier)
    · rcases split isSecond with before | ⟨alsoTicket, -⟩
      · rw [isTuple] at same
        exact absurd same.symm (unclaimed second b before)
      · rw [isTicket, alsoTicket]
  · intro actionId
    rw [entriesOf_record]
    simpa [Happening.entryOf] using holds.enteredOnce actionId
  · intro other entry authorization member isAuthorized
    have before : (other, Happening.entered entry) ∈ db.happened := by simpa using member
    obtain ⟨call, isCall, dispatcher, surroundings, request, tuple, delegated, isTuple, claimed,
      rest⟩ := holds.rightful other entry authorization before isAuthorized
    exact ⟨call, isCall, dispatcher, surroundings, request, tuple, delegated, isTuple,
      List.mem_append_left _ claimed, rest⟩
  · intro other entry member
    exact holds.ungoverned other entry (by simpa using member)

/-- A body is entered by a call that has entered none. -/
theorem Consistent.enter (holds : Consistent callOf db) {call : DelegationCall} {entry : Entry}
    (isCall : callOf ticket = some call)
    (rightful : ∀ authorization, entry.authorization = some authorization →
      Rightful call (fun tuple => (ticket, .claimed tuple) ∈ db.happened) entry authorization ∧
        ∀ other, (ticket, .entered other) ∉ db.happened)
    (ungoverned : entry.authorization = none → Ungoverned call) :
    Consistent callOf (db.record ticket (.entered entry)) := by
  have earlier : ∀ {other : Ticket} {tuple}, (other, Happening.claimed tuple) ∈
      (db.record ticket (.entered entry)).happened →
      (other, Happening.claimed tuple) ∈ db.happened := by
    intro other tuple member
    simpa using member
  have split : ∀ {other : Ticket} {known}, (other, Happening.entered known) ∈
      (db.record ticket (.entered entry)).happened →
      (other, Happening.entered known) ∈ db.happened ∨ other = ticket ∧ known = entry := by
    intro other known member
    simpa using member
  have later : ∀ {event}, event ∈ db.happened →
      event ∈ (db.record ticket (.entered entry)).happened :=
    fun member => List.mem_append_left _ member
  refine ⟨?_, ?_, ?_, ?_, ?_, ?_⟩
  · exact fun other tuple member => holds.kept other tuple (earlier member)
  · intro actionId row found
    obtain ⟨other, claimed, isId⟩ := holds.owned actionId row found
    exact ⟨other, later claimed, isId⟩
  · exact fun first second a b isFirst isSecond =>
      holds.once first second a b (earlier isFirst) (earlier isSecond)
  · intro actionId
    rw [entriesOf_record]
    cases isEntry : (Happening.entered entry).entryOf actionId with
    | none => simpa using holds.enteredOnce actionId
    | some known =>
        obtain ⟨same, authorization, isAuthorized, isAction⟩ := Happening.entryOf_eq_some isEntry
        cases same
        obtain ⟨⟨_, _, _, tuple, _, isTuple, claimed, _⟩, unentered⟩ :=
          rightful authorization isAuthorized
        have unentered : db.entriesOf actionId = [] := by
          apply List.eq_nil_iff_forall_not_mem.mpr
          intro other member
          obtain ⟨event, isEvent, isOther⟩ := List.mem_filterMap.mp member
          obtain ⟨isEntered, theirs, areTheirs, isTheirs⟩ := Happening.entryOf_eq_some isOther
          have entered : (event.1, Happening.entered other) ∈ db.happened := by
            rw [← isEntered]
            exact isEvent
          obtain ⟨_, _, _, _, _, tuple', _, isTuple', claimed', _⟩ :=
            holds.rightful event.1 other theirs entered areTheirs
          have sameAction : tuple'.actionId = tuple.actionId := by
            rw [VerifiedDelegatedCall.actionId_of_tuple isTuple',
              VerifiedDelegatedCall.actionId_of_tuple isTuple, isTheirs, isAction]
          have sameTicket := holds.once event.1 ticket tuple' tuple claimed' claimed sameAction
          rw [sameTicket] at entered
          exact unentered other entered
        rw [unentered]
        exact Nat.le_refl 1
  · intro other known authorization member isAuthorized
    rcases split member with before | ⟨isTicket, isEntry⟩
    · obtain ⟨call, isCall, dispatcher, surroundings, request, tuple, delegated, isTuple, claimed,
        rest⟩ := holds.rightful other known authorization before isAuthorized
      exact ⟨call, isCall, dispatcher, surroundings, request, tuple, delegated, isTuple,
        later claimed, rest⟩
    · rw [isEntry] at isAuthorized ⊢
      rw [isTicket]
      obtain ⟨⟨dispatcher, surroundings, request, tuple, delegated, isTuple, claimed, rest⟩, -⟩ :=
        rightful authorization isAuthorized
      exact ⟨call, isCall, dispatcher, surroundings, request, tuple, delegated, isTuple,
        later claimed, rest⟩
  · intro other known member unauthorized
    rcases split member with before | ⟨isTicket, isEntry⟩
    · exact holds.ungoverned other known before unauthorized
    · rw [isEntry] at unauthorized
      rw [isTicket]
      exact ⟨call, isCall, ungoverned unauthorized⟩

end Contract

end SelfConnect.Delegation
