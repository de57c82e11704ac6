import SelfConnect.Provenance.Finality

namespace SelfConnect.Provenance

open SelfConnect.Python SelfConnect.Python.Json SelfConnect.Library

/-! What a retry is answered: the receipt of the record, or that it came too late, and then
there is no record. -/

/-- The session's ledger has the record of exactly this request. -/
def Durable (s : ServiceState) (verified : VerifiedRecordRequest) : Prop :=
  ∃ line ∈ s.ledgers verified.sessionId, IsRecordOf verified line ∧
    line.loaded.get? "event_type" = some (Value.lit verified.eventType.value) ∧
    line.loaded.get? "agent_id" = some (.str verified.enrollment.agentId)

/-- The answer is the receipt of the request's record, signed where signing works. -/
def Answered (config : ServiceConfig) (lines : List Line) (verified : VerifiedRecordRequest)
    (answer : Option Outcome) : Prop :=
  ∃ line ∈ lines, IsRecordOf verified line ∧
    ∃ response, IsReceipt line verified.requestId response ∧
      answer = some (.of (signServiceResponse config.identity response))

/-- The recorder accepts its own log. -/
def LogVerifies (config : ServiceConfig) (lines : List Line) : Prop :=
  ∃ result, verifyChain config.crypto config.policy (some (logText lines)) = some result ∧
    result.ok = true

/-- Nothing around the call fails. -/
structure EnterTurn.Works (turn : EnterTurn) : Prop where
  recorderReady : turn.recorderReady = true
  begins : turn.begins = true
  readable : turn.readable = true
  replicates : turn.replicates = true
  indexed : turn.indexed = true
  saves : turn.saves = true
  commit : turn.commit = .committed

structure FinishTurn.Works (turn : FinishTurn) : Prop where
  indexed : turn.indexed = true
  saves : turn.saves = true
  commit : turn.commit = .committed

/-- What a step answers is final: a stale request has no record, and a request that has one
is answered with its receipt, or first waits for the lock. -/
def FinalAnswer (config : ServiceConfig) (s : ServiceState) (answer : Option Outcome) :
    ServiceStep → Prop
  | .arrive request callerSid now lookup =>
      ∀ verified, verifyCall config request callerSid now = .ok verified →
        (answer = some (.refused staleRequest) →
          verified.requestId ∉ requestIds (s.ledgers verified.sessionId)) ∧
        (lookup = true → Durable s verified →
          answer = none ∨ Answered config (s.ledgers verified.sessionId) verified answer)
  | .enter index turn =>
      ∀ call, s.waiting[index]? = some call →
        answer ≠ some (.refused staleRequest) ∧
        (turn.Works → LogVerifies config (s.ledgers call.verified.sessionId) →
          Durable s call.verified →
            Answered config (s.ledgers call.verified.sessionId) call.verified answer)
  | .finish turn =>
      ∀ opened, s.opened = some opened →
        answer ≠ some (.refused staleRequest) ∧
        (turn.Works →
          Answered config (s.ledgers opened.call.verified.sessionId) opened.call.verified answer)
  | .own _ _ => True
  | .crash => True

/-- A record that has no receipt yet is not asked for after the freshness window, and its
request id is not used for another session. -/
def Timely (config : ServiceConfig) (s : ServiceState) : ServiceStep → Prop
  | .arrive request callerSid now _ =>
      ∀ verified, verifyCall config request callerSid now = .ok verified →
        verified.stale = true → (verified.sessionId, verified.requestId) ∉ s.unsettled
  | .enter index _ =>
      ∀ call, s.waiting[index]? = some call → ∀ key ∈ s.unsettled,
        key.2 = call.verified.requestId → key.1 = call.verified.sessionId
  | .finish _ => True
  | .own _ _ => True
  | .crash => True

section Run

variable {config : ServiceConfig} {s t : ServiceState}

theorem served_step {label : ServiceStep} (served : Served config s)
    (timely : Timely config s label) (next : (serviceSystem config).next s label t) :
    Served config t := by
  obtain ⟨allowed, answer, isNext⟩ := next
  cases label with
  | arrive request callerSid now lookup =>
      have after : Served config (arrive config request callerSid now lookup s).1 :=
        served_arrive served allowed
      rw [Option.some.inj isNext] at after
      exact after
  | enter index turn =>
      rw [serviceStep] at isNext
      split at isNext
      · next call closed found =>
          have waits : Served config { s with waiting := s.waiting.eraseIdx index } :=
            { served with
              waiting := fun other member => served.waiting other (List.mem_of_mem_eraseIdx member) }
          have after := served_enter waits closed
            (served.waiting call (List.mem_of_getElem? found)) allowed (timely call found)
          rw [Option.some.inj isNext] at after
          exact after
      · cases isNext
  | finish turn =>
      obtain ⟨opened, isOpened, finished⟩ := Option.map_eq_some_iff.mp isNext
      have after : Served config (finish config turn opened s).1 := served_finish served isOpened
      rw [finished] at after
      exact after
  | own sessionId lines =>
      cases isNext
      exact served.own sessionId allowed
  | crash =>
      cases isNext
      refine { served with waiting := ?_, opened := ?_ }
      · rintro call ⟨⟩
      · rintro opened ⟨⟩

theorem served_initial : Served config .initial where
  lines _ _ member := by cases member
  distinct _ := List.nodup_nil
  waiting _ member := by cases member
  settled _ _ member := by cases member
  pending _ member := by cases member
  single _ member := by cases member
  opened _ isOpened := by cases isOpened

theorem answered_of_run {labels : List ServiceStep}
    (run : ((serviceSystem config).under (Timely config)).Run labels s) : Served config s := by
  refine run.invariant ?_ ?_
  · rintro first rfl
    exact served_initial
  · rintro s label t served ⟨timely, next⟩
    exact served_step served timely next

end Run

section Answers

variable {config : ServiceConfig} {s : ServiceState}

theorem distinct_values : (allEventTypes.map SessionEventType.value).Nodup := by
  decide +kernel

theorem value_injective : Function.Injective SessionEventType.value := by
  have every : ∀ eventType : SessionEventType, eventType ∈ allEventTypes := by
    intro eventType
    cases eventType <;> decide
  intro first second same
  exact List.inj_on_of_nodup_map distinct_values (every first) (every second) same

theorem stale_of_permit {verified : VerifiedRecordRequest}
    (refused : permit verified = .error staleRequest) : verified.stale = true := by
  simp only [permit, bind_eq_error, insist_eq_error, insist_eq_ok] at refused
  rcases refused with ⟨stale, -⟩ | ⟨-, -, ⟨-, other⟩ | ⟨-, -, -, other⟩⟩
  · simpa using stale
  · simp [staleRequest] at other
  · simp [staleRequest] at other

theorem joinSurrogates_enrolled {registry : EnrollmentRegistry} {agentId : Str}
    {enrollment : AgentEnrollment} (found : registry.get agentId = some enrollment) :
    Str.joinSurrogates enrollment.agentId = enrollment.agentId := by
  rw [EnrollmentRegistry.get, Option.filter_eq_some_iff] at found
  rw [registry.derived enrollment (List.mem_of_find?_eq_some found.1)]
  exact joinSurrogates_agentIdOf _ _

/-- The request of a durable record is one that the core takes when it is in time. -/
theorem permit_of_durable (served : Served config s) {callerSid : Str} {now : Int}
    {verified : VerifiedRecordRequest} (isVerified : Verified config callerSid now verified)
    (durable : Durable s verified) (fresh : verified.stale = false) :
    permit verified = .ok () := by
  obtain ⟨line, member, ⟨names, -⟩, sameType, sameAgent⟩ := durable
  rcases served.lines _ line member with own | ⟨call, written, passed, rfl⟩
  · rw [metadata?_own own] at names
    cases names
  · have isType := (call.draft written).get?_eventType written.recorderSig
    rw [Waiting.line] at sameType
    rw [sameType] at isType
    have sameValue : verified.eventType.value = (call.draft written).eventType.value := by
      simpa [Value.lit] using isType
    have eventType : verified.eventType = call.verified.eventType := value_injective sameValue
    have isAgent := (call.draft written).get?_agentId written.recorderSig
    rw [Waiting.line, isAgent, Option.some.injEq, Value.str.injEq] at sameAgent
    have agentId : call.verified.enrollment.agentId = verified.enrollment.agentId :=
      (joinSurrogates_enrolled passed.verified.enrolled).symm.trans sameAgent
    have enrollment : verified.enrollment = call.verified.enrollment := by
      have isEnrolled := isVerified.enrolled
      rw [← agentId, passed.verified.enrolled] at isEnrolled
      exact (Option.some.inj isEnrolled).symm
    have permitted := passed.permitted
    simp only [permit, bind_eq_ok, insist_eq_ok] at permitted ⊢
    obtain ⟨-, -, -, taken, supervised⟩ := permitted
    rw [eventType, enrollment]
    exact ⟨(), by rw [fresh]; rfl, (), taken, supervised⟩

/-- The look-up finds the receipt of a record, unless the record has none yet. -/
theorem Served.replay_cases (served : Served config s) {store : RequestStore}
    (same : store.receipts = s.store.receipts) {verified : VerifiedRecordRequest} {line : Line}
    (member : line ∈ s.ledgers verified.sessionId) (isRecord : IsRecordOf verified line)
    (malformed : ServiceError) :
    ((verified.sessionId, verified.requestId) ∈ s.unsettled ∧
        store.replay malformed verified = .ok none) ∨
      ∃ stored, IsReceipt line verified.requestId stored ∧
        store.replay malformed verified = .ok (some stored) := by
  rcases served.settled _ line member _ isRecord.1 with unsettled | ⟨row, isRow, hashed, stored,
    loaded, receipt⟩
  · have absent := (row?_congr same).trans (served.pending _ unsettled)
    exact Or.inl ⟨unsettled, replay_eq_none_iff.mpr absent⟩
  · have sameHash : row.requestHash = verified.requestHash := by
      rw [isRecord.2, Option.some.injEq] at hashed
      exact hashed.symm
    rw [row?_requestId isRow] at receipt
    exact Or.inr ⟨_, receipt.set, replay_of_row ((row?_congr same).trans isRow) sameHash loaded⟩

theorem Outcome.of_ne_stale {result : Except ServiceError Members}
    (notStale : ∀ error, result = .error error → error.NotStale) :
    some (Outcome.of result) ≠ some (.refused staleRequest) := by
  cases result with
  | ok response => simp [Outcome.of]
  | error error =>
      intro same
      exact (notStale error rfl).ne (by simpa [Outcome.of] using same)

theorem refused_ne_stale {error : ServiceError} (notStale : error.NotStale) :
    some (Outcome.refused error) ≠ some (.refused staleRequest) := by
  intro same
  exact notStale.ne (by simpa using same)

/-- Before the lock, only a request without a receipt is called stale. -/
theorem stale_of_arrive {request : Members} {callerSid : Str} {now : Int} {lookup : Bool}
    {verified : VerifiedRecordRequest}
    (isVerified : verifyCall config request callerSid now = .ok verified)
    (answered : (arrive config request callerSid now lookup s).2 =
      some (.refused staleRequest)) :
    verified.stale = true ∧ s.store.row? verified.requestId = none := by
  unfold arrive at answered
  rw [isVerified] at answered
  dsimp only at answered
  split at answered
  · exact absurd answered (refused_ne_stale trivial)
  · split at answered
    · next found =>
        refine absurd answered (refused_ne_stale (replay_notStale ?_ found))
        trivial
    · exact absurd answered (Outcome.of_ne_stale fun _ => sign_notStale)
    · next notFound =>
        split at answered
        · next error refused =>
            have isStale : error = staleRequest := by simpa using answered
            rw [isStale] at refused
            exact ⟨stale_of_permit refused, replay_eq_none_iff.mp notFound⟩
        · cases answered

theorem not_recorded_of_stale (served : Served config s) {request : Members} {callerSid : Str}
    {now : Int} {lookup : Bool} {verified : VerifiedRecordRequest}
    (isVerified : verifyCall config request callerSid now = .ok verified)
    (timely : verified.stale = true → (verified.sessionId, verified.requestId) ∉ s.unsettled)
    (answered : (arrive config request callerSid now lookup s).2 =
      some (.refused staleRequest)) :
    verified.requestId ∉ requestIds (s.ledgers verified.sessionId) := by
  obtain ⟨stale, absent⟩ := stale_of_arrive isVerified answered
  intro recorded
  obtain ⟨line, member, names⟩ := mem_requestIds.mp recorded
  rcases served.settled _ line member _ names with unsettled | ⟨row, isRow, -⟩
  · exact timely stale unsettled
  · rw [absent] at isRow
    cases isRow

theorem answered_arrive (served : Served config s) {request : Members} {callerSid : Str}
    {now : Int} {verified : VerifiedRecordRequest} (json : IsJson (.dict request))
    (isVerified : verifyCall config request callerSid now = .ok verified)
    (timely : verified.stale = true → (verified.sessionId, verified.requestId) ∉ s.unsettled)
    (durable : Durable s verified) :
    (arrive config request callerSid now true s).2 = none ∨
      Answered config (s.ledgers verified.sessionId) verified
        (arrive config request callerSid now true s).2 := by
  obtain ⟨line, member, isRecord, -⟩ := id durable
  rcases served.replay_cases rfl member isRecord
    (.unavailable "stored provenance receipt is corrupt") with
      ⟨unsettled, notFound⟩ | ⟨stored, receipt, found⟩
  · have fresh : verified.stale = false := by
      cases isStale : verified.stale with
      | false => rfl
      | true => exact absurd unsettled (timely isStale)
    have permitted :=
      permit_of_durable served (verified_of_verifyCall json isVerified) durable fresh
    left
    simp only [arrive, isVerified, notFound, permitted, Bool.not_true, Bool.false_eq_true, if_false]
  · right
    refine ⟨line, member, isRecord, stored, receipt, ?_⟩
    simp only [arrive, isVerified, found, Bool.not_true, Bool.false_eq_true, if_false]

theorem settle_ne_stale {commit : Commit} {store : RequestStore} {key : Str × Str}
    {answer : Outcome} (notStale : some answer ≠ some (.refused staleRequest)) :
    (settle commit store key answer s).2 ≠ some (.refused staleRequest) := by
  cases commit with
  | committed => exact notStale
  | rolledBack => exact refused_ne_stale trivial
  | lost => exact refused_ne_stale trivial

theorem enter_ne_stale (turn : EnterTurn) (call : Waiting) :
    (enter config turn call s).2 ≠ some (.refused staleRequest) := by
  unfold enter
  dsimp only
  split
  · exact refused_ne_stale trivial
  split
  · next found =>
      refine refused_ne_stale (replay_notStale ?_ found)
      trivial
  · split
    · next failed => exact refused_ne_stale (sign_notStale failed)
    · exact settle_ne_stale (by simp)
  · split
    · exact refused_ne_stale trivial
    split
    · next failed => exact refused_ne_stale (recoverRecord_notStale failed)
    · split
      · exact refused_ne_stale trivial
      split
      · exact refused_ne_stale trivial
      split
      · exact refused_ne_stale trivial
      split
      · next failed => exact refused_ne_stale (sign_notStale failed)
      · exact settle_ne_stale (by simp)
    · split
      · exact refused_ne_stale (by decide : "replayed_nonce" ≠ "stale_request")
      · split
        · exact refused_ne_stale trivial
        · exact refused_ne_stale trivial
        · simp

theorem finish_ne_stale (turn : FinishTurn) (opened : Opened) :
    (finish config turn opened s).2 ≠ some (.refused staleRequest) := by
  unfold finish
  dsimp only
  split
  · exact refused_ne_stale trivial
  split
  · exact refused_ne_stale trivial
  split
  · exact refused_ne_stale trivial
  · exact settle_ne_stale (Outcome.of_ne_stale fun _ => sign_notStale)

/-- A call that has the lock answers with the receipt of the record that is there. -/
theorem answered_enter (served : Served config s) {turn : EnterTurn} {call : Waiting}
    (works : turn.Works) (accepted : LogVerifies config (s.ledgers call.verified.sessionId))
    (durable : Durable s call.verified) :
    Answered config (s.ledgers call.verified.sessionId) call.verified
      (enter config turn call s).2 := by
  obtain ⟨line, member, isRecord, -⟩ := durable
  obtain ⟨recorderReady, begins, readable, replicates, indexed, saves, commit⟩ := works
  have pruned : (s.store.prune call.now).receipts = s.store.receipts := rfl
  rcases served.replay_cases pruned member isRecord .raised with
    ⟨-, notFound⟩ | ⟨stored, receipt, found⟩
  · obtain ⟨result, checked, isOk⟩ := accepted
    have recovered : recoverRecord config (s.ledgers call.verified.sessionId) call.verified =
        .ok (some line.loaded) := by
      rw [recoverRecord, checked]
      dsimp only
      rw [isOk, splitLines_logText]
      exact findRequest_present (served.searchable _) (served.distinct _) member isRecord.1 isRecord.2
    obtain ⟨response, isResponse⟩ : ∃ response,
        receiptFromRecord line.loaded call.verified.requestId call.now = some response := by
      rcases served.lines _ line member with own | ⟨other, written, passed, rfl⟩
      · rw [IsRecordOf, metadata?_own own] at isRecord
        cases isRecord.1
      · rw [receiptFromRecord, Waiting.line,
          canonicalHash_loaded_of_stable (stable_draft passed.verified)]
        exact ⟨_, rfl⟩
    refine ⟨line, member, isRecord,
      Members.set (Str.lit "status") (Value.lit "already_committed") response,
      (isReceipt_of_loaded isResponse).set, ?_⟩
    unfold enter
    simp only [recorderReady, begins, notFound, readable, recovered, replicates, indexed,
      isResponse, saves, commit, Bool.not_true, Bool.or_false, Bool.false_eq_true, if_false]
    cases signServiceResponse config.identity _ <;> rfl
  · refine ⟨line, member, isRecord, stored, receipt, ?_⟩
    unfold enter
    simp only [recorderReady, begins, found, commit, Bool.not_true, Bool.or_false,
      Bool.false_eq_true, if_false]
    cases signServiceResponse config.identity _ <;> rfl

theorem answered_finish (served : Served config s) {turn : FinishTurn} {opened : Opened}
    (works : turn.Works) (isOpened : s.opened = some opened) :
    Answered config (s.ledgers opened.call.verified.sessionId) opened.call.verified
      (finish config turn opened s).2 := by
  obtain ⟨indexed, saves, commit⟩ := works
  obtain ⟨-, passed, -, written, isRecord, member⟩ := served.opened opened isOpened
  obtain ⟨response, isResponse⟩ : ∃ response, receiptFromRecord
      (opened.call.line written).loaded opened.call.verified.requestId opened.call.now =
        some response := by
    rw [receiptFromRecord, Waiting.line,
      canonicalHash_loaded_of_stable (stable_draft passed.verified)]
    exact ⟨_, rfl⟩
  refine ⟨_, member, ⟨metadata?_requestId passed.verified, metadata?_requestHash passed.verified⟩,
    response, isReceipt_of_loaded isResponse, ?_⟩
  rw [← receiptFromRecord_value passed.verified, ← isRecord] at isResponse
  unfold finish
  simp only [indexed, isResponse, saves, commit, Bool.not_true, Bool.false_eq_true, if_false]
  rfl

/-- In every run whose steps are timely, every answer is final. -/
theorem final_of_run (config : ServiceConfig) {labels : List ServiceStep} {s t : ServiceState}
    (run : ((serviceSystem config).under (Timely config)).Run labels s) {label : ServiceStep}
    {answer : Option Outcome} (timely : Timely config s label) (allowed : label.Allowed)
    (next : serviceStep config s label = some (t, answer)) :
    FinalAnswer config s answer label := by
  have served := answered_of_run run
  cases label with
  | arrive request callerSid now lookup =>
      have isAnswer : (arrive config request callerSid now lookup s).2 = answer :=
        congrArg Prod.snd (Option.some.inj next)
      rw [← isAnswer]
      intro verified isVerified
      refine ⟨not_recorded_of_stale served isVerified (timely verified isVerified), ?_⟩
      rintro rfl durable
      exact answered_arrive served allowed isVerified (timely verified isVerified) durable
  | enter index turn =>
      intro call found
      rw [serviceStep] at next
      split at next
      · next other closed isOther =>
          cases found.symm.trans isOther
          have waits : Served config { s with waiting := s.waiting.eraseIdx index } :=
            { served with
              waiting := fun other member => served.waiting other (List.mem_of_mem_eraseIdx member) }
          have isAnswer : (enter config turn call
              { s with waiting := s.waiting.eraseIdx index }).2 = answer :=
            congrArg Prod.snd (Option.some.inj next)
          rw [← isAnswer]
          exact ⟨enter_ne_stale turn call, answered_enter waits⟩
      · cases next
  | finish turn =>
      intro opened isOpened
      rw [serviceStep, isOpened] at next
      have isAnswer : (finish config turn opened s).2 = answer :=
        congrArg Prod.snd (Option.some.inj next)
      rw [← isAnswer]
      exact ⟨finish_ne_stale turn opened, fun works => answered_finish served works isOpened⟩
  | own sessionId lines => trivial
  | crash => trivial

end Answers

/-! One request, of which the service dies after it has written the record. -/

def sampleKey : Bytes := List.replicate 32 0

def sampleSid : Str := Str.lit "S-1-5-21-1-2-3-1001"

def sampleEnrollment : AgentEnrollment where
  agentId := agentIdOf true sampleKey
  algorithm := .ed25519
  publicKey := sampleKey
  sid := sampleSid
  supervisor := false
  enabled := true

def sampleConfig : ServiceConfig where
  crypto := ⟨fun _ _ _ => true, fun _ _ _ => true, fun _ _ _ => true⟩
  registry :=
    { enrollments := [sampleEnrollment]
      distinct := List.nodup_singleton _
      keyed := by
        intro enrollment member
        rw [List.mem_singleton.mp member]
        rfl
      derived := by
        intro enrollment member
        rw [List.mem_singleton.mp member]
        rfl }
  identity := ⟨agentIdOf true sampleKey, fun _ => some []⟩
  freshnessMs := defaultFreshnessMs
  policy := ⟨none, false⟩

def sampleSession : Str := Str.lit "00000000-0000-4000-8000-000000000002"

def sampleRequestId : Str := Str.lit "00000000-0000-4000-8000-000000000001"

def sampleRequest : Members := Members.of
  [("agent_id", .str (agentIdOf true sampleKey)),
    ("event_signature", .str (Str.ofText (List.replicate 128 '0'))),
    ("event_type", Value.lit "tool_call"),
    ("issued_at_ms", .int 0),
    ("nonce", .str (Str.ofText (List.replicate 32 'A'))),
    ("operation", Value.lit "record"),
    ("os_corroboration", .null),
    ("payload", .dict []),
    ("request_id", .str sampleRequestId),
    ("request_signature", .str (Str.ofText (List.replicate 128 '0'))),
    ("session_id", .str sampleSession),
    ("version", Value.lit protocolVersion)]

def sampleWritten : Written := ⟨1, ⟨2026, 1, 1, 0, 0, 0, 0, by decide⟩, genesisHash, none, []⟩

def sampleTurn : EnterTurn :=
  ⟨true, true, true, true, true, true, .returned sampleWritten, .committed⟩

/-- The record is written, and the service dies before it commits the receipt. -/
def diesBeforeCommit : List ServiceStep :=
  [.arrive sampleRequest sampleSid 0 true, .enter 0 sampleTurn, .crash]

def passesWith (now : Int) (stale : Bool) : Bool :=
  match verifyCall sampleConfig sampleRequest sampleSid now with
  | .ok verified =>
      verified.stale == stale && verified.sessionId == sampleSession &&
        verified.requestId == sampleRequestId && (stale || (permit verified).toOption.isSome)
  | .error _ => false

theorem isJson_sampleRequest : IsJson (.dict sampleRequest) := by
  refine isJson_object (by simp) ?_
  simp only [List.forall_mem_cons, List.not_mem_nil, false_implies, implies_true, and_true]
  exact ⟨joinSurrogates_agentIdOf _ _, Str.joinSurrogates_ofText _, Str.joinSurrogates_lit _,
    trivial, Str.joinSurrogates_ofText _, Str.joinSurrogates_lit _, trivial,
    ⟨List.nodup_nil, trivial⟩, Str.joinSurrogates_lit _, Str.joinSurrogates_ofText _,
    Str.joinSurrogates_lit _, Str.joinSurrogates_lit _⟩

theorem verified_of_passes {now : Int} {stale : Bool} (passes : passesWith now stale = true) :
    ∃ verified, verifyCall sampleConfig sampleRequest sampleSid now = .ok verified ∧
      verified.stale = stale ∧ verified.sessionId = sampleSession ∧
        verified.requestId = sampleRequestId ∧ (stale = false → permit verified = .ok ()) := by
  unfold passesWith at passes
  split at passes
  · next verified isVerified =>
      simp only [Bool.and_eq_true, beq_iff_eq, Bool.or_eq_true] at passes
      obtain ⟨⟨⟨isStale, session⟩, requestId⟩, permitted⟩ := passes
      refine ⟨verified, isVerified, isStale, session, requestId, ?_⟩
      rintro rfl
      cases isPermitted : permit verified with
      | error e => simp [isPermitted, Except.toOption] at permitted
      | ok done => rfl
  · cases passes

set_option maxRecDepth 100000 in
theorem sample_fresh : passesWith 0 false = true := by decide +kernel

set_option maxRecDepth 100000 in
theorem sample_late : passesWith 60001 true = true := by decide +kernel

/-- The record of the request is in the ledger, and the database knows nothing of it. -/
theorem run_diesBeforeCommit : ∃ verified s,
    ((serviceSystem sampleConfig).under (Timely sampleConfig)).Run diesBeforeCommit s ∧
      verifyCall sampleConfig sampleRequest sampleSid 0 = .ok verified ∧
      permit verified = .ok () ∧ s.store = ⟨[], []⟩ ∧
        sampleRequestId ∈ requestIds (s.ledgers sampleSession) := by
  obtain ⟨verified, isVerified, -, session, requestId, permitted⟩ := verified_of_passes sample_fresh
  have isPermitted := permitted rfl
  let call : Waiting := ⟨verified, sampleSid, 0⟩
  let waiting : ServiceState := { ServiceState.initial with waiting := [call] }
  let written : ServiceState := { ServiceState.initial.append call sampleWritten with
    opened := some ⟨call, (call.line sampleWritten).value,
      ⟨[⟨verified.enrollment.agentId, verified.nonce, verified.issuedAtMs + 60000⟩], []⟩⟩ }
  have arrives : serviceStep sampleConfig .initial (.arrive sampleRequest sampleSid 0 true) =
      some (waiting, none) := by
    simp only [serviceStep, arrive, isVerified, isPermitted]
    rfl
  have enters : serviceStep sampleConfig waiting (.enter 0 sampleTurn) =
      some (written, none) := by
    rfl
  let guarded := (serviceSystem sampleConfig).under (Timely sampleConfig)
  have first : guarded.Run [] .initial := .start rfl
  have second : guarded.Run [.arrive sampleRequest sampleSid 0 true] waiting := by
    refine first.step ⟨?_, isJson_sampleRequest, none, arrives⟩
    intro other _ _ member
    cases member
  have third : guarded.Run [.arrive sampleRequest sampleSid 0 true, .enter 0 sampleTurn]
      written := by
    refine second.step ⟨?_, ?_, none, enters⟩
    · intro other _ key member
      cases member
    · intro line member
      cases member
  have last : guarded.Run diesBeforeCommit { written with waiting := [], opened := none } :=
    third.step ⟨trivial, trivial, none, rfl⟩
  refine ⟨verified, _, last, isVerified, isPermitted, rfl, ?_⟩
  have passed := verified_of_verifyCall isJson_sampleRequest isVerified
  have inLedger := line_mem_append ServiceState.initial call sampleWritten
  rw [show call.verified.sessionId = sampleSession from session] at inLedger
  rw [← requestId]
  exact mem_requestIds.mpr ⟨_, inLedger, @metadata?_requestId sampleConfig call sampleWritten passed⟩

/-- A retry in time waits for the lock. -/
theorem final_retryInTime : ∃ s, sampleRequestId ∈ requestIds (s.ledgers sampleSession) ∧
    FinalAnswer sampleConfig s none (.arrive sampleRequest sampleSid 0 true) := by
  obtain ⟨verified, s, run, isVerified, isPermitted, isStore, recorded⟩ := run_diesBeforeCommit
  refine ⟨s, recorded, @final_of_run sampleConfig _ s
    { s with clock := 0, waiting := s.waiting ++ [⟨verified, sampleSid, 0⟩] } run _ none ?_
      isJson_sampleRequest ?_⟩
  · intro other isOther isStale
    cases isVerified.symm.trans isOther
    rw [permit, isStale] at isPermitted
    cases isPermitted
  · have notFound : s.store.replay (.unavailable "stored provenance receipt is corrupt") verified =
        .ok none := by
      rw [isStore]
      rfl
    simp only [serviceStep, arrive, isVerified, notFound, isPermitted]
    rfl

/-- The same retry after the freshness window is told that it came too late. -/
theorem not_final_retryTooLate : ∃ s, (serviceSystem sampleConfig).Run diesBeforeCommit s ∧
    ∃ t answer, serviceStep sampleConfig s (.arrive sampleRequest sampleSid 60001 true) =
      some (t, answer) ∧
        ¬ FinalAnswer sampleConfig s answer (.arrive sampleRequest sampleSid 60001 true) := by
  obtain ⟨-, s, run, -, -, isStore, recorded⟩ := run_diesBeforeCommit
  obtain ⟨verified, isVerified, isStale, session, requestId, -⟩ := verified_of_passes sample_late
  have notFound : s.store.replay (.unavailable "stored provenance receipt is corrupt") verified =
      .ok none := by
    rw [isStore]
    rfl
  have refused : permit verified = .error staleRequest := by
    rw [permit, isStale]
    rfl
  refine ⟨s, run.of_under, { s with clock := 60001 }, some (.refused staleRequest), ?_, ?_⟩
  · simp only [serviceStep, arrive, isVerified, notFound, refused]
    rfl
  · intro final
    have unrecorded := (final verified isVerified).1 rfl
    rw [session, requestId] at unrecorded
    exact unrecorded recorded

end SelfConnect.Provenance
