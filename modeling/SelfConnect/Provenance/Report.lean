import SelfConnect.Provenance.Agreement

namespace SelfConnect.Provenance

open SelfConnect.Python SelfConnect.Python.Json SelfConnect.Library

/-! What the report on an accepted log says of the session, as a function of the
records in the log. -/

def chainedOf (lines : List Text) : List Value :=
  (lines.filterMap loads).filter fun record => !isAck (record.getD "seq" (Value.lit ""))

/-- The records the verifier chains, in file order. -/
def chainedRecords (text : Text) : List Value :=
  chainedOf (filledLines isNewline isSpace text)

theorem chainedOf_append (first second : List Text) :
    chainedOf (first ++ second) = chainedOf first ++ chainedOf second := by
  rw [chainedOf, List.filterMap_append, List.filter_append]
  rfl

def closesSession (record : Value) : Bool :=
  isText (record.get? "event_type") SessionEventType.sessionClose.value

/-- The last record that closes the session, and the records after it. -/
def lastClose : List Value → Option (Value × List Value)
  | [] => none
  | record :: rest =>
      match lastClose rest with
      | some found => some found
      | none => if closesSession record then some (record, rest) else none

/-- The state that a closing record declares. -/
def declaredState (record : Value) : Value :=
  (record.getD "payload" (.dict [])).getD "session_state" (Value.lit SessionState.sealed.value)

/-- The mark that a heartbeat carries. -/
def heartbeatMark (record : Value) : Int :=
  if isText (record.get? "event_type") SessionEventType.heartbeat.value then
    (((record.getD "payload" (.dict [])).getD "seq_at_heartbeat" (.int 0)).toInt?).getD 0
  else 0

/-- How far a record takes the high-water mark. -/
def recordMark (record : Value) : Int :=
  max (heartbeatMark record) (((record.getD "seq" (Value.lit "")).toInt?).getD 0)

def highWater (records : List Value) : Int :=
  records.foldl (fun mark record => max mark (recordMark record)) 0

/-- What the verifier keeps of the records it has accepted. -/
structure Tracks (records : List Value) (state : ChainState) : Prop where
  hasClose : state.hasClose = (lastClose records).isSome
  sessionState : ∀ closing rest, lastClose records = some (closing, rest) →
    state.sessionState = some (declaredState closing)
  highWaterSeq : state.highWaterSeq = highWater records

theorem lastClose_snoc (records : List Value) (last : Value) :
    lastClose (records ++ [last]) =
      if closesSession last then some (last, [])
      else (lastClose records).map fun found => (found.1, found.2 ++ [last]) := by
  induction records with
  | nil => simp [lastClose]
  | cons record rest ih =>
      rw [List.cons_append, lastClose, ih, lastClose]
      cases closes : closesSession last with
      | true => rfl
      | false =>
          cases lastClose rest with
          | some found => rfl
          | none => cases closesSession record <;> rfl

theorem highWater_snoc (records : List Value) (last : Value) :
    highWater (records ++ [last]) = max (highWater records) (recordMark last) := by
  simp [highWater]

theorem highWater_nonneg (records : List Value) : 0 ≤ highWater records := by
  induction records using List.reverseRecOn with
  | nil => exact le_refl _
  | append_singleton front last ih =>
      rw [highWater_snoc]
      exact le_trans ih (le_max_left _ _)

theorem closesSession_of_heartbeat {record : Value}
    (beats : isText (record.get? "event_type") SessionEventType.heartbeat.value = true) :
    closesSession record = false := by
  unfold closesSession
  cases found : record.get? "event_type" with
  | none => rfl
  | some v =>
      rw [found] at beats
      cases v with
      | str s =>
          rw [isText, beq_iff_eq] at beats
          rw [isText, beats]
          decide
      | null | bool | int | float | list | dict => cases beats

private theorem trackSession_eq {record ts : Value} {base tracked : ChainState}
    (nonneg : 0 ≤ base.highWaterSeq) (found : trackSession record ts base = some tracked) :
    tracked.hasClose = (closesSession record || base.hasClose) ∧
      tracked.sessionState =
        (if closesSession record then some (declaredState record) else base.sessionState) ∧
      tracked.highWaterSeq = max base.highWaterSeq (heartbeatMark record) := by
  unfold trackSession at found
  dsimp only at found
  unfold heartbeatMark
  cases beats : isText (record.get? "event_type") SessionEventType.heartbeat.value with
  | true =>
      have open_ := closesSession_of_heartbeat beats
      rw [closesSession] at open_
      rw [open_, beats] at found
      simp only [Bool.false_eq_true, if_false, if_true] at found
      cases payload : record.getD "payload" (.dict []) with
      | dict members =>
          rw [payload] at found
          dsimp only at found
          rw [closesSession, open_]
          cases mark : ((Value.dict members).getD "seq_at_heartbeat" (.int 0)).toInt? with
          | some n =>
              rw [mark, Option.some.injEq] at found
              subst found
              simp
          | none =>
              rw [mark, Option.some.injEq] at found
              subst found
              simp [nonneg]
      | null | bool | int | float | str | list =>
          rw [payload] at found
          cases found
  | false =>
      rw [beats] at found
      cases closes : isText (record.get? "event_type") SessionEventType.sessionClose.value with
      | true =>
          rw [closes] at found
          simp only [if_true] at found
          cases payload : record.getD "payload" (.dict []) with
          | dict members =>
              rw [payload, Option.some.injEq] at found
              subst found
              simp [closesSession, closes, declaredState, payload, nonneg]
          | null | bool | int | float | str | list =>
              rw [payload] at found
              cases found
      | false =>
          rw [closes] at found
          simp only [Bool.false_eq_true, if_false, Option.some.injEq] at found
          subst found
          simp [closesSession, closes, nonneg]

/-- One accepted record. -/
private theorem tracks_accept {record ts : Value} {hash : Str} {attestation : Attestation}
    {records : List Value} {state next : ChainState} (tracks : Tracks records state)
    (accepted : acceptRecord record (record.getD "seq" (Value.lit "")) ts hash attestation state =
      .ok next) : Tracks (records ++ [record]) next := by
  have nonneg : 0 ≤ state.highWaterSeq := by
    rw [tracks.highWaterSeq]
    exact highWater_nonneg records
  unfold acceptRecord at accepted
  dsimp only at accepted
  generalize isBase : state.accept _ _ _ _ = base at accepted
  have hasClose : base.hasClose = state.hasClose := by rw [← isBase]; rfl
  have sessionState : base.sessionState = state.sessionState := by rw [← isBase]; rfl
  have highWaterSeq : base.highWaterSeq = state.highWaterSeq := by rw [← isBase]; rfl
  cases found : trackSession record ts base with
  | none =>
      rw [found] at accepted
      cases accepted
  | some tracked =>
      obtain ⟨sameClose, sameState, sameMark⟩ :=
        trackSession_eq (by rw [highWaterSeq]; exact nonneg) found
      rw [hasClose] at sameClose
      rw [sessionState] at sameState
      rw [highWaterSeq, tracks.highWaterSeq] at sameMark
      rw [found] at accepted
      have marked : next.hasClose = tracked.hasClose ∧ next.sessionState = tracked.sessionState ∧
          next.highWaterSeq = max (highWater records) (recordMark record) := by
        rw [recordMark]
        cases number : (record.getD "seq" (Value.lit "")).toInt? with
        | none =>
            rw [number, Except.ok.injEq] at accepted
            subst accepted
            have := highWater_nonneg records
            refine ⟨rfl, rfl, ?_⟩
            rw [sameMark]
            simp only [Option.getD_none]
            omega
        | some n =>
            rw [number, Except.ok.injEq] at accepted
            subst accepted
            refine ⟨rfl, rfl, ?_⟩
            change max tracked.highWaterSeq n = _
            rw [sameMark, Option.getD_some, max_assoc]
      refine ⟨?_, ?_, ?_⟩
      · rw [marked.1, sameClose, tracks.hasClose, lastClose_snoc]
        cases closes : closesSession record <;> simp
      · intro closing rest isLast
        rw [marked.2.1, sameState]
        rw [lastClose_snoc] at isLast
        cases closes : closesSession record with
        | true =>
            rw [closes, if_pos rfl, Option.some.injEq, Prod.mk.injEq] at isLast
            rw [if_pos rfl, isLast.1]
        | false =>
            rw [closes, if_neg Bool.false_ne_true, Option.map_eq_some_iff] at isLast
            obtain ⟨⟨before, after⟩, earlier, equal⟩ := isLast
            rw [if_neg Bool.false_ne_true, ← (Prod.mk.inj equal).1]
            exact tracks.sessionState before after earlier
      · rw [marked.2.2, highWater_snoc]

private theorem tracks_checkRecord {crypto : Crypto} {policy : Policy} {line : Nat}
    {record : Value} {records : List Value} {state next : ChainState}
    (tracks : Tracks records state)
    (checked : checkRecord crypto policy line record state = .ok next) :
    Tracks (records ++ if isAck (record.getD "seq" (Value.lit "")) then [] else [record])
      next := by
  unfold checkRecord at checked
  dsimp only at checked
  split at checked
  · cases checked
  split at checked
  · next acknowledges =>
      cases checked
      rw [if_pos acknowledges, List.append_nil]
      exact tracks
  next chained =>
  rw [if_neg chained]
  split at checked
  · split at checked <;> cases checked
  split at checked
  · cases checked
  split at checked
  · cases checked
  · cases checked
  split at checked
  · cases checked
  · cases checked
  split at checked
  · cases checked
  · exact tracks_accept tracks checked

/-- One line of the file, and what it adds to the records. -/
private theorem tracks_checkLine {crypto : Crypto} {policy : Policy} {numbered : Text × Nat}
    {records : List Value} {state next : ChainState} (tracks : Tracks records state)
    (checked : checkLine crypto policy state numbered = .ok next) :
    Tracks (records ++ chainedOf ([stripText isSpace numbered.1].filter fun line =>
      !line.isEmpty)) next := by
  unfold checkLine at checked
  dsimp only at checked
  generalize stripText isSpace numbered.1 = line at checked ⊢
  cases empty : line.isEmpty with
  | true =>
      rw [empty, if_pos rfl, Except.ok.injEq] at checked
      rw [List.filter_singleton, empty, ← checked]
      simpa [chainedOf] using tracks
  | false =>
      rw [empty, if_neg Bool.false_ne_true] at checked
      rw [List.filter_singleton, empty]
      cases loaded : loads line with
      | none =>
          rw [loaded] at checked
          cases checked
      | some record =>
          rw [loaded] at checked
          dsimp only at checked
          cases result : checkRecord crypto policy numbered.2 record state with
          | error stop =>
              rw [result] at checked
              cases checked
          | ok reached =>
              rw [result, Except.mapError, Except.ok.injEq] at checked
              have longer := tracks_checkRecord tracks result
              rw [checked] at longer
              cases ack : isAck (record.getD "seq" (Value.lit "")) with
              | true => simpa [chainedOf, loaded, ack] using longer
              | false => simpa [chainedOf, loaded, ack] using longer

private theorem tracks_checkLines {crypto : Crypto} {policy : Policy}
    {numbered : List (Text × Nat)} {records : List Value} {state final : ChainState}
    (tracks : Tracks records state)
    (checked : numbered.foldlM (checkLine crypto policy) state = .ok final) :
    Tracks (records ++ chainedOf (((numbered.map Prod.fst).map (stripText isSpace)).filter
      fun line => !line.isEmpty)) final := by
  induction numbered generalizing records state with
  | nil =>
      cases checked
      rw [List.map_nil, List.map_nil, List.filter_nil, chainedOf, List.filterMap_nil,
        List.filter_nil, List.append_nil]
      exact tracks
  | cons first rest ih =>
      rw [List.foldlM_cons] at checked
      cases step : checkLine crypto policy state first with
      | error stop =>
          rw [step] at checked
          cases checked
      | ok next =>
          rw [step] at checked
          have longer := ih (tracks_checkLine tracks step) checked
          rw [List.append_assoc, ← chainedOf_append, ← List.filter_append] at longer
          exact longer

/-- Whatever log the verifier accepts, it has tracked the records in it. -/
theorem tracks_of_checked {crypto : Crypto} {policy : Policy} {text : Text} {final : ChainState}
    (checked : checkLines crypto policy (splitLines isNewline text) = .ok final) :
    Tracks (chainedRecords text) final := by
  have initially : Tracks [] ChainState.initial := by
    refine ⟨rfl, ?_, rfl⟩
    intro closing rest isLast
    cases isLast
  have tracks := tracks_checkLines initially checked
  rw [List.nil_append, List.zipIdx_map_fst] at tracks
  exact tracks

theorem report_of_verified {crypto : Crypto} {policy : Policy} {text : Text}
    {result : VerificationResult} (verified : verifyChain crypto policy (some text) = some result)
    (isOk : result.ok = true) :
    result.sessionState = some (match lastClose (chainedRecords text) with
      | some (closing, _) => declaredState closing
      | none => Value.lit SessionState.interrupted.value) ∧
    result.highWaterSeq = highWater (chainedRecords text) := by
  unfold verifyChain at verified
  dsimp only at verified
  split at verified
  · cases verified
    cases isOk
  split at verified
  · cases verified
  · cases verified
    cases isOk
  · next final checked =>
      have tracks := tracks_of_checked checked
      cases verified
      dsimp only
      refine ⟨?_, tracks.highWaterSeq⟩
      rw [tracks.hasClose]
      cases isLast : lastClose (chainedRecords text) with
      | none => rfl
      | some found => exact tracks.sessionState found.1 found.2 isLast

/-! A session stays closed as long as only seals and heartbeats follow its close. -/

def reopensSession (record : Value) : Bool :=
  !(isText (record.get? "event_type") SessionEventType.merkleSeal.value ||
    isText (record.get? "event_type") SessionEventType.heartbeat.value)

/-- The log ends with a closed session. -/
def closedLast (records : List Value) : Bool :=
  match lastClose records with
  | some (_, rest) => rest.all fun record => !reopensSession record
  | none => false

def sealedState : Value := Value.lit SessionState.sealed.value

/-- The last close declares the sealed state, and nothing reopens the session; or it
declares another state, and something does. -/
def CloseStands (records : List Value) : Prop :=
  ∀ closing rest, lastClose records = some (closing, rest) →
    (declaredState closing = sealedState ↔ ∀ record ∈ rest, reopensSession record = false)

def consumerReport (log : Option Text) : Option VerificationResult :=
  verifyChain rejectingCrypto ⟨none, false⟩ log

def resumedCalls : List Call :=
  [.start false false, .record .sessionClose none [] none none, .restart consumerConfig,
    .start false true]

def resumedSession : World :=
  (newWorld consumerConfig).runAll (fun _ => quietTurn) resumedCalls

end SelfConnect.Provenance
