import SelfConnect.Provenance.Report
import SelfConnect.Python.Json.Sorted

namespace SelfConnect.Provenance

open SelfConnect.Python SelfConnect.Python.Json SelfConnect.Library

/-! Which log files the verifier accepts, whoever wrote them, and what is then known of
the records in them. -/

/-- `verify_log`, with its positional session id. -/
def verifyLog (crypto : Crypto) (policy : Policy) (log : Option Text)
    (_sessionId : Option Str) : Option VerificationResult :=
  verifyChain crypto policy log

/-- The chain in the records of a file: the `prev_hash` member, and the hash a record has. -/
def recordChain : HashChain Value (Option Value) where
  genesis := some (.str genesisHash)
  previous record := record.get? "prev_hash"
  hash record := (canonicalHash record).map Value.str

def recordTs (record : Value) : Value :=
  record.getD "ts" (Value.lit "")

def Follows (before after : Value) : Prop :=
  regresses after (some before) = some false

/-- What is asked of a chained record by itself. -/
structure Passable (crypto : Crypto) (policy : Policy) (record : Value) : Prop where
  signed : policy.requireRecorderSignatures = true →
    verifyRecorderSignature crypto record (policy.recorderPublicKey.getD []) = true
  attested : verifyServiceAgentAttestation crypto record = some .notService ∨
    verifyServiceAgentAttestation crypto record = some .valid
  payload : closesSession record = true ∨
      isText (record.get? "event_type") SessionEventType.heartbeat.value = true →
    (record.getD "payload" (.dict [])).isDict = true

/-- The lines, when a record with hash `prev` and time stamp `lastTs` goes before them. -/
structure Passes (crypto : Crypto) (policy : Policy) (prev : Str) (lastTs : Option Value)
    (lines : List Text) : Prop where
  parses : ∀ line ∈ lines, ∃ record, loads line = some record ∧ record.isDict = true
  linked : recordChain.Linked (some (.str prev)) (chainedOf lines)
  passable : ∀ record ∈ chainedOf lines, Passable crypto policy record
  ordered : (lastTs.toList ++ (chainedOf lines).map recordTs).IsChain Follows

/-- A file in which the verifier finds nothing. -/
structure Clean (crypto : Crypto) (policy : Policy) (text : Text) : Prop where
  hasKey : policy.HasKey
  passes : Passes crypto policy genesisHash none (filledLines isNewline isSpace text)

section

variable {crypto : Crypto} {policy : Policy}

theorem genesisHash_ne_nil : genesisHash ≠ [] := by
  rw [genesisHash, Str.ofText]
  simp [List.replicate_succ]

theorem digest_ne_nil (text : Text) : digest text ≠ [] := by
  intro empty
  have length := length_sha384Hex text
  have none : Str.ofText (sha384Hex text) = Str.ofText [] := empty
  rw [Str.ofText_injective none] at length
  cases length

/-- A record that has been parsed has a hash. -/
theorem canonicalHash_of_loads {line : Text} {record : Value} (loaded : loads line = some record)
    (isDict : record.isDict = true) : ∃ hash, canonicalHash record = some hash ∧ hash ≠ [] := by
  have json := isJson_loads loaded
  cases record with
  | dict members =>
      have unsigned := isJson_erase json (Str.lit "recorder_sig")
      rw [canonicalHash, canonicalBytes]
      split
      · rw [dumpsSorted_of_isJson unsigned]
        exact ⟨_, rfl, digest_ne_nil _⟩
      · rw [dumpsSorted_of_isJson (isJson_erase unsigned (Str.lit "agent_sig"))]
        exact ⟨_, rfl, digest_ne_nil _⟩
  | null | bool | int | float | str | list => cases isDict

theorem passes_ack {prev : Str} {lastTs : Option Value} {line : Text} {lines : List Text}
    {record : Value} (loaded : loads line = some record) (isDict : record.isDict = true)
    (ack : isAck (record.getD "seq" (Value.lit "")) = true) :
    Passes crypto policy prev lastTs (line :: lines) ↔ Passes crypto policy prev lastTs lines := by
  have same : chainedOf (line :: lines) = chainedOf lines := by
    simp [chainedOf, loaded, ack]
  constructor
  · rintro ⟨parses, linked, passable, ordered⟩
    rw [same] at linked passable ordered
    exact ⟨fun other member => parses other (List.mem_cons_of_mem _ member), linked, passable,
      ordered⟩
  · rintro ⟨parses, linked, passable, ordered⟩
    refine ⟨?_, by rwa [same], by rwa [same], by rwa [same]⟩
    intro other member
    rcases List.mem_cons.mp member with rfl | later
    · exact ⟨record, loaded, isDict⟩
    · exact parses other later

theorem passes_record {prev hash : Str} {lastTs : Option Value} {line : Text} {lines : List Text}
    {record : Value} (loaded : loads line = some record) (isDict : record.isDict = true)
    (chained : isAck (record.getD "seq" (Value.lit "")) = false)
    (hashed : canonicalHash record = some hash) :
    Passes crypto policy prev lastTs (line :: lines) ↔
      record.get? "prev_hash" = some (.str prev) ∧ Passable crypto policy record ∧
        regresses (recordTs record) lastTs = some false ∧
        Passes crypto policy hash (some (recordTs record)) lines := by
  have more : chainedOf (line :: lines) = record :: chainedOf lines := by
    simp [chainedOf, loaded, chained]
  have links : recordChain.Linked (some (.str prev)) (record :: chainedOf lines) ↔
      record.get? "prev_hash" = some (.str prev) ∧
        recordChain.Linked (some (.str hash)) (chainedOf lines) := by
    rw [HashChain.Linked]
    change (record.get? "prev_hash" = _ ∧
      recordChain.Linked ((canonicalHash record).map Value.str) _) ↔ _
    rw [hashed, Option.map_some]
  have orders : (lastTs.toList ++ (record :: chainedOf lines).map recordTs).IsChain Follows ↔
      regresses (recordTs record) lastTs = some false ∧
        ((some (recordTs record)).toList ++ (chainedOf lines).map recordTs).IsChain Follows := by
    cases lastTs with
    | none => simp [regresses]
    | some last => simp [Follows]
  constructor
  · rintro ⟨parses, linked, passable, ordered⟩
    rw [more] at linked passable ordered
    obtain ⟨isPrev, linked⟩ := links.mp linked
    obtain ⟨inOrder, ordered⟩ := orders.mp ordered
    exact ⟨isPrev, passable record (by simp), inOrder,
      fun other member => parses other (List.mem_cons_of_mem _ member), linked,
      fun other member => passable other (List.mem_cons_of_mem _ member), ordered⟩
  · rintro ⟨isPrev, isPassable, inOrder, parses, linked, passable, ordered⟩
    refine ⟨?_, by rw [more]; exact links.mpr ⟨isPrev, linked⟩, ?_,
      by rw [more]; exact orders.mpr ⟨inOrder, ordered⟩⟩
    · intro other member
      rcases List.mem_cons.mp member with rfl | later
      · exact ⟨record, loaded, isDict⟩
      · exact parses other later
    · intro other member
      rw [more] at member
      rcases List.mem_cons.mp member with rfl | later
      · exact isPassable
      · exact passable other later

/-! One record and one line of the verifier's loop. -/

/-- The state the loop goes on with after a chained record. -/
structure After (record : Value) (hash : Str) (state next : ChainState) : Prop where
  prev : next.prev = hash
  lastTs : next.lastTs = some (recordTs record)
  count : next.count = state.count + 1

theorem trackSession_isSome_iff {record ts : Value} {state : ChainState} :
    (∃ tracked, trackSession record ts state = some tracked) ↔
      (closesSession record = true ∨
          isText (record.get? "event_type") SessionEventType.heartbeat.value = true →
        (record.getD "payload" (.dict [])).isDict = true) := by
  rw [closesSession]
  unfold trackSession
  dsimp only
  generalize record.getD "payload" (.dict []) = payload
  cases closes : isText (record.get? "event_type") SessionEventType.sessionClose.value with
  | true => cases payload <;> simp [Value.isDict]
  | false =>
      cases beats : isText (record.get? "event_type") SessionEventType.heartbeat.value with
      | false => simp
      | true =>
          cases payload with
          | dict members =>
              cases mark : ((Value.dict members).getD "seq_at_heartbeat" (.int 0)).toInt? <;>
                simp [mark, Value.isDict]
          | null | bool | int | float | str | list => simp [Value.isDict]

theorem trackSession_keeps {record ts : Value} {state tracked : ChainState}
    (found : trackSession record ts state = some tracked) :
    tracked.prev = state.prev ∧ tracked.lastTs = state.lastTs ∧ tracked.count = state.count := by
  unfold trackSession at found
  dsimp only at found
  split at found
  · split at found
    · cases found
      exact ⟨rfl, rfl, rfl⟩
    · cases found
  split at found
  · split at found
    · split at found
      · cases found
        exact ⟨rfl, rfl, rfl⟩
      · cases found
        exact ⟨rfl, rfl, rfl⟩
    · cases found
  · cases found
    exact ⟨rfl, rfl, rfl⟩

theorem getD_prevHash_iff {record : Value} {prev : Str} (filled : prev ≠ []) :
    (record.getD "prev_hash" (Value.lit "")).eqv (.str prev) = true ↔
      record.get? "prev_hash" = some (.str prev) := by
  rw [Value.eqv_str_iff, Value.getD]
  cases record.get? "prev_hash" with
  | none =>
      have other : Value.lit "" ≠ .str prev := by
        intro same
        exact filled (Value.str.inj same).symm
      simp [other]
  | some found => simp

theorem acceptRecord_ok_iff {record seq ts : Value} {hash : Str} {attestation : Attestation}
    {state : ChainState} :
    (∃ next, acceptRecord record seq ts hash attestation state = .ok next) ↔
      (closesSession record = true ∨
          isText (record.get? "event_type") SessionEventType.heartbeat.value = true →
        (record.getD "payload" (.dict [])).isDict = true) := by
  unfold acceptRecord
  dsimp only
  generalize state.accept _ _ _ _ = base
  rw [← @trackSession_isSome_iff record ts base]
  cases trackSession record ts base with
  | none => simp
  | some tracked => cases seq.toInt? <;> simp

theorem after_acceptRecord {record seq : Value} {hash : Str} {attestation : Attestation}
    {state next : ChainState}
    (accepted : acceptRecord record seq (recordTs record) hash attestation state = .ok next) :
    After record hash state next := by
  unfold acceptRecord at accepted
  dsimp only at accepted
  cases found : trackSession record (recordTs record) (state.accept hash (recordTs record)
      attestation (attestation ≠ .valid && (getOrNull record "agent_sig").truthy &&
        !isText (record.get? "record_version") recordVersionV2)) with
  | none =>
      rw [found] at accepted
      cases accepted
  | some tracked =>
      obtain ⟨prev, lastTs, count⟩ := trackSession_keeps found
      rw [found] at accepted
      cases number : seq.toInt? with
      | none =>
          rw [number] at accepted
          cases accepted
          exact ⟨prev, lastTs, count⟩
      | some n =>
          rw [number] at accepted
          cases accepted
          exact ⟨prev, lastTs, count⟩

theorem checkRecord_ok_iff {line : Nat} {record : Value} {state : ChainState} {hash : Str}
    (isDict : record.isDict = true) (chained : isAck (record.getD "seq" (Value.lit "")) = false)
    (hashed : canonicalHash record = some hash) (filled : state.prev ≠ []) :
    (∃ next, checkRecord crypto policy line record state = .ok next) ↔
      record.get? "prev_hash" = some (.str state.prev) ∧ Passable crypto policy record ∧
        regresses (recordTs record) state.lastTs = some false := by
  rw [← getD_prevHash_iff filled]
  unfold checkRecord
  simp only [isDict, chained, hashed, Bool.not_true, Bool.false_eq_true, if_false]
  cases linked : (record.getD "prev_hash" (Value.lit "")).eqv (.str state.prev) with
  | false =>
      rw [Bool.not_false, if_pos rfl]
      constructor
      · rintro ⟨next, checked⟩
        split at checked <;> cases checked
      · rintro ⟨isLinked, -⟩
        cases isLinked
  | true =>
      rw [Bool.not_true, if_neg Bool.false_ne_true]
      cases unsigned : policy.requireRecorderSignatures &&
          !verifyRecorderSignature crypto record (policy.recorderPublicKey.getD []) with
      | true =>
          rw [if_pos rfl]
          constructor
          · rintro ⟨next, checked⟩
            cases checked
          · rintro ⟨-, passable, -⟩
            rw [Bool.and_eq_true] at unsigned
            have signed := passable.signed unsigned.1
            rw [signed] at unsigned
            cases unsigned.2
      | false =>
          rw [if_neg Bool.false_ne_true]
          have signed : policy.requireRecorderSignatures = true →
              verifyRecorderSignature crypto record (policy.recorderPublicKey.getD []) = true := by
            intro required
            rwa [required, Bool.true_and, Bool.not_eq_false'] at unsigned
          have passable_iff : Passable crypto policy record ↔
              (verifyServiceAgentAttestation crypto record = some .notService ∨
                verifyServiceAgentAttestation crypto record = some .valid) ∧
              (closesSession record = true ∨
                  isText (record.get? "event_type") SessionEventType.heartbeat.value = true →
                (record.getD "payload" (.dict [])).isDict = true) :=
            ⟨fun passable => ⟨passable.attested, passable.payload⟩,
              fun both => ⟨signed, both.1, both.2⟩⟩
          rw [passable_iff, recordTs]
          cases verifyServiceAgentAttestation crypto record with
          | none => simp
          | some attestation =>
              cases regresses (record.getD "ts" (Value.lit "")) state.lastTs with
              | none => cases attestation <;> simp
              | some regression =>
                  cases regression with
                  | true => cases attestation <;> simp
                  | false => cases attestation <;> simp [acceptRecord_ok_iff]

theorem after_checkRecord {line : Nat} {record : Value} {state next : ChainState} {hash : Str}
    (chained : isAck (record.getD "seq" (Value.lit "")) = false)
    (hashed : canonicalHash record = some hash)
    (checked : checkRecord crypto policy line record state = .ok next) :
    After record hash state next := by
  unfold checkRecord at checked
  dsimp only at checked
  split at checked
  · cases checked
  split at checked
  · next acknowledges => rw [chained] at acknowledges; cases acknowledges
  split at checked
  · split at checked <;> cases checked
  split at checked
  · cases checked
  split at checked
  · cases checked
  · cases checked
  split at checked
  · cases checked
  · cases checked
  rw [hashed] at checked
  exact after_acceptRecord checked

theorem checkRecord_ack_eq {line : Nat} {record : Value} {state : ChainState}
    (isDict : record.isDict = true) (ack : isAck (record.getD "seq" (Value.lit "")) = true) :
    checkRecord crypto policy line record state = .ok state := by
  unfold checkRecord
  simp [isDict, ack]

/-! The loop over the lines. A line is filled when something is left of it by `strip`. -/

def filled (numbered : List (Text × Nat)) : List Text :=
  ((numbered.map Prod.fst).map (stripText isSpace)).filter fun line => !line.isEmpty

theorem filled_cons (first : Text × Nat) (rest : List (Text × Nat)) :
    filled (first :: rest) =
      if (stripText isSpace first.1).isEmpty then filled rest
      else stripText isSpace first.1 :: filled rest := by
  rw [filled, List.map_cons, List.map_cons, List.filter_cons]
  cases (stripText isSpace first.1).isEmpty <;> rfl

theorem checkLine_blank {numbered : Text × Nat} (blank : (stripText isSpace numbered.1).isEmpty)
    (state : ChainState) : checkLine crypto policy state numbered = .ok state := by
  rw [checkLine]
  rw [if_pos blank]

theorem checkLine_filled {numbered : Text × Nat} {record : Value}
    (isFilled : (stripText isSpace numbered.1).isEmpty = false)
    (loaded : loads (stripText isSpace numbered.1) = some record) (state : ChainState) :
    checkLine crypto policy state numbered =
      (checkRecord crypto policy numbered.2 record state).mapError (state, ·) := by
  rw [checkLine]
  rw [isFilled, if_neg Bool.false_ne_true, loaded]

/-- The lines the loop gets through, from any state in which a hash is expected. -/
theorem foldlM_checkLine_iff (numbered : List (Text × Nat)) {state : ChainState}
    (expects : state.prev ≠ []) :
    (∃ final, numbered.foldlM (checkLine crypto policy) state = .ok final) ↔
      Passes crypto policy state.prev state.lastTs (filled numbered) := by
  induction numbered generalizing state with
  | nil =>
      refine iff_of_true ⟨state, rfl⟩ ⟨by simp [filled], ?_, by simp [filled, chainedOf], ?_⟩
      · exact trivial
      · cases state.lastTs <;> simp [filled, chainedOf]
  | cons first rest ih =>
      rw [List.foldlM_cons, filled_cons]
      cases blank : (stripText isSpace first.1).isEmpty with
      | true =>
          rw [checkLine_blank blank, if_pos rfl]
          exact ih expects
      | false =>
          rw [if_neg Bool.false_ne_true]
          cases loaded : loads (stripText isSpace first.1) with
          | none =>
              rw [checkLine]
              rw [blank, if_neg Bool.false_ne_true, loaded]
              refine iff_of_false ?_ ?_
              · rintro ⟨final, checked⟩
                cases checked
              · rintro ⟨parses, -⟩
                obtain ⟨record, found, -⟩ := parses _ List.mem_cons_self
                rw [loaded] at found
                cases found
          | some record =>
              rw [checkLine_filled blank loaded]
              cases isDict : record.isDict with
              | false =>
                  rw [checkRecord, isDict, Bool.not_false, if_pos rfl]
                  refine iff_of_false ?_ ?_
                  · rintro ⟨final, checked⟩
                    cases checked
                  · rintro ⟨parses, -⟩
                    obtain ⟨other, found, dict⟩ := parses _ List.mem_cons_self
                    rw [loaded, Option.some.injEq] at found
                    rw [← found, isDict] at dict
                    cases dict
              | true =>
                  cases ack : isAck (record.getD "seq" (Value.lit "")) with
                  | true =>
                      rw [checkRecord_ack_eq isDict ack, passes_ack loaded isDict ack]
                      exact ih expects
                  | false =>
                      obtain ⟨hash, hashed, filled⟩ := canonicalHash_of_loads loaded isDict
                      have step : (∃ next, checkRecord crypto policy first.2 record state =
                          .ok next) ↔ _ := checkRecord_ok_iff isDict ack hashed expects
                      rw [passes_record loaded isDict ack hashed, ← and_assoc, ← and_assoc,
                        and_assoc (a := record.get? "prev_hash" = some (.str state.prev)),
                        ← step]
                      cases checked : checkRecord crypto policy first.2 record state with
                      | error stop =>
                          refine iff_of_false ?_ ?_
                          · rintro ⟨final, ended⟩
                            cases ended
                          · rintro ⟨⟨next, accepted⟩, -⟩
                            cases accepted
                      | ok next =>
                          have after := after_checkRecord ack hashed checked
                          have onward := @ih next (by rw [after.prev]; exact filled)
                          rw [after.prev, after.lastTs] at onward
                          rw [← onward]
                          exact ⟨fun ended => ⟨⟨next, rfl⟩, ended⟩, fun both => both.2⟩

/-- The count is the number of the chained records. -/
theorem count_foldlM_checkLine {numbered : List (Text × Nat)} {state final : ChainState}
    (checked : numbered.foldlM (checkLine crypto policy) state = .ok final) :
    final.count = state.count + (chainedOf (filled numbered)).length := by
  induction numbered generalizing state with
  | nil =>
      cases checked
      rfl
  | cons first rest ih =>
      rw [List.foldlM_cons] at checked
      rw [filled_cons]
      cases blank : (stripText isSpace first.1).isEmpty with
      | true =>
          rw [checkLine_blank blank] at checked
          rw [if_pos rfl]
          exact ih checked
      | false =>
          rw [if_neg Bool.false_ne_true]
          cases loaded : loads (stripText isSpace first.1) with
          | none =>
              rw [checkLine] at checked
              rw [blank, if_neg Bool.false_ne_true, loaded] at checked
              cases checked
          | some record =>
              rw [checkLine_filled blank loaded] at checked
              cases result : checkRecord crypto policy first.2 record state with
              | error stop =>
                  rw [result] at checked
                  cases checked
              | ok next =>
                  rw [result] at checked
                  have counted := @ih next checked
                  cases isDict : record.isDict with
                  | false =>
                      rw [checkRecord, isDict, Bool.not_false, if_pos rfl] at result
                      cases result
                  | true =>
                      cases ack : isAck (record.getD "seq" (Value.lit "")) with
                      | true =>
                          rw [checkRecord_ack_eq isDict ack, Except.ok.injEq] at result
                          simp [chainedOf, loaded, ack, counted, result]
                      | false =>
                          obtain ⟨hash, hashed, -⟩ := canonicalHash_of_loads loaded isDict
                          have after := after_checkRecord ack hashed result
                          rw [counted, after.count]
                          simp [chainedOf, loaded, ack]
                          omega

theorem filled_zipIdx (lines : List Text) (first : Nat) :
    filled (lines.zipIdx first) =
      (lines.map (stripText isSpace)).filter fun line => !line.isEmpty := by
  rw [filled, List.zipIdx_map_fst]

/-- Exactly the clean files are accepted, and every chained record is counted. -/
theorem verifyChain_ok_iff {text : Text} :
    (∃ result, verifyChain crypto policy (some text) = some result ∧ result.ok = true) ↔
      Clean crypto policy text := by
  have loop : (∃ final, checkLines crypto policy (splitLines isNewline text) = .ok final) ↔
      Passes crypto policy genesisHash none (filledLines isNewline isSpace text) := by
    rw [checkLines, @foldlM_checkLine_iff crypto policy _ ChainState.initial genesisHash_ne_nil,
      filled_zipIdx]
    rfl
  have keyed : (policy.requireRecorderSignatures && policy.recorderPublicKey.isNone) = false ↔
      policy.HasKey := by
    rw [Policy.HasKey]
    cases policy.requireRecorderSignatures <;> cases policy.recorderPublicKey <;> simp
  have clean_iff : Clean crypto policy text ↔ policy.HasKey ∧
      Passes crypto policy genesisHash none (filledLines isNewline isSpace text) :=
    ⟨fun clean => ⟨clean.hasKey, clean.passes⟩, fun both => ⟨both.1, both.2⟩⟩
  rw [clean_iff, ← keyed, ← loop]
  unfold verifyChain
  dsimp only
  cases policy.requireRecorderSignatures && policy.recorderPublicKey.isNone with
  | true => simp
  | false =>
      rw [if_neg Bool.false_ne_true]
      cases checkLines crypto policy (splitLines isNewline text) with
      | error ended =>
          obtain ⟨state, stop⟩ := ended
          cases stop <;> simp
      | ok final => simp

theorem count_of_verified {text : Text} {result : VerificationResult}
    (verified : verifyChain crypto policy (some text) = some result) (isOk : result.ok = true) :
    result.count = (chainedRecords text).length := by
  unfold verifyChain at verified
  dsimp only at verified
  split at verified
  · cases verified
    cases isOk
  split at verified
  · cases verified
  · cases verified
    cases isOk
  · next final checked =>
      have counted := count_foldlM_checkLine checked
      rw [filled_zipIdx] at counted
      cases verified
      rw [counted]
      exact Nat.zero_add _

end

/-! What an accepted file is expected to be, and when it is. -/

/-- Every chained record carries the session id. -/
def CarriesSession (sessionId : Str) (records : List Value) : Prop :=
  ∀ record ∈ records, record.get? "session_id" = some (.str sessionId)

/-- The `seq` members are 1, 2, …, `count` in this order. -/
def Numbered (count : Nat) (records : List Value) : Prop :=
  records.map (fun record => record.get? "seq") =
    (numbering count).map fun number => some (.int number)

structure LogContract (log : Option Text) (sessionId : Str) (count : Nat) : Prop where
  session : CarriesSession sessionId (chainedRecords (log.getD []))
  numbered : Numbered count (chainedRecords (log.getD []))
  linked : recordChain.Linked recordChain.genesis (chainedRecords (log.getD []))

/-- An accepted log of this session is what its acceptance says it is. -/
def HonoursContract (crypto : Crypto) (policy : Policy) (log : Option Text)
    (sessionId : Str) : Prop :=
  ∀ result, verifyLog crypto policy log (some sessionId) = some result → result.ok = true →
    LogContract log sessionId result.count

end SelfConnect.Provenance
