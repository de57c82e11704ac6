import SelfConnect.Provenance.Settlement

namespace SelfConnect.Provenance

open SelfConnect.Python SelfConnect.Python.Json SelfConnect.Library

/-! A request whose record is in the ledger is answered with its receipt, and one that is
answered as stale has no record, when a record without a receipt is asked for in time. -/

/-- A verified request that has passed what comes before the lock. -/
structure Passed (config : ServiceConfig) (call : Waiting) : Prop where
  verified : Verified config call.callerSid call.now call.verified
  permitted : permit call.verified = .ok ()

/-- The row of a request holds the receipt of a line. -/
def RowOf (row : ReceiptRow) (line : Line) : Prop :=
  line.metadata? "request_hash" = some row.requestHash ∧
    ∃ stored, loads row.responseJson = some (.dict stored) ∧ IsReceipt line row.requestId stored

/-- The call that holds the lock has its record in the ledger, and no receipt. -/
structure OpenedAt (config : ServiceConfig) (ledgers : Str → List Line) (store : RequestStore)
    (unsettled : List (Str × Str)) (opened : Opened) : Prop where
  receipts : opened.store.receipts = store.receipts
  passed : Passed config opened.call
  unsettled : opened.call.key ∈ unsettled
  written : ∃ written, opened.record = (opened.call.line written).value ∧
    opened.call.line written ∈ ledgers opened.call.verified.sessionId

/-- What holds of the ledgers and of the database in every state. -/
structure Served (config : ServiceConfig) (s : ServiceState) : Prop where
  lines : ∀ sessionId, ∀ line ∈ s.ledgers sessionId, line.Own ∨
    ∃ call written, Passed config call ∧ line = call.line written
  distinct : ∀ sessionId, (requestIds (s.ledgers sessionId)).Nodup
  waiting : ∀ call ∈ s.waiting, Passed config call
  settled : ∀ sessionId, ∀ line ∈ s.ledgers sessionId, ∀ requestId,
    line.metadata? "request_id" = some requestId →
      (sessionId, requestId) ∈ s.unsettled ∨
        ∃ row, s.store.row? requestId = some row ∧ RowOf row line
  pending : ∀ key ∈ s.unsettled, s.store.row? key.2 = none
  single : ∀ first ∈ s.unsettled, ∀ second ∈ s.unsettled, first.2 = second.2 → first = second
  opened : ∀ opened, s.opened = some opened →
    OpenedAt config s.ledgers s.store s.unsettled opened

section Store

variable {store : RequestStore} {requestId : Str}

theorem row?_requestId {row : ReceiptRow} (found : store.row? requestId = some row) :
    row.requestId = requestId := by
  simpa using List.find?_some found

theorem row?_congr {other : RequestStore} (same : other.receipts = store.receipts) :
    other.row? requestId = store.row? requestId := by
  rw [RequestStore.row?, same]
  rfl

theorem saveReceipt_of_absent (absent : store.row? requestId = none) (requestHash : Str)
    (response : Members) (now : Int) : (store.saveReceipt requestId requestHash response
      now).receipts = store.receipts ++
        [⟨requestId, requestHash, render .compact (sortKeys (.dict response)), now⟩] := by
  rw [RequestStore.saveReceipt, absent]
  rfl

/-- After a receipt is saved its request has a row, and no other request has a new one. -/
theorem row?_saveReceipt (absent : store.row? requestId = none) (requestHash : Str)
    (response : Members) (now : Int) (other : Str) :
    (store.saveReceipt requestId requestHash response now).row? other =
      if requestId = other then
        some ⟨requestId, requestHash, render .compact (sortKeys (.dict response)), now⟩
      else store.row? other := by
  rw [RequestStore.row?, saveReceipt_of_absent absent, List.find?_append]
  change (store.row? other).or _ = _
  split
  · next same =>
      rw [← same, absent]
      simp
  · next differs => simp [differs]

theorem storedReceipt_eq_none_iff {stored : Option (Str × Members)}
    {verified : VerifiedRecordRequest} :
    storedReceipt stored verified = .ok none ↔ stored = none := by
  cases stored with
  | none => exact iff_of_true rfl rfl
  | some pair =>
      obtain ⟨requestHash, response⟩ := pair
      rw [storedReceipt]
      split <;> simp

theorem receipt_eq_none_iff {malformed : ServiceError} :
    store.receipt malformed requestId = .ok none ↔ store.row? requestId = none := by
  rw [RequestStore.receipt]
  cases found : store.row? requestId with
  | none => exact iff_of_true rfl rfl
  | some row =>
      cases loaded : loads row.responseJson with
      | none => simp [loaded]
      | some v => cases v <;> simp [loaded]

theorem replay_eq_none_iff {malformed : ServiceError} {verified : VerifiedRecordRequest} :
    store.replay malformed verified = .ok none ↔ store.row? verified.requestId = none := by
  rw [← @receipt_eq_none_iff _ _ malformed, RequestStore.replay]
  cases store.receipt malformed verified.requestId with
  | error e => simp
  | ok stored =>
      rw [Except.ok.injEq]
      exact storedReceipt_eq_none_iff

theorem replay_of_row {malformed : ServiceError} {verified : VerifiedRecordRequest}
    {row : ReceiptRow} {stored : Members} (found : store.row? verified.requestId = some row)
    (sameHash : row.requestHash = verified.requestHash)
    (loaded : loads row.responseJson = some (.dict stored)) :
    store.replay malformed verified =
      .ok (some (Members.set (Str.lit "status") (Value.lit "already_committed") stored)) := by
  rw [RequestStore.replay, RequestStore.receipt, found]
  simp only [loaded, storedReceipt, sameHash]
  exact if_neg (not_not_intro rfl)

end Store

/-! Only the check before the lock answers that a request is stale. -/

section NotStale

def ServiceError.NotStale : ServiceError → Prop
  | .protocol error => error.code ≠ "stale_request"
  | _ => True

theorem ServiceError.NotStale.ne {error : ServiceError} (not : error.NotStale) :
    error ≠ staleRequest := by
  rintro rfl
  exact not rfl

mutual
theorem validateJson_error {depth : Nat} {e : ProtocolError} :
    (v : Value) → validateJson depth v = .error e → e.code ≠ "stale_request"
  | .null, failed => by
      rw [validateJson] at failed
      split at failed <;> cases failed
      decide
  | .bool _, failed => by
      rw [validateJson] at failed
      split at failed <;> cases failed
      decide
  | .str _, failed => by
      rw [validateJson] at failed
      split at failed <;> cases failed
      decide
  | .int _, failed => by
      rw [validateJson] at failed
      split at failed
      · cases failed
        decide
      · split at failed <;> cases failed
        decide
  | .float _, failed => by
      rw [validateJson] at failed
      split at failed <;> cases failed <;> decide
  | .list items, failed => by
      rw [validateJson] at failed
      split at failed
      · cases failed
        decide
      · exact validateItems_error items failed
  | .dict members, failed => by
      rw [validateJson] at failed
      split at failed
      · cases failed
        decide
      · exact validateMembers_error members failed

private theorem validateItems_error {depth : Nat} {e : ProtocolError} :
    (items : List Value) → validateItems depth items = .error e → e.code ≠ "stale_request"
  | [], failed => by cases failed
  | v :: rest, failed => by
      rw [validateItems] at failed
      split at failed
      · next found =>
          cases failed
          exact validateJson_error v found
      · exact validateItems_error rest failed

private theorem validateMembers_error {depth : Nat} {e : ProtocolError} :
    (members : Members) → validateMembers depth members = .error e → e.code ≠ "stale_request"
  | [], failed => by cases failed
  | (k, v) :: rest, failed => by
      rw [validateMembers] at failed
      split at failed
      · split at failed
        · next found =>
            cases failed
            exact validateJson_error v found
        · exact validateMembers_error rest failed
      · cases failed
        decide
end

theorem canonicalJsonBytes_error {value : Value} {e : ProtocolError}
    (failed : canonicalJsonBytes value = .error e) : e.code ≠ "stale_request" := by
  rw [canonicalJsonBytes] at failed
  split at failed
  · next found =>
      cases failed
      exact validateJson_error value found
  · split at failed <;> cases failed
    decide

theorem encodeFrame_error {value : Value} {e : ProtocolError}
    (failed : encodeFrame value = .error e) : e.code ≠ "stale_request" := by
  rw [encodeFrame] at failed
  split at failed
  · next found =>
      cases failed
      exact canonicalJsonBytes_error found
  · split at failed <;> cases failed
    decide

theorem protocolResult_notStale {α : Type} {result : Except ProtocolError α}
    (codes : ∀ e, result = .error e → e.code ≠ "stale_request") {error : ServiceError}
    (failed : protocolResult result = .error error) : error.NotStale := by
  cases result with
  | error e =>
      cases failed
      exact codes e rfl
  | ok a => cases failed

theorem sign_notStale {identity : ServiceIdentity} {response : Members} {error : ServiceError}
    (failed : signServiceResponse identity response = .error error) : error.NotStale := by
  simp only [signServiceResponse, bind_eq_error] at failed
  rcases failed with canonical | ⟨bytes, -, signing | ⟨signature, -, encoding | ⟨data, -, done⟩⟩⟩
  · exact protocolResult_notStale (fun _ => canonicalJsonBytes_error) canonical
  · rw [(present_eq_error.mp signing).2]
    trivial
  · exact protocolResult_notStale (fun _ => encodeFrame_error) encoding
  · cases done

theorem storedReceipt_notStale {stored : Option (Str × Members)}
    {verified : VerifiedRecordRequest} {error : ServiceError}
    (failed : storedReceipt stored verified = .error error) : error.NotStale := by
  cases stored with
  | none => cases failed
  | some pair =>
      obtain ⟨requestHash, response⟩ := pair
      rw [storedReceipt] at failed
      split at failed <;> cases failed
      exact (by decide : "idempotency_conflict" ≠ "stale_request")

theorem receipt_notStale {store : RequestStore} {malformed : ServiceError}
    (notStale : malformed.NotStale) {requestId : Str} {error : ServiceError}
    (failed : store.receipt malformed requestId = .error error) : error.NotStale := by
  rw [RequestStore.receipt] at failed
  split at failed
  · cases failed
  · split at failed <;> cases failed
    · exact notStale
    · trivial

theorem replay_notStale {store : RequestStore} {malformed : ServiceError}
    (notStale : malformed.NotStale) {verified : VerifiedRecordRequest} {error : ServiceError}
    (failed : store.replay malformed verified = .error error) : error.NotStale := by
  rw [RequestStore.replay] at failed
  split at failed
  · next found =>
      cases failed
      exact receipt_notStale notStale found
  · exact storedReceipt_notStale failed

theorem findRequest_notStale {verified : VerifiedRecordRequest} {lines : List Text}
    {found : Option Value} {error : ServiceError}
    (failed : findRequest verified lines found = .error error) : error.NotStale := by
  induction lines generalizing found with
  | nil => cases failed
  | cons line rest ih =>
      rw [findRequest] at failed
      split at failed
      · exact ih failed
      · split at failed
        · cases failed
          trivial
        · split at failed
          · cases failed
            trivial
          · split at failed
            · exact ih failed
            · split at failed
              · cases failed
                exact (by decide : "idempotency_conflict" ≠ "stale_request")
              · split at failed
                · cases failed
                  trivial
                · exact ih failed

theorem recoverRecord_notStale {config : ServiceConfig} {lines : List Line}
    {verified : VerifiedRecordRequest} {error : ServiceError}
    (failed : recoverRecord config lines verified = .error error) : error.NotStale := by
  rw [recoverRecord] at failed
  split at failed
  · cases failed
    trivial
  · split at failed
    · cases failed
      trivial
    · exact findRequest_notStale failed

end NotStale

/-! What a step preserves. -/

section Preserved

variable {config : ServiceConfig} {s : ServiceState}

theorem searchable_of_line {line : Line} (origin : line.Own ∨
    ∃ call written, Passed config call ∧ line = call.line written) : line.Searchable := by
  rcases origin with own | ⟨call, written, -, rfl⟩
  · rw [Line.Searchable, serviceMetadata_own own]
    rfl
  · rw [Line.Searchable, serviceMetadata_line]
    rfl

theorem Served.searchable (served : Served config s) (sessionId : Str) :
    ∀ line ∈ s.ledgers sessionId, line.Searchable :=
  fun line member => searchable_of_line (served.lines sessionId line member)

/-- A record that names a request is found by its name alone. -/
theorem eq_of_requestIds {lines : List Line} (distinct : (requestIds lines).Nodup)
    {first second : Line} {requestId : Str} (firstIn : first ∈ lines) (secondIn : second ∈ lines)
    (firstNames : first.metadata? "request_id" = some requestId)
    (secondNames : second.metadata? "request_id" = some requestId) : first = second := by
  induction lines with
  | nil => cases firstIn
  | cons line rest ih =>
      rcases List.mem_cons.mp firstIn with rfl | firstLater <;>
        rcases List.mem_cons.mp secondIn with rfl | secondLater
      · rfl
      · rw [requestIds_cons_some firstNames, List.nodup_cons] at distinct
        exact absurd (mem_requestIds.mpr ⟨second, secondLater, secondNames⟩) distinct.1
      · rw [requestIds_cons_some secondNames, List.nodup_cons] at distinct
        exact absurd (mem_requestIds.mpr ⟨first, firstLater, firstNames⟩) distinct.1
      · refine ih (distinct.sublist ?_) firstLater secondLater
        exact List.Sublist.filterMap _ (List.sublist_cons_self _ _)

/-- A transaction that finds a receipt leaves all receipts as they are. -/
theorem Served.settle_found (served : Served config s) (closed : s.opened = none)
    {store : RequestStore} (same : store.receipts = s.store.receipts) (key : Str × Str)
    {row : ReceiptRow} (found : s.store.row? key.2 = some row) :
    Served config { s with
      store := store
      unsettled := s.unsettled.filter fun other => other ≠ key } where
  lines := served.lines
  distinct := served.distinct
  waiting := served.waiting
  settled sessionId line member requestId names := by
    rcases served.settled sessionId line member requestId names with unsettled | ⟨row, isRow, isOf⟩
    · refine Or.inl (List.mem_filter.mpr ⟨unsettled, ?_⟩)
      rw [decide_eq_true_eq]
      rintro rfl
      rw [served.pending _ unsettled] at found
      cases found
    · exact Or.inr ⟨row, (row?_congr same).trans isRow, isOf⟩
  pending other member := (row?_congr same).trans (served.pending other (List.mem_filter.mp member).1)
  single first firstIn second secondIn :=
    served.single first (List.mem_filter.mp firstIn).1 second (List.mem_filter.mp secondIn).1
  opened opened isOpened := by
    rw [closed] at isOpened
    cases isOpened

/-- A transaction that saves a receipt settles the record it is for. -/
theorem Served.settle_saved (served : Served config s) (closed : s.opened = none)
    {store : RequestStore} (same : store.receipts = s.store.receipts) {key : Str × Str}
    (unsettled : key ∈ s.unsettled) {line : Line} (member : line ∈ s.ledgers key.1)
    (names : line.metadata? "request_id" = some key.2) {requestHash : Str}
    (hashed : line.metadata? "request_hash" = some requestHash) {response : Members}
    (json : IsJson (.dict response)) (receipt : IsReceipt line key.2 response) (now : Int) :
    Served config { s with
      store := store.saveReceipt key.2 requestHash response now
      unsettled := s.unsettled.filter fun other => other ≠ key } := by
  have absent : store.row? key.2 = none := (row?_congr same).trans (served.pending key unsettled)
  have rows := row?_saveReceipt absent requestHash response now
  refine ⟨served.lines, served.distinct, served.waiting, ?_, ?_, ?_, ?_⟩
  · intro sessionId other otherIn requestId otherNames
    dsimp only
    rw [rows requestId]
    rcases served.settled sessionId other otherIn requestId otherNames with pending | ⟨row, isRow, isOf⟩
    · by_cases isKey : (sessionId, requestId) = key
      · cases isKey
        rw [if_pos rfl]
        obtain ⟨stored, loaded, isReceipt⟩ := isReceipt_stored json receipt
        have sameLine := eq_of_requestIds (served.distinct sessionId) member otherIn names otherNames
        rw [← sameLine]
        exact Or.inr ⟨_, rfl, hashed, stored, loaded, isReceipt⟩
      · exact Or.inl (List.mem_filter.mpr ⟨pending, by simpa using isKey⟩)
    · have differs : key.2 ≠ requestId := by
        rintro rfl
        rw [served.pending key unsettled] at isRow
        cases isRow
      rw [if_neg differs]
      exact Or.inr ⟨row, (row?_congr same).trans isRow, isOf⟩
  · intro other otherIn
    obtain ⟨otherUnsettled, isOther⟩ := List.mem_filter.mp otherIn
    have differs : key.2 ≠ other.2 := by
      intro sameId
      have := served.single key unsettled other otherUnsettled sameId
      simp [this] at isOther
    dsimp only
    rw [rows other.2, if_neg differs]
    exact (row?_congr same).trans (served.pending other otherUnsettled)
  · intro first firstIn second secondIn
    exact served.single first (List.mem_filter.mp firstIn).1 second (List.mem_filter.mp secondIn).1
  · intro opened isOpened
    rw [closed] at isOpened
    cases isOpened

theorem mem_appended {ledgers : Str → List Line} {sessionId other : Str} {added : List Line}
    {line : Line} (member : line ∈ Function.update ledgers sessionId
      (ledgers sessionId ++ added) other) :
    line ∈ ledgers other ∨ other = sessionId ∧ line ∈ added := by
  by_cases same : other = sessionId
  · subst same
    rw [Function.update_self] at member
    exact (List.mem_append.mp member).imp id fun isAdded => ⟨rfl, isAdded⟩
  · rw [Function.update_of_ne same] at member
    exact Or.inl member

theorem subset_appended (ledgers : Str → List Line) (sessionId other : Str) (added : List Line) :
    ledgers other ⊆ Function.update ledgers sessionId (ledgers sessionId ++ added) other := by
  by_cases same : other = sessionId
  · subst same
    rw [Function.update_self]
    exact List.subset_append_left _ _
  · rw [Function.update_of_ne same]
    exact List.Subset.refl _

theorem requestIds_own {lines : List Line} (own : ∀ line ∈ lines, line.Own) :
    requestIds lines = [] :=
  List.filterMap_eq_nil_iff.mpr fun line member => metadata?_own (own line member) _

theorem requestIds_append (first second : List Line) :
    requestIds (first ++ second) = requestIds first ++ requestIds second :=
  List.filterMap_append

/-- Lines of a recorder's own change nothing for the requests. -/
theorem Served.own (served : Served config s) (sessionId : Str) {lines : List Line}
    (own : ∀ line ∈ lines, line.Own) :
    Served config { s with
      ledgers := Function.update s.ledgers sessionId (s.ledgers sessionId ++ lines) } where
  lines other line member := by
    rcases mem_appended member with before | ⟨-, isAdded⟩
    · exact served.lines other line before
    · exact Or.inl (own line isAdded)
  distinct other := by
    by_cases same : other = sessionId
    · subst same
      dsimp only
      rw [Function.update_self, requestIds_append, requestIds_own own, List.append_nil]
      exact served.distinct other
    · dsimp only
      rw [Function.update_of_ne same]
      exact served.distinct other
  waiting := served.waiting
  settled other line member requestId names := by
    rcases mem_appended member with before | ⟨-, isAdded⟩
    · exact served.settled other line before requestId names
    · rw [metadata?_own (own line isAdded)] at names
      cases names
  pending := served.pending
  single := served.single
  opened opened isOpened := by
    obtain ⟨receipts, passed, unsettled, written, isRecord, member⟩ := served.opened opened isOpened
    exact ⟨receipts, passed, unsettled, written, isRecord, subset_appended _ _ _ _ member⟩

theorem line_mem_append (s : ServiceState) (call : Waiting) (written : Written) :
    call.line written ∈ (s.append call written).ledgers call.verified.sessionId := by
  rw [ServiceState.append]
  dsimp only
  rw [Function.update_self]
  exact List.mem_append_right _ List.mem_cons_self

/-- A request is new to its session, and to the database, when its record is written. -/
theorem Served.append (served : Served config s) (closed : s.opened = none) {call : Waiting}
    (passed : Passed config call) {written : Written}
    (own : ∀ line ∈ written.followers, line.Own)
    (fresh : ∀ line ∈ s.ledgers call.verified.sessionId,
      line.metadata? "request_id" ≠ some call.verified.requestId)
    (absent : s.store.row? call.verified.requestId = none)
    (alone : ∀ key ∈ s.unsettled, key.2 = call.verified.requestId →
      key.1 = call.verified.sessionId) : Served config (s.append call written) := by
  have names : (call.line written).metadata? "request_id" = some call.verified.requestId :=
    metadata?_requestId passed.verified
  have origin : ∀ line ∈ call.line written :: written.followers, line.Own ∨
      ∃ call written, Passed config call ∧ line = call.line written := by
    rintro line (_ | ⟨_, follows⟩)
    · exact Or.inr ⟨call, written, passed, rfl⟩
    · exact Or.inl (own line follows)
  have isKey : ∀ key ∈ s.unsettled, key.2 = call.verified.requestId → key = call.key :=
    fun key member sameId => Prod.ext (alone key member sameId) sameId
  refine ⟨?_, ?_, served.waiting, ?_, ?_, ?_, ?_⟩
  · intro other line member
    rcases mem_appended member with before | ⟨-, isAdded⟩
    · exact served.lines other line before
    · exact origin line isAdded
  · intro other
    by_cases same : other = call.verified.sessionId
    · subst same
      rw [ServiceState.append]
      dsimp only
      rw [Function.update_self, requestIds_append, requestIds_cons_some names, requestIds_own own]
      refine (served.distinct _).append (List.nodup_singleton _) ?_
      rintro requestId member isNew
      cases List.mem_singleton.mp isNew
      obtain ⟨line, lineIn, lineNames⟩ := mem_requestIds.mp member
      exact fresh line lineIn lineNames
    · rw [ServiceState.append]
      dsimp only
      rw [Function.update_of_ne same]
      exact served.distinct other
  · intro other line member requestId lineNames
    rcases mem_appended member with before | ⟨isSession, isAdded⟩
    · exact (served.settled other line before requestId lineNames).imp
        (fun unsettled => List.mem_append_left _ unsettled) id
    · subst isSession
      rcases List.mem_cons.mp isAdded with rfl | follows
      · rw [names] at lineNames
        cases lineNames
        exact Or.inl (List.mem_append_right _ List.mem_cons_self)
      · rw [metadata?_own (own line follows)] at lineNames
        cases lineNames
  · intro key member
    rcases List.mem_append.mp member with before | isNew
    · exact served.pending key before
    · cases List.mem_singleton.mp isNew
      exact absent
  · intro first firstIn second secondIn sameId
    rcases List.mem_append.mp firstIn with firstBefore | firstNew <;>
      rcases List.mem_append.mp secondIn with secondBefore | secondNew
    · exact served.single first firstBefore second secondBefore sameId
    · cases List.mem_singleton.mp secondNew
      exact isKey first firstBefore sameId
    · cases List.mem_singleton.mp firstNew
      exact (isKey second secondBefore sameId.symm).symm
    · rw [List.mem_singleton.mp firstNew, List.mem_singleton.mp secondNew]
  · intro opened isOpened
    rw [ServiceState.append, closed] at isOpened
    cases isOpened

theorem Served.settle {store : RequestStore} {key : Str × Str} {answer : Outcome}
    (served : Served config s) (settled : Served config { s with
      store := store
      unsettled := s.unsettled.filter fun other => other ≠ key }) (commit : Commit) :
    Served config (settle commit store key answer s).1 := by
  cases commit with
  | committed => exact settled
  | rolledBack => exact served
  | lost => exact settled

theorem served_arrive {request : Members} {callerSid : Str} {now : Int} {lookup : Bool}
    (served : Served config s) (json : IsJson (.dict request)) :
    Served config (arrive config request callerSid now lookup s).1 := by
  have read : Served config { s with clock := now } := { served with }
  unfold arrive
  split
  · exact read
  · next verified isVerified =>
      split
      · exact read
      · split
        · exact read
        · exact read
        · split
          · exact read
          · next permitted =>
              have waits : ∀ call ∈ s.waiting ++ [⟨verified, callerSid, now⟩], Passed config call := by
                intro call member
                rcases List.mem_append.mp member with before | isNew
                · exact served.waiting call before
                · cases List.mem_singleton.mp isNew
                  exact ⟨verified_of_verifyCall json isVerified, permitted⟩
              exact { read with waiting := waits }

theorem findRequest_of_recoverRecord {lines : List Line} {verified : VerifiedRecordRequest}
    {found : Option Value} (recovered : recoverRecord config lines verified = .ok found) :
    findRequest verified (texts lines) none = .ok found := by
  rw [recoverRecord, splitLines_logText] at recovered
  split at recovered
  · cases recovered
  · split at recovered
    · cases recovered
    · exact recovered

theorem receipts_consumeNonce {store consumed : RequestStore} {agentId nonce : Str}
    {expiresAtMs : Int} (isConsumed : store.consumeNonce agentId nonce expiresAtMs = some consumed) :
    consumed.receipts = store.receipts := by
  rw [RequestStore.consumeNonce] at isConsumed
  split at isConsumed
  · cases isConsumed
  · cases isConsumed
    rfl

theorem Served.recovered (served : Served config s) (closed : s.opened = none) {call : Waiting}
    (passed : Passed config call) (absent : s.store.row? call.verified.requestId = none)
    {record : Value} (recovered : recoverRecord config (s.ledgers call.verified.sessionId)
      call.verified = .ok (some record)) {response : Members}
    (isResponse : receiptFromRecord record call.verified.requestId call.now = some response) :
    Served config { s with
      store := (s.store.prune call.now).saveReceipt call.verified.requestId
        call.verified.requestHash response call.now
      unsettled := s.unsettled.filter fun other => other ≠ call.key } := by
  rcases mem_of_findRequest (served.searchable _) (findRequest_of_recoverRecord recovered) with
    before | ⟨line, member, rfl, names, hashed⟩
  · cases before
  · rcases served.settled _ line member _ names with unsettled | ⟨row, isRow, -⟩
    · exact @Served.settle_saved config s served closed (s.store.prune call.now) rfl call.key
        unsettled line member names _ hashed response
        (isJson_response passed.verified.requestId isResponse) (isReceipt_of_loaded isResponse) _
    · rw [absent] at isRow
      cases isRow

theorem served_enter {turn : EnterTurn} {call : Waiting} (served : Served config s)
    (closed : s.opened = none) (passed : Passed config call) (own : turn.append.Own)
    (alone : ∀ key ∈ s.unsettled, key.2 = call.verified.requestId →
      key.1 = call.verified.sessionId) : Served config (enter config turn call s).1 := by
  unfold enter
  dsimp only
  split
  · exact served
  have pruned : (s.store.prune call.now).receipts = s.store.receipts := rfl
  split
  · exact served
  · next replay isReplay =>
      split
      · exact served
      · cases found : s.store.row? call.verified.requestId with
        | none =>
            rw [replay_eq_none_iff.mpr ((row?_congr pruned).trans found)] at isReplay
            cases isReplay
        | some row => exact served.settle (served.settle_found closed pruned call.key found) _
  · next notFound =>
      have absent := (row?_congr pruned).symm.trans (replay_eq_none_iff.mp notFound)
      split
      · exact served
      split
      · exact served
      · next record recovered =>
          split
          · exact served
          split
          · exact served
          · next response isResponse =>
              split
              · exact served
              split
              · exact served
              · exact served.settle (served.recovered closed passed absent recovered isResponse) _
      · next noRecord =>
          have fresh := (absent_of_findRequest (served.searchable _)
            (findRequest_of_recoverRecord noRecord)).2
          split
          · exact served
          · next consumed isConsumed =>
              cases appended : turn.append with
              | refused => exact served
              | raised written =>
                  rw [appended] at own
                  exact served.append closed passed own fresh absent alone
              | returned written =>
                  rw [appended] at own
                  have after := served.append closed passed own fresh absent alone
                  have opened : ∀ opened, some (Opened.mk call (call.line written).value consumed) =
                      some opened → OpenedAt config (s.append call written).ledgers
                        (s.append call written).store (s.append call written).unsettled opened := by
                    rintro opened ⟨⟩
                    refine ⟨(receipts_consumeNonce isConsumed).trans pruned, passed,
                      List.mem_append_right _ List.mem_cons_self, written, rfl,
                      line_mem_append s call written⟩
                  exact { after with opened := opened }

theorem served_finish {turn : FinishTurn} {opened : Opened} (served : Served config s)
    (isOpened : s.opened = some opened) : Served config (finish config turn opened s).1 := by
  obtain ⟨same, passed, unsettled, written, isRecord, member⟩ := served.opened opened isOpened
  have noneOpened : ∀ opened, none = some opened →
      OpenedAt config s.ledgers s.store s.unsettled opened := by
    rintro _ ⟨⟩
  have closed : Served config { s with opened := none } := { served with opened := noneOpened }
  unfold finish
  dsimp only
  split
  · exact closed
  split
  · exact closed
  · next response isResponse =>
      split
      · exact closed
      rw [isRecord, receiptFromRecord_value passed.verified] at isResponse
      refine closed.settle (@Served.settle_saved config _ closed rfl opened.store same
        opened.call.key unsettled _ member (metadata?_requestId passed.verified) _
        (metadata?_requestHash passed.verified) response ?_ (isReceipt_of_loaded isResponse) _) _
      exact isJson_response passed.verified.requestId isResponse

end Preserved

end SelfConnect.Provenance
