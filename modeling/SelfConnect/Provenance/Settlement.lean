import SelfConnect.Provenance.Service
import SelfConnect.Python.Json.Sorted

namespace SelfConnect.Provenance

open SelfConnect.Python SelfConnect.Python.Json SelfConnect.Library

/-! What is known of a request once it has been verified, and of the record it leads to. -/

/-- The fields of a verified request that come from its JSON. -/
structure Verified (config : ServiceConfig) (callerSid : Str) (now : Int)
    (verified : VerifiedRecordRequest) : Prop where
  enrolled : config.registry.get verified.enrollment.agentId = some verified.enrollment
  sid : callerSid = verified.enrollment.sid
  sessionId : Str.joinSurrogates verified.sessionId = verified.sessionId
  requestId : Str.joinSurrogates verified.requestId = verified.requestId
  requestHash : Str.joinSurrogates verified.requestHash = verified.requestHash
  payload : IsJson (.dict verified.payload)
  osCorroboration : ∀ client, verified.osCorroboration = some client → IsJson (.dict client)
  stale : verified.stale = decide (config.freshnessMs < |now - verified.issuedAtMs|)

theorem agentId_of_get {registry : EnrollmentRegistry} {agentId : Str}
    {enrollment : AgentEnrollment} (found : registry.get agentId = some enrollment) :
    enrollment.agentId = agentId := by
  rw [EnrollmentRegistry.get, Option.filter_eq_some_iff] at found
  simpa using List.find?_some found.1

theorem isJson_of_get {request : Members} (json : IsJson (.dict request)) {key : String} {v : Value}
    (found : (Value.dict request).get? key = some v) : IsJson v :=
  (isJsonMembers_iff.mp json.2 _ _ (Members.mem_of_lookup found)).2

theorem text?_eq_some {value : Option Value} {s : Str} (found : text? value = some s) :
    value = some (.str s) := by
  cases value with
  | none => cases found
  | some v =>
      cases v with
      | str text =>
          cases found
          rfl
      | null | bool | int | float | list | dict => cases found

theorem dict?_eq_some {value : Option Value} {members : Members}
    (found : dict? value = some members) : value = some (.dict members) := by
  cases value with
  | none => cases found
  | some v =>
      cases v with
      | dict entries =>
          cases found
          rfl
      | null | bool | int | float | str | list => cases found

theorem corroboration?_eq_some {value : Option Value} {client : Members}
    (found : corroboration? value = some (some client)) : value = some (.dict client) := by
  cases value with
  | none => cases found
  | some v =>
      cases v with
      | dict entries =>
          cases found
          rfl
      | null | bool | int | float | str | list => cases found

theorem parseUuid_eq_ok {value : Option Value} {name : String} {s : Str}
    (parsed : parseUuid value name = .ok s) : value = some (.str s) := by
  unfold parseUuid at parsed
  split at parsed
  · split at parsed
    · cases parsed
      rfl
    · cases parsed
  · cases parsed

theorem verified_of_verifyCall {config : ServiceConfig} {request : Members} {callerSid : Str}
    {now : Int} {verified : VerifiedRecordRequest} (json : IsJson (.dict request))
    (passed : verifyCall config request callerSid now = .ok verified) :
    Verified config callerSid now verified := by
  simp only [verifyCall, verifyRecordRequest, bind_eq_ok, insist_eq_ok, present_eq_ok,
    exists_and_left, exists_const] at passed
  obtain ⟨-, -, -, -, agentId, -, enrollment, found, isSid, sessionId, isSessionId, requestId,
    isRequestId, nonce, -, issuedAtMs, -, -, eventType, -, payload, isPayload, client, isClient,
    eventSignature, -, requestSignature, -, eventBytes, -, -, requestBytes, -, -, hash, isHash,
    made⟩ := passed
  cases made
  obtain ⟨bytes, -, isDigest⟩ : ∃ bytes, requestSigningBytes request = .ok bytes ∧
      Str.ofText (hexText (sha384 bytes)) = hash := by
    rw [requestHash] at isHash
    cases signing : requestSigningBytes request with
    | error e =>
        rw [signing] at isHash
        cases isHash
    | ok bytes =>
        rw [signing] at isHash
        exact ⟨bytes, rfl, Except.ok.inj isHash⟩
  refine ⟨?_, by simpa using isSid, isJson_of_get json (parseUuid_eq_ok isSessionId),
    isJson_of_get json (parseUuid_eq_ok isRequestId), ?_, isJson_of_get json (dict?_eq_some isPayload), ?_, rfl⟩
  · dsimp only
    rw [agentId_of_get found]
    exact found
  · dsimp only
    rw [← isDigest, Str.joinSurrogates_ofText]
  · rintro members isSome
    dsimp only at isSome
    rw [isSome] at isClient
    exact isJson_of_get json (corroboration?_eq_some isClient)

/-! The record of a call, as it is written and as it is read back. -/

section Line

variable {config : ServiceConfig} {call : Waiting} {written : Written}

theorem distinct_corroborationFields (verified : VerifiedRecordRequest) (callerSid : Str) :
    ((corroborationFields verified callerSid).map Prod.fst).Nodup := by
  unfold corroborationFields
  cases verified.osCorroboration <;> simp [serviceMetadataKey]

theorem distinct_requestMetadata (verified : VerifiedRecordRequest) (callerSid : Str) :
    ((requestMetadata verified callerSid).map Prod.fst).Nodup := by
  simp [requestMetadata]

theorem stringKeyed_serviceCorroboration
    (verified : Verified config call.callerSid call.now call.verified) :
    StringKeyed (.dict (serviceCorroboration call.verified call.callerSid)) := by
  refine stringKeyed_object (distinct_corroborationFields _ _) ?_
  rintro field (_ | ⟨_, isClient⟩)
  · refine stringKeyed_object (distinct_requestMetadata _ _) ?_
    simp [requestMetadata, Value.lit, StringKeyed]
  · cases given : call.verified.osCorroboration with
    | none =>
        rw [given] at isClient
        cases isClient
    | some client =>
        rw [given] at isClient
        cases List.mem_singleton.mp isClient
        exact stringKeyed_of_isJson _ (verified.osCorroboration client given)

theorem stable_draft (verified : Verified config call.callerSid call.now call.verified) :
    (call.draft written).Stable := by
  intro v member
  have keyed : StringKeyed v := by
    rcases List.mem_cons.mp member with payload | corroboration
    · rw [payload]
      exact stringKeyed_of_isJson _ verified.payload
    · cases List.mem_singleton.mp corroboration
      exact stringKeyed_serviceCorroboration verified
  exact ⟨sortable_of_stringKeyed v keyed, keysStable_of_stringKeyed v keyed⟩

theorem text?_some (s : Str) : text? (some (.str s)) = some s := rfl

/-- A text that the core has written into a record, as it is read back. -/
def Line.metadata? (line : Line) (key : String) : Option Str :=
  (serviceMetadata line.loaded).bind fun metadata => text? ((Value.dict metadata).get? key)

theorem serviceMetadata_of_corroboration {value : Value} {members : Members}
    (isDict : value.isDict = true) (found : value.get? "os_corroboration" = some (.dict members)) :
    serviceMetadata value =
      dict? (some ((Value.dict members).getD serviceMetadataKey (.dict []))) := by
  rw [serviceMetadata, if_pos isDict, Value.getD, found]
  rfl

theorem serviceMetadata_none {value : Value} (isDict : value.isDict = true)
    (absent : value.get? "os_corroboration" = none) : serviceMetadata value = some [] := by
  rw [serviceMetadata, if_pos isDict, Value.getD, absent]
  rfl

theorem serviceMetadata_own {line : Line} (own : line.Own) :
    serviceMetadata line.loaded = some [] := by
  cases line with
  | record draft recorderSig =>
      have corroboration := draft.get?_osCorroboration recorderSig
      cases given : draft.osCorroboration with
      | none =>
          rw [given] at corroboration
          exact serviceMetadata_none (Line.loaded_isDict _) corroboration
      | some members =>
          rw [given] at corroboration
          rw [serviceMetadata_of_corroboration (Line.loaded_isDict _) corroboration, Value.getD,
            Value.get?_dict, serviceMetadataKey, own draft rfl members given]
          rfl
  | ack receipt =>
      refine serviceMetadata_none (Line.loaded_isDict _) ?_
      rw [Line.loaded, Line.value, Ack.value, build_reread_object (by simp)]
      simp

theorem metadata?_own {line : Line} (own : line.Own) (key : String) :
    line.metadata? key = none := by
  rw [Line.metadata?, serviceMetadata_own own]
  rfl

theorem serviceMetadata_line (call : Waiting) (written : Written) :
    serviceMetadata (call.line written).loaded =
      some (Members.of ((requestMetadata call.verified call.callerSid).map fun field =>
        (field.1, build (reread field.2)))) := by
  have loaded : Value.dict (loadedMembers (serviceCorroboration call.verified call.callerSid)) =
      Value.object ((corroborationFields call.verified call.callerSid).map fun field =>
        (field.1, build (reread field.2))) :=
    build_reread_object (distinct_corroborationFields _ _)
  have found := (call.draft written).get?_osCorroboration written.recorderSig
  rw [Waiting.line, serviceMetadata_of_corroboration (Line.loaded_isDict _) found, loaded]
  simp only [corroborationFields, List.map_cons, Value.getD, Value.get?_object_cons, if_true,
    Option.getD_some, build_reread_object (distinct_requestMetadata _ _)]
  rfl

theorem metadata?_requestId (verified : Verified config call.callerSid call.now call.verified) :
    (call.line written).metadata? "request_id" = some call.verified.requestId := by
  rw [Line.metadata?, serviceMetadata_line, Option.bind_some]
  change text? ((Value.object _).get? _) = _
  simp [requestMetadata, reread, build, text?_some, verified.requestId]

theorem metadata?_requestHash (verified : Verified config call.callerSid call.now call.verified) :
    (call.line written).metadata? "request_hash" = some call.verified.requestHash := by
  rw [Line.metadata?, serviceMetadata_line, Option.bind_some]
  change text? ((Value.object _).get? _) = _
  simp [requestMetadata, reread, build, text?_some, verified.requestHash]

end Line

/-! The search for the record of a request. -/

section Search

variable {verified : VerifiedRecordRequest}

/-- A record in which the core can look its own metadata up. -/
def Line.Searchable (line : Line) : Prop := (serviceMetadata line.loaded).isSome = true

theorem getOrNull_eqv_iff {metadata : Members} {key : String} {s : Str} :
    (getOrNull (.dict metadata) key).eqv (.str s) = true ↔
      text? ((Value.dict metadata).get? key) = some s := by
  rw [Value.eqv_str_iff, getOrNull, Value.getD]
  cases (Value.dict metadata).get? key with
  | none => exact iff_of_false (fun same => by cases same) fun same => by cases same
  | some v => 
      cases v with
      | str text => exact ⟨fun same => by cases same; rfl, fun same => by cases same; rfl⟩
      | null | bool | int | float | list | dict =>
          exact iff_of_false (fun same => by cases same) fun same => by cases same

/-- One turn of the loop. -/
theorem findRequest_line {line : Line} (searchable : line.Searchable) (rest : List Text)
    (found : Option Value) :
    findRequest verified (render .compact line.value :: rest) found =
      if line.metadata? "request_id" ≠ some verified.requestId then
        findRequest verified rest found
      else if line.metadata? "request_hash" ≠ some verified.requestHash then
        .error (.protocol ⟨"idempotency_conflict",
          "ledger request_id is bound to different signed content"⟩)
      else if found.isSome then
        .error (.unavailable "duplicate request_id exists in authoritative ledger")
      else findRequest verified rest (some line.loaded) := by
  obtain ⟨metadata, isMetadata⟩ := Option.isSome_iff_exists.mp searchable
  rw [findRequest, line.stripText_render, line.isEmpty_render, if_neg Bool.false_ne_true,
    loads_text]
  simp only [isMetadata, Line.metadata?, Option.bind_some, ne_eq, ← getOrNull_eqv_iff,
    Bool.not_eq_true', Bool.not_eq_true]

/-- The lines of a log, as the loop takes them. -/
def texts (lines : List Line) : List Text := lines.map fun line => render .compact line.value

theorem splitLines_logText (lines : List Line) :
    splitLines isLineBoundary (logText lines) = texts lines := by
  rw [logText, splitLines_fileText rfl boundary_isLineBoundary, List.map_map]
  rfl

theorem findRequest_absent {lines : List Line} (searchable : ∀ line ∈ lines, line.Searchable)
    (absent : ∀ line ∈ lines, line.metadata? "request_id" ≠ some verified.requestId)
    (found : Option Value) : findRequest verified (texts lines) found = .ok found := by
  induction lines with
  | nil => rfl
  | cons line rest ih =>
      rw [List.forall_mem_cons] at searchable absent
      rw [texts, List.map_cons, findRequest_line searchable.1, if_pos absent.1]
      exact ih searchable.2 absent.2

theorem absent_of_findRequest {lines : List Line}
    (searchable : ∀ line ∈ lines, line.Searchable) {found : Option Value}
    (none_found : findRequest verified (texts lines) found = .ok none) :
    found = none ∧ ∀ line ∈ lines, line.metadata? "request_id" ≠ some verified.requestId := by
  induction lines generalizing found with
  | nil =>
      cases none_found
      exact ⟨rfl, by simp⟩
  | cons line rest ih =>
      rw [List.forall_mem_cons] at searchable ⊢
      rw [texts, List.map_cons, findRequest_line searchable.1] at none_found
      split at none_found
      · next other =>
          obtain ⟨isNone, absent⟩ := ih searchable.2 none_found
          exact ⟨isNone, other, absent⟩
      · split at none_found
        · cases none_found
        · split at none_found
          · cases none_found
          · obtain ⟨isNone, -⟩ := ih searchable.2 none_found
            cases isNone

theorem mem_of_findRequest {lines : List Line} (searchable : ∀ line ∈ lines, line.Searchable)
    {found : Option Value} {record : Value}
    (some_found : findRequest verified (texts lines) found = .ok (some record)) :
    found = some record ∨ ∃ line ∈ lines, record = line.loaded ∧
      line.metadata? "request_id" = some verified.requestId ∧
        line.metadata? "request_hash" = some verified.requestHash := by
  induction lines generalizing found with
  | nil =>
      cases some_found
      exact Or.inl rfl
  | cons line rest ih =>
      rw [List.forall_mem_cons] at searchable
      rw [texts, List.map_cons, findRequest_line searchable.1] at some_found
      split at some_found
      · rcases ih searchable.2 some_found with before | ⟨other, member, rest⟩
        · exact Or.inl before
        · exact Or.inr ⟨other, List.mem_cons_of_mem _ member, rest⟩
      · next sameId =>
          split at some_found
          · cases some_found
          · next sameHash =>
              split at some_found
              · cases some_found
              · rcases ih searchable.2 some_found with before | ⟨other, member, rest⟩
                · cases before
                  exact Or.inr ⟨line, List.mem_cons_self, rfl, not_ne_iff.mp sameId,
                    not_ne_iff.mp sameHash⟩
                · exact Or.inr ⟨other, List.mem_cons_of_mem _ member, rest⟩

def requestIds (lines : List Line) : List Str :=
  lines.filterMap fun line => line.metadata? "request_id"

theorem requestIds_cons_some {line : Line} {requestId : Str}
    (found : line.metadata? "request_id" = some requestId) (rest : List Line) :
    requestIds (line :: rest) = requestId :: requestIds rest :=
  List.filterMap_cons_some found

theorem mem_requestIds {lines : List Line} {requestId : Str} :
    requestId ∈ requestIds lines ↔ ∃ line ∈ lines, line.metadata? "request_id" = some requestId :=
  List.mem_filterMap

theorem findRequest_present {lines : List Line} (searchable : ∀ line ∈ lines, line.Searchable)
    (distinct : (requestIds lines).Nodup) {line : Line}
    (member : line ∈ lines) (sameId : line.metadata? "request_id" = some verified.requestId)
    (sameHash : line.metadata? "request_hash" = some verified.requestHash) :
    findRequest verified (texts lines) none = .ok (some line.loaded) := by
  induction lines with
  | nil => cases member
  | cons first rest ih =>
      rw [List.forall_mem_cons] at searchable
      rw [texts, List.map_cons, findRequest_line searchable.1]
      rcases List.mem_cons.mp member with rfl | later
      · rw [if_neg (not_not_intro sameId), if_neg (not_not_intro sameHash), Option.isSome_none,
          if_neg Bool.false_ne_true]
        refine findRequest_absent searchable.2 ?_ _
        rintro other below same
        rw [requestIds_cons_some sameId, List.nodup_cons] at distinct
        exact distinct.1 (mem_requestIds.mpr ⟨other, below, same⟩)
      · have firstOther : first.metadata? "request_id" ≠ some verified.requestId := by
          intro same
          rw [requestIds_cons_some same, List.nodup_cons] at distinct
          exact distinct.1 (mem_requestIds.mpr ⟨line, later, sameId⟩)
        rw [if_pos firstOther]
        refine ih searchable.2 ?_ later
        exact distinct.sublist (List.Sublist.filterMap _ (List.sublist_cons_self _ _))

end Search

/-! The receipt of a record. -/

section Receipt

/-- The ledger has the record of the request. -/
def IsRecordOf (verified : VerifiedRecordRequest) (line : Line) : Prop :=
  line.metadata? "request_id" = some verified.requestId ∧
    line.metadata? "request_hash" = some verified.requestHash

/-- A response with the receipt of a record, up to the order of its members. -/
structure IsReceipt (line : Line) (requestId : Str) (response : Members) : Prop where
  ok : (Value.dict response).get? "ok" = some (.bool true)
  requestId : (Value.dict response).get? "request_id" = some (.str requestId)
  receipt : ∃ receipt recordHash, canonicalHash line.loaded = some recordHash ∧
    (Value.dict response).get? "receipt" = some receipt ∧
      sortKeys receipt = sortKeys (receiptMember line.loaded recordHash)

theorem IsReceipt.set {line : Line} {requestId : Str} {response : Members} {value : Value}
    (receipt : IsReceipt line requestId response) :
    IsReceipt line requestId (Members.set (Str.lit "status") value response) := by
  have unchanged : ∀ key : String, key ≠ "status" →
      (Value.dict (Members.set (Str.lit "status") value response)).get? key =
        (Value.dict response).get? key := by
    intro key other
    exact Members.lookup_set_other (by simpa using other.symm) _ _
  obtain ⟨ok, requestId, receipt, recordHash, hashed, found, same⟩ := receipt
  refine ⟨?_, ?_, receipt, recordHash, hashed, ?_, same⟩
  · rwa [unchanged _ (by decide)]
  · rwa [unchanged _ (by decide)]
  · rwa [unchanged _ (by decide)]

theorem isJson_getOrNull {value : Value} (json : IsJson value) (key : String) :
    IsJson (getOrNull value key) := by
  rw [getOrNull, Value.getD]
  cases value with
  | dict members =>
      cases found : (Value.dict members).get? key with
      | none => trivial
      | some v => exact isJson_of_get json found
  | null | bool | int | float | str | list => trivial

theorem receiptFromRecord_eq_some {record : Value} {requestId : Str} {now : Int}
    {response : Members} (found : receiptFromRecord record requestId now = some response) :
    ∃ recordHash, canonicalHash record = some recordHash ∧ Value.dict response = Value.object
      [("ok", .bool true), ("receipt", receiptMember record recordHash),
        ("request_id", .str requestId), ("server_ts_ms", .int now),
        ("status", Value.lit "committed"), ("version", Value.lit protocolVersion)] := by
  obtain ⟨recordHash, hashed, rfl⟩ := Option.map_eq_some_iff.mp found
  exact ⟨recordHash, hashed, rfl⟩

theorem isReceipt_of_loaded {line : Line} {requestId : Str} {now : Int} {response : Members}
    (found : receiptFromRecord line.loaded requestId now = some response) :
    IsReceipt line requestId response := by
  obtain ⟨recordHash, hashed, made⟩ := receiptFromRecord_eq_some found
  refine ⟨?_, ?_, receiptMember line.loaded recordHash, recordHash, hashed, ?_, rfl⟩
  · simp [made]
  · simp [made]
  · simp [made]

theorem joinSurrogates_of_canonicalHash {record : Value} {recordHash : Str}
    (hashed : canonicalHash record = some recordHash) :
    Str.joinSurrogates recordHash = recordHash := by
  obtain ⟨bytes, -, rfl⟩ := Option.map_eq_some_iff.mp hashed
  exact Str.joinSurrogates_ofText _

theorem isJson_response {line : Line} {requestId : Str} {now : Int} {response : Members}
    (joined : Str.joinSurrogates requestId = requestId)
    (found : receiptFromRecord line.loaded requestId now = some response) :
    IsJson (.dict response) := by
  obtain ⟨recordHash, hashed, made⟩ := receiptFromRecord_eq_some found
  have json : IsJson line.loaded := isJson_build_reread line.value
  have member : IsJson (receiptMember line.loaded recordHash) := by
    refine isJson_object (by simp) ?_
    simp only [List.forall_mem_cons, List.not_mem_nil, false_implies, implies_true, and_true]
    exact ⟨isJson_getOrNull json _, joinSurrogates_of_canonicalHash hashed,
      isJson_getOrNull json _, isJson_getOrNull json _⟩
  rw [made]
  refine isJson_object (by simp) ?_
  simp only [List.forall_mem_cons, List.not_mem_nil, false_implies, implies_true, and_true]
  exact ⟨trivial, member, joined, trivial, Str.joinSurrogates_lit _, Str.joinSurrogates_lit _⟩

/-- The record in hand and the record in the ledger have the same receipt. -/
theorem receiptFromRecord_value {config : ServiceConfig} {call : Waiting} {written : Written}
    (verified : Verified config call.callerSid call.now call.verified) (requestId : Str)
    (now : Int) : receiptFromRecord (call.line written).value requestId now =
      receiptFromRecord (call.line written).loaded requestId now := by
  have stable : (call.draft written).Stable := stable_draft verified
  have sameHash : canonicalHash (call.line written).value =
      canonicalHash (call.line written).loaded :=
    (canonicalHash_of_stable stable _).trans (canonicalHash_loaded_of_stable stable _).symm
  have sameMember : ∀ recordHash, receiptMember (call.line written).value recordHash =
      receiptMember (call.line written).loaded recordHash := by
    intro recordHash
    have loaded := (call.draft written).build_reread_record written.recorderSig
    simp only [receiptMember, getOrNull, Value.getD, Line.loaded, Line.value, Waiting.line, loaded]
    simp [Draft.record, Draft.fields, reread, build, Value.lit, Waiting.draft, verified.sessionId]
  rw [receiptFromRecord, receiptFromRecord, sameHash]
  exact congrArg (Option.map · _) (funext fun recordHash => by rw [sameMember])

/-- The receipt that comes back out of the database. -/
theorem isReceipt_stored {line : Line} {requestId : Str} {response : Members}
    (json : IsJson (.dict response)) (receipt : IsReceipt line requestId response) :
    ∃ stored, loads (render .compact (sortKeys (.dict response))) = some (.dict stored) ∧
      IsReceipt line requestId stored := by
  refine ⟨_, loads_render_sortKeys rfl json, ?_⟩
  obtain ⟨ok, isRequestId, member, recordHash, hashed, found, same⟩ := receipt
  have jsonMember : IsJson member := isJson_of_get json found
  refine ⟨?_, ?_, sortKeys member, recordHash, hashed, ?_, ?_⟩
  · exact (get?_sortKeys json "ok").trans (by rw [ok]; rfl)
  · exact (get?_sortKeys json "request_id").trans (by rw [isRequestId]; rfl)
  · exact (get?_sortKeys json "receipt").trans (by rw [found]; rfl)
  · rw [sortKeys_sortKeys member jsonMember, same]

end Receipt

end SelfConnect.Provenance
