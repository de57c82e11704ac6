import SelfConnect.Ultra.Replica

namespace SelfConnect.Ultra.Outbox

open SelfConnect.Js

/-! The export of the idempotency rows, at the source and at a replica. -/

mutual

/-- What `canonicalJson` of the export takes: its numbers are safe integers. -/
def hasSafeNumbers : Json → Bool
  | .num value => (safeInteger? value).isSome
  | .arr items => itemsHaveSafeNumbers items
  | .obj members => membersHaveSafeNumbers members
  | _ => true

def itemsHaveSafeNumbers : List Json → Bool
  | [] => true
  | item :: rest => hasSafeNumbers item && itemsHaveSafeNumbers rest

def membersHaveSafeNumbers : List (Text × Json) → Bool
  | [] => true
  | (_, value) :: rest => hasSafeNumbers value && membersHaveSafeNumbers rest

end

structure Provenance where
  commandId : Text
  guardSignatureDigest : Text
  sourceEpoch : Int
  sourceManifestDigest : Text
  sourceSignatureDigest : Text
  sourceSystemId : Text

/-- A row of `ultra_idempotency_redaction`, which only an import writes. -/
structure Redaction where
  originalResponseDigest : Text
  provenance : Provenance

structure ExportedRow where
  agentId : Text
  idempotencyKey : Text
  operation : Text
  redactionProvenance : Option Provenance
  response : Json
  responseDigest : Text
  secretReprovisionRequired : Bool

section Export

variable {codec : Codec} (outbox : DurableOutbox codec) (stringify : Json → Text)

variable (codec) in
def exportDigest (value : Json) : Option Text :=
  if hasSafeNumbers value then some (codec.sha256 (canonicalJson stringify value)) else none

def isRedactionPlaceholder (response : Json) (responseDigest : Text) : Bool :=
  exactKeys response ["error", "ok", "originalResponseDigest"] &&
    (response.get? "ok").bind Json.bool? = some false &&
    response.getStr? "error" = some (text "SECRET_REPROVISION_REQUIRED") &&
    response.getStr? "originalResponseDigest" = some responseDigest

/-- What `snapshotFromRows` makes of a completed row and its redaction. -/
def exportRow (key : Text) (entry : Entry) (redaction : Option Redaction) : Option ExportedRow := do
  let response ← entry.response.bind (parseJson outbox)
  match redaction with
  | some redaction => do
      guard (isRedactionPlaceholder response redaction.originalResponseDigest)
      return ⟨entry.agentId, key, entry.operation, some redaction.provenance, .null,
        redaction.originalResponseDigest, true⟩
  | none => do
      let responseDigest ← exportDigest codec stringify response
      let sensitive := containsSecret response
      return ⟨entry.agentId, key, entry.operation, none, if sensitive then .null else response,
        responseDigest, sensitive⟩

/-- The row of a replica is exported as requiring provisioning, with the digest that the source
exports. Neither of them has a redaction, since the applier writes none. -/
def Survives (key : Text) (own copy : Entry) : Prop :=
  ∀ exported, exportRow outbox stringify key copy none = some exported →
    exported.secretReprovisionRequired = true ∧
      ∀ direct, exportRow outbox stringify key own none = some direct →
        exported.responseDigest = direct.responseDigest

variable {outbox stringify} {database : Database}

theorem containsSecret_placeholder (responseDigest : Text) :
    containsSecret (placeholder (.str responseDigest)) = false := by
  change (isSecretField (text "ok") || false ||
    (isSecretField (text "error") || false ||
      (isSecretField (text "originalResponseDigest") || false || false))) = false
  decide

theorem exportDigest_placeholder (responseDigest : Text) :
    exportDigest codec stringify (placeholder (.str responseDigest)) =
      some (codec.sha256 (canonicalJson stringify (placeholder (.str responseDigest)))) :=
  if_pos rfl

/-- A placeholder is exported as any other response. -/
theorem exportRow_placeholder {key operation agentId responseDigest : Text} :
    exportRow outbox stringify key
        ⟨operation, agentId, some (placeholder (.str responseDigest))⟩ none =
      some ⟨agentId, key, operation, none, placeholder (.str responseDigest),
        codec.sha256 (canonicalJson stringify (placeholder (.str responseDigest))), false⟩ := by
  change ((exportDigest codec stringify (placeholder (.str responseDigest))).bind fun exported =>
    some (ExportedRow.mk agentId key operation none
      (if containsSecret (placeholder (.str responseDigest)) then .null
        else placeholder (.str responseDigest)) exported
      (containsSecret (placeholder (.str responseDigest))))) = _
  rw [exportDigest_placeholder, containsSecret_placeholder]
  rfl

theorem not_survives_placeholder {key operation agentId responseDigest : Text} {own : Entry} :
    ¬ Survives outbox stringify key own
      ⟨operation, agentId, some (placeholder (.str responseDigest))⟩ := by
  intro survives
  obtain ⟨flagged, -⟩ := survives _ exportRow_placeholder
  cases flagged

theorem not_survives_of_agrees {source replica : Tables} (agrees : Agrees codec source replica)
    {key : Text} {own : Entry} (completed : source.entries key = some own) {response : Json}
    (isResponse : own.response = some response) (secret : containsSecret response = true) :
    ∃ copy, replica.entries key = some copy ∧ ¬ Survives outbox stringify key own copy := by
  have isCopy := (agrees.entries key).trans (congrArg (Option.map _) completed)
  rw [Option.map_some, isResponse, Option.map_some, replicated, if_pos secret] at isCopy
  exact ⟨_, isCopy, not_survives_placeholder⟩

/-- No replica exports a response with a secret as the source does. -/
theorem not_survives_of_run (calls : List (Op × Choice)) {replica : Tables}
    (applied : (run database outbox calls).appended.foldlM (applyInTx codec database) .empty =
      some replica) {key : Text} {own : Entry}
    (completed : (run database outbox calls).tables.entries key = some own) {response : Json}
    (isResponse : own.response = some response) (secret : containsSecret response = true) :
    ∃ copy, replica.entries key = some copy ∧ ¬ Survives outbox stringify key own copy := by
  obtain ⟨other, applied', agrees⟩ : Converged codec database (run database outbox calls) :=
    converged_foldl converged_empty calls
  cases applied.symm.trans applied'
  exact not_survives_of_agrees agrees completed isResponse secret

end Export

/-- Dates are not read, and every document is taken. -/
def sampleDatabase : Database where
  uuid value := value.str?.map (·.map lowerUnit)
  timestamptz _ := some 0
  jsonb _ := true
  uuid_str _ _ := rfl
  jsonb_placeholder _ _ := rfl

def sampleOutbox : DurableOutbox sampleCodec where
  append raw := ((sanitizeMutation sampleCodec raw).map Mutation.json).filter
    (assertSanitized sampleCodec)
  parse _ := none
  sanitized raw record appended := by
    obtain ⟨isRecord, accepted⟩ := Option.filter_eq_some_iff.mp appended
    obtain ⟨clean, sanitized, rfl⟩ := Option.map_eq_some_iff.mp isRecord
    exact ⟨accepted, clean, sanitized, rfl⟩

/-- A key is claimed, and completed with a secret. -/
def sampleCalls : List (Op × Choice) :=
  [(.claim (.str completionKey) (.str (text "provision-tsk")) (.str (text "agent")),
      ⟨false, 0, []⟩),
    (.complete (.str completionKey) secretResponse, ⟨false, 0, []⟩)]

theorem completed_sampleCalls : ∃ own response,
    (run sampleDatabase sampleOutbox sampleCalls).tables.entries completionKey = some own ∧
      own.response = some response ∧ containsSecret response = true := by
  have completed : ((run sampleDatabase sampleOutbox sampleCalls).tables.entries completionKey).any
      (fun own => own.response.any containsSecret) = true := by decide +kernel
  obtain ⟨own, isOwn, answered⟩ := (Option.any_eq_true ..).mp completed
  obtain ⟨response, isResponse, secret⟩ := (Option.any_eq_true ..).mp answered
  exact ⟨own, response, isOwn, isResponse, secret⟩

theorem converged_sampleCalls :
    Converged sampleCodec sampleDatabase (run sampleDatabase sampleOutbox sampleCalls) :=
  converged_foldl converged_empty sampleCalls

/-- The replica exports the completion as one without a secret. -/
theorem not_forall_survives_sampleCalls : ¬ ∀ (replica : Tables) (own copy : Entry),
    (run sampleDatabase sampleOutbox sampleCalls).appended.foldlM
        (applyInTx sampleCodec sampleDatabase) .empty = some replica →
      (run sampleDatabase sampleOutbox sampleCalls).tables.entries completionKey = some own →
      own.response.any containsSecret = true → replica.entries completionKey = some copy →
      Survives sampleOutbox Json.render completionKey own copy := by
  intro survives
  obtain ⟨own, response, completed, isResponse, secret⟩ := completed_sampleCalls
  obtain ⟨replica, applied, agrees⟩ := converged_sampleCalls
  obtain ⟨copy, isCopy, lost⟩ := not_survives_of_agrees agrees completed isResponse secret
  exact lost (survives replica own copy applied completed
    ((Option.any_eq_true ..).mpr ⟨response, isResponse, secret⟩) isCopy)

theorem not_survives_of_run_sampleCalls : ∃ (replica : Tables) (own copy : Entry),
    (run sampleDatabase sampleOutbox sampleCalls).tables.entries completionKey = some own ∧
      replica.entries completionKey = some copy ∧
      ¬ Survives sampleOutbox Json.render completionKey own copy := by
  obtain ⟨own, response, completed, isResponse, secret⟩ := completed_sampleCalls
  obtain ⟨replica, applied, -⟩ := converged_sampleCalls
  obtain ⟨copy, isCopy, lost⟩ :=
    not_survives_of_run sampleCalls applied completed isResponse secret
  exact ⟨replica, own, copy, completed, isCopy, lost⟩

end SelfConnect.Ultra.Outbox
