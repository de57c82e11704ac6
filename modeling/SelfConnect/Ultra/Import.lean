import SelfConnect.Library.System
import SelfConnect.Library.Table
import SelfConnect.Ultra.Export

namespace SelfConnect.Ultra.Independent

open SelfConnect.Js SelfConnect.Library SelfConnect.Library.Table SelfConnect.Ultra.Outbox

/-! The state of an independent target: its tables, what it has been promoted with, and the import
of a bundle into it. -/

instance : IsTrans Text (· ≤ ·) := ⟨fun _ _ _ => List.le_trans⟩
instance : Std.Antisymm (α := Text) (· ≤ ·) := ⟨fun _ _ => List.le_antisymm⟩
instance : Std.Total (α := Text) (· ≤ ·) := ⟨List.le_total⟩

structure Head where
  commandId : Text
  sourceEpoch : Int
  sourceSystemId : Text
  targetSystemId : Text
  manifestDigest : Text
  authorityDigest : Text

structure Reprovision where
  agentId : Text
  canonicalId : Text
  agentPublicKeyHex : Text
  sourceClientId : Text
  sourceSecretDigest : Text
  /-- The status: it is pending until then. -/
  isComplete : Bool
  targetClientId : Option Text
  targetProof : Option Json
  targetProofDigest : Option Text
  activationGrantDigest : Option Text
  receiptDigest : Option Text

structure Target where
  bindings : Table Text Binding
  idempotency : Table Text Entry
  redactions : Table Text Redaction
  nonces : Table Text Int
  maps : Table Text Json
  heads : Table Text Head
  /-- By cluster and pair. -/
  reprovisions : Table Text (Table Text Reprovision)

/-! Bundles. -/

structure BoundPair where
  pairId : Text
  binding : Binding

structure CredentialBinding where
  agentId : Text
  agentPublicKeyHex : Text
  canonicalId : Text
  pairId : Text
  sourceClientId : Text
  sourceSecretDigest : Text

structure Tombstone where
  expiresAt : Text
  nonceHash : Text

structure State where
  credentialBindings : List CredentialBinding
  identityBindings : List BoundPair
  idempotency : List ExportedRow
  nonceTombstones : List Tombstone

structure Manifest where
  authorityDigest : Text
  bpcPromotionDigest : Text
  bpcStreamId : Text
  bpcTargetEpoch : Int
  clusterId : Text
  commandId : Text
  format : Text
  itemCount : Int
  sourceEpoch : Int
  sourceSystemId : Text
  state : State
  stateBytes : Int
  stateDigest : Text
  tskActivationDigest : Text
  tskFinalizedDigest : Text
  tskStreamId : Text
  tskTargetEpoch : Int

structure Bundle where
  manifest : Manifest
  manifestDigest : Text
  protocolEvidence : Json
  sourceKeyId : Text
  sourceSignature : Text
  guardDigest : Text
  guardKeyId : Text
  guardSignature : Text

def strings (members : List (String × Text)) : List (Text × Json) :=
  members.map fun member => (text member.1, .str member.2)

def integers (members : List (String × Int)) : List (Text × Json) :=
  members.map fun member => (text member.1, .num member.2)

def identityMembers (binding : Binding) : List (Text × Json) :=
  strings [("agentId", binding.agentId), ("agentPublicKeyHex", binding.agentPublicKeyHex),
    ("canonicalId", binding.canonicalId)]

def BoundPair.json (bound : BoundPair) : Json :=
  .obj (identityMembers bound.binding ++
    strings [("pairId", bound.pairId), ("tskClientId", bound.binding.tskClientId)])

def CredentialBinding.json (credential : CredentialBinding) : Json :=
  .obj (strings [("agentId", credential.agentId),
    ("agentPublicKeyHex", credential.agentPublicKeyHex), ("canonicalId", credential.canonicalId),
    ("pairId", credential.pairId), ("sourceClientId", credential.sourceClientId),
    ("sourceSecretDigest", credential.sourceSecretDigest)])

def provenanceJson (provenance : Provenance) : Json :=
  .obj (strings [("commandId", provenance.commandId),
    ("guardSignatureDigest", provenance.guardSignatureDigest),
    ("sourceManifestDigest", provenance.sourceManifestDigest),
    ("sourceSignatureDigest", provenance.sourceSignatureDigest),
    ("sourceSystemId", provenance.sourceSystemId)] ++
    integers [("sourceEpoch", provenance.sourceEpoch)])

def recordJson (row : ExportedRow) : Json :=
  .obj (strings [("agentId", row.agentId), ("idempotencyKey", row.idempotencyKey),
    ("operation", row.operation), ("responseDigest", row.responseDigest)] ++
    [(text "redactionProvenance", (row.redactionProvenance.map provenanceJson).getD .null),
      (text "response", row.response),
      (text "secretReprovisionRequired", .bool row.secretReprovisionRequired)])

def Tombstone.json (nonce : Tombstone) : Json :=
  .obj (strings [("expiresAt", nonce.expiresAt), ("nonceHash", nonce.nonceHash)])

def State.json (state : State) : Json :=
  .obj [(text "credentialBindings", .arr (state.credentialBindings.map CredentialBinding.json)),
    (text "identityBindings", .arr (state.identityBindings.map BoundPair.json)),
    (text "idempotency", .arr (state.idempotency.map recordJson)),
    (text "nonceTombstones", .arr (state.nonceTombstones.map Tombstone.json))]

def Manifest.json (manifest : Manifest) : Json :=
  .obj (strings [("authorityDigest", manifest.authorityDigest),
    ("bpcPromotionDigest", manifest.bpcPromotionDigest), ("bpcStreamId", manifest.bpcStreamId),
    ("clusterId", manifest.clusterId), ("commandId", manifest.commandId),
    ("format", manifest.format), ("sourceSystemId", manifest.sourceSystemId),
    ("stateDigest", manifest.stateDigest), ("tskActivationDigest", manifest.tskActivationDigest),
    ("tskFinalizedDigest", manifest.tskFinalizedDigest), ("tskStreamId", manifest.tskStreamId)] ++
    integers [("bpcTargetEpoch", manifest.bpcTargetEpoch), ("itemCount", manifest.itemCount),
      ("sourceEpoch", manifest.sourceEpoch), ("stateBytes", manifest.stateBytes),
      ("tskTargetEpoch", manifest.tskTargetEpoch)] ++ [(text "state", manifest.state.json)])

/-- What the target runs on: its database and the outbox's reading of JSON, how primitives are
written and how long a text is in UTF-8, its system identifier, and the checks of signatures and
protocol evidence under the keys and resolvers that a caller gives. -/
structure Site (codec : Codec) (Keys : Type) where
  database : Database
  outbox : DurableOutbox codec
  stringify : Json → Text
  byteLength : Text → Int
  systemId : Text
  sourceSigned : Keys → (keyId manifestDigest signature : Text) → Bool
  guardSigned : Keys → (keyId guardDigest signature : Text) → Bool
  areDistinct : Keys → Bool
  evidences : Keys → Json → Manifest → Bool

/-- What the caller expects of a bundle. -/
structure Expected where
  bpcPromotionDigest : Text
  clusterId : Text
  commandId : Text
  sourceEpoch : Int
  tskActivationDigest : Text
  tskFinalizedDigest : Text

def isPositive (value : Int) : Bool := 1 ≤ value && isSafeInteger value

/-- `STREAM_IDENTIFIER` -/
def isStreamIdentifier (value : Text) : Bool :=
  matchesRun (fun u => isIdentifierUnit u || u = 0x2F) 1 128 value

def unique (values : List Text) : Bool := decide values.Nodup

def isNull : Json → Bool
  | .null => true
  | _ => false

section Validate

variable {codec : Codec} {Keys : Type} (site : Site codec Keys)

variable (codec) in
def requireAgentIdentity (agentId canonicalId agentPublicKeyHex : Text) : Bool :=
  identityPrincipalsFromPublicKeyHex codec.keySha256 agentPublicKeyHex = some (agentId, canonicalId)

def digestOf (value : Json) : Option Text := exportDigest codec site.stringify value

variable (codec) in
def validBinding (bound : BoundPair) (credential : CredentialBinding) : Bool :=
  let binding := bound.binding
  requireAgentIdentity codec binding.agentId binding.canonicalId binding.agentPublicKeyHex &&
    isIdentifier bound.pairId && isIdentifier binding.tskClientId &&
    requireAgentIdentity codec credential.agentId credential.canonicalId
      credential.agentPublicKeyHex &&
    isIdentifier credential.pairId && isIdentifier credential.sourceClientId &&
    isHex64 credential.sourceSecretDigest &&
    binding.canonicalId = credential.canonicalId &&
    binding.agentPublicKeyHex = credential.agentPublicKeyHex &&
    binding.agentId = credential.agentId && bound.pairId = credential.pairId &&
    binding.tskClientId = credential.sourceClientId

def validProvenance (provenance : Provenance) : Bool :=
  isIdentifier provenance.commandId && isIdentifier provenance.sourceSystemId &&
    isPositive provenance.sourceEpoch && isHex64 provenance.sourceManifestDigest &&
    isHex64 provenance.sourceSignatureDigest && isHex64 provenance.guardSignatureDigest

def validRecord (row : ExportedRow) : Bool :=
  isIdentifier row.agentId && isIdentifier row.idempotencyKey && isIdentifier row.operation &&
    isHex64 row.responseDigest &&
    (if row.secretReprovisionRequired then isNull row.response
      else digestOf site row.response = some row.responseDigest) &&
    row.redactionProvenance.all fun provenance =>
      validProvenance provenance && row.secretReprovisionRequired

def validNonce (nonce : Tombstone) : Bool := isHex64 nonce.nonceHash && isIso nonce.expiresAt

def validateState (state : State) : Bool :=
  unique (state.identityBindings.map (·.pairId)) &&
    unique (state.idempotency.map (·.idempotencyKey)) &&
    unique (state.nonceTombstones.map (·.nonceHash)) &&
    unique (state.credentialBindings.map (·.pairId)) &&
    state.credentialBindings.length = state.identityBindings.length &&
    ((state.identityBindings.zip state.credentialBindings).all fun pair =>
      validBinding codec pair.1 pair.2) &&
    state.idempotency.all (validRecord site) && state.nonceTombstones.all validNonce

def validateManifest (manifest : Manifest) : Bool :=
  let state := manifest.state
  manifest.format = text "selfconnect-ultra-independent-state-v3" &&
    isIdentifier manifest.clusterId && isIdentifier manifest.commandId &&
    isPositive manifest.sourceEpoch && isHex64 manifest.bpcPromotionDigest &&
    isStreamIdentifier manifest.bpcStreamId && isPositive manifest.bpcTargetEpoch &&
    isHex64 manifest.authorityDigest && isHex64 manifest.tskActivationDigest &&
    isStreamIdentifier manifest.tskStreamId && isPositive manifest.tskTargetEpoch &&
    isHex64 manifest.tskFinalizedDigest && isHex64 manifest.stateDigest &&
    validateState site state &&
    manifest.itemCount = (state.identityBindings.length + state.idempotency.length +
      state.nonceTombstones.length + state.credentialBindings.length : Nat) &&
    manifest.stateBytes = site.byteLength (canonicalJson site.stringify state.json) &&
    digestOf site (.obj
      [(text "identityBindings", .arr (state.identityBindings.map BoundPair.json)),
        (text "idempotency", .arr (state.idempotency.map recordJson)),
        (text "tskCredentials", .arr [])]) = some manifest.authorityDigest

def verifyIndependentStateBundle (keys : Keys) (bundle : Bundle) : Bool :=
  let manifest := bundle.manifest
  digestOf site manifest.json = some bundle.manifestDigest && isHex64 bundle.manifestDigest &&
    isIdentifier bundle.sourceKeyId &&
    site.sourceSigned keys bundle.sourceKeyId bundle.manifestDigest bundle.sourceSignature &&
    validateManifest site manifest &&
    digestOf site manifest.state.json = some manifest.stateDigest &&
    isIdentifier bundle.guardKeyId && site.areDistinct keys &&
    site.evidences keys bundle.protocolEvidence manifest &&
    digestOf site (.obj (strings
      [("domain", text "selfconnect-ultra-independent-state-guard-v1"),
        ("manifestDigest", bundle.manifestDigest), ("sourceKeyId", bundle.sourceKeyId),
        ("sourceSignature", bundle.sourceSignature)])) = some bundle.guardDigest &&
    site.guardSigned keys bundle.guardKeyId bundle.guardDigest bundle.guardSignature

end Validate

section Import

variable {codec : Codec} {Keys : Type} (site : Site codec Keys)

/-- `targetIdempotencyRecord`; a row that is processing is not selected. -/
def targetIdempotencyRecord (key : Text) (entry : Entry) (redaction : Option Redaction)
    (response : Json) : Option ExportedRow := do
  let response ← parseJson site.outbox response
  match redaction with
  | some redaction => do
      guard (isRedactionPlaceholder response redaction.originalResponseDigest)
      return ⟨entry.agentId, key, entry.operation, some redaction.provenance, .null,
        redaction.originalResponseDigest, true⟩
  | none => do
      let responseDigest ← digestOf site response
      return ⟨entry.agentId, key, entry.operation, none, response, responseDigest, false⟩

def Target.completeRows (s : Target) : List (Text × Entry × Json) :=
  (rowsOf s.idempotency).filterMap fun row => row.2.response.map fun response =>
    (row.1, row.2, response)

def nullable (value : Option Text) : Json := (value.map Json.str).getD .null

def proofJson (clusterId pairId : Text) (row : Reprovision) : Json :=
  .obj [(text "activationGrantDigest", nullable row.activationGrantDigest),
    (text "clusterId", .str clusterId), (text "pairId", .str pairId),
    (text "targetClientId", nullable row.targetClientId),
    (text "targetProofDigest", nullable row.targetProofDigest)]

def Target.proofs (s : Target) : List Json :=
  (rowsOf s.reprovisions).flatMap fun cluster =>
    ((rowsOf cluster.2).filter fun row => row.2.isComplete).map fun row =>
      proofJson cluster.1 row.1 row.2

def credentialOf (s : Target) (binding : Binding) : Option (Option Json) :=
  match s.maps.lookup binding.tskClientId with
  | none => some none
  | some map => do
      let credentialDigest ← digestOf site map
      return some (.obj (strings [("clientId", binding.tskClientId),
        ("credentialDigest", credentialDigest)]))

def readTargetAuthorityState (s : Target) : Option Json := do
  guard ((rowsOf s.bindings).all fun row =>
    requireAgentIdentity codec row.2.agentId row.2.canonicalId row.2.agentPublicKeyHex)
  let credentials ← (rowsOf s.bindings).mapM fun row => credentialOf site s row.2
  let idempotency ← s.completeRows.mapM fun row =>
    targetIdempotencyRecord site row.1 row.2.1 (s.redactions.lookup row.1) row.2.2
  return .obj [(text "identityBindings",
      .arr ((rowsOf s.bindings).map fun row => (BoundPair.mk row.1 row.2).json)),
    (text "idempotency", .arr (idempotency.map recordJson)),
    (text "tskCredentials", .arr (credentials.filterMap id)),
    (text "tskCredentialProofs", .arr s.proofs)]

def authorityDigest (s : Target) : Option Text :=
  (readTargetAuthorityState site s).bind (digestOf site)

/-- `assertNoActiveUnboundCredentials` -/
def noActiveUnboundCredentials (s : Target) : Bool :=
  (rowsOf s.maps).all fun row =>
    !(row.2.getStr? "status" = some (text "active") ||
      row.2.getStr? "status" = some (text "expiring")) ||
    (rowsOf s.bindings).any fun bound => bound.2.tskClientId = row.1

def noProcessing (s : Target) : Bool :=
  (rowsOf s.idempotency).all fun row => row.2.response.isSome

/-- A call; the clock is read for each tombstone. -/
structure Call (Keys : Type) where
  bundle : Bundle
  keys : Keys
  expected : Expected

structure Imported where
  idempotent : Bool
  manifestDigest : Text
  targetSystemId : Text
  deriving DecidableEq

def isExpected (manifest : Manifest) (expected : Expected) : Bool :=
  manifest.clusterId = expected.clusterId && manifest.commandId = expected.commandId &&
    manifest.sourceEpoch = expected.sourceEpoch &&
    manifest.bpcPromotionDigest = expected.bpcPromotionDigest &&
    manifest.tskActivationDigest = expected.tskActivationDigest &&
    manifest.tskFinalizedDigest = expected.tskFinalizedDigest

def receiptSystemId (evidence : Json) : Option Text :=
  (evidence.get? "tskFinalizedReceipt").bind (·.getStr? "bSystemId")

/-- What is checked of a call before the target's tables are read. -/
def accepts (call : Call Keys) : Bool :=
  let manifest := call.bundle.manifest
  verifyIndependentStateBundle site call.keys call.bundle &&
    isExpected manifest call.expected && validateState site manifest.state &&
    !(site.systemId = manifest.sourceSystemId) &&
    receiptSystemId call.bundle.protocolEvidence = some site.systemId

/-- A tombstone that is imported again keeps the later date. -/
def mergeTombstone (clock : Text → Int) (nonces : Table Text Int) (nonce : Tombstone) :
    Option (Table Text Int) := do
  let expiry ← site.database.timestamptz nonce.expiresAt
  if clock nonce.nonceHash < expiry then
    return nonces.insert nonce.nonceHash
      (((nonces.lookup nonce.nonceHash).map (max · expiry)).getD expiry)
  else return nonces

def insertTombstone (clock : Text → Int) (nonces : Table Text Int) (nonce : Tombstone) :
    Option (Table Text Int) := do
  let expiry ← site.database.timestamptz nonce.expiresAt
  if clock nonce.nonceHash < expiry then insertRow nonces nonce.nonceHash expiry
  else return nonces

def importAgain (call : Call Keys) (clock : Text → Int) (s : Target) (head : Head) :
    Option Target := do
  let manifest := call.bundle.manifest
  guard (head.manifestDigest = call.bundle.manifestDigest ∧ head.commandId = manifest.commandId)
  guard (head.targetSystemId = site.systemId ∧ head.sourceSystemId = manifest.sourceSystemId)
  guard (authorityDigest site s = some head.authorityDigest)
  guard (noActiveUnboundCredentials s)
  let nonces ← manifest.state.nonceTombstones.foldlM (mergeTombstone site clock) s.nonces
  return { s with nonces := nonces }

variable (codec) in
def redactionOf (bundle : Bundle) (row : ExportedRow) : Redaction where
  originalResponseDigest := row.responseDigest
  provenance := {
    commandId := bundle.manifest.commandId
    guardSignatureDigest := codec.sha256 bundle.guardSignature
    sourceEpoch := bundle.manifest.sourceEpoch
    sourceManifestDigest := bundle.manifestDigest
    sourceSignatureDigest := codec.sha256 bundle.sourceSignature
    sourceSystemId := bundle.manifest.sourceSystemId }

/-- The rows of a record: its response, or a placeholder with where it comes from. -/
def insertRecord (bundle : Bundle) (tables : Table Text Entry × Table Text Redaction)
    (row : ExportedRow) : Option (Table Text Entry × Table Text Redaction) := do
  let response := if row.secretReprovisionRequired then placeholder (.str row.responseDigest)
    else row.response
  guard (if row.secretReprovisionRequired then isNull row.response && isHex64 row.responseDigest
    else digestOf site response = some row.responseDigest)
  let key ← site.database.uuid (.str row.idempotencyKey)
  guard (site.database.jsonb response)
  let entries ← insertRow tables.1 key ⟨row.operation, row.agentId, some response⟩
  if row.secretReprovisionRequired then do
    let redactions ← insertRow tables.2 key (redactionOf codec bundle row)
    return (entries, redactions)
  else return (entries, tables.2)

def pendingReprovision (credential : CredentialBinding) : Reprovision :=
  ⟨credential.agentId, credential.canonicalId, credential.agentPublicKeyHex,
    credential.sourceClientId, credential.sourceSecretDigest, false, none, none, none, none, none⟩

/-- A cluster names a source client once. -/
def pendingReprovisions (credentials : List CredentialBinding) :
    Option (Table Text Reprovision) := do
  guard (unique (credentials.map (·.sourceClientId)))
  credentials.foldlM (fun rows credential =>
    insertRow rows credential.pairId (pendingReprovision credential)) ∅

/-- Everything the target has is replaced. -/
def replaceState (call : Call Keys) (clock : Text → Int) (s : Target) : Option Target := do
  let manifest := call.bundle.manifest
  let state := manifest.state
  guard (noProcessing s)
  let bindings ← state.identityBindings.foldlM (fun rows bound =>
    insertRow rows bound.pairId bound.binding) ∅
  let tables ← state.idempotency.foldlM (insertRecord site call.bundle) (∅, ∅)
  let nonces ← state.nonceTombstones.foldlM (insertTombstone site clock) ∅
  let pending ← pendingReprovisions state.credentialBindings
  let replaced : Target :=
    { s with
      bindings := bindings
      idempotency := tables.1
      redactions := tables.2
      nonces := nonces
      maps := ∅
      reprovisions := s.reprovisions.insert manifest.clusterId pending }
  let imported ← authorityDigest site replaced
  return { replaced with
    heads := s.heads.insert manifest.clusterId ⟨manifest.commandId, manifest.sourceEpoch,
      manifest.sourceSystemId, site.systemId, call.bundle.manifestDigest, imported⟩ }

def importIndependentState (call : Call Keys) (clock : Text → Int) (s : Target) :
    Option (Imported × Target) := do
  guard (accepts site call)
  let manifest := call.bundle.manifest
  match s.heads.lookup manifest.clusterId with
  | none => do
      let t ← replaceState site call clock s
      return (⟨false, call.bundle.manifestDigest, site.systemId⟩, t)
  | some head =>
      if manifest.sourceEpoch < head.sourceEpoch then none
      else if head.sourceEpoch = manifest.sourceEpoch then do
        let t ← importAgain site call clock s head
        return (⟨true, call.bundle.manifestDigest, site.systemId⟩, t)
      else do
        let t ← replaceState site call clock s
        return (⟨false, call.bundle.manifestDigest, site.systemId⟩, t)

end Import

/-! Runs of imports. -/

/-- What has been imported for a cluster. -/
structure Record where
  clusterId : Text
  commandId : Text
  sourceEpoch : Int
  manifestDigest : Text

structure Store where
  target : Target
  imported : List Record

/-- A call, and whether its transaction commits. -/
structure Event (Keys : Type) where
  call : Call Keys
  clock : Text → Int
  commits : Bool

section Runs

variable {codec : Codec} {Keys : Type} (site : Site codec Keys)

def recordOf (bundle : Bundle) : Record :=
  ⟨bundle.manifest.clusterId, bundle.manifest.commandId, bundle.manifest.sourceEpoch,
    bundle.manifestDigest⟩

/-- An import that throws is rolled back. -/
def Store.step (s : Store) (event : Event Keys) : Store :=
  if event.commits = true then
    match importIndependentState site event.call event.clock s.target with
    | some (_, t) => ⟨t, recordOf event.call.bundle :: s.imported⟩
    | none => s
  else s

def imports : System Store (Event Keys) where
  initial s := s.target.heads = ∅ ∧ s.imported = []
  next s event t := t = s.step site event

variable {site} {call : Call Keys} {clock : Text → Int} {s t : Target} {result : Imported}

/-- An import is one again, of the bundle of the head, or one of a later epoch than the head's. -/
theorem import_cases (done : importIndependentState site call clock s = some (result, t)) :
    accepts site call = true ∧
      ((∃ head, s.heads.lookup call.bundle.manifest.clusterId = some head ∧
          head.sourceEpoch = call.bundle.manifest.sourceEpoch ∧
          importAgain site call clock s head = some t) ∨
        (∀ head, s.heads.lookup call.bundle.manifest.clusterId = some head →
          head.sourceEpoch < call.bundle.manifest.sourceEpoch) ∧
        replaceState site call clock s = some t) := by
  obtain ⟨_, isAccepted, done⟩ := Option.bind_eq_some_iff.mp done
  refine ⟨of_guard isAccepted, ?_⟩
  dsimp only at done
  split at done
  · next absent =>
      obtain ⟨_, isReplaced, done⟩ := Option.bind_eq_some_iff.mp done
      cases done
      refine .inr ⟨fun head isHead => ?_, isReplaced⟩
      cases absent.symm.trans isHead
  · next head isHead =>
      split at done
      · cases done
      · next notBelow =>
          split at done
          · next same =>
              obtain ⟨_, isAgain, done⟩ := Option.bind_eq_some_iff.mp done
              cases done
              exact .inl ⟨head, isHead, same, isAgain⟩
          · next differs =>
              obtain ⟨_, isReplaced, done⟩ := Option.bind_eq_some_iff.mp done
              cases done
              refine .inr ⟨fun other isOther => ?_, isReplaced⟩
              cases isHead.symm.trans isOther
              exact lt_of_le_of_ne (not_lt.mp notBelow) differs

/-- What is checked of the head of a bundle that is imported again. -/
structure Matches (site : Site codec Keys) (call : Call Keys) (s : Target) (head : Head) :
    Prop where
  manifestDigest : head.manifestDigest = call.bundle.manifestDigest
  commandId : head.commandId = call.bundle.manifest.commandId
  targetSystemId : head.targetSystemId = site.systemId
  sourceSystemId : head.sourceSystemId = call.bundle.manifest.sourceSystemId
  authority : authorityDigest site s = some head.authorityDigest
  credentials : noActiveUnboundCredentials s = true

theorem guard_bind_eq_some {α : Type} {condition : Prop} [Decidable condition] {rest : Option α}
    {found : α} : ((guard condition : Option Unit) >>= fun _ => rest) = some found ↔
      condition ∧ rest = some found := by
  by_cases holds : condition
  · simp [holds]
  · simp [holds]

theorem importAgain_eq_some {head : Head} : importAgain site call clock s head = some t ↔
    Matches site call s head ∧
      ∃ nonces, call.bundle.manifest.state.nonceTombstones.foldlM (mergeTombstone site clock)
        s.nonces = some nonces ∧ t = { s with nonces := nonces } := by
  unfold importAgain
  simp only [guard_bind_eq_some]
  constructor
  · rintro ⟨⟨sameDigest, sameCommand⟩, ⟨sameTarget, sameSource⟩, authority, credentials, merged⟩
    obtain ⟨nonces, isMerged, isTarget⟩ := Option.bind_eq_some_iff.mp merged
    exact ⟨⟨sameDigest, sameCommand, sameTarget, sameSource, authority, credentials⟩, nonces,
      isMerged, (Option.some.inj isTarget).symm⟩
  · rintro ⟨found, nonces, isMerged, rfl⟩
    exact ⟨⟨found.manifestDigest, found.commandId⟩, ⟨found.targetSystemId, found.sourceSystemId⟩,
      found.authority, found.credentials, Option.bind_eq_some_iff.mpr ⟨nonces, isMerged, rfl⟩⟩

/-- Every tombstone has a date that PostgreSQL reads. -/
def Dated (site : Site codec Keys) (nonces : List Tombstone) : Prop :=
  ∀ nonce ∈ nonces, (site.database.timestamptz nonce.expiresAt).isSome = true

theorem dated_of_insert {nonces : List Tombstone} {before after : Table Text Int}
    (inserted : nonces.foldlM (insertTombstone site clock) before = some after) :
    Dated site nonces := by
  induction nonces generalizing before with
  | nil => exact fun nonce member => absurd member List.not_mem_nil
  | cons nonce rest ih =>
      rw [List.foldlM_cons] at inserted
      obtain ⟨table, isTable, inserted⟩ := Option.bind_eq_some_iff.mp inserted
      obtain ⟨expiry, isExpiry, -⟩ := Option.bind_eq_some_iff.mp isTable
      refine List.forall_mem_cons.mpr ⟨?_, ih inserted⟩
      rw [isExpiry]
      rfl

theorem dated_of_merge {nonces : List Tombstone} {before after : Table Text Int}
    (merged : nonces.foldlM (mergeTombstone site clock) before = some after) :
    Dated site nonces := by
  induction nonces generalizing before with
  | nil => exact fun nonce member => absurd member List.not_mem_nil
  | cons nonce rest ih =>
      rw [List.foldlM_cons] at merged
      obtain ⟨table, isTable, merged⟩ := Option.bind_eq_some_iff.mp merged
      obtain ⟨expiry, isExpiry, -⟩ := Option.bind_eq_some_iff.mp isTable
      refine List.forall_mem_cons.mpr ⟨?_, ih merged⟩
      rw [isExpiry]
      rfl

theorem merge_of_dated (clock : Text → Int) {nonces : List Tombstone} (dated : Dated site nonces)
    (before : Table Text Int) :
    ∃ after, nonces.foldlM (mergeTombstone site clock) before = some after := by
  induction nonces generalizing before with
  | nil => exact ⟨before, rfl⟩
  | cons nonce rest ih =>
      obtain ⟨isDated, restDated⟩ := List.forall_mem_cons.mp dated
      obtain ⟨expiry, isExpiry⟩ := Option.isSome_iff_exists.mp isDated
      have merges : ∃ table, mergeTombstone site clock before nonce = some table := by
        unfold mergeTombstone
        rw [isExpiry, Option.bind_eq_bind, Option.bind_some]
        split
        · exact ⟨_, rfl⟩
        · exact ⟨_, rfl⟩
      obtain ⟨table, isTable⟩ := merges
      obtain ⟨after, isAfter⟩ := ih restDated table
      refine ⟨after, ?_⟩
      rw [List.foldlM_cons, isTable]
      exact isAfter

/-- What a target has after everything is replaced. -/
theorem replaced_of_replaceState (replaced : replaceState site call clock s = some t) :
    ∃ imported, t.heads = s.heads.insert call.bundle.manifest.clusterId
        ⟨call.bundle.manifest.commandId, call.bundle.manifest.sourceEpoch,
          call.bundle.manifest.sourceSystemId, site.systemId, call.bundle.manifestDigest,
          imported⟩ ∧
      authorityDigest site t = some imported ∧ t.maps = ∅ ∧
      call.bundle.manifest.state.nonceTombstones.foldlM (insertTombstone site clock) ∅ =
        some t.nonces := by
  obtain ⟨-, replaced⟩ := guard_bind_eq_some.mp replaced
  obtain ⟨bindings, -, replaced⟩ := Option.bind_eq_some_iff.mp replaced
  obtain ⟨tables, -, replaced⟩ := Option.bind_eq_some_iff.mp replaced
  obtain ⟨nonces, isNonces, replaced⟩ := Option.bind_eq_some_iff.mp replaced
  obtain ⟨pending, -, replaced⟩ := Option.bind_eq_some_iff.mp replaced
  obtain ⟨imported, isImported, replaced⟩ := Option.bind_eq_some_iff.mp replaced
  cases replaced
  exact ⟨imported, rfl, isImported, rfl, isNonces⟩

theorem accepted_of_import (done : importIndependentState site call clock s = some (result, t)) :
    Dated site call.bundle.manifest.state.nonceTombstones ∧
      ∃ head, t.heads.lookup call.bundle.manifest.clusterId = some head ∧
        head.sourceEpoch = call.bundle.manifest.sourceEpoch ∧ Matches site call t head := by
  obtain ⟨-, ⟨head, isHead, sameEpoch, isAgain⟩ | ⟨-, isReplaced⟩⟩ := import_cases done
  · obtain ⟨found, nonces, isMerged, rfl⟩ := importAgain_eq_some.mp isAgain
    exact ⟨dated_of_merge isMerged, head, isHead, sameEpoch, found.manifestDigest, found.commandId,
      found.targetSystemId, found.sourceSystemId, found.authority, found.credentials⟩
  · obtain ⟨imported, isHeads, authority, noMaps, isNonces⟩ := replaced_of_replaceState isReplaced
    have isHead := congrArg (Finmap.lookup call.bundle.manifest.clusterId) isHeads
    rw [Finmap.lookup_insert] at isHead
    have credentials : noActiveUnboundCredentials t = true := by
      unfold noActiveUnboundCredentials
      rw [noMaps, rowsOf_empty]
      rfl
    exact ⟨dated_of_insert isNonces, _, isHead, rfl, rfl, rfl, rfl, rfl, authority, credentials⟩

/-- The bundle of the head can be imported again, which only touches tombstones. -/
theorem import_again (done : importIndependentState site call clock s = some (result, t))
    (again : Text → Int) : ∃ nonces, importIndependentState site call again t =
      some (⟨true, call.bundle.manifestDigest, site.systemId⟩, { t with nonces := nonces }) := by
  obtain ⟨dated, head, isHead, sameEpoch, found⟩ := accepted_of_import done
  obtain ⟨nonces, isMerged⟩ := merge_of_dated again dated t.nonces
  refine ⟨nonces, ?_⟩
  have isAgain := importAgain_eq_some.mpr ⟨found, nonces, isMerged, rfl⟩
  unfold importIndependentState
  dsimp only
  rw [isHead]
  refine guard_bind_eq_some.mpr ⟨(import_cases done).1, ?_⟩
  dsimp only
  rw [if_neg (not_lt.mpr sameEpoch.le), if_pos sameEpoch, isAgain]
  rfl

/-- The epochs of the clusters are later or the same. -/
def EpochsRise (s t : Target) : Prop :=
  ∀ clusterId head, s.heads.lookup clusterId = some head →
    ∃ later, t.heads.lookup clusterId = some later ∧ head.sourceEpoch ≤ later.sourceEpoch

theorem EpochsRise.refl (s : Target) : EpochsRise s s :=
  fun _ head isHead => ⟨head, isHead, le_rfl⟩

theorem EpochsRise.trans {s t u : Target} (front : EpochsRise s t) (back : EpochsRise t u) :
    EpochsRise s u := by
  intro clusterId head isHead
  obtain ⟨later, isLater, le⟩ := front clusterId head isHead
  obtain ⟨last, isLast, le'⟩ := back clusterId later isLater
  exact ⟨last, isLast, le.trans le'⟩

theorem epochsRise_import (done : importIndependentState site call clock s = some (result, t)) :
    EpochsRise s t := by
  obtain ⟨-, ⟨head, isHead, sameEpoch, isAgain⟩ | ⟨below, isReplaced⟩⟩ := import_cases done
  · obtain ⟨-, nonces, -, rfl⟩ := importAgain_eq_some.mp isAgain
    exact .refl s
  · obtain ⟨imported, isHeads, -⟩ := replaced_of_replaceState isReplaced
    intro clusterId head isHead
    rw [isHeads]
    by_cases same : clusterId = call.bundle.manifest.clusterId
    · rw [same] at isHead ⊢
      rw [Finmap.lookup_insert]
      exact ⟨_, rfl, (below head isHead).le⟩
    · rw [Finmap.lookup_insert_of_ne _ same]
      exact ⟨head, isHead, le_rfl⟩

/-- A record is of an epoch of its cluster that is past, or of the head. -/
def Behind (s : Target) (record : Record) : Prop :=
  ∃ head, s.heads.lookup record.clusterId = some head ∧
    (record.sourceEpoch < head.sourceEpoch ∨ record.sourceEpoch = head.sourceEpoch ∧
      record.manifestDigest = head.manifestDigest ∧ record.commandId = head.commandId)

/-- Two records do not fork an epoch of a cluster. -/
def Consistent (first second : Record) : Prop :=
  first.clusterId = second.clusterId → first.sourceEpoch = second.sourceEpoch →
    first.manifestDigest = second.manifestDigest ∧ first.commandId = second.commandId

structure Sound (s : Store) : Prop where
  behind : ∀ record ∈ s.imported, Behind s.target record
  consistent : ∀ first ∈ s.imported, ∀ second ∈ s.imported, Consistent first second

theorem behind_import (done : importIndependentState site call clock s = some (result, t))
    {record : Record} (behind : Behind s record) :
    Behind t record ∧ Consistent record (recordOf call.bundle) := by
  obtain ⟨head, isHead, place⟩ := behind
  obtain ⟨-, ⟨own, isOwn, sameEpoch, isAgain⟩ | ⟨below, isReplaced⟩⟩ := import_cases done
  · obtain ⟨found, nonces, -, rfl⟩ := importAgain_eq_some.mp isAgain
    refine ⟨⟨head, isHead, place⟩, fun sameCluster sameRecord => ?_⟩
    rw [show record.clusterId = call.bundle.manifest.clusterId from sameCluster] at isHead
    cases isHead.symm.trans isOwn
    rcases place with past | ⟨-, sameDigest, sameCommand⟩
    · exact absurd past (not_lt.mpr (sameEpoch.trans sameRecord.symm).le)
    · exact ⟨sameDigest.trans found.manifestDigest, sameCommand.trans found.commandId⟩
  · obtain ⟨imported, isHeads, -⟩ := replaced_of_replaceState isReplaced
    by_cases same : record.clusterId = call.bundle.manifest.clusterId
    · have later : record.sourceEpoch < call.bundle.manifest.sourceEpoch := by
        rw [same] at isHead
        have bound := below head isHead
        rcases place with past | ⟨isEpoch, -⟩
        · exact past.trans bound
        · exact isEpoch.trans_lt bound
      have own := congrArg (Finmap.lookup record.clusterId) isHeads
      rw [same, Finmap.lookup_insert, ← same] at own
      exact ⟨⟨_, own, .inl later⟩, fun _ sameRecord => absurd sameRecord later.ne⟩
    · refine ⟨⟨head, ?_, place⟩, fun sameCluster => absurd sameCluster same⟩
      rw [isHeads, Finmap.lookup_insert_of_ne _ same]
      exact isHead

theorem behind_recordOf (done : importIndependentState site call clock s = some (result, t)) :
    Behind t (recordOf call.bundle) := by
  obtain ⟨-, head, isHead, sameEpoch, found⟩ := accepted_of_import done
  exact ⟨head, isHead, .inr ⟨sameEpoch.symm, found.manifestDigest.symm, found.commandId.symm⟩⟩

theorem sound_step {s : Store} (sound : Sound s) (event : Event Keys) :
    Sound (s.step site event) ∧ EpochsRise s.target (s.step site event).target := by
  unfold Store.step
  split
  · split
    · next result t done =>
        refine ⟨⟨fun record member => ?_, fun first isFirst second isSecond => ?_⟩,
          epochsRise_import done⟩
        · rcases List.mem_cons.mp member with rfl | earlier
          · exact behind_recordOf done
          · exact (behind_import done (sound.behind record earlier)).1
        · rcases List.mem_cons.mp isFirst with rfl | earlier
          · rcases List.mem_cons.mp isSecond with rfl | earlier'
            · exact fun _ _ => ⟨rfl, rfl⟩
            · intro sameCluster sameEpoch
              obtain ⟨sameDigest, sameCommand⟩ := (behind_import done
                (sound.behind second earlier')).2 sameCluster.symm sameEpoch.symm
              exact ⟨sameDigest.symm, sameCommand.symm⟩
          · rcases List.mem_cons.mp isSecond with rfl | earlier'
            · exact (behind_import done (sound.behind first earlier)).2
            · exact sound.consistent first earlier second earlier'
    · exact ⟨sound, .refl _⟩
  · exact ⟨sound, .refl _⟩

variable {events : List (Event Keys)} {store : Store}

theorem sound_of_run (run : (imports site).Run events store) : Sound store := by
  induction run with
  | start first =>
      obtain ⟨-, isNone⟩ := first
      refine ⟨fun record member => ?_, fun first member => ?_⟩
      · rw [isNone] at member
        cases member
      · rw [isNone] at member
        cases member
  | step _ next ih =>
      rw [show _ = _ from next]
      exact (sound_step ih _).1

end Runs

/-- Every signature is taken. -/
def sampleSite : Site sampleCodec Unit where
  database := sampleDatabase
  outbox := sampleOutbox
  stringify _ := []
  byteLength _ := 0
  systemId := text "target"
  sourceSigned _ _ _ _ := true
  guardSigned _ _ _ _ := true
  areDistinct _ := true
  evidences _ _ _ := true

def sampleDigest : Text := sampleCodec.sha256 []

/-- A bundle of an epoch, with these tombstones. -/
def sampleBundle (sourceEpoch : Int) (nonceTombstones : List Tombstone) : Bundle where
  manifest := {
    authorityDigest := sampleDigest
    bpcPromotionDigest := sampleDigest
    bpcStreamId := text "bpc"
    bpcTargetEpoch := 1
    clusterId := text "cluster"
    commandId := text "command"
    format := text "selfconnect-ultra-independent-state-v3"
    itemCount := nonceTombstones.length
    sourceEpoch := sourceEpoch
    sourceSystemId := text "source"
    state := ⟨[], [], [], nonceTombstones⟩
    stateBytes := 0
    stateDigest := sampleDigest
    tskActivationDigest := sampleDigest
    tskFinalizedDigest := sampleDigest
    tskStreamId := text "tsk"
    tskTargetEpoch := 1 }
  manifestDigest := sampleDigest
  protocolEvidence :=
    .obj [(text "tskFinalizedReceipt", .obj (strings [("bSystemId", text "target")]))]
  sourceKeyId := text "source-key"
  sourceSignature := []
  guardDigest := sampleDigest
  guardKeyId := text "guard-key"
  guardSignature := []

def sampleCall (sourceEpoch : Int) (nonceTombstones : List Tombstone) : Call Unit where
  bundle := sampleBundle sourceEpoch nonceTombstones
  keys := ()
  expected :=
    ⟨sampleDigest, text "cluster", text "command", sourceEpoch, sampleDigest, sampleDigest⟩

def emptyTarget : Target := ⟨∅, ∅, ∅, ∅, ∅, ∅, ∅⟩

def importFirst : Event Unit := ⟨sampleCall 1 [], fun _ => 0, true⟩

theorem imported_importFirst :
    (importIndependentState sampleSite importFirst.call importFirst.clock emptyTarget).isSome =
      true :=
  by decide +kernel

end SelfConnect.Ultra.Independent
