import SelfConnect.Identity
import SelfConnect.Python.Codec
import SelfConnect.Revocation.Registry

namespace SelfConnect.Delegation

open SelfConnect.Python SelfConnect.Revocation

/-! Grants that an authority signs, proofs that an agent signs, and receipts that the
executing runtime signs. -/

def schemaVersion : String := "selfconnect.delegation.v1"

def receiptSchemaVersion : String := "selfconnect.delegated-result-receipt.v1"

def ed25519 : String := "ed25519"

def ecdsaP384Sha384 : String := "ecdsa-p384-sha384"

/-- `none` when the value is no JSON or holds a lone surrogate. -/
def canonicalBytes (value : Value) : Option Bytes :=
  (Json.dumpsStrict value).map encode

def payloadDigest (payload : Bytes) : Str :=
  Str.ofText (hexText (sha256 payload))

def publicKeyFingerprint (publicKey : Bytes) : Str := payloadDigest publicKey

def canonicalAgentId (publicKey : Bytes) : Str :=
  Str.lit "SCID-" ++ publicKeyFingerprint publicKey

/-- `_digest`. -/
def digest (value : Value) : Option Str :=
  (canonicalBytes value).map payloadDigest

def validDigest (value : Str) : Bool :=
  value.length == 64 && value.all fun c => (Str.lit "0123456789abcdef").contains c

/-- `float(value)` of a time, when it is finite. -/
def finiteTime? : Value → Option PyFloat
  | .int n =>
      let time := PyFloat.ofFloat (Float.ofInt n)
      if time.isFinite then some time else none
  | .bool b => some (PyFloat.ofFloat (if b then 1 else 0))
  | .float time => if time.isFinite then some time else none
  | _ => none

def validTime (value : Value) : Bool := (finiteTime? value).isSome

/-- `first < second`, for numbers. -/
def before (first second : Value) : Bool :=
  match first.number?, second.number? with
  | some x, some y => x.lt y
  | _, _ => false

/-- A truth value is an integer. -/
def validEpoch : Value → Bool
  | .int epoch => 0 ≤ epoch
  | .bool _ => true
  | _ => false

/-- `_bounded_text`. -/
def bounded (text : Str) : Bool :=
  !text.isEmpty && text.length ≤ 256 && text.all fun c => 32 ≤ c.val

/-- `_normalise_json_object`. -/
def normaliseJsonObject (members : Members) : Option Members :=
  match (canonicalBytes (.dict members)).bind Json.loadBytes with
  | some (.dict normalised) =>
      match canonicalBytes (.dict normalised) with
      | some bytes => if bytes.length ≤ 16384 then some normalised else none
      | none => none
  | _ => none

/-- Signature checks, which live in the `cryptography` package and in CNG. -/
structure Verifiers where
  ed25519Verify : Ed25519Verify
  cngVerify : Ed25519Verify

/-- `_verify_signature`. -/
def Verifiers.verifySignature (verifiers : Verifiers) (algorithm : Str)
    (publicKey data signature : Bytes) : Bool :=
  if algorithm = Str.lit ed25519 then verifiers.ed25519Verify data signature publicKey
  else if algorithm = Str.lit ecdsaP384Sha384 then verifiers.cngVerify data signature publicKey
  else false

/-! What an authority grants. -/

structure DelegationGrant where
  schema : Str
  issuerPrincipal : Str
  issuerKeyFingerprint : Str
  subjectAgentId : Str
  subjectPublicKeyHex : Str
  allowedActions : List Str
  targetConstraints : Members
  governanceMode : Str
  classificationCeiling : Str
  issuedAt : Value
  notBefore : Value
  expiresAt : Value
  revocationEpoch : Value
  nonce : Str
  signatureAlgorithm : Str
  issuerPublicKeyHex : Str
  signatureHex : Str

namespace DelegationGrant

def unsignedDict (grant : DelegationGrant) : Value :=
  .object [
    ("schema", .str grant.schema),
    ("issuer_principal", .str grant.issuerPrincipal),
    ("issuer_key_fingerprint", .str grant.issuerKeyFingerprint),
    ("subject_agent_id", .str grant.subjectAgentId),
    ("subject_public_key_hex", .str grant.subjectPublicKeyHex),
    ("allowed_actions", .list (grant.allowedActions.map .str)),
    ("target_constraints", .dict grant.targetConstraints),
    ("governance_mode", .str grant.governanceMode),
    ("classification_ceiling", .str grant.classificationCeiling),
    ("issued_at", grant.issuedAt),
    ("not_before", grant.notBefore),
    ("expires_at", grant.expiresAt),
    ("revocation_epoch", grant.revocationEpoch),
    ("nonce", .str grant.nonce),
    ("signature_algorithm", .str grant.signatureAlgorithm),
    ("issuer_public_key_hex", .str grant.issuerPublicKeyHex)]

def signingBytes (grant : DelegationGrant) : Option Bytes :=
  canonicalBytes grant.unsignedDict

def grantId (grant : DelegationGrant) : Option Str := digest grant.unsignedDict

/-- `__post_init__`. -/
def wellFormed (grant : DelegationGrant) : Bool :=
  grant.schema = Str.lit schemaVersion &&
    [grant.issuerPrincipal, grant.subjectAgentId, grant.governanceMode,
      grant.classificationCeiling, grant.nonce].all bounded &&
    (0 < grant.allowedActions.length && grant.allowedActions.length ≤ 128) &&
    grant.allowedActions.all bounded && decide grant.allowedActions.Nodup &&
    (normaliseJsonObject grant.targetConstraints).isSome &&
    [grant.issuedAt, grant.notBefore, grant.expiresAt].all validTime &&
    !before grant.notBefore grant.issuedAt && before grant.notBefore grant.expiresAt &&
    validEpoch grant.revocationEpoch &&
    (grant.signatureAlgorithm = Str.lit ed25519 ||
      grant.signatureAlgorithm = Str.lit ecdsaP384Sha384) &&
    (fromHex grant.signatureHex).isSome &&
    (match fromHex grant.issuerPublicKeyHex, fromHex grant.subjectPublicKeyHex with
    | some issuerKey, some subjectKey =>
        issuerKey.length == (if grant.signatureAlgorithm = Str.lit ed25519 then 32 else 96) &&
          subjectKey.length == 32 &&
          grant.issuerKeyFingerprint = publicKeyFingerprint issuerKey &&
          grant.subjectAgentId = agentIdOf true subjectKey
    | _, _ => false)

/-- `from_dict(grant.to_dict())`: a copy, checked again. -/
def isolated (grant : DelegationGrant) : Option DelegationGrant :=
  if grant.wellFormed && grant.grantId.isSome then some grant else none

end DelegationGrant

/-! What an agent signs for one action. -/

structure AgentActionProof where
  schema : Str
  grantId : Str
  actionId : Str
  agentId : Str
  agentPublicKeyHex : Str
  action : Str
  target : Members
  payloadSha256 : Str
  governanceMode : Str
  classification : Str
  occurredAt : Value
  signatureAlgorithm : Str
  signatureHex : Str

namespace AgentActionProof

def unsignedDict (proof : AgentActionProof) : Value :=
  .object [
    ("schema", .str proof.schema),
    ("grant_id", .str proof.grantId),
    ("action_id", .str proof.actionId),
    ("agent_id", .str proof.agentId),
    ("agent_public_key_hex", .str proof.agentPublicKeyHex),
    ("action", .str proof.action),
    ("target", .dict proof.target),
    ("payload_sha256", .str proof.payloadSha256),
    ("governance_mode", .str proof.governanceMode),
    ("classification", .str proof.classification),
    ("occurred_at", proof.occurredAt),
    ("signature_algorithm", .str proof.signatureAlgorithm)]

def signingBytes (proof : AgentActionProof) : Option Bytes :=
  canonicalBytes proof.unsignedDict

def proofId (proof : AgentActionProof) : Option Str := digest proof.unsignedDict

/-- `__post_init__`. -/
def wellFormed (proof : AgentActionProof) : Bool :=
  proof.schema = Str.lit schemaVersion &&
    [proof.actionId, proof.agentId, proof.action, proof.governanceMode,
      proof.classification].all bounded &&
    validDigest proof.grantId && validDigest proof.payloadSha256 &&
    (normaliseJsonObject proof.target).isSome && validTime proof.occurredAt &&
    proof.signatureAlgorithm = Str.lit ed25519 && (fromHex proof.signatureHex).isSome &&
    (match fromHex proof.agentPublicKeyHex with
    | some publicKey =>
        publicKey.length == 32 && proof.agentId = agentIdOf true publicKey
    | none => false)

/-- `from_dict(proof.to_dict())`: a copy, checked again. -/
def isolated (proof : AgentActionProof) : Option AgentActionProof :=
  if proof.wellFormed && proof.proofId.isSome then some proof else none

end AgentActionProof

/-! Verification of the pair. -/

inductive Denial
  | reason (text : String)
  | constraint (key : Key)
  | unencodable

/-- The constraint's key stands in quotes. -/
def Denial.message : Denial → Str
  | .reason text => Str.lit text
  | .constraint key => Str.lit "target constraint '" ++ key.text ++
      Str.lit "' does not match delegation"
  | .unencodable => Str.lit "surrogates not allowed"

def deny (condition : Bool) (text : String) : Except Denial Unit :=
  if condition then .error (.reason text) else .ok ()

/-- The first constraint of the grant that the target does not meet. -/
def unmetConstraint (constraints target : Members) : Option Key :=
  (constraints.find? fun entry =>
    match target.lookupKey entry.1 with
    | some found => !found.eqv entry.2
    | none => true).map Prod.fst

def verifyDelegatedAction (verifiers : Verifiers) (grant : DelegationGrant)
    (proof : AgentActionProof) (now : Value) (payload trustedIssuer : Bytes)
    (revocations : RevocationState) : Except Denial Unit := do
  match grant.grantId, proof.proofId, grant.signingBytes, proof.signingBytes with
  | some grantId, some _, some grantBytes, some proofBytes =>
      match finiteTime? now with
      | none => throw (.reason "verification time is invalid")
      | some time =>
          match fromHex grant.issuerPublicKeyHex, fromHex grant.signatureHex,
            fromHex proof.agentPublicKeyHex, fromHex proof.signatureHex with
          | some issuerKey, some grantSignature, some agentKey, some actionSignature =>
              deny (issuerKey != trustedIssuer) "delegation issuer is not the trusted authority"
              deny (grant.signatureHex.isEmpty || !verifiers.verifySignature
                  grant.signatureAlgorithm issuerKey grantBytes grantSignature)
                "delegation authority signature is invalid"
              deny (proof.grantId != grantId)
                "action proof references a different delegation grant"
              deny (proof.agentId != grant.subjectAgentId ||
                  Str.ofText (hexText agentKey) != grant.subjectPublicKeyHex)
                "action author is not the delegated subject"
              deny (proof.signatureHex.isEmpty || !verifiers.verifySignature
                  proof.signatureAlgorithm agentKey proofBytes actionSignature)
                "agent action signature is invalid"
              deny (before (.float time) grant.notBefore) "delegation is not yet valid"
              deny (before grant.expiresAt (.float time) ||
                  before grant.expiresAt proof.occurredAt)
                "delegation is expired"
              deny (before proof.occurredAt grant.notBefore ||
                  before (.float time) proof.occurredAt)
                "action time is outside the delegation verification window"
              deny (decide (grantId ∈ revocations.revokedGrantIds))
                "delegation grant is revoked"
              deny (decide (canonicalAgentId agentKey ∈ revocations.revokedAgentKeyIds))
                "delegated agent is revoked"
              deny (before grant.revocationEpoch (.int revocations.epoch))
                "delegation revocation checkpoint is stale"
              deny (!grant.allowedActions.contains proof.action)
                "action is outside the delegated scope"
              deny (proof.governanceMode != grant.governanceMode)
                "governance mode does not match delegation"
              deny (proof.classification != grant.classificationCeiling)
                "classification is not authorized by this exact-match grant"
              match unmetConstraint grant.targetConstraints proof.target with
              | some key => throw (.constraint key)
              | none =>
                  deny (proof.payloadSha256 != payloadDigest payload)
                    "payload digest does not match the action proof"
          | _, _, _, _ => throw (.reason "signature encoding is invalid")
  | _, _, _, _ => throw .unencodable

def noRevocations : RevocationState := ⟨0, ∅, ∅⟩

/-- The pair as it stood at the proof's own time, whatever was revoked since. -/
def verifyHistoricalDelegatedAction (verifiers : Verifiers) (grant : DelegationGrant)
    (proof : AgentActionProof) (payload trustedIssuer : Bytes) : Except Denial Unit :=
  verifyDelegatedAction verifiers grant proof proof.occurredAt payload trustedIssuer noRevocations

end SelfConnect.Delegation
