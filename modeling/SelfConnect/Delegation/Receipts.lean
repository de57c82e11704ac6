import SelfConnect.Delegation.Grants

namespace SelfConnect.Delegation

open SelfConnect.Python

/-- The executing runtime's signature over authorization, output, target and ledger head. -/
structure DelegatedActionReceipt where
  schema : Str
  receiptId : Str
  grantId : Str
  proofId : Str
  actionId : Str
  delegatedAgentId : Str
  agentId : Str
  agentPublicKeyHex : Str
  action : Str
  targetSha256 : Str
  resultSha256 : Str
  resultStatus : Str
  ledgerHead : Str
  issuedAt : Value
  signatureAlgorithm : Str
  signatureHex : Str

namespace DelegatedActionReceipt

def fields (receipt : DelegatedActionReceipt) : List (String × Value) := [
  ("schema", .str receipt.schema),
  ("receipt_id", .str receipt.receiptId),
  ("grant_id", .str receipt.grantId),
  ("proof_id", .str receipt.proofId),
  ("action_id", .str receipt.actionId),
  ("delegated_agent_id", .str receipt.delegatedAgentId),
  ("agent_id", .str receipt.agentId),
  ("agent_public_key_hex", .str receipt.agentPublicKeyHex),
  ("action", .str receipt.action),
  ("target_sha256", .str receipt.targetSha256),
  ("result_sha256", .str receipt.resultSha256),
  ("result_status", .str receipt.resultStatus),
  ("ledger_head", .str receipt.ledgerHead),
  ("issued_at", receipt.issuedAt),
  ("signature_algorithm", .str receipt.signatureAlgorithm)]

def unsignedDict (receipt : DelegatedActionReceipt) : Value := .object receipt.fields

def toDict (receipt : DelegatedActionReceipt) : Value :=
  .object (receipt.fields ++ [("signature_hex", .str receipt.signatureHex)])

def signingBytes (receipt : DelegatedActionReceipt) : Option Bytes :=
  canonicalBytes receipt.unsignedDict

/-- `__post_init__`. -/
def wellFormed (receipt : DelegatedActionReceipt) : Bool :=
  receipt.schema = Str.lit receiptSchemaVersion &&
    [receipt.receiptId, receipt.actionId, receipt.delegatedAgentId, receipt.agentId,
      receipt.action, receipt.resultStatus].all bounded &&
    [receipt.grantId, receipt.proofId, receipt.targetSha256, receipt.resultSha256,
      receipt.ledgerHead].all validDigest &&
    validTime receipt.issuedAt && receipt.signatureAlgorithm = Str.lit ed25519 &&
    (fromHex receipt.signatureHex).isSome &&
    (match fromHex receipt.agentPublicKeyHex with
    | some publicKey =>
        publicKey.length == 32 && receipt.agentId = agentIdOf true publicKey
    | none => false)

def checked (receipt : DelegatedActionReceipt) : Option DelegatedActionReceipt :=
  if receipt.wellFormed then some receipt else none

private def textOf (value : Value) (key : String) : Option Str :=
  (value.get? key).bind Value.str?

/-- `from_dict`: every field is given, except the signature, and no other. -/
def ofDict (value : Value) : Option DelegatedActionReceipt := do
  let .dict members := value | none
  let receipt : DelegatedActionReceipt := {
    schema := ← textOf value "schema"
    receiptId := ← textOf value "receipt_id"
    grantId := ← textOf value "grant_id"
    proofId := ← textOf value "proof_id"
    actionId := ← textOf value "action_id"
    delegatedAgentId := ← textOf value "delegated_agent_id"
    agentId := ← textOf value "agent_id"
    agentPublicKeyHex := ← textOf value "agent_public_key_hex"
    action := ← textOf value "action"
    targetSha256 := ← textOf value "target_sha256"
    resultSha256 := ← textOf value "result_sha256"
    resultStatus := ← textOf value "result_status"
    ledgerHead := ← textOf value "ledger_head"
    issuedAt := ← value.get? "issued_at"
    signatureAlgorithm := ← textOf value "signature_algorithm"
    signatureHex := ← (value.getD "signature_hex" (Value.lit "")).str? }
  let names := receipt.fields.map Prod.fst ++ ["signature_hex"]
  unless members.all fun entry => names.any fun name => entry.1 = .str (Str.lit name) do
    none
  receipt.checked

/-- The digest that names a receipt. -/
def idOf (grantId proofId actionId targetSha256 resultSha256 ledgerHead : Str) : Option Str :=
  digest (.object [
    ("grant_id", .str grantId),
    ("proof_id", .str proofId),
    ("action_id", .str actionId),
    ("target_sha256", .str targetSha256),
    ("result_sha256", .str resultSha256),
    ("ledger_head", .str ledgerHead)])

end DelegatedActionReceipt

/-- `_digest(_normalise_json_object("target", target))`. -/
def targetDigest (target : Members) : Option Str :=
  (normaliseJsonObject target).bind fun normalised => digest (.dict normalised)

/-- `none` when a value cannot be digested or a field is refused. -/
def signDelegatedReceipt (identity : AgentIdentity) (grant : DelegationGrant)
    (proof : AgentActionProof) (result : Value) (resultStatus : String) (ledgerHead : Str)
    (issuedAt : Value) : Option DelegatedActionReceipt := do
  let targetSha256 ← targetDigest proof.target
  let resultSha256 ← digest result
  let grantId ← grant.grantId
  let proofId ← proof.proofId
  let receiptId ← DelegatedActionReceipt.idOf grantId proofId proof.actionId targetSha256
    resultSha256 ledgerHead
  let receipt ← DelegatedActionReceipt.checked {
    schema := Str.lit receiptSchemaVersion
    receiptId := receiptId
    grantId := grantId
    proofId := proofId
    actionId := proof.actionId
    delegatedAgentId := proof.agentId
    agentId := identity.agentId
    agentPublicKeyHex := Str.ofText (hexText identity.publicKey)
    action := proof.action
    targetSha256 := targetSha256
    resultSha256 := resultSha256
    resultStatus := Str.lit resultStatus
    ledgerHead := ledgerHead
    issuedAt := issuedAt
    signatureAlgorithm := Str.lit ed25519
    signatureHex := [] }
  let message ← receipt.signingBytes
  DelegatedActionReceipt.checked
    { receipt with signatureHex := Str.ofText (hexText (identity.sign message)) }

/-- What a stored receipt must say. -/
structure ExpectedReceipt where
  executorPublicKey : Bytes
  grantId : Str
  proofId : Str
  actionId : Str
  action : Str
  delegatedAgentId : Str
  resultStatus : Str
  target : Members
  result : Value
  ledgerHead : Str

def fails (condition : Bool) (reason : String) : ExceptT String Option Unit :=
  if condition then throw reason else pure ()

/-- The outer `none` is an exception: a value that cannot be digested. -/
def verifyDelegatedReceipt (verifiers : Verifiers) (receipt : DelegatedActionReceipt)
    (expected : ExpectedReceipt) : ExceptT String Option Unit := do
  match fromHex receipt.agentPublicKeyHex, fromHex receipt.signatureHex with
  | some publicKey, some signature =>
      fails (publicKey != expected.executorPublicKey)
        "receipt signer is not the trusted executor"
      fails (receipt.agentId != agentIdOf true expected.executorPublicKey)
        "receipt executor identity does not match"
      fails (receipt.grantId != expected.grantId || receipt.proofId != expected.proofId)
        "receipt authorization binding does not match"
      fails (receipt.actionId != expected.actionId || receipt.action != expected.action)
        "receipt action binding does not match"
      fails (receipt.delegatedAgentId != expected.delegatedAgentId)
        "receipt delegated-author binding does not match"
      fails (receipt.resultStatus != expected.resultStatus)
        "receipt result status does not match"
      let targetSha256 ← ExceptT.lift (targetDigest expected.target)
      fails (receipt.targetSha256 != targetSha256) "receipt target digest does not match"
      let receiptId ← ExceptT.lift (DelegatedActionReceipt.idOf receipt.grantId receipt.proofId
        receipt.actionId receipt.targetSha256 receipt.resultSha256 receipt.ledgerHead)
      fails (receipt.receiptId != receiptId) "receipt id does not match its bindings"
      let message ← ExceptT.lift receipt.signingBytes
      fails (receipt.signatureHex.isEmpty || !verifiers.verifySignature
          receipt.signatureAlgorithm publicKey message signature)
        "receipt signature is invalid"
      let resultSha256 ← ExceptT.lift (digest expected.result)
      fails (receipt.resultSha256 != resultSha256) "receipt result digest does not match"
      fails (receipt.ledgerHead != expected.ledgerHead) "receipt ledger head does not match"
  | _, _ => throw "receipt signature encoding is invalid"

end SelfConnect.Delegation
