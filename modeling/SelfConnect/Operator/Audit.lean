import SelfConnect.Delegation.Signing
import SelfConnect.Library.Binary64
import SelfConnect.Library.Outcomes
import SelfConnect.Python.Json.Sorted

namespace SelfConnect.Operator

open SelfConnect.Python SelfConnect.Library

/-! `approval_audit`: what is kept of the transitions of an approval. -/

inductive Transition
  | pending
  | approved
  | denied
  | consumed
  | expired
  deriving DecidableEq

def Transition.text : Transition → String
  | .pending => "pending"
  | .approved => "approved"
  | .denied => "denied"
  | .consumed => "consumed"
  | .expired => "expired"

/-- `denied`, `consumed` and `expired` end an approval. -/
def Transition.isTerminal : Transition → Bool
  | .pending | .approved => false
  | .denied | .consumed | .expired => true

/-- A finite reading of the clock, as a number. -/
def seconds (reading : FiniteFloat) : ℚ :=
  match Number.ofFloat (.finite reading) with
  | .finite q => q
  | _ => 0

/-- `hashlib.sha256(json.dumps(value, …, allow_nan=False).encode("utf-8")).hexdigest()`; `none`
is an exception. -/
def canonicalDigest (value : Value) : Option Text :=
  (Json.dumpsStrict value).map sha256Hex

def canonicalContextDigest (context : Value) : Option Text := canonicalDigest context

/-- Identity metadata that a deployment's verifier returns. -/
structure DecisionProofVerification where
  verifierId : Str
  keyId : Str
  nonce : Str
  verifiedAt : PyFloat
  operatorSubject : Str

structure DecisionProofEnvelope where
  verifierId : Str
  keyId : Str
  nonce : Str
  verifiedAt : PyFloat
  operatorSubject : Str
  proofDigest : Text
  bindingDigest : Text
  deriving DecidableEq

/-- `not value or len(value) > 256` is refused. -/
def isBounded (limit : Nat) (value : Str) : Bool := !value.isEmpty && value.length ≤ limit

/-- `abs(now - float(value)) > 300` is refused; a comparison with `nan` is false. -/
def isRecent (now : FiniteFloat) (verifiedAt : PyFloat) : Bool :=
  match Number.ofFloat verifiedAt with
  | .nan => true
  | .infinity _ => false
  | .finite q => |Binary64.round (seconds now - q)| ≤ 300

/-- What a decision is about. -/
structure Decision where
  approvalId : Str
  agentId : Str
  action : Str
  contextDigest : Text
  decision : Transition
  operatorId : Str

def Decision.binding (decision : Decision) (verification : DecisionProofVerification)
    (proofDigest : Text) : Value :=
  .object [("approval_id", .str decision.approvalId), ("agent_id", .str decision.agentId),
    ("action", .str decision.action), ("context_digest", .str (Str.ofText decision.contextDigest)),
    ("decision", .lit decision.decision.text), ("operator_id", .str decision.operatorId),
    ("verifier_id", .str verification.verifierId), ("key_id", .str verification.keyId),
    ("nonce", .str verification.nonce), ("verified_at", .float verification.verifiedAt),
    ("operator_subject", .str verification.operatorSubject),
    ("proof_digest", .str (Str.ofText proofDigest))]

namespace DecisionProofEnvelope

/-- `create`; `none` is an exception. -/
def create (verification : DecisionProofVerification) (proof : Option Bytes) (decision : Decision)
    (now : FiniteFloat) : Option DecisionProofEnvelope := do
  let proofDigest ← proof.map fun bytes => hexText (sha256 bytes)
  guard ([verification.verifierId, verification.keyId, verification.nonce,
    verification.operatorSubject].all (isBounded 256))
  guard (isRecent now verification.verifiedAt)
  let bindingDigest ← canonicalDigest (decision.binding verification proofDigest)
  return ⟨verification.verifierId, verification.keyId, verification.nonce, verification.verifiedAt,
    verification.operatorSubject, proofDigest, bindingDigest⟩

def verification (envelope : DecisionProofEnvelope) : DecisionProofVerification :=
  ⟨envelope.verifierId, envelope.keyId, envelope.nonce, envelope.verifiedAt,
    envelope.operatorSubject⟩

/-- `verifies_binding`; `none` is an exception. -/
def verifiesBinding (envelope : DecisionProofEnvelope) (decision : Decision) : Option Bool :=
  (canonicalDigest (decision.binding envelope.verification envelope.proofDigest)).map
    (· = envelope.bindingDigest)

def toDict (envelope : DecisionProofEnvelope) : Value :=
  .object [("verifier_id", .str envelope.verifierId), ("key_id", .str envelope.keyId),
    ("nonce", .str envelope.nonce), ("verified_at", .float envelope.verifiedAt),
    ("operator_subject", .str envelope.operatorSubject),
    ("proof_digest", .str (Str.ofText envelope.proofDigest)),
    ("binding_digest", .str (Str.ofText envelope.bindingDigest))]

/-- What is created verifies its own binding, whoever asks. -/
theorem verifiesBinding_create {verification : DecisionProofVerification}
    {proof : Option Bytes} {decision : Decision} {now : FiniteFloat} {envelope : DecisionProofEnvelope}
    (created : create verification proof decision now = some envelope) :
    envelope.verifiesBinding decision = some true := by
  simp only [create, Option.bind_eq_bind, Option.bind_eq_some_iff] at created
  obtain ⟨_, -, -, -, -, -, bindingDigest, isDigest, isEnvelope⟩ := created
  cases isEnvelope
  rw [verifiesBinding]
  change (canonicalDigest (decision.binding verification _)).map _ = _
  rw [isDigest]
  simp

theorem operatorSubject_create {verification : DecisionProofVerification}
    {proof : Option Bytes} {decision : Decision} {now : FiniteFloat} {envelope : DecisionProofEnvelope}
    (created : create verification proof decision now = some envelope) :
    envelope.operatorSubject = verification.operatorSubject := by
  simp only [create, Option.bind_eq_bind, Option.bind_eq_some_iff] at created
  obtain ⟨_, -, -, -, -, -, _, -, isEnvelope⟩ := created
  cases isEnvelope
  rfl

end DecisionProofEnvelope

structure ApprovalAuditEvent where
  eventId : Str
  approvalId : Str
  transition : Transition
  agentId : Str
  action : Str
  operatorId : Str
  contextDigest : Text
  transitionTs : FiniteFloat
  decisionProof : Option DecisionProofEnvelope
  deriving DecidableEq

namespace ApprovalAuditEvent

/-- `__post_init__`. -/
def isValid (event : ApprovalAuditEvent) : Bool :=
  [event.eventId, event.approvalId, event.agentId, event.action].all (isBounded 1024) &&
    event.operatorId.length ≤ 1024

def toDict (event : ApprovalAuditEvent) : Value :=
  .object [("event_id", .str event.eventId), ("approval_id", .str event.approvalId),
    ("transition", .lit event.transition.text), ("agent_id", .str event.agentId),
    ("action", .str event.action), ("operator_id", .str event.operatorId),
    ("context_digest", .str (Str.ofText event.contextDigest)),
    ("transition_ts", .float (.finite event.transitionTs)),
    ("decision_proof", (event.decisionProof.map DecisionProofEnvelope.toDict).getD .null)]

end ApprovalAuditEvent

def approvalEventDigest (event : ApprovalAuditEvent) : Option Text :=
  canonicalDigest event.toDict

end SelfConnect.Operator
