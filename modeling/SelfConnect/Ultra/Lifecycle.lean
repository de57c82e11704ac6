import Mathlib.Logic.Function.Basic
import SelfConnect.Library.CallPaths
import SelfConnect.Ultra.Stores

namespace SelfConnect.Ultra.Lifecycle

open SelfConnect.Js SelfConnect.Library SelfConnect.Library.Calls

/-! The routes that bind and rotate the credential of a pair, in any interleaving of their
requests. Their locks only order them. -/

structure Pair where
  name : Text
  status : Text

structure TskMap where
  clientId : Text
  label : Text
  status : Text
  sharedSecret : Text

/-- What `updateKey` comes to: it throws, it finds nothing to update, or it updates the key and
says so or not. -/
inductive KeyUpdate
  | failed
  | declined
  | updated
  | unheard

/-- What lies outside of the server. A query may throw before it is done, or be done and its
answer lost. -/
structure Choice where
  fails : Bool
  lost : Bool
  pair : Option Pair
  ids : List Text
  provisioned : Except (Option Text) TskMap

/-- How the stores read the values of a request: the row of a pair, which in memory may be one
request's own, the client that a value finds, the text of a value in a template, and the
idempotency key, which PostgreSQL reads as a UUID. The provisioner updates no key that the
lifecycle authorizer denies. -/
structure Backend (Ticket Row Key : Type) where
  row : Ticket → Json → Row
  client : Json → Option Text
  template : Json → Text
  key : Text → Key
  sha256 : Text → Text
  stringify : Json → Text
  payload : TskMap → Json
  updateKey : Choice → Bool → KeyUpdate
  template_str : ∀ value, template (.str value) = value
  template_client : ∀ value id, client value = some id → template value = id
  template_row : ∀ ticket other value value', row ticket value = row other value' →
    template value = template value'
  denied : ∀ choice, updateKey choice false = .failed ∨ updateKey choice false = .declined

/-- The tables and the keys, and what has happened to them: every binding there has been, the
last one first, whose request completed a key, and whose request another was answered from. -/
structure Shared (Ticket Row Key : Type) where
  bindings : Row → Option Binding
  entries : Key → Option Entry
  keys : Text → Option TskMap
  bound : List (Row × Binding)
  completer : Key → Option Ticket
  reused : List (Ticket × Ticket)

inductive Request
  | insertEntry (key operation agentId : Text)
  | claimedEntry (key : Text)
  | pair (pairId : Json)
  | tskMap (clientId : Option Json)
  | findTskMaps (label : Text)
  | getBinding (pairId : Json)
  | setBinding (pairId : Json) (binding : Binding)
  | swapBinding (pairId expectedClientId : Json) (binding : Binding)
  | provision (label : Text)
  | updateKey (clientId : Json) (requestorId reason : Text)
  | completeEntry (key : Text) (response : Json)
  | completedEntry (key : Text)

abbrev Answer : Request → Type
  | .insertEntry _ _ _ => Bool
  | .claimedEntry _ => Option Entry
  | .pair _ => Option Pair
  | .tskMap _ => Option TskMap
  | .findTskMaps _ => List TskMap
  | .getBinding _ => Option Binding
  | .setBinding _ _ => Bool
  | .swapBinding _ _ _ => Bool
  | .provision _ => Except (Option Text) TskMap
  | .updateKey _ _ _ => Bool
  | .completeEntry _ _ => Bool
  | .completedEntry _ => Option Entry

/-- There is no answer where the call throws. -/
abbrev Response (request : Request) : Type := Option (Answer request)

section Serve

variable {Ticket Row Key : Type} [DecidableEq Row] [DecidableEq Key]

def perform {α σ : Type} (choice : Choice) (s : σ) (answer : α) (done : σ) : Option α × σ :=
  if choice.fails then (none, s) else if choice.lost then (none, done) else (some answer, done)

namespace Shared

variable (s : Shared Ticket Row Key)

def insertEntry (key : Key) (operation agentId : Text) : Bool × Shared Ticket Row Key :=
  match s.entries key with
  | some _ => (false, s)
  | none => (true, { s with
      entries := Function.update s.entries key (some ⟨operation, agentId, none⟩) })

def bind (row : Row) (binding : Binding) : Shared Ticket Row Key :=
  { s with
    bindings := Function.update s.bindings row (some binding)
    bound := (row, binding) :: s.bound }

/-- `ON CONFLICT` leaves a row of the same owner. -/
def setBinding (row : Row) (binding : Binding) : Bool × Shared Ticket Row Key :=
  match s.bindings row with
  | some current => (current = binding, s)
  | none => (true, s.bind row binding)

/-- The owner stays, only the client changes. -/
def swapBinding (row : Row) (expectedClientId : Option Text) (binding : Binding) :
    Bool × Shared Ticket Row Key :=
  match s.bindings row with
  | some current =>
      if expectedClientId = some current.tskClientId ∧ current.agentId = binding.agentId ∧
          current.canonicalId = binding.canonicalId ∧
          current.agentPublicKeyHex = binding.agentPublicKeyHex then
        (true, s.bind row binding)
      else (false, s)
  | none => (false, s)

def completeEntry (ticket : Ticket) (key : Key) (response : Json) :
    Bool × Shared Ticket Row Key :=
  match s.entries key with
  | some ⟨operation, agentId, none⟩ => (true, { s with
      entries := Function.update s.entries key (some ⟨operation, agentId, some response⟩)
      completer := Function.update s.completer key (some ticket) })
  | _ => (false, s)

def reuse (ticket : Ticket) (key : Key) : Shared Ticket Row Key :=
  match s.completer key with
  | some other => { s with reused := (ticket, other) :: s.reused }
  | none => s

/-- A new key has a new id. -/
def provision (label : Text) :
    Except (Option Text) TskMap → Except (Option Text) TskMap × Shared Ticket Row Key
  | .error error => (.error error, s)
  | .ok map =>
      match s.keys map.clientId with
      | some _ => (.error none, s)
      | none =>
          let labelled := { map with label := label, status := text "active" }
          (.ok labelled, { s with keys := Function.update s.keys map.clientId (some labelled) })

def revoke (clientId : Option Text) : Shared Ticket Row Key :=
  { s with keys := fun id =>
      if clientId = some id then (s.keys id).map fun map => { map with status := text "revoked" }
      else s.keys id }

/-- The authorizer of updates. -/
def lifecycleAuthorizer (clientId : Option Text) (requestorId reason : Text) : Bool :=
  if requestorId = text "ultra-admin" ∧ reason = text "operator-admin-lifecycle" then true
  else if reason ≠ text "rotation-commit" then false
  else match clientId.bind s.keys with
    | some map => map.label = text "agent:" ++ requestorId && map.status = text "active"
    | none => false

def updateKey (clientId : Option Text) : KeyUpdate → Option Bool × Shared Ticket Row Key
  | .failed => (none, s)
  | .declined => (some false, s)
  | .updated => (some true, s.revoke clientId)
  | .unheard => (none, s.revoke clientId)

/-- What is unbound later is unbound now. -/
def Unbound (t : Shared Ticket Row Key) : Prop :=
  ∀ row, t.bindings row = none → s.bindings row = none

end Shared

def serve (backend : Backend Ticket Row Key) :
    Serve Ticket Choice (Shared Ticket Row Key) Response :=
  fun choice ticket s request =>
    match request with
    | .insertEntry key operation agentId =>
        let inserted := s.insertEntry (backend.key key) operation agentId
        perform choice s inserted.1 inserted.2
    | .claimedEntry key =>
        perform choice s (s.entries (backend.key key)) (s.reuse ticket (backend.key key))
    | .pair _ => perform choice s choice.pair s
    | .tskMap clientId => perform choice s ((clientId.bind backend.client).bind s.keys) s
    | .findTskMaps label =>
        perform choice s ((choice.ids.filterMap s.keys).filter (·.label = label)) s
    | .getBinding pairId => perform choice s (s.bindings (backend.row ticket pairId)) s
    | .setBinding pairId binding =>
        let updated := s.setBinding (backend.row ticket pairId) binding
        perform choice s updated.1 updated.2
    | .swapBinding pairId expectedClientId binding =>
        let updated := s.swapBinding (backend.row ticket pairId)
          (backend.client expectedClientId) binding
        perform choice s updated.1 updated.2
    | .provision label =>
        let provisioned := s.provision label choice.provisioned
        perform choice s provisioned.1 provisioned.2
    | .updateKey clientId requestorId reason =>
        s.updateKey (backend.client clientId) (backend.updateKey choice
          (s.lifecycleAuthorizer (backend.client clientId) requestorId reason))
    | .completeEntry key response =>
        let completed := s.completeEntry ticket (backend.key key) response
        perform choice s completed.1 completed.2
    | .completedEntry key => perform choice s (s.entries (backend.key key)) s

end Serve

inductive Action
  | bindIdentity
  | rotatePrepare
  | rotateCommit
  deriving DecidableEq

structure Call where
  action : Action
  agent : Agent
  headerKey : Text
  body : Json

abbrev Route (α : Type) := ExceptT Reply (Script Response) α

def answered {α : Type} : Option α → Script Response (Except Reply α)
  | some answer => .done (.ok answer)
  | none => .done (.error .raised)

/-- Ask, or throw. -/
def ask (request : Request) : Route (Answer request) := ExceptT.mk (.ask request answered)

def Call.keyMatches (call : Call) : Bool :=
  isUuid call.headerKey && call.body.getStr? "idempotencyKey" = some call.headerKey

def Call.isAgent (call : Call) : Bool := call.body.getStr? "agentId" = some call.agent.agentId

/-- Whether the row that a claim found is for the same operation and agent. -/
def Entry.isFor (entry : Entry) (operation : Text) (agent : Agent) : Bool :=
  entry.operation = operation && entry.agentId = agent.canonicalId

/-- The response that the key has already, if any. -/
def claimIdempotency (call : Call) (operation : Text) : Route (Option Json) := do
  unless call.keyMatches do throw (refusal 400 "INVALID_IDEMPOTENCY_KEY")
  let inserted : Bool ← ask (.insertEntry call.headerKey operation call.agent.canonicalId)
  if inserted then return none
  let existing : Option Entry ← ask (.claimedEntry call.headerKey)
  match existing with
  | some entry =>
      if Entry.isFor entry operation call.agent then return entry.response
      else throw (refusal 409 "IDEMPOTENCY_KEY_CONFLICT")
  | none => throw (refusal 409 "IDEMPOTENCY_KEY_CONFLICT")

def finishIdempotent (stringify : Json → Text) (key : Text) (response : Json) : Route Reply := do
  let updated : Bool ← ask (.completeEntry key response)
  if updated then return .json 200 response
  let existing : Option Entry ← ask (.completedEntry key)
  match existing.bind (·.response) with
  | some stored =>
      if canonicalJson stringify stored = canonicalJson stringify response then
        return .json 200 response
      else throw .raised
  | none => throw .raised

/-- Whether the pair and the credential are the agent's, and active. -/
def isOwned (agent : Agent) (pair : Option Pair) (tskMap : Option TskMap) : Bool :=
  match pair, tskMap with
  | some pair, some tskMap =>
      pair.name = agent.canonicalId && pair.status = text "active" &&
        tskMap.label = text "agent:" ++ agent.canonicalId && tskMap.status = text "active"
  | _, _ => false

def bindingOf (agent : Agent) (tskClientId : Text) : Binding where
  tskClientId := tskClientId
  agentId := agent.agentId
  canonicalId := agent.canonicalId
  agentPublicKeyHex := agent.publicKeyHex

section Routes

variable {Ticket Row Key : Type} (backend : Backend Ticket Row Key) (call : Call)

/-- The binding that a route writes, if its client is a string and the agent's ids are those of
its key. -/
def validBinding (clientId : Json) : Option Binding :=
  clientId.str?.bind fun clientId =>
    validateIdentityBinding backend.sha256 (bindingOf call.agent clientId)

/-- `/bind-identity`, under the lock of the pair. -/
def bindPair (pairId tskClientId : Json) : Route Reply := do
  let pair : Option Pair ← ask (.pair pairId)
  let tskMap : Option TskMap ← ask (.tskMap (some tskClientId))
  unless isOwned call.agent pair tskMap do throw (refusal 403 "IDENTITY_BINDING_MISMATCH")
  let existing : Option Binding ← ask (.getBinding pairId)
  match existing with
  | some existing =>
      if tskClientId.str? = some existing.tskClientId ∧ bindingOwnedBy existing call.agent then
        finishIdempotent backend.stringify call.headerKey okBody
      else throw (refusal 409 "IDENTITY_BINDING_CONFLICT")
  | none =>
      match validBinding backend call tskClientId with
      | some binding => do
          let isSet : Bool ← ask (.setBinding pairId binding)
          unless isSet do throw .raised
          finishIdempotent backend.stringify call.headerKey okBody
      | none => throw .raised

def bindOperation : Text := text "bind-identity"

def bindIdentity : Route Reply := do
  match truthy (call.body.get? "pairId"), truthy (call.body.get? "tskClientId") with
  | some pairId, some tskClientId => do
      unless call.isAgent do throw (refusal 403 "AGENT_OWNERSHIP_MISMATCH")
      let cached ← claimIdempotency call bindOperation
      match truthy cached with
      | some response => return .json 200 response
      | none => bindPair backend call pairId tskClientId
  | _, _ => throw (.json 400 (errorBody "missing pairId or tskClientId"))

def owningClientResponse (map : TskMap) : Json :=
  .obj [(text "ok", .bool true), (text "clientId", .str map.clientId),
    (text "sharedSecret", .str map.sharedSecret), (text "provisionPayload", backend.payload map)]

def rotationLabel (agentPrincipal pairId oldClientId : Text) : Text :=
  text "rotation:" ++ agentPrincipal ++ text ":" ++ pairId ++ text ":" ++ oldClientId

def labelOf (pairId oldClientId : Json) : Text :=
  rotationLabel call.agent.canonicalId (backend.template pairId) (backend.template oldClientId)

/-- Whether the old client is the one bound, to the agent's pair. -/
def isSource (agent : Agent) (oldClientId : Json) (pair : Option Pair)
    (binding : Option Binding) : Bool :=
  match pair, binding with
  | some pair, some binding =>
      pair.name = agent.canonicalId && bindingOwnedBy binding agent &&
        oldClientId.str? = some binding.tskClientId
  | _, _ => false

def isCandidate (label : Text) (map : Option TskMap) : Bool :=
  map.any fun map => map.label = label && map.status = text "active"

def provisionFailure (error : Option Text) : Reply :=
  .json 500 (.obj [(text "ok", .bool false),
    (text "error", .str (error.getD (text "ROTATION_PREPARE_FAILED")))])

/-- `/rotate-tsk/prepare`, under the lock of the pair and the client. -/
def prepareCandidate (label : Text) : Route Reply := do
  let existing : List TskMap ← ask (.findTskMaps label)
  match existing with
  | [] => do
      let provisioned : Except (Option Text) TskMap ← ask (.provision label)
      match provisioned with
      | .ok map =>
          finishIdempotent backend.stringify call.headerKey (owningClientResponse backend map)
      | .error error => throw (provisionFailure error)
  | [map] =>
      if map.status = text "active" then
        finishIdempotent backend.stringify call.headerKey (owningClientResponse backend map)
      else throw (refusal 409 "ROTATION_RECOVERY_STATE_NOT_ACTIVE")
  | _ => throw (refusal 409 "AMBIGUOUS_ROTATION_RECOVERY")

/-- A prepared key is looked up again before it is returned. -/
def prepareCached (label : Text) (response : Json) : Route Reply := do
  let cachedMap : Option TskMap ← ask (.tskMap (response.get? "clientId"))
  match cachedMap.filter fun map => isCandidate label (some map) with
  | some map => return .json 200 (owningClientResponse backend map)
  | none => throw (refusal 409 "ROTATION_CANDIDATE_MISSING")

def prepareOperation : Text := text "rotate-tsk-prepare"

def rotatePrepare : Route Reply := do
  match truthy (call.body.get? "pairId"), truthy (call.body.get? "oldClientId") with
  | some pairId, some oldClientId => do
      unless call.isAgent do throw (refusal 400 "INVALID_ROTATION_REQUEST")
      let pair : Option Pair ← ask (.pair pairId)
      let binding : Option Binding ← ask (.getBinding pairId)
      unless isSource call.agent oldClientId pair binding do
        throw (refusal 409 "ROTATION_SOURCE_MISMATCH")
      let cached ← claimIdempotency call prepareOperation
      match truthy cached with
      | some response => prepareCached backend (labelOf backend call pairId oldClientId) response
      | none => prepareCandidate backend call (labelOf backend call pairId oldClientId)
  | _, _ => throw (refusal 400 "INVALID_ROTATION_REQUEST")

/-- `===` of two values of one body. -/
def strictEquals : Json → Json → Bool
  | .bool first, .bool second => first = second
  | .num first, .num second => first = second
  | .str first, .str second => first = second
  | _, _ => false

/-- Whether the new client may take the place of the old one. -/
def isReplacement (agent : Agent) (label : Text) (pair : Option Pair) (binding : Option Binding)
    (oldMap newMap : Option TskMap) : Bool :=
  match pair, binding with
  | some pair, some binding =>
      pair.name = agent.canonicalId && bindingOwnedBy binding agent && oldMap.isSome &&
        isCandidate label newMap
  | _, _ => false

inductive Swap
  | updated
  | already
  | missing
  | conflict
  deriving DecidableEq

def swapOf (binding : Binding) : Option Binding → Swap
  | none => .missing
  | some current => if current = binding then .already else .conflict

def compareAndSwap (pairId oldClientId newClientId : Json) : Route Swap := do
  match validBinding backend call newClientId with
  | some binding => do
      let updated : Bool ← ask (.swapBinding pairId oldClientId binding)
      if updated then return .updated
      let current : Option Binding ← ask (.getBinding pairId)
      return swapOf binding current
  | none => throw .raised

def revokeOld (oldClientId : Json) (oldMap : Option TskMap) : Route Bool := do
  if oldMap.any fun map => map.status = text "revoked" then return true
  ask (.updateKey oldClientId call.agent.canonicalId (text "rotation-commit"))

def committed (pairId oldClientId newClientId : Json) (swap : Swap) : Reply :=
  .json 200 (.obj [(text "ok", .bool true), (text "pairId", pairId),
    (text "oldClientId", oldClientId), (text "newClientId", newClientId),
    (text "idempotent", .bool (swap = .already))])

def commitRotation (pairId oldClientId newClientId : Json) : Route Reply := do
  let pair : Option Pair ← ask (.pair pairId)
  let binding : Option Binding ← ask (.getBinding pairId)
  let oldMap : Option TskMap ← ask (.tskMap (some oldClientId))
  let newMap : Option TskMap ← ask (.tskMap (some newClientId))
  unless isReplacement call.agent (labelOf backend call pairId oldClientId) pair binding oldMap
      newMap do
    throw (refusal 409 "ROTATION_CANDIDATE_MISMATCH")
  let swap ← compareAndSwap backend call pairId oldClientId newClientId
  if swap = .missing ∨ swap = .conflict then
    throw (refusal 409 "ROTATION_BINDING_CONFLICT")
  let revoked ← revokeOld call oldClientId oldMap
  unless revoked do throw (refusal 500 "ROTATION_OLD_KEY_REVOCATION_FAILED")
  return committed pairId oldClientId newClientId swap

def rotateCommit : Route Reply := do
  match truthy (call.body.get? "pairId"), truthy (call.body.get? "oldClientId"),
      truthy (call.body.get? "newClientId") with
  | some pairId, some oldClientId, some newClientId => do
      if strictEquals oldClientId newClientId ∨ ¬ call.isAgent then
        throw (refusal 400 "INVALID_ROTATION_REQUEST")
      commitRotation backend call pairId oldClientId newClientId
  | _, _, _ => throw (refusal 400 "INVALID_ROTATION_REQUEST")

def route : Route Reply :=
  match call.action with
  | .bindIdentity => bindIdentity backend call
  | .rotatePrepare => rotatePrepare backend call
  | .rotateCommit => rotateCommit backend call

/-- What a route replies, refused or not. -/
def replied : Except Reply Reply → Reply
  | .ok reply => reply
  | .error reply => reply

def program : Script Response Reply := do
  let outcome ← (route backend call).run
  pure (replied outcome)

end Routes

end SelfConnect.Ultra.Lifecycle
