import SelfConnect.Delegation.Targets

namespace SelfConnect.Delegation

open SelfConnect.Python SelfConnect.Library SelfConnect.Replication SelfConnect.Revocation

/-! `SchemaValidator`. -/

/-- The tool schemas, and `re.fullmatch`. -/
structure Registry where
  inputSchema : Str → Option Value
  fullmatch : (pattern text : Str) → Bool

def isBool : Value → Bool
  | .bool _ => true
  | _ => false

/-- The property types that are checked. -/
def hasType (typ : Option Value) (value : Value) : Option String :=
  let wants (name : String) : Bool := (typ.bind Value.str?) = some (Str.lit name)
  let isList : Bool := match value with
    | .list _ => true
    | _ => false
  let isFloat : Bool := match value with
    | .float _ => true
    | _ => false
  if wants "string" && !value.isStr then some " must be string"
  else if wants "integer" && (!value.isInt || isBool value) then some " must be integer"
  else if wants "number" && (!(value.isInt || isFloat) || isBool value) then some " must be number"
  else if wants "boolean" && !isBool value then some " must be boolean"
  else if wants "array" && !isList then some " must be array"
  else if wants "object" && !value.isDict then some " must be object"
  else none

/-- A bound of a definition that is given. -/
def bound? (builtins : Builtins) (definition : Value) (key : String) : Except Str (Option Int) :=
  match definition.get? key with
  | none | some .null => .ok none
  | some given => (intOf builtins given).map some

/-- `_validate_property`. -/
def Registry.validateProperty (registry : Registry) (builtins : Builtins) (tool field : Str)
    (value definition : Value) : Except Str Unit := do
  match hasType (definition.get? "type") value with
  | some text => throw (field ++ Str.lit text)
  | none => pure ()
  match value with
  | .str text =>
      match ← bound? builtins definition "minLength" with
      | some least =>
          if (text.length : Int) < least then
            throw (field ++ Str.lit " below minLength " ++ Str.ofText (intText least))
      | none => pure ()
      match ← bound? builtins definition "maxLength" with
      | some most =>
          if most < (text.length : Int) then
            throw (field ++ Str.lit " exceeds maxLength " ++ Str.ofText (intText most))
      | none => pure ()
      match (definition.get? "pattern").bind Value.str? with
      | some pattern =>
          unless registry.fullmatch pattern text do
            throw (field ++ Str.lit " does not match required pattern")
      | none => pure ()
  | .int n =>
      match ← bound? builtins definition "minimum" with
      | some least =>
          if n < least then
            throw (field ++ Str.lit " below minimum " ++ Str.ofText (intText least))
      | none => pure ()
      match ← bound? builtins definition "maximum" with
      | some most =>
          if most < n then
            throw (field ++ Str.lit " above maximum " ++ Str.ofText (intText most))
      | none => pure ()
  | _ => pure ()
  match definition.get? "enum" with
  | some (.list allowed) =>
      unless allowed.any value.eqv do
        throw (tool ++ Str.lit "." ++ field ++ Str.lit " must be one of " ++
          builtins.str (.list allowed))
  | _ => pure ()

/-- `validate`; the arguments come back as they are. -/
def Registry.validate (registry : Registry) (builtins : Builtins) (tool : Str)
    (args : Members) : Except Str Members := do
  match registry.inputSchema tool with
  | none => throw (Str.lit "Unknown tool: " ++ tool)
  | some schema =>
      let props : Members := match schema.getD "properties" (.dict []) with
        | .dict members => members
        | _ => []
      let required : List Value := match schema.getD "required" (.list []) with
        | .list items => items
        | _ => []
      for field in required do
        if let .str name := field then
          if (args.lookup name).isNone then
            throw (Str.lit "missing required field: " ++ name)
      match schema.get? "additionalProperties" with
      | some (.bool false) =>
          let extra := args.filter fun entry => (props.lookupKey entry.1).isNone
          unless extra.isEmpty do
            throw (Str.lit "unknown field(s): " ++
              (((Json.sortMembers extra).map fun entry => entry.1.text).intersperse
                (Str.lit ", ")).flatten)
      | _ => pure ()
      for entry in args do
        match props.lookupKey entry.1 with
        | some definition =>
            registry.validateProperty builtins tool entry.1.text entry.2 definition
        | none => pure ()
      return args

/-! `MCPDispatcher`. -/

inductive Profile
  | normal
  | enterprise
  | government
  deriving DecidableEq

def Profile.text : Profile → String
  | .normal => "normal"
  | .enterprise => "enterprise"
  | .government => "government"

/-- The profiles that require delegated authorization. -/
def Profile.governed : Profile → Bool
  | .normal => false
  | .enterprise | .government => true

def protectedDelegatedTools : List String := [
  "sc_inject_text", "sc_read_output", "sc_request_lease", "sc_request_target_lease",
  "sc_revoke_lease", "sc_identity_sign", "sc_session_stamp", "sc_channel_route"]

def isProtected (name : Str) : Bool :=
  protectedDelegatedTools.any fun tool => Str.lit tool = name

/-- `AgentControl.run_tool`, which lives in the AGT package: it may have the tool executed,
with arguments of its choice, and returns a value or raises. -/
abbrev AgentControl : Type :=
  Str → Members → Script (fun _ : Value => Except Str Members) (Except Str Value)

structure Dispatcher where
  profile : Profile
  builtins : Builtins
  registry : Registry
  verifiers : Verifiers
  agtControl : Option AgentControl
  delegationIdentity : Option AgentIdentity
  hasBoundary : Bool
  hasLedger : Bool

/-- What one run of a handler meets. -/
structure Attempt where
  issuer : Str → Except Str (Option Bytes)
  revocations : Except Str RevocationState
  live : Live
  body : Members → Except Str Members

/-- What one call meets, in the order in which it looks. -/
structure Surroundings where
  issuer : Str → Except Str (Option Bytes)
  ledgerSound : Except Str Bool
  revocations : Except Str RevocationState
  verifiedAt : PyFloat
  live : Live
  consumedAt : PyFloat
  inEventLoop : Bool
  attempts : Nat → Attempt
  ledgerLog : Nat → Except Str Unit
  ledgerStillSound : Except Str Bool
  ledgerHead : Except Str Str
  issuedAt : PyFloat
  containsVerifiedHash : Str → Except Str Bool

/-- `json.loads(canonical_bytes(arguments).decode("utf-8"))`. -/
def isolate (arguments : Members) : Except Str Members :=
  match (canonicalBytes (.dict arguments)).bind Json.loadBytes with
  | some (.dict isolated) => .ok isolated
  | some _ => .error (Str.lit "actuator arguments must be an object")
  | none => .error (Str.lit "Out of range float values are not JSON compliant")

/-- What `_require_verified_delegated_call` checks before it begins the action. -/
def Dispatcher.checkDelegatedCall (dispatcher : Dispatcher) (attempt : Attempt) (name : Str)
    (arguments : Members) (authorization : Option VerifiedDelegatedCall) :
    Except Str ActionTuple := do
  match authorization, dispatcher.hasBoundary with
  | some authorization, true =>
      demand (authorization.proof.action = name) "delegated authorization names a different tool"
      match Json.loadBytes authorization.payload with
      | none => throw (Str.lit "delegated authorization payload is invalid")
      | some signed =>
          demand (canonicalBytes signed = some authorization.payload ∧
              (signed.getD "arguments" .null).eqv (.dict arguments) = true)
            "delegated authorization does not bind actuator arguments"
          match ← attempt.issuer authorization.grant.issuerKeyFingerprint with
          | none => throw (Str.lit "delegation issuer is not trusted")
          | some issuerKey =>
              let revocations ← attempt.revocations
              match verifyDelegatedAction dispatcher.verifiers authorization.grant
                  authorization.proof (.float attempt.live.now) authorization.payload issuerKey
                  revocations with
              | .error denial =>
                  throw (Str.lit "delegation denied at actuator: " ++ denial.message)
              | .ok () =>
                  let target ← attempt.live.delegationTargetFor dispatcher.builtins name arguments
                  demand ((Value.dict authorization.proof.target).eqv (.dict target))
                    "delegated authorization target changed before actuation"
                  orRaise authorization.tuple "surrogates not allowed"
  | _, _ => throw (Str.lit "actuator has no verified delegation authorization")

/-- `_require_verified_delegated_call`. -/
def Dispatcher.requireVerifiedDelegatedCall (dispatcher : Dispatcher) (attempt : Attempt)
    (name : Str) (arguments : Members) (authorization : Option VerifiedDelegatedCall) :
    Delegating Members := do
  if dispatcher.profile.governed then
    let tuple ← dispatcher.checkDelegatedCall attempt name arguments authorization
    let admitted ← SQLiteActionReplayStore.begin tuple
    demand admitted "delegated authorization is not admitted for one-shot actuation"
  isolate arguments

/-- A handler: the protected ones enter their body once the call is verified. -/
def Dispatcher.handle (dispatcher : Dispatcher) (attempt : Attempt) (name : Str)
    (arguments : Members) (authorization : Option VerifiedDelegatedCall) :
    Delegating Members := do
  if isProtected name then
    let args ← dispatcher.requireVerifiedDelegatedCall attempt name arguments authorization
    execute (.enter ⟨name, args, authorization⟩)
    attempt.body args
  else
    attempt.body arguments

/-- `AGTCedarAdapter.run_tool`: the value, and the arguments that reached the tool last. -/
def runTool (handle : Nat → Members → Delegating Members) :
    Script (fun _ : Value => Except Str Members) (Except Str Value) → Nat → Option Members →
      Delegating (Members × Members)
  | .done (.error raised), _, _ => throw raised
  | .done (.ok (.dict value)), _, some executed => return (value, executed)
  | .done (.ok (.dict _)), _, none =>
      throw (Str.lit "AGT returned without executing the protected tool")
  | .done (.ok _), _, _ => throw (Str.lit "AGT returned a non-object SelfConnect tool result")
  | .ask (.dict effective) next, count, _ => do
      let outcome ← Delegation.attempt (handle count effective)
      runTool handle (next outcome) (count + 1) (some effective)
  | .ask _ next, count, executed =>
      runTool handle (next (.error (Str.lit "AGT produced non-object SelfConnect tool arguments")))
        count executed

/-- `_record_audit`, as far as it raises. -/
def Dispatcher.recordAudit (dispatcher : Dispatcher) (surroundings : Surroundings) (count : Nat)
    (arguments result : Members) : Except Str Unit :=
  if !(Json.sortable (.dict arguments) && Json.sortable (.dict result)) then
    .error (Str.lit "'<' not supported between instances")
  else if dispatcher.hasLedger then surroundings.ledgerLog count
  else .ok ()

/-- `result.setdefault("profile", self.profile)`. -/
def withProfile (profile : Profile) (result : Members) : Members :=
  match result.lookup (Str.lit "profile") with
  | some _ => result
  | none => result ++ .of [("profile", Value.lit profile.text)]

/-- The result and the validated arguments, or the exception. -/
def Dispatcher.dispatch (dispatcher : Dispatcher) (surroundings : Surroundings) (name : Str)
    (args : Members) (authorization : Option VerifiedDelegatedCall) :
    Delegating (Members × Members) := do
  if dispatcher.profile.governed && isProtected name && authorization.isNone then
    throw (Str.lit
      "final actuation requires an owner-signed delegation grant and agent-signed action proof")
  let validated ← dispatcher.registry.validate dispatcher.builtins name args
  let handle (count : Nat) (effective : Members) : Delegating Members :=
    dispatcher.handle (surroundings.attempts count) name effective authorization
  match dispatcher.agtControl with
  | none =>
      let result ← handle 0 validated
      return (result, validated)
  | some control =>
      if surroundings.inEventLoop then
        throw (Str.lit "synchronous AGT dispatch cannot run inside an active event loop")
      runTool handle (control name validated) 0 none

/-- `__execute_tool`: failures are reported, not raised. -/
def Dispatcher.executeTool (dispatcher : Dispatcher) (surroundings : Surroundings) (name : Str)
    (args : Members) (authorization : Option VerifiedDelegatedCall) : Delegating Members := do
  let outcome ← attempt do
    let done ← dispatcher.dispatch surroundings name args authorization
    let result := withProfile dispatcher.profile done.1
    dispatcher.recordAudit surroundings 0 done.2 result
    return result
  match outcome with
  | .ok result =>
      return .of [("ok", .bool true), ("tool", .str name), ("result", .dict result)]
  | .error raised =>
      let error := Value.str (raised.take 512)
      dispatcher.recordAudit surroundings 1 args (.of [("error", error)])
      return .of [("ok", .bool false), ("tool", .str name), ("error", error)]

/-- `call_tool`. -/
def Dispatcher.callTool (dispatcher : Dispatcher) (surroundings : Surroundings) (name : Str)
    (args : Members) : Delegating Members :=
  dispatcher.executeTool surroundings name args none

/-! `call_delegated_tool`. -/

structure DelegatedRequest where
  name : Str
  arguments : Value
  grant : DelegationGrant
  proof : AgentActionProof
  payload : Bytes
  sessionId : Str

/-- The checks that need nothing but the request: the isolated call. -/
def DelegatedRequest.bind (request : DelegatedRequest) :
    Except Str (Members × VerifiedDelegatedCall) := do
  match Json.loadBytes request.payload with
  | none => throw (Str.lit "delegated call payload is not canonical JSON")
  | some signedCall =>
      demand (canonicalBytes signedCall = some request.payload)
        "delegated call payload is not canonical JSON"
      demand ((signedCall.getD "tool" .null).eqv (.str request.name))
        "delegated payload does not bind the requested MCP tool"
      demand ((signedCall.getD "arguments" .null).eqv request.arguments &&
          (signedCall.getD "sessionId" .null).eqv (.str request.sessionId))
        "delegated payload does not bind the MCP arguments and session"
      match ((signedCall.get? "arguments").bind canonicalBytes).bind Json.loadBytes,
          request.grant.isolated, request.proof.isolated with
      | some (.dict arguments), some grant, some proof =>
          demand (proof.action = request.name) "action proof does not name the requested MCP tool"
          demand (proof.payloadSha256 = payloadDigest request.payload)
            "action proof does not bind the delegated payload"
          return (arguments, ⟨grant, proof, request.payload, request.sessionId⟩)
      | some _, some _, some _ => throw (Str.lit "delegated MCP arguments must be an object")
      | _, _, _ => throw (Str.lit "delegated call contains invalid signed objects")

/-- The result of a completed action, when all that is stored with it still agrees. -/
def Dispatcher.recover (dispatcher : Dispatcher) (surroundings : Surroundings)
    (identity : AgentIdentity) (authorization : VerifiedDelegatedCall) (row : ReplayRow) :
    Except Str Members := do
  let proof := authorization.proof
  let receiptValue := row.receiptJson.bind Json.loads
  let resultValue := row.resultJson.bind Json.loads
  demand (authorization.tuple = some row.tuple && receiptValue.any Value.truthy &&
      resultValue.any Value.truthy)
    "stored delegated completion tuple does not match"
  match receiptValue, resultValue with
  | some storedReceipt, some (.dict storedResult) =>
      match DelegatedActionReceipt.ofDict storedReceipt with
      | none => throw (Str.lit "stored delegated completion receipt is invalid")
      | some receipt =>
          match verifyDelegatedReceipt dispatcher.verifiers receipt {
              executorPublicKey := identity.publicKey
              grantId := row.tuple.grantId
              proofId := row.tuple.proofId
              actionId := proof.actionId
              action := proof.action
              delegatedAgentId := proof.agentId
              resultStatus := Str.lit row.outcome.text
              target := proof.target
              result := .dict (Members.erase (Str.lit "delegated_receipt") storedResult)
              ledgerHead := row.ledgerHead.getD [] } with
          | none => throw (Str.lit "stored delegated completion receipt is invalid")
          | some (.error reason) =>
              throw (Str.lit "stored delegated completion receipt failed verification: " ++
                Str.lit reason)
          | some (.ok ()) =>
              demand (← surroundings.containsVerifiedHash receipt.ledgerHead)
                "stored receipt ledger head is not in the verified ledger"
              demand ((Members.lookup (Str.lit "delegated_receipt") storedResult).any
                  receipt.toDict.eqv)
                "stored result and delegated receipt disagree"
              return storedResult
  | _, _ => throw (Str.lit "stored delegated completion receipt is invalid")

/-- The tail of `call_delegated_tool`: actuate, sign and finalise. -/
def Dispatcher.complete (dispatcher : Dispatcher) (surroundings : Surroundings)
    (identity : AgentIdentity) (arguments : Members) (authorization : VerifiedDelegatedCall) :
    Delegating Members := do
  let proof := authorization.proof
  let result ← dispatcher.executeTool surroundings proof.action arguments (some authorization)
  let succeeded := ((Value.dict result).getD "ok" .null).truthy
  let ledgerOk ← surroundings.ledgerStillSound
  demand ledgerOk "delegated completion audit ledger failed verification"
  let ledgerHead ← surroundings.ledgerHead
  let receipt ← orRaise (signDelegatedReceipt identity authorization.grant proof (.dict result)
    (if succeeded then "succeeded" else "failed") ledgerHead (.float surroundings.issuedAt))
    "delegated receipt is invalid"
  let stored := result ++ .of [("delegated_receipt", receipt.toDict)]
  let outcome ← attempt (SQLiteActionReplayStore.finish proof.actionId succeeded
    (some receipt.toDict) ledgerHead (some (.dict stored)))
  match outcome with
  | .ok () => return stored
  | .error _ => throw (Str.lit "delegation outcome could not be durably finalized")

/-- A call whose authors are known. -/
structure AuthenticCall where
  identity : AgentIdentity
  arguments : Members
  authorization : VerifiedDelegatedCall
  issuerKey : Bytes

/-- What is checked before the replay store is read. -/
def Dispatcher.authenticate (dispatcher : Dispatcher) (surroundings : Surroundings)
    (request : DelegatedRequest) : Except Str AuthenticCall := do
  match dispatcher.delegationIdentity, dispatcher.hasBoundary with
  | some identity, true =>
      let (arguments, authorization) ← request.bind
      match ← surroundings.issuer authorization.grant.issuerKeyFingerprint with
      | none => throw (Str.lit "delegation issuer is not trusted")
      | some issuerKey =>
          demand dispatcher.hasLedger "delegated actuation requires a persistent audit ledger"
          demand (← surroundings.ledgerSound)
            "delegated actuation audit ledger failed preflight verification"
          match verifyHistoricalDelegatedAction dispatcher.verifiers authorization.grant
              authorization.proof request.payload issuerKey with
          | .error denial => throw (Str.lit "delegation denied: " ++ denial.message)
          | .ok () => return ⟨identity, arguments, authorization, issuerKey⟩
  | _, _ => throw (Str.lit "delegation boundary is not configured")

/-- What is checked of an action that has not been completed. -/
def Dispatcher.authorize (dispatcher : Dispatcher) (surroundings : Surroundings)
    (request : DelegatedRequest) (call : AuthenticCall) : Except Str ActionTuple := do
  let proof := call.authorization.proof
  let revocations ← surroundings.revocations
  match verifyDelegatedAction dispatcher.verifiers call.authorization.grant proof
      (.float surroundings.verifiedAt) request.payload call.issuerKey revocations with
  | .error denial => throw (Str.lit "delegation denied: " ++ denial.message)
  | .ok () =>
      let target ← surroundings.live.delegationTargetFor dispatcher.builtins request.name
        call.arguments
      demand ((Value.dict proof.target).eqv (.dict target))
        "action proof target does not match the live lease binding"
      orRaise call.authorization.tuple "surrogates not allowed"

/-- Verify, consume, actuate and sign at the final boundary. -/
def Dispatcher.callDelegatedTool (dispatcher : Dispatcher) (surroundings : Surroundings)
    (request : DelegatedRequest) : Delegating Members := do
  let call ← dispatcher.authenticate surroundings request
  let recovered ← SQLiteActionReplayStore.get call.authorization.proof.actionId
  match recovered.filter fun row => row.outcome ≠ .admitted with
  | some row => dispatcher.recover surroundings call.identity call.authorization row
  | none =>
      let tuple ← dispatcher.authorize surroundings request call
      let claimed ← SQLiteActionReplayStore.claim tuple surroundings.consumedAt
      demand claimed "delegation denied: action id has already been consumed"
      dispatcher.complete surroundings call.identity call.arguments call.authorization

end SelfConnect.Delegation
