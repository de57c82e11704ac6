import SelfConnect.Delegation.Dispatch

namespace SelfConnect.Delegation

open SelfConnect.Python SelfConnect.Library SelfConnect.Revocation

/-! `ACPShim`, from the parsed prompt on. -/

def acpActionSchema : String := "selfconnect.acp.governed-action.v1"

def acpActionPayload (sessionId cwd tool : Str) (arguments : Members)
    (resourceLinks : List Value) : Option Bytes :=
  canonicalBytes (.object [
    ("schema", Value.lit acpActionSchema),
    ("sessionId", .str sessionId),
    ("cwd", .str cwd),
    ("tool", .str tool),
    ("arguments", .dict arguments),
    ("resourceLinks", .list resourceLinks)])

/-- A `GovernedRuntimeBackend`, or a backend that has `call_tool` alone. -/
inductive Backend
  | governedRuntime (dispatcher : Dispatcher)
  | plain (callTool : Str → Members → Except Str Members)

structure ACPShim where
  backend : Backend
  verifiers : Verifiers

structure PromptRequest where
  sessionId : Str
  cwd : Str
  cancelled : Bool
  tool : Value
  arguments : Value
  delegationGrant : Option DelegationGrant
  actionProof : Option AgentActionProof
  resourceLinks : List Value

/-- What a prompt meets before it reaches its backend, and what the backend meets. -/
structure PromptSurroundings where
  authenticated : Bool
  issuer : Str → Except Str (Option Bytes)
  revocations : Except Str RevocationState
  clock : PyFloat
  backend : Surroundings

/-- `GovernedRuntimeBackend.call_delegated_tool`. -/
def callGoverned (dispatcher : Dispatcher) (surroundings : Surroundings)
    (request : DelegatedRequest) : Delegating Members := do
  let result ← dispatcher.callDelegatedTool surroundings request
  if (Members.lookup (Str.lit "delegated_receipt") result).isNone then
    throw (Str.lit "governed runtime returned no signed completion receipt")
  return result

/-- The path of a tool that is not protected. -/
def callPlain (callTool : Str → Members → Except Str Members) (tool : Str) (arguments : Members)
    (tuple : ActionTuple) (now : PyFloat) : Delegating Members := do
  let claimed ← SQLiteActionReplayStore.claim tuple now
  demand claimed "delegation denied: action id has already been consumed"
  let begun ← SQLiteActionReplayStore.begin tuple
  demand begun "delegation denied: action was not admitted for execution"
  match callTool tool arguments with
  | .error _ =>
      SQLiteActionReplayStore.finish tuple.actionId false none [] none
      throw (Str.lit "governed backend rejected the action")
  | .ok result =>
      SQLiteActionReplayStore.finish tuple.actionId true none [] none
      return result

/-- What the client is told when the backend raised. -/
def rejection (raised : Str) : Str :=
  if raised.tails.any (Str.lit "already been consumed").isPrefixOf || raised = Str.lit "replay" then
    Str.lit "delegation denied: action id has already been consumed"
  else Str.lit "governed backend rejected the action"

/-- What a prompt checks before it turns to its backend. -/
def ACPShim.admit (shim : ACPShim) (surroundings : PromptSurroundings)
    (request : PromptRequest) : Except Str (Members × DelegatedRequest) := do
  match request.tool, request.arguments with
  | .str tool, .dict arguments =>
      if tool.isEmpty || 256 < tool.length then
        throw (Str.lit "governed action tool is invalid")
      match request.delegationGrant, request.actionProof with
      | some grant, some proof =>
          demand (proof.action = tool) "action proof does not name the requested tool"
          match ← surroundings.issuer grant.issuerKeyFingerprint with
          | none => throw (Str.lit "delegation issuer is not trusted")
          | some issuerKey =>
              let revocations ← surroundings.revocations
              let payload ← orRaise
                (acpActionPayload request.sessionId request.cwd tool arguments request.resourceLinks)
                "surrogates not allowed"
              match verifyDelegatedAction shim.verifiers grant proof (.float surroundings.clock)
                  payload issuerKey revocations with
              | .error denial => throw (Str.lit "delegation denied: " ++ denial.message)
              | .ok () =>
                  return (arguments,
                    ⟨tool, .dict arguments, grant, proof, payload, request.sessionId⟩)
      | _, _ => throw (Str.lit "delegation grant or action proof is invalid")
  | .str _, _ => throw (Str.lit "governed action arguments must be an object")
  | _, _ => throw (Str.lit "governed action tool is invalid")

/-- `_prompt`; a cancelled prompt has no result. -/
def ACPShim.prompt (shim : ACPShim) (surroundings : PromptSurroundings)
    (request : PromptRequest) : Delegating (Option Members) := do
  demand surroundings.authenticated "authentication required"
  if request.cancelled then
    return none
  let (arguments, delegated) ← shim.admit surroundings request
  match shim.backend with
  | .governedRuntime dispatcher =>
      match ← attempt (callGoverned dispatcher surroundings.backend delegated) with
      | .error raised => throw (rejection raised)
      | .ok result => return some result
  | .plain callTool =>
      if isProtected delegated.name then
        throw (Str.lit "protected action requires the exact governed runtime backend")
      let tuple ← orRaise (tupleOf delegated.grant delegated.proof delegated.sessionId)
        "surrogates not allowed"
      let result ← callPlain callTool delegated.name arguments tuple surroundings.clock
      return some result

/-! Dispatchers and shims at work on one replay store. -/

inductive DelegationCall
  | callTool (dispatcher : Dispatcher) (surroundings : Surroundings) (name : Str)
      (arguments : Members)
  | callDelegatedTool (dispatcher : Dispatcher) (surroundings : Surroundings)
      (request : DelegatedRequest)
  | prompt (shim : ACPShim) (surroundings : PromptSurroundings) (request : PromptRequest)

def DelegationCall.program : DelegationCall → Delegating (Option Members)
  | .callTool dispatcher surroundings name arguments =>
      some <$> dispatcher.callTool surroundings name arguments
  | .callDelegatedTool dispatcher surroundings request =>
      some <$> dispatcher.callDelegatedTool surroundings request
  | .prompt shim surroundings request => shim.prompt surroundings request

abbrev DelegationWorld (Ticket : Type) : Type :=
  Calls.World Ticket DelegationCall (ReplayDb Ticket) (Except Str (Option Members))
    ReplayRequest.Answer

/-- Any number of calls of any dispatchers and shims, which share a store that is empty at
first; a call may crash between any two of its requests. -/
def delegations (Ticket : Type) [DecidableEq Ticket] :
    System (DelegationWorld Ticket) (Calls.Event Ticket DelegationCall Bool) :=
  Calls.calls ReplayDb.serve (fun call => call.program.run) fun db => db = ⟨.empty, []⟩

end SelfConnect.Delegation
