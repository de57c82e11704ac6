import SelfConnect.Library.Outcomes
import SelfConnect.Python.Codec
import SelfConnect.Python.Json.Datum

namespace SelfConnect.Governor

open SelfConnect.Python SelfConnect.Python.Json SelfConnect.Library

/-! The MCP governor: JSON-RPC messages, one on a line, in front of the governed tools. -/

def jsonrpcVersion : String := "2.0"

def legacyVersion : String := "2025-11-25"

def statelessVersion : String := "2026-07-28"

def supportedVersions : List String := [statelessVersion, legacyVersion]

def maxMessageBytes : Nat := 1048576

structure MCPGovernorError where
  code : Int
  message : String
  data : Option Value

/-- What ends the handling of a message: the governor's own error, any other `Exception`,
or an exception that is none. -/
inductive Failure
  | governor (error : MCPGovernorError)
  | internal
  | exits

def refused (code : Int) (message : String) : Failure := .governor ⟨code, message, none⟩

/-- The registry of `mcp_tools`: JSON documents, with a few levels each. -/
structure ToolTable where
  tools : List (Str × Value)
  shallow : ∀ tool ∈ tools, Fits 30 tool.2

/-- `dispatcher.call_tool`: what of its outcome is looked at. `error` is the text of
`outcome.get("error", "tool denied")`, `none` when `str` raises. -/
inductive ToolOutcome
  | raised
  | exits
  | notDict
  | returned (ok : Bool) (result : Datum) (error : Option Str)

/-- No key but these. -/
def hasOnly (members : Members) (allowed : List String) : Bool :=
  members.all fun entry => allowed.any fun name => entry.1 == .str (Str.lit name)

def member (members : Members) (key : String) : Value := (Value.dict members).getD key .null

def filledText : Value → Bool
  | .str s => !s.isEmpty
  | _ => false

/-- `_valid_implementation`. -/
def validImplementation : Value → Bool
  | .dict info => filledText (member info "name") && filledText (member info "version")
  | _ => false

/-- `_validate_message`. -/
def validateMessage (message : Value) : Except Failure (Str × Members) :=
  match message with
  | .dict members =>
      match member members "method" with
      | .str method =>
          if !(member members "jsonrpc").eqv (Value.lit jsonrpcVersion) then
            .error (refused (-32600) "invalid request")
          else if !hasOnly members ["jsonrpc", "id", "method", "params"] then
            .error (refused (-32600) "invalid request")
          else
            match message.getD "params" (.dict []) with
            | .dict params => .ok (method, params)
            | _ => .error (refused (-32602) "params must be an object")
      | _ => .error (refused (-32600) "invalid request")
  | _ => .error (refused (-32600) "invalid request")

def capabilities : Value := .object [("tools", .object [("listChanged", .bool false)])]

def serverInfo : Value :=
  .object [("name", Value.lit "selfconnect-mcp-governor"), ("version", Value.lit "1.0.0")]

def instructions : String :=
  "SelfConnect governed execution. Tool calls remain subject to signed policy, " ++
    "Cedar when configured, approval, revocation, target validation, and audit."

def unsupported (message : String) (requested : Value) : Failure :=
  .governor ⟨-32022, message, some (.object
    [("supported", .list (supportedVersions.map Value.lit)), ("requested", requested)])⟩

/-- `_initialize`, without the flag that it sets when it returns. -/
def initializeLegacy (params : Members) : Except Failure Datum :=
  if !hasOnly params ["protocolVersion", "capabilities", "clientInfo", "_meta"] then
    .error (refused (-32602) "invalid initialize parameters")
  else
    match member params "protocolVersion", member params "capabilities" with
    | .str version, .dict _ =>
        if !validImplementation (member params "clientInfo") then
          .error (refused (-32602) "invalid clientInfo")
        else if version = Str.lit statelessVersion then
          .error (unsupported "initialize is not used by the stateless protocol" (.str version))
        else
          .ok (.ofValue (.object
            [("protocolVersion", Value.lit legacyVersion), ("capabilities", capabilities),
              ("serverInfo", serverInfo), ("instructions", Value.lit instructions)]))
    | _, _ => .error (refused (-32602) "invalid initialize parameters")

/-- `_discovery`. -/
def discovery : Datum :=
  .ofValue (.object
    [("resultType", Value.lit "complete"),
      ("supportedVersions", .list (supportedVersions.map Value.lit)),
      ("capabilities", capabilities),
      ("_meta", .object [("io.modelcontextprotocol/serverInfo", serverInfo)]),
      ("instructions", Value.lit instructions),
      ("ttlMs", .int 300000),
      ("cacheScope", Value.lit "public")])

def versionKey : String := "io.modelcontextprotocol/protocolVersion"

/-- `_is_stateless`. -/
def isStateless (params : Members) : Bool :=
  ((member params "_meta").get? versionKey).isSome

/-- `_require_stateless_meta`. -/
def requireStatelessMeta (params : Members) : Except Failure Unit :=
  match member params "_meta" with
  | .dict metadata =>
      let requested := member metadata versionKey
      let clientInfo := member metadata "io.modelcontextprotocol/clientInfo"
      if !requested.eqv (Value.lit statelessVersion) then
        .error (unsupported "unsupported protocol version" requested)
      else if !(member metadata "io.modelcontextprotocol/clientCapabilities").isDict then
        .error (refused (-32602) "clientCapabilities must be an object")
      else if !clientInfo.eqv .null && !validImplementation clientInfo then
        .error (refused (-32602) "invalid clientInfo")
      else .ok ()
  | _ => .error (refused (-32602) "stateless requests require _meta")

/-- `_validate_list_params`. -/
def validateListParams (params : Members) : Except Failure Unit :=
  insist (hasOnly params ["_meta", "cursor"] && (member params "cursor").eqv .null)
    (refused (-32602) "pagination is not supported")

/-- What `_call_tool` asks before it calls the dispatcher. -/
def checkCall (table : ToolTable) (params : Members) : Except Failure Unit :=
  if !hasOnly params ["name", "arguments", "_meta"] then
    .error (refused (-32602) "invalid tool call parameters")
  else
    match member params "name", (Value.dict params).getD "arguments" (.dict []) with
    | .str name, .dict _ =>
        insist (table.tools.any fun tool => tool.1 == name) (refused (-32602) "unknown tool")
    | _, _ => .error (refused (-32602) "invalid tool call parameters")

def callResult (stateless ok : Bool) (payload : Datum) (serialized : Text) : Datum :=
  .object
    ([("content", .list [.object
        [("type", .lit "text"), ("text", .str (Str.ofText serialized))]]),
      ("structuredContent", payload), ("isError", .bool !ok)] ++
    if stateless then [("resultType", .lit "complete")] else [])

/-- What `_call_tool` makes of the outcome. `levels` is the room `json.dumps` has there. -/
def toolResult (levels : Nat) (stateless : Bool) (outcome : ToolOutcome) :
    Except Failure Datum := do
  let (ok, payload) ← match outcome with
    | .raised => .error .internal
    | .exits => .error .exits
    | .notDict => .error (refused (-32603) "dispatcher returned an invalid result")
    | .returned true result _ => .ok (true, result)
    | .returned false _ error =>
        (present error .internal).map fun text => (false, Datum.object [("error", .str text)])
  let serialized ← present (dumpsSortedWithin levels payload) .internal
  return callResult stateless ok payload serialized

/-- What every method but the first two asks first; it returns whether the call is
stateless. -/
def requireReady (initialized : Bool) (params : Members) : Except Failure Bool :=
  if isStateless params then (requireStatelessMeta params).map fun _ => true
  else if initialized then .ok false
  else .error (refused (-32000) "initialize must be called first")

def listTools (table : ToolTable) (stateless : Bool) : Datum :=
  .ofValue (.object ([("tools", .list (table.tools.map Prod.snd))] ++
    if stateless then
      [("resultType", Value.lit "complete"), ("ttlMs", .int 300000),
        ("cacheScope", Value.lit "public")]
    else []))

/-- `_dispatch`. -/
def dispatch (table : ToolTable) (levels : Nat) (initialized : Bool) (outcome : ToolOutcome)
    (method : Str) (params : Members) : Except Failure Datum :=
  if method = Str.lit "initialize" then initializeLegacy params
  else if method = Str.lit "server/discover" then
    (requireStatelessMeta params).map fun _ => discovery
  else do
    let stateless ← requireReady initialized params
    if method = Str.lit "tools/list" then
      (validateListParams params).map fun _ => listTools table stateless
    else if method = Str.lit "tools/call" then
      let _ ← checkCall table params
      toolResult levels stateless outcome
    else .error (refused (-32601) "method not found")

def response (requestId : Value) (key : String) (body : Datum) : Datum :=
  .object [("jsonrpc", .lit jsonrpcVersion), ("id", .ofValue requestId), (key, body)]

def MCPGovernorError.body (error : MCPGovernorError) : Value :=
  .object ([("code", .int error.code), ("message", Value.lit error.message)] ++
    (error.data.map fun data => ("data", data)).toList)

/-- `_parse_error`. -/
def parseError (message : String) : Datum :=
  response .null "error" (.ofValue (MCPGovernorError.body ⟨-32700, message, none⟩))

/-- `handle`: the flag `_legacy_initialized` afterwards and the response; `none` when an
exception leaves it. -/
def handle (table : ToolTable) (levels : Nat) (initialized : Bool) (outcome : ToolOutcome)
    (message : Value) : Option (Bool × Option Datum) :=
  let requestId := message.getD "id" .null
  let silent := message.isDict && (message.get? "id").isNone
  let answer (failure : Failure) : Option (Bool × Option Datum) :=
    match failure with
    | .exits => none
    | .governor error =>
        some (initialized, if silent then none
          else some (response requestId "error" (.ofValue error.body)))
    | .internal =>
        some (initialized, if silent then none
          else some (response requestId "error"
            (.ofValue (MCPGovernorError.body ⟨-32603, "internal error", none⟩))))
  match validateMessage message with
  | .error failure => answer failure
  | .ok (method, params) =>
      if method = Str.lit "notifications/initialized" then
        if initialized then some (initialized, none)
        else answer (refused (-32000) "initialize must be called first")
      else if silent then some (initialized, none)
      else
        match dispatch table levels initialized outcome method params with
        | .error failure => answer failure
        | .ok result =>
            some (initialized || method == Str.lit "initialize",
              some (response requestId "result" result))

/-- A line of the input, and what the dispatcher would answer to a call in it. -/
structure Turn where
  line : Str
  outcome : ToolOutcome

/-- Where a governor runs: the room its own `json.loads` and `json.dumps` have, the room that
is left further down in `_call_tool`, and the tools. -/
structure Setting where
  interpreter : Interpreter
  levels : Nat
  table : ToolTable

/-- The response to a line, and the flag afterwards; `none` when an exception leaves the
loop. -/
def respond (setting : Setting) (initialized : Bool) (turn : Turn) :
    Option (Bool × Option Datum) :=
  match turn.line.toText? with
  | none => none
  | some text =>
      if maxMessageBytes < (encode text).length then
        some (initialized, some (parseError "message exceeds size limit"))
      else
        match loadsWithin setting.interpreter text with
        | .error .decode => some (initialized, some (parseError "parse error"))
        -- neither is a `JSONDecodeError` or a `UnicodeError`
        | .error .digits => none
        | .error .recursion => none
        | .ok message => handle setting.table setting.levels initialized turn.outcome message

/-- One turn of the loop: what is written. -/
def serveLine (setting : Setting) (initialized : Bool) (turn : Turn) :
    Option (Bool × Option Text) :=
  match respond setting initialized turn with
  | none => none
  | some (next, none) => some (next, none)
  | some (next, some datum) =>
      (dumpsWithin setting.interpreter.nesting datum).map fun text => (next, some (text ++ ['\n']))

/-- `serve_stdio`: what it wrote for each line that it consumed, and whether it consumed
them all. -/
def serveStdio (setting : Setting) : Bool → List Turn → List (Option Text) × Bool
  | _, [] => ([], true)
  | initialized, turn :: rest =>
      match serveLine setting initialized turn with
      | none => ([], false)
      | some (next, written) =>
          let further := serveStdio setting next rest
          (written :: further.1, further.2)

end SelfConnect.Governor
