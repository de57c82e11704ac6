import SelfConnect.Delegation.ReplayStore
import SelfConnect.Replication.Sink

namespace SelfConnect.Delegation

open SelfConnect.Python SelfConnect.Replication

/-! The target that an action's arguments mean, from the live leases and windows. -/

structure RuntimeLease where
  leaseId : Str
  agentId : Str
  hwnd : Int
  role : Str
  issuedAt : PyFloat
  expiresAt : PyFloat
  revoked : Bool
  targetPid : Int
  targetExe : Str
  targetExePath : Str
  targetClass : Str
  targetTitleHash : Str
  logicalTargetId : Str
  deriving DecidableEq

/-- `==` on leases. -/
def RuntimeLease.eqv (first second : RuntimeLease) : Bool :=
  first.leaseId == second.leaseId && first.agentId == second.agentId &&
  first.hwnd == second.hwnd && first.role == second.role &&
  (Number.ofFloat first.issuedAt).eqv (Number.ofFloat second.issuedAt) &&
  (Number.ofFloat first.expiresAt).eqv (Number.ofFloat second.expiresAt) &&
  first.revoked == second.revoked && first.targetPid == second.targetPid &&
  first.targetExe == second.targetExe && first.targetExePath == second.targetExePath &&
  first.targetClass == second.targetClass && first.targetTitleHash == second.targetTitleHash &&
  first.logicalTargetId == second.logicalTargetId

def RuntimeLease.isActive (lease : RuntimeLease) (now : PyFloat) : Bool :=
  !lease.revoked && (Number.ofFloat now).lt (Number.ofFloat lease.expiresAt)

/-- The lease as it was signed, and whether the signature verifies. -/
structure LeaseAuthority where
  lease : RuntimeLease
  authentic : Bool

structure ResolvedLogicalTarget where
  logicalId : Str
  hwnd : Int
  pid : Int
  exe : Str
  exePath : Str
  windowClass : Str
  title : Str

/-- The parts of `verifier_report` that are read. -/
def ResolvedLogicalTarget.verifierReport (target : ResolvedLogicalTarget) : Value :=
  .object [
    ("hwnd", .int target.hwnd),
    ("pid", .int target.pid),
    ("exe", .str target.exe),
    ("exe_path", .str target.exePath),
    ("class", .str target.windowClass),
    ("title", .str target.title)]

/-- What the dispatcher holds and what the desktop shows at one moment. -/
structure Live where
  now : PyFloat
  leases : Str → Option RuntimeLease
  authorities : Str → Option LeaseAuthority
  revoked : Str → Bool
  targetVerifier : Option (Int → Except Str Value)
  logicalTargetResolver : Option (Str → Str → Except Str ResolvedLogicalTarget)

def quoted (text : Str) : Str := Str.lit "'" ++ text ++ Str.lit "'"

/-- `_LeaseAuthorityStore.verify`. -/
def Live.verifyAuthority (live : Live) (requestedLeaseId : Str) (lease : RuntimeLease) :
    Except Str RuntimeLease :=
  if lease.leaseId ≠ requestedLeaseId then
    .error (Str.lit "lease storage key does not match the embedded signed lease id")
  else
    match live.authorities requestedLeaseId with
    | none => .error (Str.lit "lease issuance authority is missing")
    | some authority =>
        if !authority.authentic then
          .error (Str.lit "lease issuance authority signature is invalid")
        else if !lease.eqv authority.lease then
          .error (Str.lit "lease no longer matches its signed issuance authority")
        else if live.revoked requestedLeaseId then
          .error (Str.lit "lease issuance authority is revoked")
        else .ok authority.lease

/-- `_LEASE_TOOL_ROLES`. -/
def leaseToolRoles : List (String × List String) := [
  ("sc_inject_text", ["sender"]),
  ("sc_read_output", ["sender", "receiver", "observer"])]

def rolesOf (tool : Str) : Option (List Str) :=
  (leaseToolRoles.find? fun entry => Str.lit entry.1 = tool).map fun entry => entry.2.map Str.lit

/-- `_require_lease`. -/
def Live.requireLease (live : Live) (leaseId : Str) (hwnd : Int) (tool : Str) :
    Except Str RuntimeLease := do
  match live.leases leaseId with
  | none => throw (Str.lit "lease " ++ quoted leaseId ++ Str.lit " not found")
  | some lease =>
      unless lease.isActive live.now do
        throw (Str.lit "lease " ++ quoted leaseId ++ Str.lit " is expired or revoked")
      demand (hwnd = lease.hwnd) "lease is not bound to requested HWND"
      let authority ← live.verifyAuthority leaseId lease
      match rolesOf tool with
      | none =>
          throw (Str.lit "tool " ++ quoted tool ++ Str.lit " has no lease-role authorization contract")
      | some roles =>
          unless roles.contains authority.role do
            throw (Str.lit "lease role " ++ quoted authority.role ++
              Str.lit " is not authorized for " ++ tool)
          return lease

def RuntimeLease.delegationTarget (lease : RuntimeLease) : Members :=
  .of [
    ("lease_id", .str lease.leaseId),
    ("hwnd", .int lease.hwnd),
    ("pid", .int lease.targetPid),
    ("exe", .str lease.targetExe),
    ("exe_path", .str lease.targetExePath),
    ("class_name", .str lease.targetClass),
    ("title_sha256", .str lease.targetTitleHash),
    ("logical_target_id", .str lease.logicalTargetId)]

section Conversions

variable (builtins : Builtins)

/-- `int(value)`. -/
def intOf (value : Value) : Except Str Int :=
  match builtins.int value with
  | .int n => .ok n
  | .invalid => .error (Str.lit "invalid literal for int()")
  | .overflow => .error (Str.lit "cannot convert float infinity to integer")

/-- `value[key]`. -/
def item (value : Value) (key : String) : Except Str Value :=
  match value.get? key with
  | some found => .ok found
  | none => .error (quoted (Str.lit key))

/-- `_hash_text`. -/
def hashText (text : Str) : Except Str Str :=
  match text.toText? with
  | some text => .ok (Str.ofText (sha256Hex text))
  | none => .error (Str.lit "surrogates not allowed")

/-- `_verify_live_target`, with no lease to compare with. -/
def Live.verifyLiveTarget (live : Live) (hwnd : Int) : Except Str Value := do
  match live.targetVerifier with
  | none => throw (Str.lit "governed target verifier is unavailable")
  | some verifier =>
      let report ← verifier hwnd
      unless (report.getD "ok" .null).truthy do
        let reasons :=
          match report.getD "reasons" .null with
          | .list (first :: rest) => (first :: rest).map builtins.str
          | _ => [Str.lit "target verification failed"]
        throw (Str.lit "unsafe target: " ++ (reasons.intersperse (Str.lit "; ")).flatten)
      demand (["pid", "exe", "class"].all fun key => (report.getD key .null).truthy)
        "target verifier returned an incomplete identity binding"
      return report

/-- `_report_delegation_target`. -/
def reportDelegationTarget (report : Value) (hwnd : Int) : Except Str Members := do
  let pid ← intOf builtins (← item report "pid")
  let exe ← item report "exe"
  let className ← item report "class"
  let titleSha256 ← hashText (builtins.str (report.getD "title" (Value.lit "")))
  return .of [
    ("hwnd", .int hwnd),
    ("pid", .int pid),
    ("exe", .str (builtins.str exe)),
    ("exe_path", .str (builtins.str (report.getD "exe_path" (Value.lit "")))),
    ("class_name", .str (builtins.str className)),
    ("title_sha256", .str titleSha256),
    ("logical_target_id", Value.lit "")]

/-- What a lease request adds to its target. -/
def leaseRequest (arguments : Value) : Except Str Members := do
  let ttl ← intOf builtins (arguments.getD "ttl_seconds" (.int 300))
  return .of [
    ("agent_id", .str (builtins.str (arguments.getD "agent_id" (Value.lit "")))),
    ("role", .str (builtins.str (arguments.getD "role" (Value.lit "")))),
    ("ttl_seconds", .int ttl)]

/-- Derive the signed target from the arguments and the live lease authority. -/
def Live.delegationTargetFor (live : Live) (name : Str) (members : Members) :
    Except Str Members := do
  let arguments : Value := .dict members
  let leaseId := builtins.str (arguments.getD "lease_id" (Value.lit ""))
  if (rolesOf name).isSome then
    let hwnd ← intOf builtins (arguments.getD "hwnd" (.int 0))
    let lease ← live.requireLease leaseId hwnd name
    return lease.delegationTarget
  else if name = Str.lit "sc_revoke_lease" then
    match live.leases leaseId with
    | none => throw (Str.lit "lease to revoke does not exist")
    | some lease =>
        let canonical ← live.verifyAuthority lease.leaseId lease
        return canonical.delegationTarget
  else if name = Str.lit "sc_request_lease" then
    let hwnd ← intOf builtins (arguments.getD "hwnd" (.int 0))
    let report ← live.verifyLiveTarget builtins hwnd
    let given ← intOf builtins (← item arguments "hwnd")
    let target ← reportDelegationTarget builtins report given
    return target ++ (← leaseRequest builtins arguments)
  else if name = Str.lit "sc_request_target_lease" then
    match live.logicalTargetResolver, live.targetVerifier with
    | some resolve, some _ =>
        let resolved ← resolve (builtins.str (arguments.getD "logical_target_id" (Value.lit "")))
          (builtins.str (arguments.getD "role" (Value.lit "")))
        let target ← reportDelegationTarget builtins resolved.verifierReport resolved.hwnd
        return target.set (Str.lit "logical_target_id") (.str resolved.logicalId) ++
          (← leaseRequest builtins arguments)
    | _, _ => throw (Str.lit "logical target resolution is unavailable")
  else if name = Str.lit "sc_session_stamp" ∨ name = Str.lit "sc_channel_route" then
    let hwnd ← intOf builtins (arguments.getD "hwnd" (.int 0))
    let report ← live.verifyLiveTarget builtins hwnd
    let target ← reportDelegationTarget builtins report hwnd
    if name = Str.lit "sc_session_stamp" then
      return target ++ .of [("use_tpm", .bool (arguments.getD "use_tpm" (.bool false)).truthy)]
    else
      return target ++ .of [("preferred_channel",
        .str (builtins.str (arguments.getD "preferred_channel" (Value.lit "auto"))))]
  else if name = Str.lit "sc_identity_sign" then
    match fromHex (builtins.str (arguments.getD "payload_hex" (Value.lit ""))) with
    | none => throw (Str.lit "non-hexadecimal number found in fromhex() arg")
    | some payload =>
        return .of [
          ("payload_sha256", .str (payloadDigest payload)),
          ("key_provider", .str (builtins.str (arguments.getD "key_provider" (Value.lit "software"))))]
  else
    throw (Str.lit "protected tool " ++ quoted name ++ Str.lit " has no canonical delegation target")

end Conversions

end SelfConnect.Delegation
