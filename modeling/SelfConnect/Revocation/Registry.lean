import SelfConnect.Python.Value
import SelfConnect.Library.Transactions
import Mathlib.Data.Finset.Basic

namespace SelfConnect.Revocation

open SelfConnect.Python SelfConnect.Library

inductive TargetType
  | agent
  | grant
  deriving DecidableEq

inductive RevocationError
  | principal
  | text (name : String)
  | revokedAt
  | overflow
  | legacy
  | noRow
  | database

def RevocationError.message : RevocationError → Option String
  | .principal => some "agent revocation requires a canonical SCID principal"
  | .text name => some (name ++ " must be a bounded non-control string")
  | .revokedAt => some "revoked_at must be finite"
  | .legacy =>
      some "legacy or malformed agent revocation requires explicit full-key reconciliation"
  | .overflow | .noRow | .database => none

/-- `_validate_agent_principal`. -/
def isAgentPrincipal : Value → Bool
  | .str principal =>
      let digest := principal.drop 5
      (Str.lit "SCID-").isPrefixOf principal &&
        (digest.length == 64 || digest.length == 96) &&
        digest.all fun c => (Str.lit "0123456789abcdef").contains c
  | _ => false

def boundedText (name : String) : Value → Except RevocationError Str
  | .str text =>
      if text.isEmpty || 1024 < text.length || text.any (fun c => c.val < 32) then
        .error (.text name)
      else .ok text
  | _ => .error (.text name)

/-- `float(revoked_at)`, when it is finite. -/
def finiteTime : Value → Except RevocationError PyFloat
  | .int n =>
      let time := PyFloat.ofFloat (Float.ofInt n)
      if time.isFinite then .ok time else .error .overflow
  | .bool b => .ok (PyFloat.ofFloat (if b then 1 else 0))
  | .float time => if time.isFinite then .ok time else .error .revokedAt
  | _ => .error .revokedAt

/-! The tables. -/

structure RevocationRow where
  targetType : TargetType
  targetId : Str
  operatorId : Str
  reason : Str
  revokedAt : PyFloat
  epoch : Int

/-- The tables, where they exist, and the row of the first one, where it does. -/
structure RevocationDb where
  revocationMeta : Option (Option Int)
  revocation : Option (List RevocationRow)

namespace RevocationDb

def empty : RevocationDb := ⟨none, none⟩

def rows (db : RevocationDb) : List RevocationRow := db.revocation.getD []

/-- The stored epoch. -/
def epoch (db : RevocationDb) : Int := (db.revocationMeta.bind id).getD 0

end RevocationDb

inductive RegistryQuery
  | createMeta
  | insertMeta
  | createRevocation
  | selectAgents
  | selectExisting (targetType : TargetType) (targetId : Str)
  | bumpEpoch
  | insertRevocation (row : RevocationRow)
  | selectEpoch
  | selectRows

namespace RegistryQuery

def Result : RegistryQuery → Type
  | .createMeta | .insertMeta | .createRevocation | .insertRevocation _ => Unit
  | .selectAgents => List Str
  | .selectExisting _ _ | .bumpEpoch | .selectEpoch => Option Int
  | .selectRows => List (TargetType × Str)

def writes : RegistryQuery → Bool
  | .createMeta | .insertMeta | .createRevocation | .bumpEpoch | .insertRevocation _ => true
  | .selectAgents | .selectExisting _ _ | .selectEpoch | .selectRows => false

/-- What each statement does to the tables. -/
def exec (db : RevocationDb) : (query : RegistryQuery) → Option (query.Result × RevocationDb)
  | .createMeta => some ((), { db with revocationMeta := some (db.revocationMeta.getD none) })
  | .insertMeta =>
      -- OR IGNORE: an epoch that is there stays
      db.revocationMeta.map fun row => ((), { db with revocationMeta := some (some (row.getD 0)) })
  | .createRevocation => some ((), { db with revocation := some db.rows })
  | .selectAgents => db.revocation.map fun rows =>
      ((rows.filter fun row => row.targetType = .agent).map RevocationRow.targetId, db)
  | .selectExisting targetType targetId => db.revocation.map fun rows =>
      ((rows.find? fun row => row.targetType = targetType ∧ row.targetId = targetId).map
        RevocationRow.epoch, db)
  | .bumpEpoch =>
      match db.revocationMeta with
      | some (some epoch) =>
          -- STRICT: the sum of an epoch past the 64-bit range is no INTEGER
          if epoch + 1 < 2 ^ 63 then
            some (some (epoch + 1), { db with revocationMeta := some (some (epoch + 1)) })
          else none
      | some none => some (none, db)
      | none => none
  | .insertRevocation row => db.revocation.bind fun rows =>
      -- the primary key admits one row for each target
      if rows.any fun other => other.targetType = row.targetType ∧ other.targetId = row.targetId then
        none
      else some ((), { db with revocation := some (rows ++ [row]) })
  | .selectEpoch => db.revocationMeta.map fun row => (row, db)
  | .selectRows => db.revocation.map fun rows =>
      (rows.map fun row => (row.targetType, row.targetId), db)

end RegistryQuery

theorem RegistryQuery.exec_reads {s t : RevocationDb} {query : RegistryQuery}
    {result : query.Result} (reads : query.writes = false)
    (executed : query.exec s = some (result, t)) : t = s := by
  cases query with
  | createMeta | insertMeta | createRevocation | bumpEpoch | insertRevocation => cases reads
  | selectAgents | selectExisting | selectEpoch | selectRows =>
      obtain ⟨found, -, isAnswer⟩ := Option.map_eq_some_iff.mp executed
      exact (congrArg Prod.snd isAnswer).symm

def registrySchema : Schema RevocationDb RegistryQuery RegistryQuery.Result where
  exec := fun db query => query.exec db
  writes := RegistryQuery.writes
  exec_reads := RegistryQuery.exec_reads

/-! The calls. -/

structure RevocationState where
  epoch : Int
  revokedAgentKeyIds : Finset Str
  revokedGrantIds : Finset Str

abbrev Registering (α : Type) : Type :=
  ExceptT RevocationError (Script (@Command.Answer RegistryQuery RegistryQuery.Result)) α

/-- Execute a command; its failure is a database error. -/
def execute (command : Command RegistryQuery) : Registering (command.Result RegistryQuery.Result) :=
  ExceptT.mk do
    match ← Script.request command with
    | some result => pure (.ok result)
    | none => pure (.error .database)

/-- `int(cursor.fetchone()[0])`. -/
def theRow : Option Int → Registering Int
  | some epoch => pure epoch
  | none => throw .noRow

/-- `_reject_legacy_agent_rows`. -/
def rejectLegacyAgentRows : Registering Unit := do
  let rows : List Str ← execute (.query .selectAgents)
  unless rows.all fun targetId => isAgentPrincipal (.str targetId) do
    throw .legacy

/-- `RevocationRegistry.__init__`. -/
def connect : Registering Unit := do
  execute (.query .createMeta)
  execute (.query .insertMeta)
  execute (.query .createRevocation)
  rejectLegacyAgentRows

/-- The transaction of `_revoke`. -/
def revokeRow (targetType : TargetType) (targetId operatorId reason : Str) (revokedAt : PyFloat) :
    Registering Int := do
  let existing : Option Int ← execute (.query (.selectExisting targetType targetId))
  match existing with
  | some epoch =>
      execute .commit
      return epoch
  | none =>
      let bumped : Option Int ← execute (.query .bumpEpoch)
      let epoch ← theRow bumped
      execute (.query (.insertRevocation
        ⟨targetType, targetId, operatorId, reason, revokedAt, epoch⟩))
      execute .commit
      return epoch

/-- `_revoke`. -/
def revoke (targetType : TargetType) (targetId operatorId reason revokedAt : Value) :
    Registering Int := do
  let targetId ← boundedText "target_id" targetId
  let operatorId ← boundedText "operator_id" operatorId
  let reason ← boundedText "reason" reason
  let revokedAt ← finiteTime revokedAt
  execute .begin
  try
    revokeRow targetType targetId operatorId reason revokedAt
  catch raised =>
    execute .rollback
    throw raised

def revokeAgent (canonicalAgentId operatorId reason revokedAt : Value) : Registering Int := do
  unless isAgentPrincipal canonicalAgentId do
    throw .principal
  revoke .agent canonicalAgentId operatorId reason revokedAt

def revokeGrant (grantId operatorId reason revokedAt : Value) : Registering Int :=
  revoke .grant grantId operatorId reason revokedAt

/-- The identifiers of one type among the rows read. -/
def idsOf (targetType : TargetType) (rows : List (TargetType × Str)) : Finset Str :=
  ((rows.filter fun row => row.1 = targetType).map Prod.snd).toFinset

def snapshot : Registering RevocationState := do
  rejectLegacyAgentRows
  let stored : Option Int ← execute (.query .selectEpoch)
  let epoch ← theRow stored
  let rows : List (TargetType × Str) ← execute (.query .selectRows)
  return ⟨epoch, idsOf .agent rows, idsOf .grant rows⟩

inductive RegistryCall
  | connect
  | revokeAgent (canonicalAgentId operatorId reason revokedAt : Value)
  | revokeGrant (grantId operatorId reason revokedAt : Value)
  | snapshot

inductive RegistryReply
  | connected
  | epoch (epoch : Int)
  | state (state : RevocationState)

def RegistryCall.program : RegistryCall → Registering RegistryReply
  | .connect => (fun _ => .connected) <$> Revocation.connect
  | .revokeAgent canonicalAgentId operatorId reason revokedAt =>
      .epoch <$> Revocation.revokeAgent canonicalAgentId operatorId reason revokedAt
  | .revokeGrant grantId operatorId reason revokedAt =>
      .epoch <$> Revocation.revokeGrant grantId operatorId reason revokedAt
  | .snapshot => .state <$> Revocation.snapshot

abbrev RegistryWorld (Instance : Type) : Type :=
  World Instance RegistryCall RevocationDb RegistryQuery RegistryQuery.Result
    (Except RevocationError RegistryReply)

/-- Any number of registry instances on one database file, which is empty at first. -/
def registries (Instance : Type) [DecidableEq Instance] :
    System (RegistryWorld Instance) (Event Instance RegistryCall) :=
  clients registrySchema (fun call => call.program.run) fun db => db = .empty

end SelfConnect.Revocation
