import SelfConnect.Delegation.Receipts
import SelfConnect.Library.Calls
import SelfConnect.Python.Dict

namespace SelfConnect.Delegation

open SelfConnect.Python SelfConnect.Library

/-! `SQLiteActionReplayStore`: every statement is a transaction of its own. -/

structure ActionTuple where
  actionId : Str
  grantId : Str
  proofId : Str
  sessionId : Str
  deriving DecidableEq

inductive Outcome
  | admitted
  | succeeded
  | failed
  deriving DecidableEq

def Outcome.text : Outcome → String
  | .admitted => "admitted"
  | .succeeded => "succeeded"
  | .failed => "failed"

structure ReplayRow where
  tuple : ActionTuple
  consumedAt : PyFloat
  outcome : Outcome
  receiptJson : Option Text
  ledgerHead : Option Str
  resultJson : Option Text
  actuatorStarted : Bool

/-- `_VerifiedDelegatedCall`. -/
structure VerifiedDelegatedCall where
  grant : DelegationGrant
  proof : AgentActionProof
  payload : Bytes
  sessionId : Str

def tupleOf (grant : DelegationGrant) (proof : AgentActionProof) (sessionId : Str) :
    Option ActionTuple := do
  let grantId ← grant.grantId
  let proofId ← proof.proofId
  return ⟨proof.actionId, grantId, proofId, sessionId⟩

def VerifiedDelegatedCall.tuple (authorization : VerifiedDelegatedCall) : Option ActionTuple :=
  tupleOf authorization.grant authorization.proof authorization.sessionId

/-- The body of a protected tool is entered. -/
structure Entry where
  tool : Str
  arguments : Members
  authorization : Option VerifiedDelegatedCall

/-- What has been done under a ticket, for the record. -/
inductive Happening
  | claimed (tuple : ActionTuple)
  | begun (tuple : ActionTuple)
  | finalised (actionId : Str)
  | entered (entry : Entry)
  | unanswered

/-- The table that all dispatchers and shims share, and the record. -/
structure ReplayDb (Ticket : Type) where
  rows : Dict Str ReplayRow
  happened : List (Ticket × Happening)

/-- The requests of a call: the statements of the store, and its entry into a body. -/
inductive ReplayRequest
  | get (actionId : Str)
  | claim (tuple : ActionTuple) (consumedAt : PyFloat)
  | begin (tuple : ActionTuple)
  | finish (actionId : Str) (outcome : Outcome) (receiptJson : Option Text)
      (ledgerHead : Option Str) (resultJson : Option Text)
  | enter (entry : Entry)

namespace ReplayRequest

/-- The row read, or whether `rowcount` is one. -/
def Result : ReplayRequest → Type
  | .get _ => Option ReplayRow
  | .claim _ _ | .begin _ | .finish _ _ _ _ _ => Bool
  | .enter _ => Unit

/-- `none` when the statement raised. -/
abbrev Answer (request : ReplayRequest) : Type := Option request.Result

end ReplayRequest

variable {Ticket : Type}

namespace ReplayDb

def record (db : ReplayDb Ticket) (ticket : Ticket) (happening : Happening) : ReplayDb Ticket :=
  { db with happened := db.happened ++ [(ticket, happening)] }

def put (db : ReplayDb Ticket) (actionId : Str) (row : ReplayRow) : ReplayDb Ticket :=
  { db with rows := db.rows.set actionId row }

/-- `INSERT OR IGNORE`. -/
def claim (db : ReplayDb Ticket) (ticket : Ticket) (tuple : ActionTuple) (consumedAt : PyFloat) :
    Bool × ReplayDb Ticket :=
  match db.rows.get? tuple.actionId with
  | some _ => (false, db)
  | none =>
      let row : ReplayRow := ⟨tuple, consumedAt, .admitted, none, none, none, false⟩
      (true, (db.put tuple.actionId row).record ticket (.claimed tuple))

/-- `UPDATE` of the row of the whole tuple, when it is admitted and not started. -/
def begin (db : ReplayDb Ticket) (ticket : Ticket) (tuple : ActionTuple) :
    Bool × ReplayDb Ticket :=
  match db.rows.get? tuple.actionId with
  | some row =>
      if row.tuple = tuple ∧ row.outcome = .admitted ∧ row.actuatorStarted = false then
        let started := { row with actuatorStarted := true }
        (true, (db.put tuple.actionId started).record ticket (.begun tuple))
      else (false, db)
  | none => (false, db)

/-- `UPDATE` of the row of an action that is admitted and started. -/
def finish (db : ReplayDb Ticket) (ticket : Ticket) (actionId : Str) (outcome : Outcome)
    (receiptJson : Option Text) (ledgerHead : Option Str) (resultJson : Option Text) :
    Bool × ReplayDb Ticket :=
  match db.rows.get? actionId with
  | some row =>
      if row.outcome = .admitted ∧ row.actuatorStarted = true then
        let finished := { row with
          outcome := outcome
          receiptJson := receiptJson
          ledgerHead := ledgerHead
          resultJson := resultJson }
        (true, (db.put actionId finished).record ticket (.finalised actionId))
      else (false, db)
  | none => (false, db)

/-- The statement works or raises; a body is entered in any case. -/
def serve (works : Bool) (ticket : Ticket) (db : ReplayDb Ticket) :
    (request : ReplayRequest) → request.Answer × ReplayDb Ticket
  | .get actionId =>
      if works then (some (db.rows.get? actionId), db) else (none, db.record ticket .unanswered)
  | .claim tuple consumedAt =>
      let done := db.claim ticket tuple consumedAt
      if works then (some done.1, done.2) else (none, db.record ticket .unanswered)
  | .begin tuple =>
      let done := db.begin ticket tuple
      if works then (some done.1, done.2) else (none, db.record ticket .unanswered)
  | .finish actionId outcome receiptJson ledgerHead resultJson =>
      let done := db.finish ticket actionId outcome receiptJson ledgerHead resultJson
      if works then (some done.1, done.2) else (none, db.record ticket .unanswered)
  | .enter entry => (some (), db.record ticket (.entered entry))

theorem serve_claim (ticket : Ticket) (db : ReplayDb Ticket) (tuple : ActionTuple)
    (consumedAt : PyFloat) : serve true ticket db (.claim tuple consumedAt) =
      (some (db.claim ticket tuple consumedAt).1, (db.claim ticket tuple consumedAt).2) := rfl

theorem serve_begin (ticket : Ticket) (db : ReplayDb Ticket) (tuple : ActionTuple) :
    serve true ticket db (.begin tuple) =
      (some (db.begin ticket tuple).1, (db.begin ticket tuple).2) := rfl

theorem serve_finish (ticket : Ticket) (db : ReplayDb Ticket) (actionId : Str)
    (outcome : Outcome) (receiptJson : Option Text) (ledgerHead : Option Str)
    (resultJson : Option Text) :
    serve true ticket db (.finish actionId outcome receiptJson ledgerHead resultJson) =
      (some (db.finish ticket actionId outcome receiptJson ledgerHead resultJson).1,
        (db.finish ticket actionId outcome receiptJson ledgerHead resultJson).2) := rfl

end ReplayDb

/-! Calls on the store raise the text of their exception. -/

abbrev Delegating (α : Type) : Type := ExceptT Str (Script ReplayRequest.Answer) α

/-- Run a program and hand its exception on as a value. -/
def attempt {α : Type} (p : Delegating α) : Delegating (Except Str α) :=
  ExceptT.mk do
    let outcome ← p.run
    return .ok outcome

def orRaise {α : Type} (value : Option α) (text : String) : Except Str α :=
  match value with
  | some a => .ok a
  | none => .error (Str.lit text)

/-- Raise unless the condition holds. -/
def demand (condition : Prop) [Decidable condition] (text : String) : Except Str Unit :=
  if condition then .ok () else .error (Str.lit text)

def execute (request : ReplayRequest) : Delegating request.Result :=
  ExceptT.mk do
    let answer ← Script.request request
    return orRaise answer "database is locked"

namespace SQLiteActionReplayStore

def get (actionId : Str) : Delegating (Option ReplayRow) :=
  execute (.get actionId)

/-- True exactly once for an action id. -/
def claim (tuple : ActionTuple) (consumedAt : PyFloat) : Delegating Bool := do
  demand (bounded tuple.actionId) "action_id is invalid"
  demand consumedAt.isFinite "consumed_at is invalid"
  execute (.claim tuple consumedAt)

def begin (tuple : ActionTuple) : Delegating Bool :=
  execute (.begin tuple)

/-- `json.dumps(dict(value), sort_keys=True, separators=(",", ":"), ensure_ascii=False)` of
what is given; what cannot be encoded has been refused when it was signed. -/
def dumped : Option Value → Except Str (Option Text)
  | none => .ok none
  | some value =>
      match Json.dumpsSorted .compactUnicode value with
      | some text => .ok (some text)
      | none => .error (Str.lit "'<' not supported between instances")

def finish (actionId : Str) (succeeded : Bool) (receipt : Option Value) (ledgerHead : Str)
    (result : Option Value) : Delegating Unit := do
  let outcome : Outcome := if succeeded then .succeeded else .failed
  let receiptJson ← dumped receipt
  let resultJson ← dumped result
  let head := if ledgerHead.isEmpty then none else some ledgerHead
  let updated : Bool ← execute (.finish actionId outcome receiptJson head resultJson)
  demand updated "replay-store action is missing or already finalized"

end SQLiteActionReplayStore

end SelfConnect.Delegation
