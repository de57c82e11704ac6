import SelfConnect.Labels
import SelfConnect.Ledger.Segments

namespace SelfConnect.Observer

open SelfConnect.Python SelfConnect.Python.Json SelfConnect.Ledger

/-! Reading a ledger file for training evidence: the filter, the redaction and the
records. -/

inductive ObserverError
  | typeError
  | attributeError
  | requiresVerifier
  | integrityCheckFailed (message : Message)

/-- Criteria; an empty list is no restriction, except for the decisions. -/
structure ObserverFilter where
  allowedDecisions : List Str
  allowedPolicyIds : List Str
  maxClassification : Classification
  allowedActions : List Str
  allowedApprovalModes : List Str
  minSeq : Int
  allowedCaveats : List Str

/-- A value that a set can hold. -/
def hashable : Value → Bool
  | .list _ | .dict _ => false
  | _ => true

/-- `value in strings`, of a set. -/
def inSet (strings : List Str) (value : Value) : Except ObserverError Bool :=
  match value with
  | .str s => .ok (strings.contains s)
  | other => if hashable other then .ok false else .error .typeError

/-- `frozenset(value) <= allowed`. -/
def caveatsWithin (allowed : List Str) : Value → Except ObserverError Bool
  | .list items =>
      if items.all hashable then
        .ok (items.all fun item => (item.str?.map allowed.contains).getD false)
      else .error .typeError
  | .str s => .ok (s.all fun c => allowed.contains [c])
  | .dict members =>
      .ok (members.all fun entry =>
        match entry.1 with
        | .str key => allowed.contains key
        | _ => false)
  | _ => .error .typeError

/-- `value <= bound`. -/
def atMost (value : Value) (bound : Int) : Except ObserverError Bool :=
  match value.number? with
  | some number => .ok (number.lt (.finite bound) || number.eqv (.finite bound))
  | none => .error .typeError

/-- `entry.get("seq", 0) <= floor`. -/
def seqAtMost (entry : Value) (floor : Int) : Except ObserverError Bool :=
  if entry.isDict then atMost (entry.getD "seq" (.int 0)) floor else .error .attributeError

/-- `rank` of an entry's classification; `none` where it raises. -/
def entryRank (upper : Str → Str) (entry : Value) : Option Nat :=
  (entry.getD "classification" (Value.lit "UNCLASSIFIED")).str?.bind (rankOf upper)

/-- A restriction that does not apply when it is empty. -/
def admits (strings : List Str) (value : Value) : Except ObserverError Bool :=
  if strings.isEmpty then .ok true else inSet strings value

/-- Checks made in order, up to the first that fails or raises. -/
def allOf : List (Except ObserverError Bool) → Except ObserverError Bool
  | [] => .ok true
  | .ok true :: rest => allOf rest
  | .ok false :: _ => .ok false
  | .error raised :: _ => .error raised

theorem allOf_eq_true {checks : List (Except ObserverError Bool)}
    (holds : allOf checks = .ok true) : ∀ check ∈ checks, check = .ok true := by
  induction checks with
  | nil =>
      intro check member
      cases member
  | cons first rest ih =>
      cases first with
      | error raised => cases holds
      | ok value =>
          cases value with
          | false => cases holds
          | true =>
              intro check member
              rcases List.mem_cons.mp member with isFirst | below
              · exact isFirst
              · exact ih holds check below

def ObserverFilter.matches (upper : Str → Str) (filter : ObserverFilter) (entry : Value) :
    Except ObserverError Bool :=
  allOf [
    if entry.isDict then .ok true else .error .attributeError,
    inSet filter.allowedDecisions (entry.getD "decision" (Value.lit "")),
    admits filter.allowedApprovalModes (entry.getD "approval_mode" (Value.lit "")),
    admits filter.allowedPolicyIds (entry.getD "policy_id" (Value.lit "")),
    .ok ((entryRank upper entry).any fun rank => rank ≤ filter.maxClassification.rank),
    if filter.allowedCaveats.isEmpty then .ok true
    else caveatsWithin filter.allowedCaveats (entry.getD "caveats" (.list [])),
    admits filter.allowedActions (entry.getD "action" (Value.lit "")),
    (atMost (entry.getD "seq" (.int 0)) filter.minSeq).map not]

/-- Fields to delete, and fields to replace with a text. -/
structure RedactionConfig where
  removeFields : List Str
  maskFields : List (Str × Str)

namespace RedactionConfig

def maskField (members : Members) (masked : Str × Str) : Members :=
  if (Members.lookup masked.1 members).isSome then Members.set masked.1 (.str masked.2) members
  else members

def apply (redaction : RedactionConfig) (entry : Value) : Value :=
  match entry with
  | .dict members =>
      .dict (redaction.maskFields.foldl maskField
        (redaction.removeFields.foldl (fun members name => Members.erase name members) members))
  | other => other

end RedactionConfig

structure EvidenceRecord where
  seq : Value
  agentId : Value
  action : Value
  result : Value
  ts : Value
  policyId : Value
  classification : Value
  approvalMode : Value
  decision : Value
  operatorId : Value
  contextBefore : List Value
  raw : Value

/-- The record of an entry: its attributes as the ledger has them, and the redacted
entry. -/
def recordOf (redaction : RedactionConfig) (contextBefore : List Value) (entry : Value) :
    EvidenceRecord where
  seq := entry.getD "seq" (.int 0)
  agentId := entry.getD "agent_id" (Value.lit "")
  action := entry.getD "action" (Value.lit "")
  result := entry.getD "result" (Value.lit "")
  ts := entry.getD "ts" (.float (.finite .zero))
  policyId := entry.getD "policy_id" (Value.lit "")
  classification := entry.getD "classification" (Value.lit "UNCLASSIFIED")
  approvalMode := entry.getD "approval_mode" (Value.lit "autonomous")
  decision := entry.getD "decision" (Value.lit "")
  operatorId := entry.getD "operator_id" (Value.lit "")
  contextBefore := contextBefore
  raw := redaction.apply entry

/-- `_load_entries`; a line that does not parse is skipped. -/
def loadEntries (text : Text) : List Value :=
  (filledLines isNewline isSpace text).filterMap loads

structure LedgerObserver where
  filter : ObserverFilter
  redaction : RedactionConfig
  contextWindow : Nat
  unsafeUnverified : Bool

namespace LedgerObserver

variable (upper : Str → Str) (observer : LedgerObserver)

/-- The entries that the filter accepts; it may raise on one. -/
def acceptedEntries : List Value → Except ObserverError (List Value)
  | [] => .ok []
  | entry :: rest => do
      let isMatch ← observer.filter.matches upper entry
      let further ← acceptedEntries rest
      return if isMatch then entry :: further else further

/-- Of the entries in the window before an entry. -/
def contextOf (before : List Value) : Except ObserverError (List Value) :=
  observer.acceptedEntries upper (before.drop (before.length - observer.contextWindow))

/-- The loop over the entries; `before` are those it has passed. -/
def extractFrom (floor : Int) (before : List Value) :
    List Value → Except ObserverError (List EvidenceRecord)
  | [] => .ok []
  | entry :: rest => do
      if (← seqAtMost entry floor) then extractFrom floor (before ++ [entry]) rest
      else if !(← observer.filter.matches upper entry) then
        extractFrom floor (before ++ [entry]) rest
      else
        let context ← observer.contextOf upper before
        let further ← extractFrom floor (before ++ [entry]) rest
        return recordOf observer.redaction (context.map observer.redaction.apply) entry :: further

/-- `extract`, given what the verifier says; without a verifier only an observer that need
not verify goes on. -/
def extractWith (verdict : Option (Bool × Message)) (file : Option Text) (sinceSeq : Int) :
    Except ObserverError (List EvidenceRecord) :=
  match file, observer.unsafeUnverified, verdict with
  | none, _, _ => .ok []
  | some text, true, _ | some text, false, some (true, _) =>
      observer.extractFrom upper (max observer.filter.minSeq sinceSeq) [] (loadEntries text)
  | some _, false, some (false, message) => .error (.integrityCheckFailed message)
  | some _, false, none => .error .requiresVerifier

/-- `extract` on the active file of a ledger, with the ledger as the verifier. -/
def extract (verify : Ed25519Verify) (identity : AgentIdentity) (disk : Disk) (sinceSeq : Int) :
    Except ObserverError (List EvidenceRecord) :=
  let snapshot := verifySnapshot verify identity disk
  observer.extractWith upper (some (snapshot.valid, snapshot.message)) disk.active sinceSeq

/-- The filter accepts the entry. -/
def accepts (entry : Value) : Bool :=
  match observer.filter.matches upper entry with
  | .ok isMatch => isMatch
  | .error _ => false

theorem accepts_iff {entry : Value} :
    observer.accepts upper entry = true ↔ observer.filter.matches upper entry = .ok true := by
  unfold accepts
  cases observer.filter.matches upper entry with
  | error raised => exact iff_of_false Bool.false_ne_true fun same => by cases same
  | ok value =>
      constructor
      · intro same
        exact congrArg Except.ok same
      · intro same
        exact Except.ok.inj same

end LedgerObserver

end SelfConnect.Observer
