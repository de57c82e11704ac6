import SelfConnect.Python.Json.Document
import SelfConnect.Python.Hashlib
import SelfConnect.Python.Datetime

namespace SelfConnect.Provenance

open SelfConnect.Python SelfConnect.Python.Json

def genesisHash : Str := Str.ofText (List.replicate 96 '0')

def recordVersionV2 : String := "selfconnect.provenance.record.v2"

inductive SessionState
  | opened
  | sealed
  | interrupted
  | reconstructed
  deriving DecidableEq

def SessionState.value : SessionState → String
  | .opened => "open"
  | .sealed => "sealed"
  | .interrupted => "interrupted"
  | .reconstructed => "reconstructed"

inductive SessionEventType
  | sessionOpen
  | sessionClose
  | sessionResume
  | sessionInterrupt
  | sessionReconstructed
  | heartbeat
  | toolCall
  | toolResult
  | shellExec
  | fileWrite
  | fileRead
  | networkRequest
  | agentSpawn
  | agentHandoff
  | meshMessage
  | approvalRequest
  | approvalGranted
  | approvalDenied
  | policyLoaded
  | auditModeChange
  | authSuccess
  | authFailure
  | policyViolation
  | telemetryGap
  | osEvent
  | checkpoint
  | merkleSeal
  | segmentSealed
  | replicationAck
  deriving DecidableEq

def SessionEventType.value : SessionEventType → String
  | .sessionOpen => "session_open"
  | .sessionClose => "session_close"
  | .sessionResume => "session_resume"
  | .sessionInterrupt => "session_interrupt"
  | .sessionReconstructed => "session_reconstructed"
  | .heartbeat => "heartbeat"
  | .toolCall => "tool_call"
  | .toolResult => "tool_result"
  | .shellExec => "shell_exec"
  | .fileWrite => "file_write"
  | .fileRead => "file_read"
  | .networkRequest => "network_request"
  | .agentSpawn => "agent_spawn"
  | .agentHandoff => "agent_handoff"
  | .meshMessage => "mesh_message"
  | .approvalRequest => "approval_request"
  | .approvalGranted => "approval_granted"
  | .approvalDenied => "approval_denied"
  | .policyLoaded => "policy_loaded"
  | .auditModeChange => "audit_mode_change"
  | .authSuccess => "auth_success"
  | .authFailure => "auth_failure"
  | .policyViolation => "policy_violation"
  | .telemetryGap => "telemetry_gap"
  | .osEvent => "os_event"
  | .checkpoint => "checkpoint"
  | .merkleSeal => "merkle_seal"
  | .segmentSealed => "segment_sealed"
  | .replicationAck => "replication_ack"

/-- `_PRIVILEGED_EVENT_TYPES`. -/
def SessionEventType.privileged : SessionEventType → Bool
  | .approvalGranted | .policyLoaded | .auditModeChange | .sessionClose => true
  | _ => false

inductive AuditMode
  | consumer
  | enterprise
  | military
  deriving DecidableEq

namespace AuditMode

def value : AuditMode → String
  | .consumer => "consumer"
  | .enterprise => "enterprise"
  | .military => "military"

def order : AuditMode → Nat
  | .consumer => 0
  | .enterprise => 1
  | .military => 2

def allowsDowngradeTo (mode target : AuditMode) : Bool :=
  mode.order ≤ target.order

/-- `mode in (AuditMode.ENTERPRISE, AuditMode.MILITARY)`. -/
def failsClosed : AuditMode → Bool
  | .consumer => false
  | .enterprise | .military => true

end AuditMode

/-! Canonical bytes leave out the recorder's signature, and for records that are
not version 2 the agent's as well. -/

/-- `value == text` for a looked-up value. -/
def isText (value : Option Value) (text : String) : Bool :=
  match value with
  | some (.str s) => s == Str.lit text
  | _ => false

def canonicalBytes : Value → Option Text
  | .dict members =>
      let unsigned := Members.erase (Str.lit "recorder_sig") members
      dumpsSorted .compact (.dict
        (if isText ((Value.dict members).get? "record_version") recordVersionV2 then unsigned
        else Members.erase (Str.lit "agent_sig") unsigned))
  | _ => none

/-- `hexdigest` of a canonical text, as a string. -/
def digest (text : Text) : Str :=
  Str.ofText (sha384Hex text)

def canonicalHash (record : Value) : Option Str :=
  (canonicalBytes record).map digest

/-! The record of one append. Its optional entries come last, the recorder's
signature after all others. -/

structure Draft where
  seq : Int
  now : Datetime
  sessionId : Str
  agentId : Str
  eventType : SessionEventType
  payload : Members
  prevHash : Str
  osCorroboration : Option Members
  signature : Option Bytes

namespace Draft

def fields (draft : Draft) : List (String × Value) :=
  [("record_version", Value.lit recordVersionV2),
    ("seq", .int draft.seq),
    ("ts", .str (Str.ofText draft.now.isoformat)),
    ("session_id", .str draft.sessionId),
    ("agent_id", .str draft.agentId),
    ("event_type", Value.lit draft.eventType.value),
    ("payload", .dict draft.payload),
    ("prev_hash", .str draft.prevHash)] ++
  (draft.osCorroboration.map fun corroboration =>
    ("os_corroboration", Value.dict corroboration)).toList ++
  (draft.signature.map fun signature =>
    ("agent_sig", Value.str (Str.ofText (hexText signature)))).toList

def unsigned (draft : Draft) : Value :=
  Value.object draft.fields

/-- The record as it is written. -/
def record (draft : Draft) (recorderSig : Option Bytes) : Value :=
  Value.object (draft.fields ++ (recorderSig.map fun signature =>
    ("recorder_sig", Value.str (Str.ofText (hexText signature)))).toList)

/-- The values a caller chose, all of them dicts. -/
def given (draft : Draft) : List Value :=
  .dict draft.payload :: (draft.osCorroboration.map Value.dict).toList


theorem fields_distinct (draft : Draft) : (draft.fields.map Prod.fst).Nodup := by
  unfold fields
  cases draft.osCorroboration <;> cases draft.signature <;> simp

private theorem recorderSig_fresh (draft : Draft) :
    ∀ field ∈ draft.fields, field.1 ≠ "recorder_sig" := by
  have names : "recorder_sig" ∉ draft.fields.map Prod.fst := by
    unfold fields
    cases draft.osCorroboration <;> cases draft.signature <;> simp
  intro field member equal
  exact names (List.mem_map.mpr ⟨field, member, equal⟩)

private theorem recordFields_distinct (draft : Draft) (recorderSig : Option Bytes) :
    ((draft.fields ++ (recorderSig.map fun signature =>
      ("recorder_sig", Value.str (Str.ofText (hexText signature)))).toList).map
        Prod.fst).Nodup := by
  cases recorderSig with
  | none =>
      rw [Option.map_none, Option.toList_none, List.append_nil]
      exact draft.fields_distinct
  | some signature =>
      rw [List.map_append, List.nodup_append]
      refine ⟨draft.fields_distinct, by simp, ?_⟩
      intro name member other otherMember
      obtain ⟨field, found, rfl⟩ := List.mem_map.mp member
      simp only [Option.map_some, Option.toList_some, List.map_cons, List.map_nil,
        List.mem_singleton] at otherMember
      rw [otherMember]
      exact draft.recorderSig_fresh field found

/-! What the canonical bytes of a record are, before it is written and after it is
read back. -/

private theorem filter_recordFields (f : Value → Value) (draft : Draft)
    (recorderSig : Option Bytes) :
    ((draft.fields ++ (recorderSig.map fun signature =>
      ("recorder_sig", Value.str (Str.ofText (hexText signature)))).toList).map
        fun field => (field.1, f field.2)).filter (fun field => decide (field.1 ≠ "recorder_sig")) =
      draft.fields.map fun field => (field.1, f field.2) := by
  have kept : (draft.fields.map fun field => (field.1, f field.2)).filter
      (fun field => decide (field.1 ≠ "recorder_sig")) =
        draft.fields.map fun field => (field.1, f field.2) := by
    apply List.filter_eq_self.mpr
    intro field member
    obtain ⟨original, found, rfl⟩ := List.mem_map.mp member
    simpa using draft.recorderSig_fresh original found
  rw [List.map_append, List.filter_append, kept]
  cases recorderSig <;> simp

private theorem canonicalBytes_object {fields : List (String × Value)}
    (version : isText ((Value.object fields).get? "record_version") recordVersionV2 = true) :
    canonicalBytes (Value.object fields) =
      dumpsSorted .compact
        (Value.object (fields.filter fun field => decide (field.1 ≠ "recorder_sig"))) := by
  change dumpsSorted .compact (.dict (if isText ((Value.object fields).get? "record_version")
    recordVersionV2 then _ else _)) = _
  rw [if_pos version, erase_object]
  rfl

theorem canonicalBytes_record (draft : Draft) (recorderSig : Option Bytes) :
    canonicalBytes (draft.record recorderSig) = dumpsSorted .compact draft.unsigned := by
  rw [record, canonicalBytes_object (by simp [fields, isText, Value.lit])]
  have filtered := filter_recordFields id draft recorderSig
  simp only [id, Prod.mk.eta, List.map_id'] at filtered
  rw [filtered]
  rfl

theorem build_reread_record (draft : Draft) (recorderSig : Option Bytes) :
    build (reread (draft.record recorderSig)) =
      Value.object ((draft.fields ++ (recorderSig.map fun signature =>
        ("recorder_sig", Value.str (Str.ofText (hexText signature)))).toList).map
          fun field => (field.1, build (reread field.2))) :=
  build_reread_object (draft.recordFields_distinct recorderSig)

theorem canonicalBytes_build_reread (draft : Draft) (recorderSig : Option Bytes) :
    canonicalBytes (build (reread (draft.record recorderSig))) =
      some (render .compact (sortKeys (build (reread draft.unsigned)))) := by
  rw [build_reread_record, canonicalBytes_object,
    filter_recordFields fun v => build (reread v), ← build_reread_object draft.fields_distinct]
  · exact if_pos (sortable_build_reread _)
  · simp [fields, isText, Value.lit, reread, build]

theorem sortable_unsigned_iff (draft : Draft) :
    sortable draft.unsigned = true ↔ ∀ v ∈ draft.given, sortable v = true := by
  rw [unsigned, sortable_object_iff]
  unfold fields given
  cases draft.osCorroboration <;> cases draft.signature <;> simp [Value.lit, sortable]

theorem keysStable_unsigned_iff (draft : Draft) :
    keysStable draft.unsigned = true ↔ ∀ v ∈ draft.given, keysStable v = true := by
  rw [unsigned, keysStable_object_iff draft.fields_distinct]
  unfold fields given
  cases draft.osCorroboration <;> cases draft.signature <;> simp [Value.lit]

/-- A record is hashed alike before it is written and after it is read exactly
when its caller's values keep the order of their keys. -/
theorem canonicalBytes_build_reread_iff (draft : Draft) (recorderSig : Option Bytes)
    (sorts : ∀ v ∈ draft.given, sortable v = true) :
    canonicalBytes (build (reread (draft.record recorderSig))) =
        canonicalBytes (draft.record recorderSig) ↔
      ∀ v ∈ draft.given, keysStable v = true := by
  rw [canonicalBytes_build_reread, canonicalBytes_record, dumpsSorted,
    if_pos (draft.sortable_unsigned_iff.mpr sorts), Option.some.injEq,
    render_sortKeys_build_reread_iff .compact rfl, keysStable_unsigned_iff]

end Draft

/-! The acknowledgement of a replicated record. Its sequence number is a string,
which keeps it out of the chain. -/

structure Ack where
  seq : Int
  now : Datetime
  sessionId : Str
  receipt : Str
  prevHash : Str

def Ack.value (ack : Ack) : Value :=
  Value.object
    [("seq", .str (Str.ofText ("ack-".toList ++ intText ack.seq))),
      ("ts", .str (Str.ofText ack.now.isoformat)),
      ("session_id", .str ack.sessionId),
      ("event_type", Value.lit SessionEventType.replicationAck.value),
      ("receipt", .str ack.receipt),
      ("prev_hash", .str ack.prevHash)]

/-- A line of the session log. -/
inductive Line
  | record (draft : Draft) (recorderSig : Option Bytes)
  | ack (receipt : Ack)

namespace Line

def value : Line → Value
  | .record draft recorderSig => draft.record recorderSig
  | .ack receipt => receipt.value

def draft? : Line → Option Draft
  | .record draft _ => some draft
  | .ack _ => none

def text (line : Line) : Text :=
  lineText .compact line.value

end Line

end SelfConnect.Provenance
