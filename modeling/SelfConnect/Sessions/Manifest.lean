import SelfConnect.Python.Json.Sorted
import SelfConnect.Provenance.Recorder

namespace SelfConnect.Sessions

open SelfConnect.Python SelfConnect.Python.Json SelfConnect.Library SelfConnect.Provenance

/-! The session index, an append-only file of signed and chained manifest entries. -/

/-- An entry that is read back holds whatever its line holds. -/
structure SessionManifestEntry where
  sessionId : Value
  agentId : Value
  auditMode : Value
  startedAt : Value
  logPath : Value
  firstEventHash : Value
  lastKnownSeq : Value
  lastHeartbeatTs : Value
  sessionState : Value
  closedAt : Value
  summary : Value
  remoteReceipt : Value
  prevHash : Value
  entryHash : Value

namespace SessionManifestEntry

/-- `to_dict`. -/
def fields (entry : SessionManifestEntry) : List (String × Value) :=
  [("session_id", entry.sessionId),
    ("agent_id", entry.agentId),
    ("audit_mode", entry.auditMode),
    ("started_at", entry.startedAt),
    ("log_path", entry.logPath),
    ("first_event_hash", entry.firstEventHash),
    ("last_known_seq", entry.lastKnownSeq),
    ("last_heartbeat_ts", entry.lastHeartbeatTs),
    ("session_state", entry.sessionState),
    ("closed_at", entry.closedAt),
    ("summary", entry.summary),
    ("remote_receipt", entry.remoteReceipt),
    ("prev_hash", entry.prevHash)]

def fromDict (d : Value) : SessionManifestEntry where
  sessionId := d.getD "session_id" (Value.lit "")
  agentId := d.getD "agent_id" (Value.lit "")
  auditMode := d.getD "audit_mode" (Value.lit AuditMode.consumer.value)
  startedAt := d.getD "started_at" (Value.lit "")
  logPath := d.getD "log_path" (Value.lit "")
  firstEventHash := d.getD "first_event_hash" .null
  lastKnownSeq := d.getD "last_known_seq" (.int 0)
  lastHeartbeatTs := d.getD "last_heartbeat_ts" .null
  sessionState := d.getD "session_state" (Value.lit SessionState.opened.value)
  closedAt := d.getD "closed_at" .null
  summary := d.getD "summary" .null
  remoteReceipt := d.getD "remote_receipt" .null
  prevHash := d.getD "prev_hash" (.str genesisHash)
  entryHash := d.getD "entry_hash" .null

end SessionManifestEntry

/-- An identity that signs the index; its name is plain text. -/
structure IndexIdentity extends Identity where
  agentId : Text

/-- What a reader of the file asks of its signatures. -/
structure IndexPolicy where
  publicKey : Option Bytes
  expectedAgentId : Option Str
  requireSignatures : Bool

inductive SessionIndexError
  | readFailed
  | jsonError (line : Nat)
  | notAnObject (line : Nat)
  | chainBreak (line : Nat)
  | hashMissing (line : Nat)
  | hashMismatch (line : Nat)
  | versionMissing (line : Nat)
  | keyMissing
  | signerMismatch (line : Nat)
  | publicKeyMismatch (line : Nat)
  | signatureInvalid (line : Nat)
  | emptySessionId
  | signingFailed
  | noSigningIdentity
  | writeFailed

inductive IndexRaised
  | sessionIndex (error : SessionIndexError)
  | osError
  | typeError

/-! Reading the file back. -/

/-- `{k: v for k, v in record.items() if k != key}`. -/
def without (key : String) : Value → Value
  | .dict members => .dict (Members.erase (Str.lit key) members)
  | v => v

def indexSigningBytes (record : Value) : Option Text :=
  if record.isDict then
    dumpsSorted .compact (without "entry_signature" (without "entry_hash" record))
  else none

def verifyIndexSignature (crypto : Crypto) (record : Value) (publicKey : Bytes) : Bool :=
  match hexBytes (record.get? "entry_signature"), indexSigningBytes record with
  | some signature, some payload =>
      if publicKey.length = 32 then
        crypto.ed25519Verify publicKey signature (encode payload)
      else if publicKey.length = 96 then
        crypto.cngVerify publicKey signature (encode payload)
      else false
  | _, _ => false

def checkIndexSignature (crypto : Crypto) (policy : IndexPolicy) (line : Nat) (record : Value) :
    Except SessionIndexError Unit :=
  if !policy.requireSignatures then .ok ()
  else if !(getOrNull record "index_record_version").eqv (.int 2) then .error (.versionMissing line)
  else
    match policy.publicKey with
    | none => .error .keyMissing
    | some publicKey =>
        if policy.expectedAgentId.any fun agentId =>
            !(getOrNull record "signer_agent_id").eqv (.str agentId) then
          .error (.signerMismatch line)
        else if !(getOrNull record "signer_public_key_hex").eqv
            (.str (Str.ofText (hexText publicKey))) then
          .error (.publicKeyMismatch line)
        else if !verifyIndexSignature crypto record publicKey then
          .error (.signatureInvalid line)
        else .ok ()

/-- One record of the file, after a record with the hash `previous`; returns its own. -/
def checkIndexRecord (crypto : Crypto) (policy : IndexPolicy) (line : Nat) (record : Value)
    (previous : Str) : Except IndexRaised Str :=
  if !record.isDict then .error (.sessionIndex (.notAnObject line))
  else if !(getOrNull record "prev_hash").eqv (.str previous) then
    .error (.sessionIndex (.chainBreak line))
  else
    match record.get? "entry_hash" with
    | some (.str storedHash) =>
        if storedHash.length ≠ 96 then .error (.sessionIndex (.hashMissing line))
        else
          match canonicalHash (without "entry_hash" record) with
          | none => .error .typeError
          | some hash =>
              if hash ≠ storedHash then .error (.sessionIndex (.hashMismatch line))
              else
                match checkIndexSignature crypto policy line record with
                | .error error => .error (.sessionIndex error)
                | .ok () => (canonicalHash record).elim (.error .typeError) .ok
    | _ => .error (.sessionIndex (.hashMissing line))

def checkIndexLine (crypto : Crypto) (policy : IndexPolicy) (found : List Value × Str)
    (numbered : Text × Nat) : Except IndexRaised (List Value × Str) :=
  if (stripText isSpace numbered.1).isEmpty then .ok found
  else
    match loads numbered.1 with
    | none => .error (.sessionIndex (.jsonError numbered.2))
    | some record =>
        match checkIndexRecord crypto policy numbered.2 record found.2 with
        | .ok hash => .ok (found.1 ++ [record], hash)
        | .error raised => .error raised

/-- `_validated_index_records`. -/
def validatedIndexRecords (crypto : Crypto) (policy : IndexPolicy) (file : Option Text) :
    Except IndexRaised (List Value × Str) :=
  match file with
  | none => .ok ([], genesisHash)
  | some text =>
      ((splitLines isLineBoundary text).zipIdx 1).foldlM (checkIndexLine crypto policy)
        ([], genesisHash)

end SelfConnect.Sessions
