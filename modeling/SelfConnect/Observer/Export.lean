import SelfConnect.Observer.Extract
import SelfConnect.Python.Codec
import SelfConnect.Replication.Sink

namespace SelfConnect.Observer

open SelfConnect.Python SelfConnect.Python.Json SelfConnect.Ledger SelfConnect.Replication

/-! What is written of a record: the training formats, and signed events. -/

section Formats

variable (builtins : Builtins) (repr : Value → Str)

namespace EvidenceRecord

/-- `e.get("action", "")`, which can be joined when it is a string. -/
def priorAction (entry : Value) : Except ObserverError Str :=
  match entry.getD "action" (Value.lit "") with
  | .str action => .ok action
  | _ => .error .typeError

def priorActions (record : EvidenceRecord) : Except ObserverError Str := do
  let actions ← record.contextBefore.mapM priorAction
  let joined := (actions.intersperse (Str.lit " → ")).flatten
  return if joined.isEmpty then Str.lit "(start)" else joined

def instruction (record : EvidenceRecord) : Str :=
  Str.lit "You are agent " ++ builtins.str record.agentId ++
    Str.lit " operating under policy " ++ repr record.policyId ++
    Str.lit ". Given the prior action sequence, determine what action was taken and its " ++
    Str.lit "result."

def outcome (record : EvidenceRecord) : Str :=
  builtins.str record.action ++ Str.lit ": " ++ builtins.str record.result

def toAlpaca (record : EvidenceRecord) : Except ObserverError Value := do
  let ctx ← record.priorActions
  return .object [
    ("instruction", .str (record.instruction builtins repr)),
    ("input", .str (Str.lit "Prior actions: " ++ ctx ++ Str.lit "\nClassification: " ++
      builtins.str record.classification)),
    ("output", .str (record.outcome builtins)),
    ("metadata", .object [
      ("seq", record.seq),
      ("policy_id", record.policyId),
      ("classification", record.classification),
      ("approval_mode", record.approvalMode),
      ("ts", record.ts)])]

private def message (role : String) (content : Str) : Value :=
  .object [("role", Value.lit role), ("content", .str content)]

def toChat (record : EvidenceRecord) : Except ObserverError Value := do
  let ctx ← record.priorActions
  return .object [
    ("messages", .list [
      message "system" (Str.lit "You are agent " ++ builtins.str record.agentId ++
        Str.lit " operating under policy " ++ repr record.policyId ++
        Str.lit " at classification level " ++ builtins.str record.classification ++ Str.lit "."),
      message "user" (Str.lit "Prior actions: [" ++ ctx ++
        Str.lit "]. What action was taken next?"),
      message "assistant" (record.outcome builtins)]),
    ("metadata", .object [
      ("seq", record.seq),
      ("policy_id", record.policyId),
      ("classification", record.classification),
      ("approval_mode", record.approvalMode)])]

end EvidenceRecord

inductive Format
  | alpaca
  | chat
  | raw

/-- `_format`. -/
def Format.apply (fmt : Format) (record : EvidenceRecord) : Except ObserverError Value :=
  match fmt with
  | .alpaca => record.toAlpaca builtins repr
  | .chat => record.toChat builtins repr
  | .raw => .ok record.raw

/-- The lines written, up to a record that has no format. -/
def writeRecords (fmt : Format) : List EvidenceRecord → Text × Option ObserverError
  | [] => ([], none)
  | record :: rest =>
      match fmt.apply builtins repr record with
      | .error raised => ([], some raised)
      | .ok document =>
          let further := writeRecords fmt rest
          (lineText .default document ++ further.1, further.2)

/-- `export_from_ledger`: what is put to the output file, and the number of records. -/
def exportFromLedger (upper : Str → Str) (observer : LedgerObserver) (fmt : Format)
    (verdict : Option (Bool × Message)) (file : Option Text) (sinceSeq : Int) :
    Text × Except ObserverError Nat :=
  match observer.extractWith upper verdict file sinceSeq with
  | .error raised => ([], .error raised)
  | .ok records =>
      let written := writeRecords builtins repr fmt records
      (written.1, match written.2 with
        | some raised => .error raised
        | none => .ok records.length)

end Formats

/-! Events. -/

def maxContentBytes : Nat := 1048576

def reservedTags : List Str :=
  [Str.lit "selfconnect-schema", Str.lit "source-sha256"]

inductive NostrError
  | observer (raised : ObserverError)
  | permission
  | conversion
  | value (text : String)

structure NostrEventSigner where
  publicKeyXonly : Bytes
  signSchnorr : Bytes → Bytes

mutual
/-- UTF-8 can encode every string inside. -/
def speakable : Value → Bool
  | .str s => encodable s
  | .list items => speakableItems items
  | .dict members => speakableMembers members
  | _ => true

def speakableItems : List Value → Bool
  | [] => true
  | v :: rest => speakable v && speakableItems rest

def speakableMembers : Members → Bool
  | [] => true
  | (k, v) :: rest => encodable k.text && speakable v && speakableMembers rest
end

/-- `_canonical_json`, before it is encoded. -/
def canonicalJson (value : Value) : Except NostrError Text :=
  if speakable value then .ok (render .compactUnicode value)
  else .error (.value "export value is not canonical JSON data")

def demandValue (condition : Bool) (text : String) : Except NostrError Unit :=
  if condition then .ok () else .error (.value text)

def validateTag (tag : List Value) : Except NostrError (List Str) := do
  demandValue (!tag.isEmpty && tag.length ≤ 16)
    "each tag must be a non-empty bounded string sequence"
  match tag.mapM Value.str? with
  | none => .error (.value "tag values must be bounded strings")
  | some values =>
      demandValue (values.all fun value => value.length ≤ 1024)
        "tag values must be bounded strings"
      demandValue (!(values.head?.any fun name => reservedTags.contains name))
        "caller cannot supply reserved export tags"
      return values

/-- `_validate_tags`. -/
def validateTags (tags : List (List Value)) : Except NostrError (List (List Str)) := do
  demandValue (tags.length ≤ 128) "tags must be a bounded sequence"
  tags.mapM validateTag

private def strings (values : List Str) : Value := .list (values.map Value.str)

private def hexValue (bytes : Bytes) : Value := .str (Str.ofText (hexText bytes))

/-- `export_verified_record`. -/
def exportVerifiedRecord (signer : NostrEventSigner) (sourceVerifier : Value → Bool)
    (record : Value) (createdAt kind : Int) (tags : List (List Value)) :
    Except NostrError Value := do
  demandValue (0 ≤ createdAt) "created_at must be a non-negative integer"
  demandValue (0 ≤ kind && kind ≤ 65535) "kind must be an integer from 0 through 65535"
  if sourceVerifier record then .ok () else .error .permission
  let callerTags ← validateTags tags
  let source ← canonicalJson record
  demandValue ((encode source).length ≤ maxContentBytes) "source record exceeds export size limit"
  let sourceHash := Str.ofText (sha256Hex source)
  let normalizedTags := Value.list ((callerTags ++ [
    [Str.lit "selfconnect-schema", Str.lit "selfconnect.nostr-evidence.v1"],
    [Str.lit "source-sha256", sourceHash]]).map strings)
  let content ← canonicalJson (.object [
    ("schema", Value.lit "selfconnect.nostr-evidence.v1"),
    ("sourceSha256", .str sourceHash),
    ("record", record)])
  demandValue (signer.publicKeyXonly.length == 32)
    "Nostr signer must expose a 32-byte x-only public key"
  let pubkey := hexValue signer.publicKeyXonly
  let serialized ← canonicalJson (.list [
    .int 0, pubkey, .int createdAt, .int kind, normalizedTags, .str (Str.ofText content)])
  let eventId := sha256 (encode serialized)
  let signature := signer.signSchnorr eventId
  demandValue (signature.length == 64) "Nostr signer must return a 64-byte Schnorr signature"
  return .object [
    ("id", hexValue eventId),
    ("pubkey", pubkey),
    ("created_at", .int createdAt),
    ("kind", .int kind),
    ("tags", normalizedTags),
    ("content", .str (Str.ofText content)),
    ("sig", hexValue signature)]

/-- The event of a record. -/
def exportRecord (builtins : Builtins) (signer : NostrEventSigner) (kind : Int)
    (record : EvidenceRecord) : Except NostrError Value :=
  match builtins.int record.ts with
  | .int createdAt =>
      exportVerifiedRecord signer (fun _ => true) record.raw createdAt kind [
        [Value.lit "source-seq", .str (builtins.str record.seq)],
        [Value.lit "source-agent", record.agentId],
        [Value.lit "classification", record.classification]]
  | _ => .error .conversion

/-- `export_from_verified_observer`. -/
def exportFromVerifiedObserver (builtins : Builtins) (upper : Str → Str)
    (observer : LedgerObserver) (signer : NostrEventSigner) (kind : Int)
    (verdict : Option (Bool × Message)) (file : Option Text) (sinceSeq : Int) :
    Except NostrError (List Value) :=
  if observer.unsafeUnverified || verdict.isNone then .error .permission
  else
    match observer.extractWith upper verdict file sinceSeq with
    | .error raised => .error (.observer raised)
    | .ok records => records.mapM (exportRecord builtins signer kind)

end SelfConnect.Observer
