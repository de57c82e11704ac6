import SelfConnect.Provenance.Record
import SelfConnect.Python.File
import SelfConnect.Library.System

namespace SelfConnect.Replication

open SelfConnect.Python SelfConnect.Python.Json SelfConnect.Provenance SelfConnect.Library

/-! What a push reads of a record, and what it raises. -/

/-- The result of `int(value)`; `TypeError` and `ValueError` are caught together. -/
inductive Conversion
  | int (n : Int)
  | invalid
  | overflow

/-- Built-ins that rest on Unicode tables or on how each kind of value is laid out. -/
structure Builtins where
  isalnum : CodePoint → Bool
  str : Value → Str
  int : Value → Conversion

structure Builtins.Lawful (builtins : Builtins) : Prop where
  isalnum_slash : builtins.isalnum (CodePoint.ofChar '/') = false
  str_str : ∀ s, builtins.str (.str s) = s
  int_int : ∀ n, builtins.int (.int n) = .int n

inductive ReplicationError
  | forkDetected (sessionId : Str) (segmentNo : Int) (existing new : Str)
  | sealIndexMissingRoot (sessionId : Str) (segmentNo : Int)
  | sealIndexHeadFailed (text : Str)
  | sealIndexPutFailed (text : Str)
  | headFailed (text : Str)
  | putFailed (text : Str)
  | retentionReadbackFailed (text : Str)
  | retentionModeNotConfirmed
  | retentionDateNotConfirmed
  | retentionPeriodShorter
  deriving DecidableEq

namespace ReplicationError

private def segmentText (sessionId : Str) (segmentNo : Int) : Str :=
  Str.lit "session=" ++ sessionId ++ Str.lit " segment=" ++ Str.ofText (intText segmentNo)

def message : ReplicationError → Str
  | .forkDetected sessionId segmentNo existing new =>
      Str.lit "fork_detected: " ++ segmentText sessionId segmentNo ++ Str.lit " existing_root=" ++
        existing ++ Str.lit "… new_root=" ++ new ++ Str.lit "…"
  | .sealIndexMissingRoot sessionId segmentNo =>
      Str.lit "s3_seal_index_missing_root: " ++ segmentText sessionId segmentNo
  | .sealIndexHeadFailed text => Str.lit "s3_seal_index_head_failed: " ++ text
  | .sealIndexPutFailed text => Str.lit "s3_seal_index_put_failed: " ++ text
  | .headFailed text => Str.lit "s3_head_failed: " ++ text
  | .putFailed text => Str.lit "s3_put_failed: " ++ text
  | .retentionReadbackFailed text => Str.lit "s3_retention_readback_failed: " ++ text
  | .retentionModeNotConfirmed => Str.lit "s3_object_retention_mode_not_confirmed"
  | .retentionDateNotConfirmed => Str.lit "s3_object_retention_date_not_confirmed"
  | .retentionPeriodShorter => Str.lit "s3_object_retention_period_shorter_than_requested"

def isFork : ReplicationError → Bool
  | .forkDetected .. => true
  | _ => false

end ReplicationError

/-- A `ReplicationError`, or any other exception. -/
inductive PushRaised
  | replication (error : ReplicationError)
  | other

def PushRaised.isFork : PushRaised → Bool
  | .replication error => error.isFork
  | .other => false

/-- `record.get("payload", {})`, when the record is a dict and so is its payload. -/
def payloadOf (record : Value) : Option Members :=
  match record, record.getD "payload" (.dict []) with
  | .dict _, .dict payload => some payload
  | _, _ => none

/-- `"merkle_root" in payload`. -/
def merkleRootOf (record : Value) : Option Value :=
  (payloadOf record).bind (Members.lookup (Str.lit "merkle_root"))

def isSeal (record : Value) : Bool :=
  (merkleRootOf record).isSome

/-- A seal as recorders push it: a JSON object whose payload carries the root of a
segment. -/
structure SealRecord where
  value : Value
  root : Str
  json : IsJson value
  seq : Int
  numbered : value.get? "seq" = some (.int seq)
  carried : merkleRootOf value = some (.str root)
  filled : root ≠ []

/-! The witness that keeps its receipts in memory. -/

structure WitnessReceipt where
  sessionId : Str
  segmentNo : Int
  seq : Option Value
  root : Value
  isSeal : Bool
  ts : Datetime
  receiptId : Str

structure WitnessSink where
  sealStore : Str × Int → Option Value
  receipts : Str → Option WitnessReceipt

/-- `InMemoryWitnessSink.__init__`. -/
def WitnessSink.create : WitnessSink where
  sealStore _ := none
  receipts _ := none

structure WitnessTurn where
  now : Datetime
  token : Str

/-- `value[:16]` in an f-string, where the value can be sliced. -/
def rootExcerpt (builtins : Builtins) : Value → Option Str
  | .str s => some (s.take 16)
  | .list items => some (builtins.str (.list (items.take 16)))
  | _ => none

/-- A root that differs from the one in the store. -/
def WitnessSink.conflict (builtins : Builtins) (sink : WitnessSink) (sessionId : Str)
    (segmentNo : Int) (root : Value) : Option PushRaised :=
  match sink.sealStore (sessionId, segmentNo) with
  | none => none
  | some existing =>
      if existing.eqv root then none
      else
        match rootExcerpt builtins existing, rootExcerpt builtins root with
        | some existing, some new =>
            some (.replication (.forkDetected sessionId segmentNo existing new))
        | _, _ => some .other

/-- `InMemoryWitnessSink.push`. -/
def WitnessSink.push (builtins : Builtins) (turn : WitnessTurn) (sink : WitnessSink)
    (sessionId : Str) (segmentNo : Int) (record : Value) : Except PushRaised Str × WitnessSink :=
  match payloadOf record, canonicalHash record with
  | some _, some hash =>
      let root := (merkleRootOf record).getD (.str hash)
      match if isSeal record then sink.conflict builtins sessionId segmentNo root else none with
      | some raised => (.error raised, sink)
      | none =>
          (.ok turn.token,
            { sealStore :=
                if isSeal record then Function.update sink.sealStore (sessionId, segmentNo) root
                else sink.sealStore
              receipts := Function.update sink.receipts sessionId
                (some ⟨sessionId, segmentNo, record.get? "seq", root, isSeal record, turn.now,
                  turn.token⟩) })
  | _, _ => (.error .other, sink)

/-! The replica in files of a directory. -/

structure FileSink where
  files : Str → Option Text

/-- `f"{n:06d}"` and the like. -/
def paddedInt (width : Nat) : Int → Text
  | .ofNat n => zeroPadded width n
  | .negSucc n => '-' :: zeroPadded (width - 1) (n + 1)

def FileSink.sessionPath (sessionId : Str) : Str :=
  sessionId ++ Str.lit ".ndjson"

def FileSink.segmentPath (sessionId : Str) (segmentNo : Int) : Str :=
  sessionId ++ Str.lit ".seg" ++ Str.ofText (paddedInt 6 segmentNo) ++ Str.lit ".ndjson"

/-- `"merkle_root" in payload` for a payload of any kind; only dicts, lists and strings
can be searched. -/
def mentionsRoot : Value → Option Bool
  | .dict members => some (Members.lookup (Str.lit "merkle_root") members).isSome
  | .list items => some (items.any fun item => item.eqv (Value.lit "merkle_root"))
  | .str s => some (decide (Str.lit "merkle_root" <:+: s))
  | _ => none

/-- `FileReplicationSink.push`. The names of the directory are told apart by `locate`; a
segment is written aside and then put in place, so that it is there as a whole or not at
all. -/
def FileSink.push (builtins : Builtins) (locate : Str → Str) (write : Write) (sink : FileSink)
    (sessionId : Str) (segmentNo : Int) (record : Value) : Except PushRaised Str × FileSink :=
  match record.isDict, dumpsSorted .compact record,
    mentionsRoot (record.getD "payload" (.dict [])) with
  | true, some text, some isSeal =>
      let line := text ++ ['\n']
      let receipt := Str.lit "file:" ++ sessionId ++ Str.lit ":" ++
        builtins.str (record.getD "seq" (Value.lit "?"))
      if isSeal then
        let path := locate (FileSink.segmentPath sessionId segmentNo)
        if write.isDurable then (.ok receipt, ⟨Function.update sink.files path (some line)⟩)
        else (.error .other, sink)
      else
        let path := locate (FileSink.sessionPath sessionId)
        match write with
        | .refused => (.error .other, sink)
        | _ =>
            (if write.isDurable then .ok receipt else .error .other,
              ⟨Function.update sink.files path
                (some ((sink.files path).getD [] ++ write.kept line))⟩)
  | _, _, _ => (.error .other, sink)

end SelfConnect.Replication
