import SelfConnect.Replication.Sink
import SelfConnect.Library.Script

namespace SelfConnect.Replication

open SelfConnect.Python SelfConnect.Python.Json SelfConnect.Provenance SelfConnect.Library

/-! The sinks that keep their records in a bucket. -/

/-- `value.strip(chars)`. -/
def strip (chars : CodePoint → Bool) (s : Str) : Str :=
  (s.dropWhile chars).rdropWhile chars

/-- `value.encode("utf-8", errors="replace")`. -/
def encodeReplacing (s : Str) : Bytes :=
  encode (s.map fun c => if c.isSurrogate then '?' else Char.ofNat c.val)

section Keys

variable (builtins : Builtins)

/-- `_safe_s3_component`. -/
def safeS3Component (value : Str) : Str :=
  let clean := value.map fun c =>
    if builtins.isalnum c || (Str.lit "._-").contains c then c else CodePoint.ofChar '-'
  let clean := strip (fun c => (Str.lit ".-_").contains c) clean
  if clean.isEmpty then Str.ofText (hexText (sha256 (encodeReplacing value))) else clean

/-- `_s3_record_root`. -/
def s3RecordRoot (record : Value) : Option Str :=
  match payloadOf record with
  | none => none
  | some payload =>
      let root := (Members.lookup (Str.lit "merkle_root") payload).getD .null
      if root.truthy then some (builtins.str root) else canonicalHash record

def withPrefix (keyPrefix body : Str) : Str :=
  let part := strip (fun c => c == CodePoint.ofChar '/') keyPrefix
  if part.isEmpty then body else part ++ Str.lit "/" ++ body

/-- The directory of a segment. -/
def segmentDirectory (sessionId : Str) (segmentNo : Int) : Str :=
  safeS3Component builtins sessionId ++ Str.lit "/" ++ Str.lit "seg-" ++
    Str.ofText (paddedInt 6 segmentNo) ++ Str.lit "/"

/-- `_s3_object_key`. -/
def s3ObjectKey (keyPrefix sessionId : Str) (segmentNo : Int) (record : Value) : Option Str :=
  let keyOf := fun (seq : Int) (root : Str) =>
    withPrefix keyPrefix (segmentDirectory builtins sessionId segmentNo ++ Str.lit "seq-" ++
      Str.ofText (paddedInt 12 seq) ++ Str.lit "-" ++ root.take 16 ++ Str.lit ".json")
  match builtins.int (record.getD "seq" (.int 0)) with
  | .int seq => (s3RecordRoot builtins record).map (keyOf seq)
  | .invalid => (s3RecordRoot builtins record).map (keyOf 0)
  | .overflow => none

/-- `_s3_seal_index_key`. -/
def s3SealIndexKey (keyPrefix sessionId : Str) (segmentNo : Int) : Str :=
  withPrefix keyPrefix (segmentDirectory builtins sessionId segmentNo ++
    Str.lit "seal-index.json")

end Keys

/-! The client of the bucket. Instants are microseconds. -/

structure S3Object where
  root : Str
  lockMode : Option Str
  retainUntil : Option Int
  etag : Str

/-- An exception of the client; `code` is what `_error_code` finds in it. -/
structure ClientError where
  code : Str
  text : Str

/-- `_is_not_found_error`. -/
def ClientError.isNotFound (error : ClientError) : Bool :=
  (["404", "NoSuchKey", "NotFound", "NoSuchBucket"].map Str.lit).contains error.code

/-- `_is_precondition_error`. -/
def ClientError.isPrecondition (error : ClientError) : Bool :=
  (["412", "PreconditionFailed"].map Str.lit).contains error.code

/-- Reading the clock is a request too. -/
inductive S3Request
  | now
  | head (key : Str)
  | put (key root : Str) (lockMode : Option Str) (retainUntil : Option Int) (ifNoneMatch : Bool)

abbrev S3Response : S3Request → Type
  | .now => Int
  | .head _ => Except ClientError S3Object
  | .put .. => Except ClientError Str

abbrev Remote (α : Type) := ExceptT PushRaised (Script S3Response) α

def ask (request : S3Request) : Remote (S3Response request) :=
  ExceptT.lift (Script.request request)

def raiseReplication {α : Type} (error : ReplicationError) : Remote α :=
  throw (.replication error)

structure S3Config where
  objectLockMode : Str
  retentionDays : Int

namespace S3Config

def locks (config : S3Config) : Bool :=
  !config.objectLockMode.isEmpty

def day : Int := 86400000000

/-- When an object put at an instant may be overwritten. -/
def retainUntil (config : S3Config) (now : Int) : Int :=
  now + max 1 config.retentionDays * day

/-- Until when an object seen at an instant must be kept. -/
def minimum (config : S3Config) (now : Int) : Int :=
  now + (max 1 config.retentionDays - 1) * day

end S3Config

section Push

variable (builtins : Builtins) (config : S3Config)

/-- `_verify_s3_object_retention`. -/
def verifyS3ObjectRetention (head : S3Object) (mode : Str) (minimumRetainUntil : Int) :
    Except ReplicationError Unit :=
  if head.lockMode ≠ some mode then .error .retentionModeNotConfirmed
  else
    match head.retainUntil with
    | none => .error .retentionDateNotConfirmed
    | some retainUntil =>
        if retainUntil < minimumRetainUntil then .error .retentionPeriodShorter else .ok ()

/-- The retention of an object just seen, when the sink locks its objects. -/
def checkRetention (head : S3Object) : Remote (Except ReplicationError Unit) :=
  if config.locks then do
    let now ← ask .now
    pure (verifyS3ObjectRetention head config.objectLockMode (config.minimum now))
  else pure (.ok ())

/-- What is checked of a seal index that is there. -/
def checkSealHead (sessionId : Str) (segmentNo : Int) (root : Str) (head : S3Object) :
    Remote Unit := do
  match ← checkRetention config head with
  | .error error => raiseReplication error
  | .ok _ =>
      if head.root.isEmpty then raiseReplication (.sealIndexMissingRoot sessionId segmentNo)
      else if head.root ≠ root then
        raiseReplication
          (.forkDetected sessionId segmentNo (head.root.take 16) (root.take 16))
      else pure ()

/-- `_confirm_remote_seal_root`. -/
def confirmRemoteSealRoot (key sessionId : Str) (segmentNo : Int) (root : Str) : Remote Unit := do
  match ← ask (.head key) with
  | .error error => raiseReplication (.sealIndexHeadFailed error.text)
  | .ok head => checkSealHead config sessionId segmentNo root head

/-- `put_object` with the arguments of `_s3_object_lock_args`. -/
def putObject (key root : Str) (ifNoneMatch : Bool) : Remote (Except ClientError Str) :=
  if config.locks then do
    let now ← ask .now
    ask (.put key root (some config.objectLockMode) (some (config.retainUntil now)) ifNoneMatch)
  else ask (.put key root none none ifNoneMatch)

/-- `_ensure_s3_seal_index`. -/
def ensureS3SealIndex (keyPrefix sessionId : Str) (segmentNo : Int) (root : Str) :
    Remote Unit := do
  let key := s3SealIndexKey builtins keyPrefix sessionId segmentNo
  match ← ask (.head key) with
  | .ok head => checkSealHead config sessionId segmentNo root head
  | .error error =>
      if error.isNotFound then
        match ← putObject config key root true with
        | .error error =>
            if error.isPrecondition then confirmRemoteSealRoot config key sessionId segmentNo root
            else raiseReplication (.sealIndexPutFailed error.text)
        | .ok _ =>
            if config.locks then confirmRemoteSealRoot config key sessionId segmentNo root
            else pure ()
      else raiseReplication (.sealIndexHeadFailed error.text)

structure S3Receipt where
  key : Str
  etag : Str
  root : Str

/-- `str(etag).strip('"')`. -/
def receiptOf (key root etag : Str) : S3Receipt :=
  ⟨key, strip (fun c => c == CodePoint.ofChar '"') etag, root⟩

/-- The record itself: looked up, and put where it is not there yet. -/
def storeS3Record (key root : Str) (record : Value) : Remote S3Receipt := do
  match ← ask (.head key) with
  | .ok head =>
      match ← checkRetention config head with
      | .error error => raiseReplication (.headFailed error.message)
      | .ok _ => pure (receiptOf key root head.etag)
  | .error error =>
      if !error.isNotFound then raiseReplication (.headFailed error.text)
      else if (dumpsSorted .compact record).isNone then throw .other
      else
        match ← putObject config key root false with
        | .error error => raiseReplication (.putFailed error.text)
        | .ok etag =>
            if config.locks then
              match ← ask (.head key) with
              | .error error => raiseReplication (.retentionReadbackFailed error.text)
              | .ok head =>
                  match ← checkRetention config head with
                  | .error error => raiseReplication error
                  | .ok _ => pure (receiptOf key root etag)
            else pure (receiptOf key root etag)

structure S3Memory where
  sealStore : Str × Int → Option Str
  receipts : Str → Option S3Receipt

def S3Memory.create : S3Memory where
  sealStore _ := none
  receipts _ := none

/-- The check of a seal against the sink's own memory. -/
def S3Memory.conflict (memory : S3Memory) (sessionId : Str) (segmentNo : Int) (root : Str) :
    Except PushRaised Unit :=
  match memory.sealStore (sessionId, segmentNo) with
  | none => .ok ()
  | some existing =>
      if !existing.isEmpty && decide (existing ≠ root) then
        .error (.replication
          (.forkDetected sessionId segmentNo (existing.take 16) (root.take 16)))
      else .ok ()

def S3Memory.remember (memory : S3Memory) (sessionId : Str) (segmentNo : Int) (root : Str) :
    S3Memory :=
  { memory with sealStore := Function.update memory.sealStore (sessionId, segmentNo) (some root) }

theorem S3Memory.sealStore_remember (memory : S3Memory) (sessionId : Str) (segmentNo : Int)
    (root : Str) : (memory.remember sessionId segmentNo root).sealStore =
      Function.update memory.sealStore (sessionId, segmentNo) (some root) := rfl

/-- The steps a seal takes before its record is stored. -/
def sealS3Record (memory : S3Memory) (keyPrefix sessionId : Str) (segmentNo : Int) (root : Str) :
    Remote Unit := do
  ExceptT.mk (pure (memory.conflict sessionId segmentNo root))
  ensureS3SealIndex builtins config keyPrefix sessionId segmentNo root

abbrev S3Outcome := Except PushRaised S3Receipt × S3Memory

/-- The steps every record takes. -/
def finishS3Record (memory : S3Memory) (sessionId key root : Str) (record : Value) :
    Script S3Response S3Outcome := do
  match ← (storeS3Record config key root record).run with
  | .error raised => pure (.error raised, memory)
  | .ok receipt =>
      pure (.ok receipt,
        { memory with receipts := Function.update memory.receipts sessionId (some receipt) })

/-- `_push_s3_record`. -/
def pushS3Record (memory : S3Memory) (keyPrefix sessionId : Str) (segmentNo : Int)
    (record : Value) : Script S3Response S3Outcome := do
  match s3RecordRoot builtins record, s3ObjectKey builtins keyPrefix sessionId segmentNo record with
  | some root, some key =>
      if isSeal record then
        match ← (sealS3Record builtins config memory keyPrefix sessionId segmentNo root).run with
        | .error raised => pure (.error raised, memory)
        | .ok _ =>
            finishS3Record config (memory.remember sessionId segmentNo root) sessionId key root
              record
      else finishS3Record config memory sessionId key root record
  | _, _ => pure (.error .other, memory)

end Push

/-- What `push` returns for a receipt. -/
def S3Receipt.text (bucket : Str) (receipt : S3Receipt) : Str :=
  Str.lit "s3://" ++ bucket ++ Str.lit "/" ++ receipt.key ++ Str.lit "#" ++ receipt.etag

/-! The bucket. A request may fail before or after it took effect. -/

abbrev Bucket := Str → Option S3Object

structure S3Fault where
  error : ClientError
  applied : Bool

structure S3Turn where
  now : Int
  etag : Str
  fault : Option S3Fault

def notFound : ClientError := ⟨Str.lit "404", Str.lit "Not Found"⟩

def preconditionFailed : ClientError :=
  ⟨Str.lit "PreconditionFailed", Str.lit "At least one of the pre-conditions did not hold"⟩

def answerHead (turn : S3Turn) (bucket : Bucket) (key : Str) : Except ClientError S3Object :=
  match turn.fault, bucket key with
  | some fault, _ => .error fault.error
  | none, some object => .ok object
  | none, none => .error notFound

/-- A put on condition tests and writes at once. -/
def answerPut (turn : S3Turn) (bucket : Bucket) (key : Str) (object : S3Object)
    (ifNoneMatch : Bool) : Except ClientError Str × Bucket :=
  let refused := ifNoneMatch && (bucket key).isSome
  let written := if refused then bucket else Function.update bucket key (some object)
  match turn.fault with
  | some fault => (.error fault.error, if fault.applied then written else bucket)
  | none => (if refused then .error preconditionFailed else .ok turn.etag, written)

/-- The bucket's answer to one request. -/
def answer (turn : S3Turn) (bucket : Bucket) :
    (request : S3Request) → S3Response request × Bucket
  | .now => (turn.now, bucket)
  | .head key => (answerHead turn bucket key, bucket)
  | .put key root lockMode retainUntil ifNoneMatch =>
      answerPut turn bucket key ⟨root, lockMode, retainUntil, turn.etag⟩ ifNoneMatch

end SelfConnect.Replication
