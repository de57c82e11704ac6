import SelfConnect.Provenance.Agreement
import SelfConnect.Replication.Agreement
import SelfConnect.Python.Json.Sorted

namespace SelfConnect.Replication

open SelfConnect.Python SelfConnect.Python.Json SelfConnect.Provenance SelfConnect.Library

/-! What every sink promises: a root once stored stays, may be pushed again, and any
other is refused as a fork. -/

/-- What the surroundings of each kind of sink do during one push. -/
structure PushTurn where
  witness : WitnessTurn
  write : Write
  bucket : Nat → S3Turn

structure Deployment where
  builtins : Builtins
  locate : Str → Str
  bucketName : Str
  keyPrefix : Str

/-- A sink and the store it writes to. -/
inductive Sink
  | witness (sink : WitnessSink)
  | file (sink : FileSink)
  | s3 (config : S3Config) (memory : S3Memory) (bucket : Bucket)

inductive SinkLabel
  | push (turn : PushTurn) (sessionId : Str) (segmentNo : Int) (record : SealRecord)
  | restart (config : S3Config)

section Model

variable (d : Deployment)

namespace Sink

def push (turn : PushTurn) (sink : Sink) (sessionId : Str) (segmentNo : Int) (record : Value) :
    Except PushRaised Str × Sink :=
  match sink with
  | .witness sink =>
      let pushed := sink.push d.builtins turn.witness sessionId segmentNo record
      (pushed.1, .witness pushed.2)
  | .file sink =>
      let pushed := sink.push d.builtins d.locate turn.write sessionId segmentNo record
      (pushed.1, .file pushed.2)
  | .s3 config memory bucket =>
      let pushed := (pushS3Record d.builtins config memory d.keyPrefix sessionId segmentNo
        record).run (fun count => answer (turn.bucket count)) 0 bucket
      (pushed.1.1.map (S3Receipt.text d.bucketName), .s3 config pushed.1.2 pushed.2)

/-- A new process: what a sink keeps in memory is gone. -/
def restart (config : S3Config) : Sink → Sink
  | .witness _ => .witness .create
  | .file sink => .file sink
  | .s3 _ _ bucket => .s3 config .create bucket

/-- The root in a segment's file. -/
def rootOfText (text : Text) : Option Str :=
  (((filledLines isNewline isSpace text).head?.bind loads).bind merkleRootOf).bind Value.str?

/-- The root a sink has stored for a segment. -/
def stored : Sink → Str → Int → Option Str
  | .witness sink, sessionId, segmentNo =>
      (sink.sealStore (sessionId, segmentNo)).bind Value.str?
  | .file sink, sessionId, segmentNo =>
      (sink.files (d.locate (FileSink.segmentPath sessionId segmentNo))).bind rootOfText
  | .s3 _ _ bucket, sessionId, segmentNo =>
      (bucket (s3SealIndexKey d.builtins d.keyPrefix sessionId segmentNo)).bind fun object =>
        if object.root.isEmpty then none else some object.root

end Sink

def SinkLabel.next (sink : Sink) : SinkLabel → Sink
  | .push turn sessionId segmentNo record =>
      (sink.push d turn sessionId segmentNo record.value).2
  | .restart config => sink.restart config

/-- A sink whose store is empty. -/
def Sink.Fresh : Sink → Prop
  | .witness sink => sink = .create
  | .file sink => ∀ path, sink.files path = none
  | .s3 _ memory bucket => memory = .create ∧ ∀ key, bucket key = none

def sinkSystem (first : Sink) : System Sink SinkLabel where
  initial sink := sink = first ∧ first.Fresh
  next sink label t := t = label.next d sink

/-- A push honours the contract. -/
def Honours (sink : Sink) : SinkLabel → Prop
  | .push turn sessionId segmentNo record =>
      let pushed := sink.push d turn sessionId segmentNo record.value
      (sink.stored d sessionId segmentNo = some record.root →
        (∃ receipt, pushed.1 = .ok receipt) ∧ pushed.2.stored d = sink.stored d) ∧
      ∀ root, sink.stored d sessionId segmentNo = some root → root ≠ record.root →
        (∃ raised, pushed.1 = .error raised ∧ raised.isFork = true) ∧
          pushed.2.stored d sessionId segmentNo = some root
  | .restart _ => True

/-- Every request is answered, and none a day after another. -/
structure Prompt (turns : Nat → S3Turn) : Prop where
  answered : ∀ n, (turns n).fault = none
  sameDay : ∀ m n, (turns n).now ≤ (turns m).now + S3Config.day

/-- An object under a key, if any, is retained long enough at each moment of a push. -/
def Retained (config : S3Config) (turns : Nat → S3Turn) (bucket : Bucket) (key : Str) : Prop :=
  ∀ object, bucket key = some object → ∀ n,
    verifyS3ObjectRetention object config.objectLockMode (config.minimum (turns n).now) = .ok ()

/-- The pushes that a sink takes as the contract says. -/
def Accepts (sink : Sink) : SinkLabel → Prop
  | .push turn sessionId segmentNo record =>
      match sink with
      | .witness _ => True
      | .file _ =>
          sink.stored d sessionId segmentNo = none ∨
            sink.stored d sessionId segmentNo = some record.root ∧ turn.write.isDurable = true
      | .s3 config _ bucket => Prompt turn.bucket ∧ (config.locks = true →
          Retained config turn.bucket bucket
            (s3SealIndexKey d.builtins d.keyPrefix sessionId segmentNo) ∧
          ∀ key, s3ObjectKey d.builtins d.keyPrefix sessionId segmentNo record.value = some key →
            Retained config turn.bucket bucket key)
  | .restart _ => True

end Model

/-! What the sinks read of a seal. -/

namespace SealRecord

variable (record : SealRecord)

theorem payload : ∃ members, payloadOf record.value = some members ∧
    Members.lookup (Str.lit "merkle_root") members = some (.str record.root) := by
  have carried := record.carried
  unfold merkleRootOf at carried
  exact Option.bind_eq_some_iff.mp carried

theorem isSeal : isSeal record.value = true := by
  rw [Replication.isSeal, record.carried]
  rfl

theorem isDict : record.value.isDict = true := by
  obtain ⟨members, found, -⟩ := record.payload
  cases shape : record.value with
  | dict members => rfl
  | null | bool | int | float | str | list =>
      rw [shape] at found
      cases found

theorem hashes : ∃ hash, canonicalHash record.value = some hash := by
  have json := record.json
  have isDict := record.isDict
  cases shape : record.value with
  | dict members =>
      rw [shape] at json
      have unsigned := isJson_erase json (Str.lit "recorder_sig")
      rw [canonicalHash, canonicalBytes]
      split
      · rw [dumpsSorted_of_isJson unsigned]
        exact ⟨_, rfl⟩
      · rw [dumpsSorted_of_isJson (isJson_erase unsigned (Str.lit "agent_sig"))]
        exact ⟨_, rfl⟩
  | null | bool | int | float | str | list =>
      rw [shape] at isDict
      cases isDict

theorem dumps : dumpsSorted .compact record.value =
    some (render .compact (sortKeys record.value)) :=
  dumpsSorted_of_isJson record.json

theorem mentionsRoot :
    mentionsRoot (record.value.getD "payload" (.dict [])) = some true := by
  obtain ⟨members, found, carried⟩ := record.payload
  unfold payloadOf at found
  split at found
  · next payload _ isPayload =>
      cases found
      rw [isPayload, Replication.mentionsRoot, carried]
      rfl
  · cases found

theorem sortedPayload : ∃ members, payloadOf (sortKeys record.value) = some members ∧
    Members.lookup (Str.lit "merkle_root") members = some (.str record.root) := by
  have json := record.json
  obtain ⟨members, found, carried⟩ := record.payload
  unfold payloadOf at found
  split at found
  · next fields payload isRecord isPayload =>
      cases found
      have given : (Value.dict fields).get? "payload" = some (.dict members) := by
        cases isGiven : (Value.dict fields).get? "payload" with
        | none =>
            rw [Value.getD, isRecord, isGiven] at isPayload
            cases isPayload
            cases carried
        | some payload =>
            rw [Value.getD, isRecord, isGiven] at isPayload
            exact congrArg some isPayload
      rw [isRecord] at json ⊢
      have payloadJson : IsJson (.dict members) := by
        have inRecord := Members.mem_of_lookup given
        exact (isJsonMembers_iff.mp json.2 _ _ inRecord).2
      have sortedGiven : (Value.dict (sortMembers (sortValues fields))).getD "payload"
          (.dict []) = .dict (sortMembers (sortValues members)) := by
        change ((sortKeys (.dict fields)).get? "payload").getD _ = _
        rw [get?_sortKeys json, given]
        rfl
      refine ⟨sortMembers (sortValues members), ?_, ?_⟩
      · change payloadOf (.dict (sortMembers (sortValues fields))) = _
        unfold payloadOf
        rw [sortedGiven]
      · change (sortKeys (.dict members)).get? "merkle_root" = _
        rw [get?_sortKeys payloadJson]
        exact congrArg (Option.map sortKeys) carried
  · cases found

variable {builtins : Builtins} (lawful : builtins.Lawful)

include lawful

theorem s3RecordRoot : s3RecordRoot builtins record.value = some record.root := by
  obtain ⟨members, found, carried⟩ := record.payload
  have filled : (Value.str record.root).truthy = true := by
    simpa [Value.truthy] using record.filled
  rw [Replication.s3RecordRoot, found]
  dsimp only
  rw [carried, Option.getD_some, if_pos filled, lawful.str_str]

theorem s3ObjectKey (keyPrefix sessionId : Str) (segmentNo : Int) :
    ∃ key, s3ObjectKey builtins keyPrefix sessionId segmentNo record.value = some key := by
  unfold Replication.s3ObjectKey
  rw [Value.getD, record.numbered, Option.getD_some, lawful.int_int, record.s3RecordRoot lawful]
  exact ⟨_, rfl⟩

end SealRecord

/-! The witness in memory. -/

theorem WitnessSink.push_seal (builtins : Builtins) (turn : WitnessTurn) (sink : WitnessSink)
    (sessionId : Str) (segmentNo : Int) (record : SealRecord) :
    (∀ raised, sink.conflict builtins sessionId segmentNo (.str record.root) = some raised →
        sink.push builtins turn sessionId segmentNo record.value = (.error raised, sink)) ∧
      (sink.conflict builtins sessionId segmentNo (.str record.root) = none → ∃ receipts,
        sink.push builtins turn sessionId segmentNo record.value = (.ok turn.token,
          ⟨Function.update sink.sealStore (sessionId, segmentNo) (some (.str record.root)),
            receipts⟩)) := by
  obtain ⟨members, found, -⟩ := record.payload
  obtain ⟨hash, hashed⟩ := record.hashes
  rw [WitnessSink.push, found, hashed]
  dsimp only
  rw [record.isSeal, record.carried, if_pos rfl, if_pos rfl, Option.getD_some]
  constructor
  · intro raised isConflict
    rw [isConflict]
  · intro noConflict
    rw [noConflict]
    exact ⟨_, rfl⟩

/-- A seal is refused exactly when another root is stored. -/
theorem WitnessSink.conflict_seal {builtins : Builtins} {sink : WitnessSink} {sessionId : Str}
    {segmentNo : Int} {existing : Str} (root : Str)
    (isStored : sink.sealStore (sessionId, segmentNo) = some (.str existing)) :
    sink.conflict builtins sessionId segmentNo (.str root) =
      if existing = root then none
      else some (.replication (.forkDetected sessionId segmentNo (existing.take 16)
        (root.take 16))) := by
  rw [WitnessSink.conflict, isStored]
  dsimp only
  rw [Value.eqv]
  by_cases same : existing = root
  · rw [if_pos (beq_iff_eq.mpr same), if_pos same]
  · rw [if_neg (mt beq_iff_eq.mp same), if_neg same]
    rfl

variable {d : Deployment}

private theorem stored_witness {sink : WitnessSink} {sessionId : Str} {segmentNo : Int} {root : Str}
    (isStored : (Sink.witness sink).stored d sessionId segmentNo = some root) :
    sink.sealStore (sessionId, segmentNo) = some (.str root) := by
  obtain ⟨value, found, isRoot⟩ := Option.bind_eq_some_iff.mp isStored
  cases value with
  | str s =>
      cases isRoot
      exact found
  | null | bool | int | float | list | dict => cases isRoot

theorem honours_witness (turn : PushTurn) (sink : WitnessSink) (sessionId : Str)
    (segmentNo : Int) (record : SealRecord) :
    Honours d (.witness sink) (.push turn sessionId segmentNo record) := by
  obtain ⟨refused, accepted⟩ :=
    sink.push_seal d.builtins turn.witness sessionId segmentNo record
  constructor
  · intro isStored
    have inStore := stored_witness isStored
    obtain ⟨receipts, pushed⟩ := accepted (by rw [WitnessSink.conflict_seal _ inStore, if_pos rfl])
    have unchanged : Function.update sink.sealStore (sessionId, segmentNo)
        (some (.str record.root)) = sink.sealStore := by
      rw [← inStore, Function.update_eq_self]
    rw [Sink.push, pushed]
    refine ⟨⟨_, rfl⟩, ?_⟩
    funext session segment
    rw [Sink.stored, Sink.stored, unchanged]
  · intro root isStored differs
    have inStore := stored_witness isStored
    have pushed := refused _ (by rw [WitnessSink.conflict_seal _ inStore, if_neg differs])
    rw [Sink.push, pushed]
    exact ⟨⟨_, rfl, rfl⟩, isStored⟩

/-! The replica in files. -/

private theorem rootOfText_line (record : SealRecord) :
    Sink.rootOfText (render .compact (sortKeys record.value) ++ ['\n']) = some record.root := by
  have json := record.json
  have line : render .compact (sortKeys record.value) ++ ['\n'] =
      fileText .compact [sortKeys record.value] := by
    simp [fileText, lineText]
  have filled : filledLines isNewline isSpace (fileText .compact [sortKeys record.value]) =
      [render .compact (sortKeys record.value)] := by
    apply filledLines_fileText rfl boundary_isNewline rfl rfl
    intro v member
    rw [List.mem_singleton.mp member, isDict_sortKeys]
    exact record.isDict
  have root : merkleRootOf (sortKeys record.value) = some (.str record.root) := by
    obtain ⟨payload, found, carried⟩ := record.sortedPayload
    rw [merkleRootOf, found]
    exact carried
  rw [Sink.rootOfText, line, filled, List.head?_cons, Option.bind_some,
    loads_render_sortKeys rfl json, Option.bind_some, root]
  rfl

theorem honours_file {turn : PushTurn} {sink : FileSink} {sessionId : Str} {segmentNo : Int}
    {record : SealRecord}
    (accepts : Accepts d (.file sink) (.push turn sessionId segmentNo record)) :
    Honours d (.file sink) (.push turn sessionId segmentNo record) := by
  let path := d.locate (FileSink.segmentPath sessionId segmentNo)
  constructor
  · intro isStored
    have durable : turn.write.isDurable = true := by
      rcases accepts with unstored | same
      · rw [unstored] at isStored
        cases isStored
      · exact same.2
    have pushed : (Sink.file sink).push d turn sessionId segmentNo record.value =
        (.ok (Str.lit "file:" ++ sessionId ++ Str.lit ":" ++
            d.builtins.str (record.value.getD "seq" (Value.lit "?"))),
          .file ⟨Function.update sink.files path
            (some (render .compact (sortKeys record.value) ++ ['\n']))⟩) := by
      rw [Sink.push, FileSink.push, record.isDict, record.dumps, record.mentionsRoot]
      dsimp only
      rw [if_pos rfl, if_pos durable]
    rw [pushed]
    refine ⟨⟨_, rfl⟩, ?_⟩
    funext session segment
    rw [Sink.stored, Sink.stored]
    dsimp only
    by_cases same : d.locate (FileSink.segmentPath session segment) = path
    · rw [same, Function.update_self, Option.bind_some, rootOfText_line]
      exact Eq.symm isStored
    · rw [Function.update_of_ne same]
  · intro root isStored differs
    rcases accepts with unstored | same
    · rw [unstored] at isStored
      cases isStored
    · rw [same.1] at isStored
      exact absurd (Option.some.inj isStored).symm differs

/-! The bucket, when it answers every request of a push within a day. -/

variable {turns : Nat → S3Turn}

/-- What an answered `head_object` returns. -/
def lookedUp (bucket : Bucket) (key : Str) : Except ClientError S3Object :=
  match bucket key with
  | some object => .ok object
  | none => .error notFound

section Prompt

variable (prompt : Prompt turns) {α : Type} {post : Except PushRaised α → Bucket → Prop}
  {bucket : Bucket} {config : S3Config}

include prompt

private theorem alone_head {key : Str} {f : Except ClientError S3Object → Remote α}
    (alone : (f (lookedUp bucket key)).run.Alone (fun count => answer (turns count)) post bucket) :
    (ask (.head key) >>= f).run.Alone (fun count => answer (turns count)) post bucket := by
  intro count
  have answered : answerHead (turns count) bucket key = lookedUp bucket key := by
    rw [answerHead, prompt.answered, lookedUp]
    cases bucket key <;> rfl
  change (f (answerHead (turns count) bucket key)).run.Alone _ _ _
  rw [answered]
  exact alone

omit prompt in
private theorem alone_checkRetention {head : S3Object}
    {f : Except ReplicationError Unit → Remote α}
    (confirmed : config.locks = true → ∀ n, verifyS3ObjectRetention head config.objectLockMode
      (config.minimum (turns n).now) = .ok ())
    (alone : (f (.ok ())).run.Alone (fun count => answer (turns count)) post bucket) :
    (checkRetention config head >>= f).run.Alone (fun count => answer (turns count)) post
      bucket := by
  unfold checkRetention
  split
  · next locks =>
      intro count
      change (f (verifyS3ObjectRetention head config.objectLockMode
        (config.minimum (turns count).now))).run.Alone _ _ _
      rw [confirmed locks count]
      exact alone
  · exact alone

/-- An object put during the push is retained as long as the push asks. -/
private theorem alone_putObject {key root : Str} {f : Except ClientError Str → Remote α}
    (alone : ∀ object etag, (config.locks = true → ∀ n, verifyS3ObjectRetention object
        config.objectLockMode (config.minimum (turns n).now) = .ok ()) →
      (f (.ok etag)).run.Alone (fun count => answer (turns count)) post
        (Function.update bucket key (some object))) :
    (putObject config key root false >>= f).run.Alone (fun count => answer (turns count)) post
      bucket := by
  unfold putObject
  split
  · next locks =>
      intro count later
      have put : answerPut (turns later) bucket key ⟨root, some config.objectLockMode,
          some (config.retainUntil (turns count).now), (turns later).etag⟩ false =
          (.ok (turns later).etag, Function.update bucket key (some ⟨root,
            some config.objectLockMode, some (config.retainUntil (turns count).now),
            (turns later).etag⟩)) := by
        rw [answerPut, prompt.answered]
        rfl
      change (f (answerPut (turns later) bucket key ⟨root, some config.objectLockMode,
          some (config.retainUntil (turns count).now), (turns later).etag⟩ false).1).run.Alone _ _
        (answerPut (turns later) bucket key ⟨root, some config.objectLockMode,
          some (config.retainUntil (turns count).now), (turns later).etag⟩ false).2
      rw [put]
      apply alone
      intro _ n
      have kept : ¬ config.retainUntil (turns count).now < config.minimum (turns n).now := by
        have sameDay := prompt.sameDay count n
        unfold S3Config.retainUntil S3Config.minimum
        have days : (max 1 config.retentionDays - 1) * S3Config.day + S3Config.day =
            max 1 config.retentionDays * S3Config.day := by ring
        omega
      rw [verifyS3ObjectRetention, if_neg (by simp)]
      dsimp only
      rw [if_neg kept]
  · next unlocked =>
      intro count
      have put : answerPut (turns count) bucket key ⟨root, none, none, (turns count).etag⟩ false =
          (.ok (turns count).etag, Function.update bucket key
            (some ⟨root, none, none, (turns count).etag⟩)) := by
        rw [answerPut, prompt.answered]
        rfl
      change (f (answerPut (turns count) bucket key _ false).1).run.Alone _ _
        (answerPut (turns count) bucket key _ false).2
      rw [put]
      exact alone _ _ fun locks => absurd locks unlocked

private theorem alone_storeS3Record {key root : Str} {record : Value} {text : Text}
    (dumps : dumpsSorted .compact record = some text)
    (retained : config.locks = true → Retained config turns bucket key) :
    (storeS3Record config key root record).run.Alone (fun count => answer (turns count))
      (fun outcome after => (∃ receipt, outcome = .ok receipt) ∧
        (after = bucket ∨ ∃ object, after = Function.update bucket key (some object))) bucket := by
  unfold storeS3Record
  apply alone_head prompt
  cases found : bucket key with
  | some object =>
      rw [lookedUp, found]
      apply alone_checkRetention fun locks => retained locks object found
      exact ⟨⟨_, rfl⟩, Or.inl rfl⟩
  | none =>
      rw [lookedUp, found]
      dsimp only
      rw [show notFound.isNotFound = true by decide, dumps]
      rw [if_neg (by simp), if_neg (by simp)]
      apply alone_putObject prompt
      intro object etag confirmed
      dsimp only
      split
      · apply alone_head prompt
        rw [lookedUp, Function.update_self]
        dsimp only
        apply alone_checkRetention confirmed
        exact ⟨⟨_, rfl⟩, Or.inr ⟨object, rfl⟩⟩
      · exact ⟨⟨_, rfl⟩, Or.inr ⟨object, rfl⟩⟩

/-- What a sink does with a seal whose index holds a root. -/
private theorem alone_ensureS3SealIndex {builtins : Builtins} {keyPrefix sessionId : Str}
    {segmentNo : Int} {root : Str} {object : S3Object}
    (found : bucket (s3SealIndexKey builtins keyPrefix sessionId segmentNo) = some object)
    (filled : object.root ≠ [])
    (retained : config.locks = true → Retained config turns bucket
      (s3SealIndexKey builtins keyPrefix sessionId segmentNo)) :
    (ensureS3SealIndex builtins config keyPrefix sessionId segmentNo root).run.Alone
      (fun count => answer (turns count)) (fun outcome after => after = bucket ∧
        outcome = if object.root = root then .ok ()
          else .error (.replication (.forkDetected sessionId segmentNo (object.root.take 16)
            (root.take 16)))) bucket := by
  unfold ensureS3SealIndex
  apply alone_head prompt
  rw [lookedUp, found]
  unfold checkSealHead
  apply alone_checkRetention fun locks => retained locks object found
  have present : object.root.isEmpty = false := by
    rw [← Bool.not_eq_true, List.isEmpty_iff]
    exact filled
  dsimp only
  rw [present, if_neg Bool.false_ne_true]
  by_cases same : object.root = root
  · rw [if_pos same, if_neg (not_not.mpr same)]
    exact ⟨rfl, rfl⟩
  · rw [if_neg same, if_pos same]
    exact ⟨rfl, rfl⟩

end Prompt

private theorem stored_s3 {config : S3Config} {memory : S3Memory} {bucket : Bucket}
    {sessionId : Str} {segmentNo : Int} {root : Str}
    (isStored : (Sink.s3 config memory bucket).stored d sessionId segmentNo = some root) :
    ∃ object, bucket (s3SealIndexKey d.builtins d.keyPrefix sessionId segmentNo) = some object ∧
      object.root = root ∧ root ≠ [] := by
  obtain ⟨object, found, isRoot⟩ := Option.bind_eq_some_iff.mp isStored
  split at isRoot
  · cases isRoot
  · next filled =>
      cases isRoot
      exact ⟨object, found, rfl, by simpa using filled⟩

private theorem alone_sealS3Record {config : S3Config} {memory : S3Memory} {bucket : Bucket}
    {sessionId : Str} {segmentNo : Int} {root : Str} {object : S3Object} (prompt : Prompt turns)
    (remembers : Remembers d.builtins d.keyPrefix memory bucket)
    (found : bucket (s3SealIndexKey d.builtins d.keyPrefix sessionId segmentNo) = some object)
    (filled : object.root ≠ [])
    (retained : config.locks = true → Retained config turns bucket
      (s3SealIndexKey d.builtins d.keyPrefix sessionId segmentNo)) :
    (sealS3Record d.builtins config memory d.keyPrefix sessionId segmentNo root).run.Alone
      (fun count => answer (turns count)) (fun outcome after => after = bucket ∧
        outcome = if object.root = root then .ok ()
          else .error (.replication (.forkDetected sessionId segmentNo (object.root.take 16)
            (root.take 16)))) bucket := by
  have ensured : (ensureS3SealIndex d.builtins config d.keyPrefix sessionId segmentNo
      root).run.Alone _ _ bucket := alone_ensureS3SealIndex prompt found filled retained
  cases remembered : memory.sealStore (sessionId, segmentNo) with
  | none =>
      have agrees : memory.conflict sessionId segmentNo root = .ok () := by
        rw [S3Memory.conflict, remembered]
      rw [sealS3Record, agrees]
      exact ensured
  | some existing =>
      obtain ⟨other, isOther, isRoot⟩ := remembers sessionId segmentNo existing remembered
      have same : object.root = existing := by
        rw [← isRoot, Option.some.inj (found.symm.trans isOther)]
      have present : existing.isEmpty = false := by
        rw [← same, ← Bool.not_eq_true, List.isEmpty_iff]
        exact filled
      by_cases agree : existing = root
      · have agrees : memory.conflict sessionId segmentNo root = .ok () := by
          rw [S3Memory.conflict, remembered]
          dsimp only
          rw [if_neg (by simp [agree])]
        rw [sealS3Record, agrees]
        exact ensured
      · have conflicts : memory.conflict sessionId segmentNo root = .error (.replication
            (.forkDetected sessionId segmentNo (existing.take 16) (root.take 16))) := by
          rw [S3Memory.conflict, remembered]
          dsimp only
          rw [if_pos (by simp [present, agree])]
        rw [sealS3Record, conflicts, same, if_neg agree]
        exact ⟨rfl, rfl⟩

/-- What a push does once the index has taken or refused its root. -/
private def finishSealed (config : S3Config) (memory : S3Memory) (sessionId : Str)
    (segmentNo : Int) (key root : Str) (record : Value) :
    Except PushRaised Unit → Script S3Response (Except PushRaised S3Receipt × S3Memory)
  | .error raised => pure (.error raised, memory)
  | .ok _ => finishS3Record config (memory.remember sessionId segmentNo root) sessionId key root
      record

theorem honours_s3 (lawful : d.builtins.Lawful) {config : S3Config} {memory : S3Memory}
    {bucket : Bucket} {turn : PushTurn} {sessionId : Str} {segmentNo : Int} {record : SealRecord}
    (remembers : Remembers d.builtins d.keyPrefix memory bucket)
    (accepts : Accepts d (.s3 config memory bucket) (.push turn sessionId segmentNo record)) :
    Honours d (.s3 config memory bucket) (.push turn sessionId segmentNo record) := by
  obtain ⟨prompt, retained⟩ := accepts
  obtain ⟨key, isKey⟩ := record.s3ObjectKey lawful d.keyPrefix sessionId segmentNo
  have pushing : pushS3Record d.builtins config memory d.keyPrefix sessionId segmentNo
      record.value = (sealS3Record d.builtins config memory d.keyPrefix sessionId segmentNo
        record.root).run >>=
          finishSealed config memory sessionId segmentNo key record.root record.value := by
    rw [pushS3Record, record.s3RecordRoot lawful, isKey]
    exact (if_pos record.isSeal).trans rfl
  constructor
  · intro isStored
    obtain ⟨object, found, isRoot, filled⟩ := stored_s3 isStored
    rw [← isRoot] at filled
    have ends : (pushS3Record d.builtins config memory d.keyPrefix sessionId segmentNo
        record.value).Alone (fun count => answer (turn.bucket count))
        (fun outcome after => (∃ receipt, outcome.1 = .ok receipt) ∧
          (after = bucket ∨ ∃ object, after = Function.update bucket key (some object)))
        bucket := by
      rw [pushing]
      apply Script.Alone.bind (alone_sealS3Record prompt remembers found filled
        fun locks => (retained locks).1)
      intro outcome after sealed
      obtain ⟨same, isOutcome⟩ := sealed
      rw [if_pos isRoot] at isOutcome
      rw [same, isOutcome]
      apply Script.Alone.bind (alone_storeS3Record prompt record.dumps
        fun locks => (retained locks).2 key isKey)
      intro outcome after finished
      obtain ⟨⟨receipt, isReceipt⟩, changed⟩ := finished
      rw [isReceipt]
      exact ⟨⟨receipt, rfl⟩, changed⟩
    obtain ⟨⟨receipt, isReceipt⟩, changed⟩ := ends.run 0
    rw [Sink.push]
    dsimp only
    refine ⟨⟨receipt.text d.bucketName, by rw [isReceipt]; rfl⟩, ?_⟩
    funext session segment
    rw [Sink.stored, Sink.stored]
    rcases changed with unchanged | ⟨written, isWritten⟩
    · rw [unchanged]
    · have differs : key ≠ s3SealIndexKey d.builtins d.keyPrefix session segment :=
        objectKey_ne_sealIndexKey lawful isKey
      rw [isWritten, Function.update_of_ne differs.symm]
  · intro root isStored differs
    obtain ⟨object, found, isRoot, filled⟩ := stored_s3 isStored
    rw [← isRoot] at filled differs
    have ends : (pushS3Record d.builtins config memory d.keyPrefix sessionId segmentNo
        record.value).Alone (fun count => answer (turn.bucket count))
        (fun outcome after => outcome.1 = .error (.replication (.forkDetected sessionId
          segmentNo (object.root.take 16) (record.root.take 16))) ∧ after = bucket) bucket := by
      rw [pushing]
      apply Script.Alone.bind (alone_sealS3Record prompt remembers found filled
        fun locks => (retained locks).1)
      intro outcome after sealed
      obtain ⟨same, isOutcome⟩ := sealed
      rw [if_neg differs] at isOutcome
      rw [same, isOutcome]
      exact ⟨rfl, rfl⟩
    obtain ⟨isFork, unchanged⟩ := ends.run 0
    rw [Sink.push]
    dsimp only
    refine ⟨⟨_, by rw [isFork]; rfl, rfl⟩, ?_⟩
    rw [unchanged]
    exact isStored

/-! Whole runs. -/

/-- What an S3 sink remembers is in its bucket. -/
def Sink.Consistent (d : Deployment) : Sink → Prop
  | .s3 _ memory bucket => Remembers d.builtins d.keyPrefix memory bucket ∧
      ∃ history, (sealServer d.builtins d.keyPrefix).inv (bucket, history)
  | _ => True

theorem consistent_next (lawful : d.builtins.Lawful) {sink : Sink} (consistent : sink.Consistent d)
    (label : SinkLabel) : (label.next d sink).Consistent d := by
  cases sink with
  | witness sink => cases label <;> trivial
  | file sink => cases label <;> trivial
  | s3 config memory bucket =>
      obtain ⟨remembers, history, holds⟩ := consistent
      cases label with
      | restart config => exact ⟨remembers_create bucket, history, holds⟩
      | push turn sessionId segmentNo record =>
          obtain ⟨settled, kept⟩ := @settles_run _ _ config lawful _ _ _ holds remembers
            ⟨sessionId, segmentNo, record.value⟩ turn.bucket
          exact ⟨settled.remembers, _, kept⟩

theorem consistent_of_run (lawful : d.builtins.Lawful) {first sink : Sink}
    {labels : List SinkLabel} (run : (sinkSystem d first).Run labels sink) :
    sink.Consistent d := by
  apply run.invariant
  · intro s initial
    obtain ⟨isFirst, fresh⟩ := initial
    rw [isFirst]
    cases first with
    | witness sink => trivial
    | file sink => trivial
    | s3 config memory bucket =>
        obtain ⟨isCreated, empty⟩ := fresh
        rw [isCreated]
        refine ⟨remembers_create bucket, [], ?_⟩
        intro sessionId segmentNo root indexed
        obtain ⟨object, found, -⟩ := indexed
        dsimp only at found
        rw [empty] at found
        cases found
  · intro s label t consistent next
    rw [next]
    exact consistent_next lawful consistent label

/-- Every push that its sink takes as it should honours the contract. -/
theorem contract_of_run (lawful : d.builtins.Lawful) {first : Sink} {labels : List SinkLabel}
    (accepted : (sinkSystem d first).Guarded (Accepts d) labels) :
    (sinkSystem d first).Guarded (Honours d) labels := by
  intro front label rest sink split run
  have accepts := accepted front label rest sink split run
  cases label with
  | restart config => trivial
  | push turn sessionId segmentNo record =>
      cases sink with
      | witness sink => exact honours_witness turn sink sessionId segmentNo record
      | file sink => exact honours_file accepts
      | s3 config memory bucket =>
          exact honours_s3 lawful (consistent_of_run lawful run).1 accepts

/-! Samples: a seal pushed twice into a bucket, and two roots for one segment file. -/

theorem determined_of_run {first sink : Sink} {labels : List SinkLabel}
    (run : (sinkSystem d first).Run labels sink) :
    sink = labels.foldl (SinkLabel.next d) first := by
  induction run with
  | start initial => exact initial.1
  | step _ next ih => rw [List.foldl_append, ← ih, next]; rfl

def sampleDeployment : Deployment where
  builtins := asciiBuiltins
  locate := id
  bucketName := Str.lit "bucket"
  keyPrefix := []

def sampleSeal (root : String) (filled : root ≠ "") : SealRecord where
  value := (samplePush "a" root).record
  root := Str.lit root
  json := by
    have payload : IsJson (Value.object [("merkle_root", Value.lit root)]) := by
      apply isJson_object (by simp)
      intro field member
      rw [List.mem_singleton.mp member]
      exact Str.joinSurrogates_lit root
    apply isJson_object (by simp)
    intro field member
    rcases List.mem_cons.mp member with isSeq | member
    · rw [isSeq]
      trivial
    · rw [List.mem_singleton.mp member]
      exact payload
  seq := 2
  numbered := rfl
  carried := by
    have payload : (samplePush "a" root).record.getD "payload" (.dict []) =
        .object [("merkle_root", .lit root)] := by
      simp [samplePush, Value.getD]
    unfold merkleRootOf payloadOf
    rw [payload]
    exact Value.get?_object_cons "merkle_root" "merkle_root" (.lit root) []
  filled := by
    intro empty
    exact filled ((Str.lit_inj root "").mp empty)

def sampleTurn : PushTurn where
  witness := ⟨quietTurn.now, Str.lit "token"⟩
  write := .durable
  bucket _ := workingTurn

def sampleBucket : Sink :=
  .s3 ⟨[], 0⟩ .create fun _ => none

def samplePushes (first second : SealRecord) : List SinkLabel :=
  [.push sampleTurn (Str.lit "a") 1 first, .push sampleTurn (Str.lit "a") 1 second]

theorem contract_of_run_repeatedSeal :
    (sinkSystem sampleDeployment sampleBucket).Guarded (Honours sampleDeployment)
      (samplePushes (sampleSeal "root" (by decide)) (sampleSeal "root" (by decide))) := by
  apply contract_of_run asciiBuiltins_lawful
  intro front label rest sink split run
  have prompt : Prompt fun _ => workingTurn :=
    ⟨fun _ => rfl, fun _ _ => by decide⟩
  have unlocked : ∀ labels : List SinkLabel, (∀ other ∈ labels, other ∈ samplePushes
      (sampleSeal "root" (by decide)) (sampleSeal "root" (by decide))) →
      ∃ memory bucket, labels.foldl (SinkLabel.next sampleDeployment) sampleBucket =
        .s3 ⟨[], 0⟩ memory bucket := by
    intro labels
    induction labels using List.reverseRecOn with
    | nil => exact fun _ => ⟨_, _, rfl⟩
    | append_singleton labels last ih =>
        intro all
        obtain ⟨memory, bucket, isSink⟩ := ih fun other member =>
          all other (List.mem_append_left _ member)
        have isLast := all last (List.mem_append_right _ (List.mem_singleton_self _))
        rw [List.foldl_append, isSink]
        simp only [samplePushes, List.mem_cons, List.not_mem_nil, or_false, or_self] at isLast
        rw [isLast]
        exact ⟨_, _, rfl⟩
  obtain ⟨memory, bucket, isSink⟩ := unlocked front fun other member => by
    rw [split]
    exact List.mem_append_left _ member
  have isLabel : label ∈ samplePushes (sampleSeal "root" (by decide))
      (sampleSeal "root" (by decide)) := by
    rw [split]
    simp
  simp only [samplePushes, List.mem_cons, List.not_mem_nil, or_false, or_self] at isLabel
  rw [determined_of_run run, isSink, isLabel]
  refine ⟨prompt, ?_⟩
  intro locks
  cases locks

/-- The file of a segment is replaced by a seal with another root. -/
theorem file_replaces_root :
    ¬ (sinkSystem sampleDeployment (.file ⟨fun _ => none⟩)).Guarded (Honours sampleDeployment)
      (samplePushes (sampleSeal "root" (by decide)) (sampleSeal "other" (by decide))) := by
  intro honoured
  let first := sampleSeal "root" (by decide)
  let second := sampleSeal "other" (by decide)
  let front : List SinkLabel := [.push sampleTurn (Str.lit "a") 1 first]
  let sink := front.foldl (SinkLabel.next sampleDeployment) (.file ⟨fun _ => none⟩)
  have start : (sinkSystem sampleDeployment (.file ⟨fun _ => none⟩)).Run []
      (.file ⟨fun _ => none⟩) :=
    .start ⟨rfl, fun _ => rfl⟩
  have run : (sinkSystem sampleDeployment (.file ⟨fun _ => none⟩)).Run front sink :=
    start.step rfl
  have isStored : sink.stored sampleDeployment (Str.lit "a") 1 = some (Str.lit "root") := by
    decide +kernel
  have honours := honoured front (.push sampleTurn (Str.lit "a") 1 second) [] sink rfl run
  obtain ⟨⟨raised, isRaised, -⟩, -⟩ := honours.2 _ isStored (by decide)
  have accepted : (sink.push sampleDeployment sampleTurn (Str.lit "a") 1 second.value).1.isOk =
      true := by
    decide +kernel
  rw [isRaised] at accepted
  cases accepted

end SelfConnect.Replication
