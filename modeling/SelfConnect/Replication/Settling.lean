import SelfConnect.Replication.Keys

namespace SelfConnect.Replication

open SelfConnect.Python SelfConnect.Provenance SelfConnect.Library

/-! One push among others into the same bucket. -/

structure S3Push where
  sessionId : Str
  segmentNo : Int
  record : Value

inductive S3Event
  | pushed (push : S3Push)
  | acknowledged (push : S3Push) (receipt : S3Receipt)
  | refused (push : S3Push) (raised : PushRaised)

section Server

variable (builtins : Builtins) (keyPrefix : Str)

/-- The root a seal asks to have stored. -/
def S3Push.sealRoot (push : S3Push) : Option Str :=
  if isSeal push.record then s3RecordRoot builtins push.record else none

/-! What lasts in the bucket. -/

/-- The root in the index of a segment. -/
def Indexed (bucket : Bucket) (sessionId : Str) (segmentNo : Int) (root : Str) : Prop :=
  ∃ object, bucket (s3SealIndexKey builtins keyPrefix sessionId segmentNo) = some object ∧
    object.root = root

abbrev S3View := Bucket × List S3Event

/-- Whoever asks, a seal index stays as it was written, for a seal that had been pushed. -/
def sealServer : Script.Server S3Response S3View where
  serves v request response v' := ∃ turn, answer turn v.1 request = (response, v'.1) ∧ v'.2 = v.2
  inv v := ∀ sessionId segmentNo root, Indexed builtins keyPrefix v.1 sessionId segmentNo root →
    ∃ push, .pushed push ∈ v.2 ∧ push.sealRoot builtins = some root ∧
      s3SealIndexKey builtins keyPrefix push.sessionId push.segmentNo =
        s3SealIndexKey builtins keyPrefix sessionId segmentNo
  grows v v' := (∀ sessionId segmentNo object,
      v.1 (s3SealIndexKey builtins keyPrefix sessionId segmentNo) = some object →
      v'.1 (s3SealIndexKey builtins keyPrefix sessionId segmentNo) = some object) ∧ v.2 ⊆ v'.2
  grows_refl _ := ⟨fun _ _ _ found => found, List.Subset.refl _⟩
  grows_trans _ _ _ first second :=
    ⟨fun s n object found => second.1 s n object (first.1 s n object found),
      List.Subset.trans first.2 second.2⟩

end Server

section Proof

variable {builtins : Builtins} {keyPrefix : Str}

theorem Indexed.grow {v v' : S3View} {sessionId : Str} {segmentNo : Int} {root : Str}
    (indexed : Indexed builtins keyPrefix v.1 sessionId segmentNo root)
    (grown : (sealServer builtins keyPrefix).grows v v') :
    Indexed builtins keyPrefix v'.1 sessionId segmentNo root := by
  obtain ⟨object, found, isRoot⟩ := indexed
  exact ⟨object, grown.1 _ _ _ found, isRoot⟩

/-! What the bucket's answers say. -/

private theorem answerHead_ok {turn : S3Turn} {bucket : Bucket} {key : Str} {object : S3Object}
    (answered : answerHead turn bucket key = .ok object) : bucket key = some object := by
  unfold answerHead at answered
  cases fault : turn.fault with
  | some fault =>
      rw [fault] at answered
      cases answered
  | none =>
      rw [fault] at answered
      cases found : bucket key with
      | none =>
          rw [found] at answered
          cases answered
      | some other =>
          rw [found] at answered
          cases answered
          rfl

/-- A put leaves the bucket as it was, or writes where it may. -/
private theorem answerPut_spec (turn : S3Turn) (bucket : Bucket) (key : Str) (object : S3Object)
    (ifNoneMatch : Bool) :
    ((answerPut turn bucket key object ifNoneMatch).2 = bucket ∧
        ∀ etag, (answerPut turn bucket key object ifNoneMatch).1 ≠ .ok etag) ∨
      ((answerPut turn bucket key object ifNoneMatch).2 =
          Function.update bucket key (some object) ∧
        (ifNoneMatch = true → bucket key = none)) := by
  unfold answerPut
  by_cases refused : (ifNoneMatch && (bucket key).isSome) = true
  · refine Or.inl ?_
    simp only [refused, if_true]
    cases turn.fault with
    | none =>
        refine ⟨rfl, ?_⟩
        intro etag isOk
        cases isOk
    | some fault =>
        refine ⟨ite_self _, ?_⟩
        intro etag isOk
        cases isOk
  · have free : ifNoneMatch = true → bucket key = none := by
      intro conditional
      rw [conditional, Bool.true_and, Option.isSome_iff_ne_none, not_not] at refused
      exact refused
    simp only [refused]
    cases turn.fault with
    | none => exact Or.inr ⟨rfl, free⟩
    | some fault =>
        cases applied : fault.applied with
        | true => exact Or.inr ⟨by simp [applied], free⟩
        | false =>
            refine Or.inl ⟨by simp [applied], ?_⟩
            intro etag isOk
            cases isOk

/-! What each request leaves of the seal indexes. -/

private theorem ends_head {α : Type} {key : Str} {f : Except ClientError S3Object → Remote α}
    {post : Except PushRaised α → S3View → Prop} {v : S3View}
    (ends : ∀ t response, (sealServer builtins keyPrefix).inv t →
      (sealServer builtins keyPrefix).grows v t →
      (∀ object, response = .ok object → t.1 key = some object) →
      (f response).run.Ends (sealServer builtins keyPrefix) post t) :
    (ask (.head key) >>= f).run.Ends (sealServer builtins keyPrefix) post v := by
  intro t response u holds grown served
  obtain ⟨turn, answered, history⟩ := served
  obtain ⟨isResponse, isBucket⟩ := Prod.mk.inj answered
  have same : u = t := Prod.ext isBucket.symm history
  rw [same]
  refine ⟨holds, Script.Server.grows_refl _ t, ends t response holds grown fun object isOk => ?_⟩
  exact answerHead_ok (isResponse.trans isOk)

private theorem ends_now {α : Type} {f : Int → Remote α}
    {post : Except PushRaised α → S3View → Prop} {v : S3View}
    (ends : ∀ t now, (sealServer builtins keyPrefix).inv t →
      (sealServer builtins keyPrefix).grows v t →
      (f now).run.Ends (sealServer builtins keyPrefix) post t) :
    (ask .now >>= f).run.Ends (sealServer builtins keyPrefix) post v := by
  intro t response u holds grown served
  obtain ⟨turn, answered, history⟩ := served
  have same : u = t := Prod.ext (Prod.mk.inj answered).2.symm history
  rw [same]
  exact ⟨holds, Script.Server.grows_refl _ t, ends t response holds grown⟩

/-- Writing under a key keeps the seal indexes. -/
def Writable (builtins : Builtins) (keyPrefix key root : Str) (ifNoneMatch : Bool)
    (v : S3View) : Prop :=
  ∀ t object, (sealServer builtins keyPrefix).inv t → (sealServer builtins keyPrefix).grows v t →
    object.root = root → (ifNoneMatch = true → t.1 key = none) →
    (sealServer builtins keyPrefix).inv (Function.update t.1 key (some object), t.2) ∧
      (sealServer builtins keyPrefix).grows t (Function.update t.1 key (some object), t.2)

private theorem Writable.grow {key root : Str} {ifNoneMatch : Bool} {v v' : S3View}
    (writable : Writable builtins keyPrefix key root ifNoneMatch v)
    (grown : (sealServer builtins keyPrefix).grows v v') :
    Writable builtins keyPrefix key root ifNoneMatch v' :=
  fun t object holds further =>
    writable t object holds (Script.Server.grows_trans _ _ _ _ grown further)

private theorem ends_put {α : Type} {key root : Str} {lockMode : Option Str}
    {retainUntil : Option Int} {ifNoneMatch : Bool} {f : Except ClientError Str → Remote α}
    {post : Except PushRaised α → S3View → Prop} {v : S3View}
    (writable : Writable builtins keyPrefix key root ifNoneMatch v)
    (ends : ∀ u response, (sealServer builtins keyPrefix).inv u →
      (sealServer builtins keyPrefix).grows v u →
      (∀ etag, response = .ok etag → ∃ object, u.1 key = some object ∧ object.root = root) →
      (f response).run.Ends (sealServer builtins keyPrefix) post u) :
    (ask (.put key root lockMode retainUntil ifNoneMatch) >>= f).run.Ends
      (sealServer builtins keyPrefix) post v := by
  intro t response u holds grown served
  obtain ⟨turn, answered, history⟩ := served
  obtain ⟨isResponse, isBucket⟩ := Prod.mk.inj answered
  rcases answerPut_spec turn t.1 key ⟨root, lockMode, retainUntil, turn.etag⟩ ifNoneMatch with
    unwritten | written
  · have same : u = t := Prod.ext (isBucket.symm.trans unwritten.1) history
    rw [same]
    refine ⟨holds, Script.Server.grows_refl _ t, ends t response holds grown ?_⟩
    intro etag isOk
    exact absurd (isResponse.trans isOk) (unwritten.2 etag)
  · have same : u = (Function.update t.1 key
        (some ⟨root, lockMode, retainUntil, turn.etag⟩), t.2) :=
      Prod.ext (isBucket.symm.trans written.1) history
    obtain ⟨kept, lasts⟩ := writable t ⟨root, lockMode, retainUntil, turn.etag⟩ holds grown rfl
      written.2
    rw [← same] at kept lasts
    refine ⟨kept, lasts, ends u response kept (Script.Server.grows_trans _ _ _ _ grown lasts) ?_⟩
    intro etag _
    refine ⟨⟨root, lockMode, retainUntil, turn.etag⟩, ?_, rfl⟩
    rw [same]
    exact Function.update_self _ _ _

private theorem ends_putObject {α : Type} {config : S3Config} {key root : Str}
    {ifNoneMatch : Bool} {f : Except ClientError Str → Remote α}
    {post : Except PushRaised α → S3View → Prop} {v : S3View}
    (writable : Writable builtins keyPrefix key root ifNoneMatch v)
    (ends : ∀ u response, (sealServer builtins keyPrefix).inv u →
      (sealServer builtins keyPrefix).grows v u →
      (∀ etag, response = .ok etag → ∃ object, u.1 key = some object ∧ object.root = root) →
      (f response).run.Ends (sealServer builtins keyPrefix) post u) :
    (putObject config key root ifNoneMatch >>= f).run.Ends
      (sealServer builtins keyPrefix) post v := by
  unfold putObject
  split
  · change (ask .now >>= fun now => ask (.put key root (some config.objectLockMode)
        (some (config.retainUntil now)) ifNoneMatch) >>= f).run.Ends _ _ _
    apply ends_now
    intro t now holds grown
    apply ends_put (writable.grow grown)
    intro u response kept further
    exact ends u response kept (Script.Server.grows_trans _ _ _ _ grown further)
  · exact ends_put writable ends

/-- The check of an object reads the clock at most. -/
private theorem ends_checkRetention {α : Type} {config : S3Config} {head : S3Object}
    {f : Except ReplicationError Unit → Remote α} {post : Except PushRaised α → S3View → Prop}
    {v : S3View} (holds : (sealServer builtins keyPrefix).inv v)
    (ends : ∀ u checked, (sealServer builtins keyPrefix).inv u →
      (sealServer builtins keyPrefix).grows v u →
      (∀ error, checked = .error error → error.isFork = false) →
      (f checked).run.Ends (sealServer builtins keyPrefix) post u) :
    (checkRetention config head >>= f).run.Ends (sealServer builtins keyPrefix) post v := by
  unfold checkRetention
  split
  · change (ask .now >>= fun now => f (verifyS3ObjectRetention head config.objectLockMode
      (config.minimum now))).run.Ends _ _ _
    apply ends_now
    intro t now kept grown
    apply ends t _ kept grown
    intro error isError
    unfold verifyS3ObjectRetention at isError
    split at isError
    · cases isError
      rfl
    · split at isError
      · cases isError
        rfl
      · split at isError
        · cases isError
          rfl
        · cases isError
  · apply ends v _ holds (Script.Server.grows_refl _ v)
    intro error isError
    cases isError

/-! The seal index. -/

/-- The root is in the index, or a fork was raised against another that is. -/
def SealStage (builtins : Builtins) (keyPrefix sessionId : Str) (segmentNo : Int) (root : Str) :
    Except PushRaised Unit → S3View → Prop
  | .ok _, v => Indexed builtins keyPrefix v.1 sessionId segmentNo root
  | .error raised, v => raised.isFork = true → ∃ other, other ≠ root ∧
      Indexed builtins keyPrefix v.1 sessionId segmentNo other

variable {config : S3Config} {sessionId : Str} {segmentNo : Int} {root : Str}

private theorem ends_raise {error : ReplicationError} (noFork : error.isFork = false)
    {v : S3View} :
    (raiseReplication error : Remote Unit).run.Ends (sealServer builtins keyPrefix)
      (SealStage builtins keyPrefix sessionId segmentNo root) v := by
  intro t _ _ isFork
  rw [show PushRaised.isFork (.replication error) = error.isFork from rfl, noFork] at isFork
  cases isFork

private theorem ends_checkSealHead {head : S3Object} {v : S3View}
    (holds : (sealServer builtins keyPrefix).inv v)
    (found : v.1 (s3SealIndexKey builtins keyPrefix sessionId segmentNo) = some head) :
    (checkSealHead config sessionId segmentNo root head).run.Ends (sealServer builtins keyPrefix)
      (SealStage builtins keyPrefix sessionId segmentNo root) v := by
  unfold checkSealHead
  apply ends_checkRetention holds
  intro u checked kept grown noFork
  have indexed : ∀ t, (sealServer builtins keyPrefix).grows u t →
      Indexed builtins keyPrefix t.1 sessionId segmentNo head.root :=
    fun t further => ⟨head, further.1 _ _ _ (grown.1 _ _ _ found), rfl⟩
  cases checked with
  | error error => exact ends_raise (noFork error rfl)
  | ok _ =>
      dsimp only
      split
      · exact ends_raise rfl
      · split
        · next differs =>
            intro t _ further _
            exact ⟨head.root, differs, indexed t further⟩
        · next same =>
            intro t _ further
            rw [← not_not.mp same]
            exact indexed t further

private theorem ends_confirm {v : S3View} :
    (confirmRemoteSealRoot config (s3SealIndexKey builtins keyPrefix sessionId segmentNo)
      sessionId segmentNo root).run.Ends (sealServer builtins keyPrefix)
      (SealStage builtins keyPrefix sessionId segmentNo root) v := by
  unfold confirmRemoteSealRoot
  apply ends_head
  intro t response holds grown isFound
  cases response with
  | error error => exact ends_raise rfl
  | ok head => exact ends_checkSealHead holds (isFound head rfl)

private theorem ends_ensureS3SealIndex {v : S3View}
    (writable : Writable builtins keyPrefix
      (s3SealIndexKey builtins keyPrefix sessionId segmentNo) root true v) :
    (ensureS3SealIndex builtins config keyPrefix sessionId segmentNo root).run.Ends
      (sealServer builtins keyPrefix) (SealStage builtins keyPrefix sessionId segmentNo root)
        v := by
  unfold ensureS3SealIndex
  apply ends_head
  intro t response holds grown isFound
  cases response with
  | ok head => exact ends_checkSealHead holds (isFound head rfl)
  | error error =>
      dsimp only
      split
      · apply ends_putObject (writable.grow grown)
        intro u response kept further isStored
        cases response with
        | error error =>
            dsimp only
            split
            · exact ends_confirm
            · exact ends_raise rfl
        | ok etag =>
            dsimp only
            split
            · exact ends_confirm
            · intro x _ later
              obtain ⟨object, found, isRoot⟩ := isStored etag rfl
              exact ⟨object, later.1 _ _ _ found, isRoot⟩
      · exact ends_raise rfl

/-! The record itself. -/

private theorem ends_storeS3Record {key : Str} {record : Value} {v : S3View}
    (writable : Writable builtins keyPrefix key root false v) :
    (storeS3Record config key root record).run.Ends (sealServer builtins keyPrefix)
      (fun outcome _ => ∀ raised, outcome = .error raised → raised.isFork = false) v := by
  have returns : ∀ receipt (u : S3View), (pure receipt : Remote S3Receipt).run.Ends
      (sealServer builtins keyPrefix)
      (fun outcome _ => ∀ raised, outcome = .error raised → raised.isFork = false) u := by
    intro receipt u t _ _ raised isError
    cases isError
  have raises : ∀ (raised : PushRaised) (u : S3View), raised.isFork = false →
      (throw raised : Remote S3Receipt).run.Ends (sealServer builtins keyPrefix)
      (fun outcome _ => ∀ raised, outcome = .error raised → raised.isFork = false) u := by
    intro raised u noFork t _ _ thrown isError
    cases isError
    exact noFork
  unfold storeS3Record
  apply ends_head
  intro t response holds grown isFound
  cases response with
  | ok head =>
      apply ends_checkRetention holds
      intro u checked _ _ noFork
      cases checked with
      | error error => exact raises _ u rfl
      | ok _ => exact returns _ u
  | error error =>
      dsimp only
      split
      · exact raises _ t rfl
      · split
        · exact raises _ t rfl
        · apply ends_putObject (writable.grow grown)
          intro u response kept _ _
          cases response with
          | error error => exact raises _ u rfl
          | ok etag =>
              dsimp only
              split
              · apply ends_head
                intro x response kept' _ _
                cases response with
                | error error => exact raises _ x rfl
                | ok head =>
                    apply ends_checkRetention kept'
                    intro y checked _ _ noFork
                    cases checked with
                    | error error => exact raises _ y (noFork error rfl)
                    | ok _ => exact returns _ y
              · exact returns _ u

/-- What a sink has in its memory is in the index. -/
def Remembers (builtins : Builtins) (keyPrefix : Str) (memory : S3Memory) (bucket : Bucket) :
    Prop :=
  ∀ sessionId segmentNo root, memory.sealStore (sessionId, segmentNo) = some root →
    Indexed builtins keyPrefix bucket sessionId segmentNo root

/-- How a push ends: what was acknowledged is in the index, and a fork was raised against
another root that is. -/
structure Settles (builtins : Builtins) (keyPrefix : Str) (push : S3Push) (outcome : S3Outcome)
    (v : S3View) : Prop where
  remembers : Remembers builtins keyPrefix outcome.2 v.1
  acknowledged : ∀ receipt root, outcome.1 = .ok receipt → push.sealRoot builtins = some root →
    Indexed builtins keyPrefix v.1 push.sessionId push.segmentNo root
  forked : ∀ raised, outcome.1 = .error raised → raised.isFork = true →
    ∃ root other, push.sealRoot builtins = some root ∧ other ≠ root ∧
      Indexed builtins keyPrefix v.1 push.sessionId push.segmentNo other

theorem Remembers.grow {memory : S3Memory} {v v' : S3View}
    (remembers : Remembers builtins keyPrefix memory v.1)
    (grown : (sealServer builtins keyPrefix).grows v v') :
    Remembers builtins keyPrefix memory v'.1 :=
  fun sessionId segmentNo root found => (remembers sessionId segmentNo root found).grow grown

private theorem Remembers.remember {memory : S3Memory} {bucket : Bucket}
    (remembers : Remembers builtins keyPrefix memory bucket)
    (indexed : Indexed builtins keyPrefix bucket sessionId segmentNo root) :
    Remembers builtins keyPrefix (memory.remember sessionId segmentNo root) bucket := by
  intro session segment other found
  by_cases same : (session, segment) = (sessionId, segmentNo)
  · cases same
    rw [S3Memory.sealStore_remember, Function.update_self, Option.some.injEq] at found
    rw [← found]
    exact indexed
  · rw [S3Memory.sealStore_remember, Function.update_of_ne same] at found
    exact remembers session segment other found

private theorem ends_finishS3Record {memory : S3Memory} {push : S3Push} {key root : Str}
    {record : Value} {v : S3View} (holds : (sealServer builtins keyPrefix).inv v)
    (writable : Writable builtins keyPrefix key root false v)
    (remembers : Remembers builtins keyPrefix memory v.1)
    (indexed : ∀ root, push.sealRoot builtins = some root →
      Indexed builtins keyPrefix v.1 push.sessionId push.segmentNo root) :
    (finishS3Record config memory push.sessionId key root record).Ends
      (sealServer builtins keyPrefix) (Settles builtins keyPrefix push) v := by
  unfold finishS3Record
  apply Script.Ends.bind holds (ends_storeS3Record writable)
  intro outcome t _ grown noFork
  cases outcome with
  | error raised =>
      intro u _ further
      have reached := Script.Server.grows_trans _ _ _ _ grown further
      constructor
      · exact remembers.grow reached
      · intro receipt root isOk
        cases isOk
      intro thrown isError isFork
      cases isError
      rw [noFork raised rfl] at isFork
      cases isFork
  | ok receipt =>
      intro u _ further
      have reached := Script.Server.grows_trans _ _ _ _ grown further
      constructor
      · exact remembers.grow reached
      · intro _ root _ isRoot
        exact (indexed root isRoot).grow reached
      · intro thrown isError
        cases isError

/-- A seal that has been pushed may write its index. -/
private theorem writable_sealIndex {push : S3Push} {v : S3View}
    (pushed : .pushed push ∈ v.2) (isRoot : push.sealRoot builtins = some root) :
    Writable builtins keyPrefix
      (s3SealIndexKey builtins keyPrefix push.sessionId push.segmentNo) root true v := by
  intro t object holds grown rootOf free
  have absent := free rfl
  constructor
  · intro session segment other indexed
    obtain ⟨found, isFound, isOther⟩ := indexed
    dsimp only at isFound
    by_cases same : s3SealIndexKey builtins keyPrefix session segment =
        s3SealIndexKey builtins keyPrefix push.sessionId push.segmentNo
    · rw [same, Function.update_self, Option.some.injEq] at isFound
      refine ⟨push, grown.2 pushed, ?_, same.symm⟩
      rw [isRoot, ← isOther, ← isFound, rootOf]
    · rw [Function.update_of_ne same] at isFound
      exact holds session segment other ⟨found, isFound, isOther⟩
  · refine ⟨fun session segment found isFound => ?_, List.Subset.refl _⟩
    have differs : s3SealIndexKey builtins keyPrefix session segment ≠
        s3SealIndexKey builtins keyPrefix push.sessionId push.segmentNo := by
      intro same
      rw [same, absent] at isFound
      cases isFound
    exact (Function.update_of_ne differs _ _).trans isFound

/-- No record stands where a seal index does. -/
private theorem writable_record (lawful : builtins.Lawful) {record : Value} {key : Str}
    (isKey : s3ObjectKey builtins keyPrefix sessionId segmentNo record = some key) (v : S3View) :
    Writable builtins keyPrefix key root false v := by
  intro t object holds _ _ _
  have differs : ∀ session segment,
      s3SealIndexKey builtins keyPrefix session segment ≠ key :=
    fun session segment same => objectKey_ne_sealIndexKey lawful isKey same.symm
  constructor
  · intro session segment other indexed
    obtain ⟨found, isFound, isOther⟩ := indexed
    dsimp only at isFound
    rw [Function.update_of_ne (differs session segment)] at isFound
    exact holds session segment other ⟨found, isFound, isOther⟩
  · refine ⟨fun session segment found isFound => ?_, List.Subset.refl _⟩
    exact (Function.update_of_ne (differs session segment) _ _).trans isFound

private theorem conflict_error {memory : S3Memory} {raised : PushRaised}
    (isError : memory.conflict sessionId segmentNo root = .error raised) :
    ∃ existing, memory.sealStore (sessionId, segmentNo) = some existing ∧ existing ≠ root := by
  unfold S3Memory.conflict at isError
  split at isError
  · cases isError
  · next existing stored =>
      split at isError
      · next differs =>
          rw [Bool.and_eq_true, decide_eq_true_eq] at differs
          exact ⟨existing, stored, differs.2⟩
      · cases isError

private theorem ends_sealS3Record {memory : S3Memory} {v : S3View}
    (remembers : Remembers builtins keyPrefix memory v.1)
    (writable : Writable builtins keyPrefix
      (s3SealIndexKey builtins keyPrefix sessionId segmentNo) root true v) :
    (sealS3Record builtins config memory keyPrefix sessionId segmentNo root).run.Ends
      (sealServer builtins keyPrefix) (SealStage builtins keyPrefix sessionId segmentNo root) v := by
  cases checked : memory.conflict sessionId segmentNo root with
  | error raised =>
      rw [sealS3Record, checked]
      intro t _ grown _
      obtain ⟨existing, stored, differs⟩ := conflict_error checked
      exact ⟨existing, differs, (remembers _ _ _ stored).grow grown⟩
  | ok _ =>
      rw [sealS3Record, checked]
      exact ends_ensureS3SealIndex writable

/-- A push, once it is in the history, settles whatever the other sinks do. -/
theorem settles_pushS3Record (lawful : builtins.Lawful) {memory : S3Memory} {push : S3Push}
    {v : S3View} (holds : (sealServer builtins keyPrefix).inv v) (pushed : .pushed push ∈ v.2)
    (remembers : Remembers builtins keyPrefix memory v.1) :
    (pushS3Record builtins config memory keyPrefix push.sessionId push.segmentNo
      push.record).Ends (sealServer builtins keyPrefix) (Settles builtins keyPrefix push) v := by
  unfold pushS3Record
  split
  · next root key isRoot isKey =>
      split
      · next sealing =>
          have sealRoot : push.sealRoot builtins = some root := by
            rw [S3Push.sealRoot, if_pos sealing, isRoot]
          apply Script.Ends.bind holds
            (ends_sealS3Record remembers (writable_sealIndex pushed sealRoot))
          intro outcome t kept grown staged
          cases outcome with
          | error raised =>
              intro u _ further
              constructor
              · exact remembers.grow (Script.Server.grows_trans _ _ _ _ grown further)
              · intro receipt root isOk
                cases isOk
              · intro thrown isError isFork
                cases isError
                obtain ⟨other, differs, indexed⟩ := staged isFork
                exact ⟨root, other, sealRoot, differs, indexed.grow further⟩
          | ok _ =>
              have indexed : Indexed builtins keyPrefix t.1 push.sessionId push.segmentNo root :=
                staged
              apply ends_finishS3Record kept (writable_record lawful isKey t)
                ((remembers.grow grown).remember indexed)
              intro other isOther
              rw [← Option.some.inj (sealRoot.symm.trans isOther)]
              exact indexed
      · next recording =>
          apply ends_finishS3Record holds (writable_record lawful isKey v) remembers
          intro other isOther
          rw [S3Push.sealRoot, if_neg recording] at isOther
          cases isOther
  · intro t _ grown
    constructor
    · exact remembers.grow grown
    · intro receipt root isOk
      cases isOk
    · intro thrown isError isFork
      cases isError
      cases isFork

theorem inv_snoc {bucket : Bucket} {history : List S3Event}
    (holds : (sealServer builtins keyPrefix).inv (bucket, history)) (event : S3Event) :
    (sealServer builtins keyPrefix).inv (bucket, history ++ [event]) := by
  intro sessionId segmentNo root indexed
  obtain ⟨push, pushed, isRoot, isKey⟩ := holds sessionId segmentNo root indexed
  exact ⟨push, List.mem_append_left _ pushed, isRoot, isKey⟩

/-- A push that has the bucket to itself settles too. -/
theorem settles_run (lawful : builtins.Lawful) {memory : S3Memory} {bucket : Bucket}
    {history : List S3Event} (holds : (sealServer builtins keyPrefix).inv (bucket, history))
    (remembers : Remembers builtins keyPrefix memory bucket) (push : S3Push)
    (turns : Nat → S3Turn) :
    let ended := (pushS3Record builtins config memory keyPrefix push.sessionId push.segmentNo
      push.record).run (fun count => answer (turns count)) 0 bucket
    Settles builtins keyPrefix push ended.1 (ended.2, history ++ [.pushed push]) ∧
      (sealServer builtins keyPrefix).inv (ended.2, history ++ [.pushed push]) := by
  intro ended
  have indexed := inv_snoc holds (.pushed push)
  have settles : (pushS3Record builtins config memory keyPrefix push.sessionId push.segmentNo
      push.record).Ends (sealServer builtins keyPrefix) (Settles builtins keyPrefix push)
      (bucket, history ++ [.pushed push]) :=
    settles_pushS3Record lawful indexed (List.mem_append_right _ (List.mem_singleton_self _))
      remembers
  have serves : ∀ count (v : S3View) request, (sealServer builtins keyPrefix).serves v request
      (answer (turns count) v.1 request).1 ((answer (turns count) v.1 request).2, v.2) :=
    fun count _ _ => ⟨turns count, rfl, rfl⟩
  obtain ⟨settled, kept, -⟩ := @Script.Ends.run _ _ _ _ _ _
    (fun count (v : S3View) request =>
      ((answer (turns count) v.1 request).1, ((answer (turns count) v.1 request).2, v.2)))
    serves _ _ settles indexed 0
  rw [Script.run_frame fun count => answer (turns count)] at settled kept
  exact ⟨settled, kept⟩

end Proof

end SelfConnect.Replication
