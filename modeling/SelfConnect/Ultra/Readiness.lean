import SelfConnect.Ultra.Hops

namespace SelfConnect.Ultra.Independent

open SelfConnect.Js SelfConnect.Library SelfConnect.Library.Table SelfConnect.Ultra.Outbox

/-! The credentials that a target provisions anew, the writes of the stores that the server
installs, and whether the server can start again. -/

/-- What a caller expects of a credential's import. -/
structure Handoff where
  agentId : Text
  agentPublicKeyHex : Text
  canonicalId : Text
  clusterId : Text
  commandId : Text
  pairId : Text
  sourceClientId : Text
  sourceEpoch : Int

/-- What the authority has verified of a promoted credential. -/
structure Promoted where
  activationGrantDigest : Text
  commandId : Text
  headDigest : Text
  publicMapDigest : Text
  sourceEpoch : Int
  targetClientId : Text

def publicSegment : Json → Json
  | .obj members => .obj (members.filter fun member =>
      !(member.1 = text "secret" || member.1 = text "key"))
  | value => value

/-- A segment that is `null` has nothing to delete. -/
def publicSegments : Json → Option Json
  | .arr items => if items.any isNull then none else some (.arr (items.map publicSegment))
  | value => some value

def publicMap (members : List (Text × Json)) : Option Json := do
  let shown := members.filter fun member => !(member.1 = text "sharedSecret" : Bool)
  let shown ← shown.mapM fun member =>
    if member.1 = text "segments" then (publicSegments member.2).map (Prod.mk member.1)
    else some member
  return .obj shown

section Reprovision

variable {codec : Codec} {Keys : Type} (site : Site codec Keys)

def publicTskMapDigest (map : Json) : Option Text := do
  let members ← map.members?
  let shown ← publicMap members
  digestOf site shown

variable (codec) in
def Handoff.isValid (handoff : Handoff) : Bool :=
  isIdentifier handoff.clusterId && isIdentifier handoff.commandId &&
    isPositive handoff.sourceEpoch && isIdentifier handoff.pairId &&
    requireAgentIdentity codec handoff.agentId handoff.canonicalId handoff.agentPublicKeyHex &&
    isIdentifier handoff.sourceClientId

/-- The client of a credential that is fresh, active and owned. -/
def freshClient? (handoff : Handoff) (targetMap : Json) : Option Text := do
  let clientId ← (targetMap.getStr? "clientId").filter isIdentifier
  guard (clientId ≠ handoff.sourceClientId)
  guard (targetMap.getStr? "label" = some (text "agent:" ++ handoff.canonicalId))
  guard (targetMap.getStr? "status" = some (text "active"))
  let sharedSecret ← targetMap.getStr? "sharedSecret"
  guard (32 ≤ sharedSecret.length)
  match targetMap.get? "segments" with
  | some (.arr (_ :: _)) => return clientId
  | _ => none

def headOf (handoff : Handoff) (s : Target) : Option Head :=
  (s.heads.lookup handoff.clusterId).filter fun head =>
    head.commandId = handoff.commandId && head.sourceEpoch = handoff.sourceEpoch

variable (codec) in
def rowOf (handoff : Handoff) (s : Target) : Option Reprovision := do
  let rows ← s.reprovisions.lookup handoff.clusterId
  (rows.lookup handoff.pairId).filter fun row =>
    row.agentId = handoff.agentId && row.agentPublicKeyHex = handoff.agentPublicKeyHex &&
      row.canonicalId = handoff.canonicalId &&
      (identityPrincipalsFromPublicKeyHex codec.keySha256 row.agentPublicKeyHex).map (·.2) =
        some handoff.canonicalId &&
      row.sourceClientId = handoff.sourceClientId

def Handoff.receipt (handoff : Handoff) (publicMapDigest targetClientId : Text) :
    List (Text × Json) :=
  strings [("agentId", handoff.agentId), ("agentPublicKeyHex", handoff.agentPublicKeyHex),
    ("canonicalId", handoff.canonicalId), ("clusterId", handoff.clusterId),
    ("commandId", handoff.commandId), ("pairId", handoff.pairId),
    ("publicMapDigest", publicMapDigest), ("sourceClientId", handoff.sourceClientId),
    ("targetClientId", targetClientId)] ++ integers [("sourceEpoch", handoff.sourceEpoch)]

/-- The binding of the pair gets the target's client. -/
def rebind (handoff : Handoff) (targetClientId : Text) (s : Target) :
    Option (Table Text Binding) := do
  let binding ← s.bindings.lookup handoff.pairId
  guard (binding = ⟨handoff.sourceClientId, handoff.agentId, handoff.canonicalId,
    handoff.agentPublicKeyHex⟩)
  return s.bindings.insert handoff.pairId { binding with tskClientId := targetClientId }

/-- The row is completed. A cluster names a target client once. -/
def finishRow (handoff : Handoff) (finished : Reprovision) (s : Target) :
    Option (Table Text (Table Text Reprovision)) := do
  let rows ← s.reprovisions.lookup handoff.clusterId
  guard ((rowsOf rows).all fun row =>
    row.1 = handoff.pairId || !(row.2.targetClientId = finished.targetClientId : Bool))
  return s.reprovisions.insert handoff.clusterId (rows.insert handoff.pairId finished)

/-- The head gets the digest of what the target has now. -/
def refreshHead (handoff : Handoff) (head : Head) (s : Target) : Option Target := do
  let refreshed ← authorityDigest site s
  return { s with
    heads := s.heads.insert handoff.clusterId { head with authorityDigest := refreshed } }

/-- The answer is whether it had been completed. `fenceEpoch` is what `assertWritable` finds. -/
def completeImportedTskReprovision (handoff : Handoff) (targetMap : Json)
    (fenceEpoch : Option Int) (s : Target) : Option (Bool × Target) := do
  guard (handoff.isValid codec)
  let clientId ← freshClient? handoff targetMap
  let head ← headOf handoff s
  let row ← rowOf codec handoff s
  guard (authorityDigest site s = some head.authorityDigest)
  guard (noActiveUnboundCredentials s)
  let publicMapDigest ← publicTskMapDigest site targetMap
  let receiptDigest ← digestOf site (.obj (handoff.receipt publicMapDigest clientId))
  if row.isComplete then do
    guard (row.targetClientId = some clientId ∧ row.receiptDigest = some receiptDigest)
    let stored ← s.maps.lookup clientId
    let storedDigest ← digestOf site stored
    guard (digestOf site targetMap = some storedDigest)
    guard (fenceEpoch = some handoff.sourceEpoch)
    return (true, s)
  else do
    guard (site.database.jsonb targetMap)
    let maps ← insertRow s.maps clientId targetMap
    let bindings ← rebind handoff clientId s
    let reprovisions ← finishRow handoff
      { row with
        isComplete := true
        targetClientId := some clientId
        receiptDigest := some receiptDigest } s
    let t ← refreshHead site handoff head
      { s with maps := maps, bindings := bindings, reprovisions := reprovisions }
    guard (fenceEpoch = some handoff.sourceEpoch)
    return (false, t)

/-- The proof of the credential has been verified, and what it says is `promoted`. -/
def completeImportedPromotedTskCredential (handoff : Handoff) (sourceSecretDigest : Text)
    (targetProof : Json) (promoted : Promoted) (s : Target) : Option (Bool × Target) := do
  guard (handoff.isValid codec && isHex64 sourceSecretDigest)
  guard (promoted.commandId = handoff.commandId ∧ promoted.sourceEpoch = handoff.sourceEpoch)
  let targetProofDigest ← digestOf site targetProof
  let receiptDigest ← digestOf site (.obj
    (handoff.receipt promoted.publicMapDigest promoted.targetClientId ++
      strings [("activationGrantDigest", promoted.activationGrantDigest),
        ("headDigest", promoted.headDigest), ("targetProofDigest", targetProofDigest)]))
  let head ← headOf handoff s
  let row ← (rowOf codec handoff s).filter fun row => row.sourceSecretDigest = sourceSecretDigest
  guard (authorityDigest site s = some head.authorityDigest)
  if row.isComplete then do
    guard (row.targetClientId = some promoted.targetClientId ∧
      row.targetProofDigest = some targetProofDigest ∧
      row.activationGrantDigest = some promoted.activationGrantDigest ∧
      row.receiptDigest = some receiptDigest)
    let stored ← row.targetProof
    guard (canonicalJson site.stringify stored = canonicalJson site.stringify targetProof)
    return (true, s)
  else do
    let bindings ← rebind handoff promoted.targetClientId s
    guard (site.database.jsonb targetProof && isHex64 promoted.activationGrantDigest)
    let reprovisions ← finishRow handoff
      { row with
        isComplete := true
        targetClientId := some promoted.targetClientId
        targetProof := some targetProof
        targetProofDigest := some targetProofDigest
        activationGrantDigest := some promoted.activationGrantDigest
        receiptDigest := some receiptDigest } s
    let t ← refreshHead site handoff head
      { s with bindings := bindings, reprovisions := reprovisions }
    return (false, t)

/-- The head that a server is configured with. -/
structure ExpectedHead where
  clusterId : Text
  commandId : Text
  manifestDigest : Text
  sourceEpoch : Int

def noPending (clusterId : Text) (s : Target) : Bool :=
  ((s.reprovisions.lookup clusterId).map rowsOf).all fun rows =>
    rows.all fun row => row.2.isComplete

/-- The answer names the target's system besides what is expected. -/
def assertIndependentStateReady (expected : ExpectedHead) (s : Target) :
    Option (ExpectedHead × Text) := do
  let head ← s.heads.lookup expected.clusterId
  guard (head.commandId = expected.commandId ∧ head.sourceEpoch = expected.sourceEpoch ∧
    head.manifestDigest = expected.manifestDigest)
  guard (noProcessing s)
  guard (noPending expected.clusterId s)
  guard (noActiveUnboundCredentials s)
  guard (head.targetSystemId = site.systemId ∧ head.sourceSystemId ≠ site.systemId)
  guard (authorityDigest site s = some head.authorityDigest)
  return (expected, site.systemId)

end Reprovision

/-! Writes that leave what is there. -/

section Writes

variable {codec : Codec} {database : Database} {outbox : DurableOutbox codec}

def rawSet (pairId : Json) (binding : BindingValue) : Json :=
  .obj ([(text "kind", .str Mutation.setKind), (text "pairId", pairId)] ++ binding.members)

def rawSwap (pairId expectedClientId : Json) (binding : BindingValue) : Json :=
  .obj ([(text "kind", .str Mutation.swapKind), (text "pairId", pairId),
    (text "expectedClientId", expectedClientId)] ++ binding.members)

def rawClaim (key operation agentId : Json) : Json :=
  .obj [(text "kind", .str Mutation.claimKind), (text "idempotencyKey", key),
    (text "operation", operation), (text "agentId", agentId)]

variable (codec) in
/-- A pair is set that is bound already, a swap is not one of the client that is expected, or of a
binding for itself, and a key is claimed that has a row already. -/
def Leaves (s : Tables) : Op → Prop
  | .set pairId binding => ∀ pair clean,
      sanitizeMutation codec (rawSet pairId binding) = some (.set pair clean) →
        (s.bindings pair).isSome = true
  | .compareAndSwap pairId expectedClientId binding => ∀ pair expected clean current,
      sanitizeMutation codec (rawSwap pairId expectedClientId binding) =
        some (.swap pair expected clean) →
      s.bindings pair = some current → current = clean ∨ fits current expected clean = false
  | .claim key operation agentId => ∀ found operation' agentId',
      sanitizeMutation codec (rawClaim key operation agentId) =
        some (.claim found operation' agentId') →
      (s.entries found).isSome = true
  | .complete _ _ => True
  | .checkAndConsume _ _ => True

variable {s : Tables}

theorem left_of_set {pairId : Json} {binding : BindingValue} {done : Done Unit}
    (leaves : Leaves codec s (.set pairId binding))
    (isSet : set outbox pairId binding s = some done) : done.tables = s := by
  obtain ⟨mutation, sanitized, isSet⟩ := Option.bind_eq_some_iff.mp isSet
  split at isSet
  · next pair clean =>
      obtain ⟨record, -, isSet⟩ := Option.bind_eq_some_iff.mp isSet
      have present := leaves pair clean sanitized
      split at isSet
      · next absent =>
          rw [absent] at present
          cases present
      · split at isSet
        · cases isSet
          rfl
        · cases isSet
  · cases isSet

theorem left_of_compareAndSwap {pairId expectedClientId : Json} {binding : BindingValue}
    {done : Done SwapAnswer}
    (leaves : Leaves codec s (.compareAndSwap pairId expectedClientId binding))
    (isSwapped : compareAndSwap outbox pairId expectedClientId binding s = some done) :
    done.tables = s := by
  obtain ⟨mutation, sanitized, isSwapped⟩ := Option.bind_eq_some_iff.mp isSwapped
  split at isSwapped
  · next pair expected clean =>
      split at isSwapped
      · cases isSwapped
        rfl
      · next current isCurrent =>
          split at isSwapped
          · cases isSwapped
            rfl
          · next differs =>
              rcases leaves pair expected clean current sanitized isCurrent with same | unfit
              · exact absurd same differs
              · rw [if_pos unfit] at isSwapped
                cases isSwapped
                rfl
  · cases isSwapped

theorem left_of_claim {key operation agentId : Json} {done : Done ClaimAnswer}
    (leaves : Leaves codec s (.claim key operation agentId))
    (isClaimed : claim outbox key operation agentId s = some done) : done.tables = s := by
  obtain ⟨mutation, sanitized, isClaimed⟩ := Option.bind_eq_some_iff.mp isClaimed
  split at isClaimed
  · next found operation' agentId' =>
      have present := leaves found operation' agentId' sanitized
      split at isClaimed
      · next absent =>
          rw [absent] at present
          cases present
      · split at isClaimed
        · cases isClaimed
          rfl
        · split at isClaimed
          · obtain ⟨response, -, isClaimed⟩ := Option.bind_eq_some_iff.mp isClaimed
            cases isClaimed
            rfl
          · cases isClaimed
            rfl
  · cases isClaimed

theorem left_of_complete {key response : Json} {done : Done Unit}
    (idle : ∀ found entry, s.entries found = some entry → entry.response.isSome = true)
    (isCompleted : complete database outbox key response s = some done) : done.tables = s := by
  obtain ⟨snapshot, -, isCompleted⟩ := Option.bind_eq_some_iff.mp isCompleted
  obtain ⟨found, -, isCompleted⟩ := Option.bind_eq_some_iff.mp isCompleted
  split at isCompleted
  · cases isCompleted
  · obtain ⟨stored, -, isCompleted⟩ := Option.bind_eq_some_iff.mp isCompleted
    obtain ⟨-, isCompleted⟩ := guard_bind_eq_some.mp isCompleted
    cases isCompleted
    rfl
  · next isEntry =>
      have answered := idle found _ isEntry
      cases answered

theorem left_of_checkAndConsume {nonce ttlMs : Json} {now : Int} {expiresAt : Text}
    {done : Done Bool}
    (isConsumed : checkAndConsume database outbox nonce ttlMs now expiresAt s = some done) :
    done.tables.bindings = s.bindings ∧ done.tables.entries = s.entries := by
  obtain ⟨nonce, -, isConsumed⟩ := Option.bind_eq_some_iff.mp isConsumed
  obtain ⟨ttlMs, -, isConsumed⟩ := Option.bind_eq_some_iff.mp isConsumed
  obtain ⟨-, isConsumed⟩ := guard_bind_eq_some.mp isConsumed
  obtain ⟨mutation, -, isConsumed⟩ := Option.bind_eq_some_iff.mp isConsumed
  split at isConsumed
  · next hash clean =>
      have dropped : (dropExpired hash now s).bindings = s.bindings ∧
          (dropExpired hash now s).entries = s.entries := by
        unfold dropExpired
        split
        · exact ⟨rfl, rfl⟩
        · exact ⟨rfl, rfl⟩
      obtain ⟨expiry, -, isConsumed⟩ := Option.bind_eq_some_iff.mp isConsumed
      split at isConsumed
      · cases isConsumed
        exact dropped
      · obtain ⟨record, -, isConsumed⟩ := Option.bind_eq_some_iff.mp isConsumed
        cases isConsumed
        exact dropped
  · cases isConsumed

theorem left_of_perform {op : Op} {choice : Choice} {tables : Tables} {appended : List Json}
    (leaves : Leaves codec s op)
    (idle : ∀ found entry, s.entries found = some entry → entry.response.isSome = true)
    (performed : perform database outbox choice s op = some (tables, appended)) :
    tables.bindings = s.bindings ∧ tables.entries = s.entries := by
  have same : ∀ {t : Tables}, t = s → t.bindings = s.bindings ∧ t.entries = s.entries :=
    fun isSame => ⟨congrArg Tables.bindings isSame, congrArg Tables.entries isSame⟩
  cases op with
  | set pairId binding =>
      obtain ⟨done, isDone, isCommit⟩ := Option.map_eq_some_iff.mp performed
      cases isCommit
      exact same (left_of_set leaves isDone)
  | compareAndSwap pairId expectedClientId binding =>
      obtain ⟨done, isDone, isCommit⟩ := Option.map_eq_some_iff.mp performed
      cases isCommit
      exact same (left_of_compareAndSwap leaves isDone)
  | claim key operation agentId =>
      obtain ⟨done, isDone, isCommit⟩ := Option.map_eq_some_iff.mp performed
      cases isCommit
      exact same (left_of_claim leaves isDone)
  | complete key response =>
      obtain ⟨done, isDone, isCommit⟩ := Option.map_eq_some_iff.mp performed
      cases isCommit
      exact same (left_of_complete idle isDone)
  | checkAndConsume nonce ttlMs =>
      obtain ⟨done, isDone, isCommit⟩ := Option.map_eq_some_iff.mp performed
      cases isCommit
      exact left_of_checkAndConsume isDone

theorem perform_set {choice : Choice} {pairId : Json} {binding : BindingValue} {pair : Text}
    {clean : Binding} {record : Json}
    (sanitized : sanitizeMutation codec (rawSet pairId binding) = some (.set pair clean))
    (appends : outbox.append (Mutation.set pair clean).json = some record)
    (absent : s.bindings pair = none) :
    perform database outbox choice s (.set pairId binding) =
      some (s.bind pair clean, [record]) := by
  refine Option.map_eq_some_iff.mpr ⟨⟨(), s.bind pair clean, [record]⟩, ?_, rfl⟩
  refine Option.bind_eq_some_iff.mpr ⟨_, sanitized, ?_⟩
  refine Option.bind_eq_some_iff.mpr ⟨record, appends, ?_⟩
  rw [absent]
  rfl

theorem perform_swap {choice : Choice} {pairId expectedClientId : Json} {binding : BindingValue}
    {pair expected : Text} {clean : Binding}
    (sanitized : sanitizeMutation codec (rawSwap pairId expectedClientId binding) =
      some (.swap pair expected clean)) (absent : s.bindings pair = none) :
    perform database outbox choice s (.compareAndSwap pairId expectedClientId binding) =
      some (s, []) := by
  refine Option.map_eq_some_iff.mpr ⟨⟨.missing, s, []⟩, ?_, rfl⟩
  refine Option.bind_eq_some_iff.mpr ⟨_, sanitized, ?_⟩
  dsimp only
  rw [absent]
  rfl

end Writes

/-! Runs: an import, and then reprovisions of its credentials and governed writes. -/

def Target.tables (s : Target) : Tables :=
  ⟨fun pairId => s.bindings.lookup pairId, fun key => s.idempotency.lookup key,
    fun hash => s.nonces.lookup hash⟩

theorem tables_bind (s : Target) (pairId : Text) (binding : Binding) :
    ({ s with bindings := s.bindings.insert pairId binding } : Target).tables =
      s.tables.bind pairId binding := by
  unfold Target.tables Tables.bind
  congr 1
  funext other
  by_cases same : other = pairId
  · subst same
    rw [Finmap.lookup_insert, Function.update_self]
  · rw [Finmap.lookup_insert_of_ne _ same, Function.update_of_ne same]

inductive TargetEvent
  | provisions (handoff : Handoff) (targetMap : Json) (fenceEpoch : Option Int)
  | promotes (handoff : Handoff) (sourceSecretDigest : Text) (targetProof : Json)
      (promoted : Promoted)
  | writes (op : Op) (choice : Choice)

def expectedOf (bundle : Bundle) : ExpectedHead :=
  ⟨bundle.manifest.clusterId, bundle.manifest.commandId, bundle.manifestDigest,
    bundle.manifest.sourceEpoch⟩

section Readiness

variable {codec : Codec} {Keys : Type} (site : Site codec Keys)

/-- A write of a store that completes. It has no access to the other tables. -/
structure Writes (s : Target) (op : Op) (choice : Choice) (t : Target) : Prop where
  performed : ∃ appended,
    perform site.database site.outbox choice s.tables op = some (t.tables, appended)
  redactions : t.redactions = s.redactions
  maps : t.maps = s.maps
  heads : t.heads = s.heads
  reprovisions : t.reprovisions = s.reprovisions

def targetRuns (expected : ExpectedHead) : System Target TargetEvent where
  initial t := ∃ (call : Call Keys) (clock : Text → Int) (s : Target) (result : Imported),
    importIndependentState site call clock s = some (result, t) ∧ result.idempotent = false ∧
      expected = expectedOf call.bundle
  next s event t :=
    match event with
    | .provisions handoff targetMap fenceEpoch => handoff.clusterId = expected.clusterId ∧
        ∃ idempotent, completeImportedTskReprovision site handoff targetMap fenceEpoch s =
          some (idempotent, t)
    | .promotes handoff sourceSecretDigest targetProof promoted =>
        handoff.clusterId = expected.clusterId ∧
          ∃ idempotent, completeImportedPromotedTskCredential site handoff sourceSecretDigest
            targetProof promoted s = some (idempotent, t)
    | .writes op choice => Writes site s op choice t

variable (codec) in
/-- Governed writes leave what is there. -/
def Leaving (s : Target) : TargetEvent → Prop
  | .writes op _ => Leaves codec s.tables op
  | _ => True

/-- The head has the digest of what the target has, no key is being processed, and every
credential is one of a pair that is provisioned. -/
structure Anchored (expected : ExpectedHead) (s : Target) : Prop where
  head : ∃ head, s.heads.lookup expected.clusterId = some head ∧
    (head.commandId = expected.commandId ∧ head.sourceEpoch = expected.sourceEpoch ∧
      head.manifestDigest = expected.manifestDigest) ∧
    (head.targetSystemId = site.systemId ∧ head.sourceSystemId ≠ site.systemId) ∧
    authorityDigest site s = some head.authorityDigest
  idle : ∀ key entry, s.idempotency.lookup key = some entry → entry.response.isSome = true
  bound : ∀ clientId map, s.maps.lookup clientId = some map →
    ∃ rows pairId row binding, s.reprovisions.lookup expected.clusterId = some rows ∧
      rows.lookup pairId = some row ∧ row.isComplete = true ∧
      s.bindings.lookup pairId = some binding ∧ binding.tskClientId = clientId

variable {site} {expected : ExpectedHead} {s t : Target}

theorem ready_of_anchored (anchored : Anchored site expected s)
    (settled : noPending expected.clusterId s = true) :
    assertIndependentStateReady site expected s = some (expected, site.systemId) := by
  obtain ⟨head, isHead, isExpected, isSystem, authority⟩ := anchored.head
  have processing : noProcessing s = true := by
    refine List.all_eq_true.mpr fun row member => ?_
    exact anchored.idle row.1 row.2 (mem_rowsOf.mp member)
  have credentials : noActiveUnboundCredentials s = true := by
    refine List.all_eq_true.mpr fun row member => ?_
    obtain ⟨_, pairId, _, binding, -, -, -, isBound, isClient⟩ :=
      anchored.bound row.1 row.2 (mem_rowsOf.mp member)
    refine Bool.or_eq_true_iff.mpr (.inr (List.any_eq_true.mpr ?_))
    exact ⟨(pairId, binding), mem_rowsOf.mpr isBound, decide_eq_true isClient⟩
  unfold assertIndependentStateReady
  rw [isHead]
  exact guard_bind_eq_some.mpr ⟨isExpected, guard_bind_eq_some.mpr ⟨processing,
    guard_bind_eq_some.mpr ⟨settled, guard_bind_eq_some.mpr ⟨credentials,
      guard_bind_eq_some.mpr ⟨isSystem, guard_bind_eq_some.mpr ⟨authority, rfl⟩⟩⟩⟩⟩⟩

theorem authority_of_ready {answer : ExpectedHead × Text}
    (ready : assertIndependentStateReady site expected s = some answer) : ∃ head,
      s.heads.lookup expected.clusterId = some head ∧
        authorityDigest site s = some head.authorityDigest := by
  obtain ⟨head, isHead, ready⟩ := Option.bind_eq_some_iff.mp ready
  obtain ⟨-, ready⟩ := guard_bind_eq_some.mp ready
  obtain ⟨-, ready⟩ := guard_bind_eq_some.mp ready
  obtain ⟨-, ready⟩ := guard_bind_eq_some.mp ready
  obtain ⟨-, ready⟩ := guard_bind_eq_some.mp ready
  obtain ⟨-, ready⟩ := guard_bind_eq_some.mp ready
  exact ⟨head, isHead, (guard_bind_eq_some.mp ready).1⟩

theorem anchored_of_import {call : Call Keys} {clock : Text → Int} {result : Imported}
    (done : importIndependentState site call clock s = some (result, t))
    (isNew : result.idempotent = false) : Anchored site (expectedOf call.bundle) t := by
  have replaced : replaceState site call clock s = some t := by
    obtain ⟨-, ⟨head, isHead, sameEpoch, -⟩ | ⟨-, replaced⟩⟩ := import_cases done
    · obtain ⟨_, -, done⟩ := Option.bind_eq_some_iff.mp done
      dsimp only at done
      rw [isHead] at done
      dsimp only at done
      rw [if_neg (not_lt.mpr sameEpoch.le), if_pos sameEpoch] at done
      obtain ⟨_, -, done⟩ := Option.bind_eq_some_iff.mp done
      cases done
      cases isNew
    · exact replaced
  obtain ⟨isBindings, isTables⟩ := tables_of_replaceState replaced
  obtain ⟨-, files⟩ := files_foldlM (fun _ _ => Finmap.lookup_empty _) isTables
  obtain ⟨imported, isHeads, authority, noMaps, -⟩ := replaced_of_replaceState replaced
  have isHead := congrArg (Finmap.lookup call.bundle.manifest.clusterId) isHeads
  rw [Finmap.lookup_insert] at isHead
  have independent : call.bundle.manifest.sourceSystemId ≠ site.systemId := by
    have isAccepted := (import_cases done).1
    unfold accepts at isAccepted
    simp only [Bool.and_eq_true, Bool.not_eq_true', decide_eq_false_iff_not] at isAccepted
    exact Ne.symm isAccepted.1.2
  refine ⟨⟨_, isHead, ⟨rfl, rfl, rfl⟩, ⟨rfl, independent⟩, authority⟩, ?_, ?_⟩
  · intro key entry isEntry
    rcases (files key entry _).mp ⟨isEntry, rfl⟩ with ⟨row, -, -, rfl, -⟩ | ⟨isEmpty, -⟩
    · rfl
    · rw [Finmap.lookup_empty] at isEmpty
      cases isEmpty
  · intro clientId map isMap
    rw [noMaps, Finmap.lookup_empty] at isMap
    cases isMap

theorem anchored_of_writes {op : Op} {choice : Choice} (anchored : Anchored site expected s)
    (leaves : Leaves codec s.tables op) (writes : Writes site s op choice t) :
    Anchored site expected t := by
  obtain ⟨appended, performed⟩ := writes.performed
  obtain ⟨sameBindings, sameEntries⟩ := left_of_perform leaves anchored.idle performed
  have bindings : t.bindings = s.bindings := Finmap.ext_lookup fun pairId =>
    congrFun sameBindings pairId
  have idempotency : t.idempotency = s.idempotency := Finmap.ext_lookup fun key =>
    congrFun sameEntries key
  have isTarget : t = { s with nonces := t.nonces } := by
    cases t
    cases bindings
    cases idempotency
    cases writes.redactions
    cases writes.maps
    cases writes.heads
    cases writes.reprovisions
    rfl
  rw [isTarget]
  exact ⟨anchored.head, anchored.idle, anchored.bound⟩

/-- What a reprovision does: a pair whose row is pending gets a client, which the maps may name
now, its row is completed and the digest of the head is made anew. -/
structure Moved (site : Site codec Keys) (expected : ExpectedHead) (s t : Target)
    (clientId pairId : Text) : Prop where
  maps : ∀ other map, t.maps.lookup other = some map →
    other = clientId ∨ s.maps.lookup other = some map
  bindings : ∃ binding : Binding,
    t.bindings = s.bindings.insert pairId { binding with tskClientId := clientId }
  rows : ∃ rows row finished, s.reprovisions.lookup expected.clusterId = some rows ∧
    rows.lookup pairId = some row ∧ row.isComplete = false ∧ finished.isComplete = true ∧
    t.reprovisions.lookup expected.clusterId = some (rows.insert pairId finished)
  heads : ∃ head refreshed, s.heads.lookup expected.clusterId = some head ∧
    t.heads.lookup expected.clusterId = some { head with authorityDigest := refreshed } ∧
    authorityDigest site t = some refreshed
  idempotency : t.idempotency = s.idempotency

theorem anchored_of_moved {clientId pairId : Text} (anchored : Anchored site expected s)
    (moved : Moved site expected s t clientId pairId) : Anchored site expected t := by
  obtain ⟨rows, row, finished, isRows, isRow, isPending, isFinished, isRows'⟩ := moved.rows
  obtain ⟨binding, isBindings⟩ := moved.bindings
  constructor
  · obtain ⟨head, isHead, isExpected, isSystem, -⟩ := anchored.head
    obtain ⟨own, refreshed, isOwn, isHead', authority⟩ := moved.heads
    cases isHead.symm.trans isOwn
    exact ⟨_, isHead', isExpected, isSystem, authority⟩
  · rw [moved.idempotency]
    exact anchored.idle
  · intro other map isMap
    rcases moved.maps other map isMap with rfl | earlier
    · refine ⟨_, pairId, finished, { binding with tskClientId := other }, isRows',
        Finmap.lookup_insert _, isFinished, ?_, rfl⟩
      rw [isBindings, Finmap.lookup_insert]
    · obtain ⟨rows', pairId', row', binding', isRowsOf, isRowOf, isComplete, isBound, isClient⟩ :=
        anchored.bound other map earlier
      cases isRows.symm.trans isRowsOf
      have differs : pairId' ≠ pairId := by
        rintro rfl
        cases isRow.symm.trans isRowOf
        rw [isPending] at isComplete
        cases isComplete
      refine ⟨_, pairId', row', binding', isRows', ?_, isComplete, ?_, isClient⟩
      · rw [Finmap.lookup_insert_of_ne _ differs]
        exact isRowOf
      · rw [isBindings, Finmap.lookup_insert_of_ne _ differs]
        exact isBound

variable {handoff : Handoff} {clientId : Text}

theorem bindings_of_rebind {bindings : Table Text Binding}
    (isRebound : rebind handoff clientId s = some bindings) : ∃ binding : Binding,
      bindings = s.bindings.insert handoff.pairId { binding with tskClientId := clientId } := by
  obtain ⟨binding, -, isRebound⟩ := Option.bind_eq_some_iff.mp isRebound
  obtain ⟨-, isRebound⟩ := guard_bind_eq_some.mp isRebound
  exact ⟨binding, (Option.some.inj isRebound).symm⟩

theorem rows_of_finishRow {row finished : Reprovision}
    {reprovisions : Table Text (Table Text Reprovision)} (isRow : rowOf codec handoff s = some row)
    (isFinished : finishRow handoff finished s = some reprovisions) : ∃ rows,
      s.reprovisions.lookup handoff.clusterId = some rows ∧
        rows.lookup handoff.pairId = some row ∧
        reprovisions.lookup handoff.clusterId = some (rows.insert handoff.pairId finished) := by
  obtain ⟨rows, isRows, isRow⟩ := Option.bind_eq_some_iff.mp isRow
  obtain ⟨isRow, -⟩ := Option.filter_eq_some_iff.mp isRow
  obtain ⟨others, isOthers, isFinished⟩ := Option.bind_eq_some_iff.mp isFinished
  obtain ⟨-, isFinished⟩ := guard_bind_eq_some.mp isFinished
  cases isRows.symm.trans isOthers
  cases isFinished
  exact ⟨rows, isRows, isRow, Finmap.lookup_insert _⟩

theorem heads_of_refreshHead {head : Head} {moved : Target} (isHead : headOf handoff s = some head)
    (isRefreshed : refreshHead site handoff head moved = some t) :
    (∃ refreshed, s.heads.lookup handoff.clusterId = some head ∧
      t.heads.lookup handoff.clusterId = some { head with authorityDigest := refreshed } ∧
      authorityDigest site t = some refreshed) ∧ t = { moved with heads := t.heads } := by
  obtain ⟨isHead, -⟩ := Option.filter_eq_some_iff.mp isHead
  obtain ⟨refreshed, authority, isRefreshed⟩ := Option.bind_eq_some_iff.mp isRefreshed
  cases isRefreshed
  exact ⟨⟨refreshed, isHead, Finmap.lookup_insert _, authority⟩, rfl⟩

theorem moved_of_provisions {targetMap : Json} {fenceEpoch : Option Int} {idempotent : Bool}
    (done : completeImportedTskReprovision site handoff targetMap fenceEpoch s =
      some (idempotent, t)) (isCluster : handoff.clusterId = expected.clusterId) :
    t = s ∨ ∃ clientId, Moved site expected s t clientId handoff.pairId := by
  obtain ⟨-, done⟩ := guard_bind_eq_some.mp done
  obtain ⟨clientId, -, done⟩ := Option.bind_eq_some_iff.mp done
  obtain ⟨head, isHead, done⟩ := Option.bind_eq_some_iff.mp done
  obtain ⟨row, isRow, done⟩ := Option.bind_eq_some_iff.mp done
  obtain ⟨-, done⟩ := guard_bind_eq_some.mp done
  obtain ⟨-, done⟩ := guard_bind_eq_some.mp done
  obtain ⟨publicMapDigest, -, done⟩ := Option.bind_eq_some_iff.mp done
  obtain ⟨receiptDigest, -, done⟩ := Option.bind_eq_some_iff.mp done
  cases isComplete : row.isComplete with
  | true =>
      rw [if_pos isComplete] at done
      obtain ⟨-, done⟩ := guard_bind_eq_some.mp done
      obtain ⟨stored, -, done⟩ := Option.bind_eq_some_iff.mp done
      obtain ⟨storedDigest, -, done⟩ := Option.bind_eq_some_iff.mp done
      obtain ⟨-, done⟩ := guard_bind_eq_some.mp done
      obtain ⟨-, done⟩ := guard_bind_eq_some.mp done
      cases done
      exact .inl rfl
  | false =>
      rw [isComplete] at done
      obtain ⟨-, done⟩ := guard_bind_eq_some.mp done
      obtain ⟨maps, isMaps, done⟩ := Option.bind_eq_some_iff.mp done
      obtain ⟨bindings, isBindings, done⟩ := Option.bind_eq_some_iff.mp done
      obtain ⟨reprovisions, isRows, done⟩ := Option.bind_eq_some_iff.mp done
      obtain ⟨moved, isMoved, done⟩ := Option.bind_eq_some_iff.mp done
      obtain ⟨-, done⟩ := guard_bind_eq_some.mp done
      cases done
      obtain ⟨⟨refreshed, heads⟩, isTarget⟩ := heads_of_refreshHead isHead isMoved
      obtain ⟨rows, isOld, isRow, isNew⟩ := rows_of_finishRow isRow isRows
      refine .inr ⟨clientId, ?_, ?_, ?_, ⟨head, refreshed, isCluster ▸ heads⟩, ?_⟩
      · intro other map isMap
        rw [isTarget] at isMap
        exact ((lookup_insertRow isMaps other map).mp isMap).imp_left And.left
      · rw [isTarget]
        exact bindings_of_rebind isBindings
      · rw [isTarget, ← isCluster]
        exact ⟨rows, row, _, isOld, isRow, isComplete, rfl, isNew⟩
      · rw [isTarget]

theorem moved_of_promotes {sourceSecretDigest : Text} {targetProof : Json} {promoted : Promoted}
    {idempotent : Bool}
    (done : completeImportedPromotedTskCredential site handoff sourceSecretDigest targetProof
      promoted s = some (idempotent, t)) (isCluster : handoff.clusterId = expected.clusterId) :
    t = s ∨ Moved site expected s t promoted.targetClientId handoff.pairId := by
  obtain ⟨-, done⟩ := guard_bind_eq_some.mp done
  obtain ⟨-, done⟩ := guard_bind_eq_some.mp done
  obtain ⟨targetProofDigest, -, done⟩ := Option.bind_eq_some_iff.mp done
  obtain ⟨receiptDigest, -, done⟩ := Option.bind_eq_some_iff.mp done
  obtain ⟨head, isHead, done⟩ := Option.bind_eq_some_iff.mp done
  obtain ⟨row, isRow, done⟩ := Option.bind_eq_some_iff.mp done
  obtain ⟨isRow, -⟩ := Option.filter_eq_some_iff.mp isRow
  obtain ⟨-, done⟩ := guard_bind_eq_some.mp done
  cases isComplete : row.isComplete with
  | true =>
      rw [if_pos isComplete] at done
      obtain ⟨-, done⟩ := guard_bind_eq_some.mp done
      obtain ⟨stored, -, done⟩ := Option.bind_eq_some_iff.mp done
      obtain ⟨-, done⟩ := guard_bind_eq_some.mp done
      cases done
      exact .inl rfl
  | false =>
      rw [isComplete] at done
      obtain ⟨bindings, isBindings, done⟩ := Option.bind_eq_some_iff.mp done
      obtain ⟨-, done⟩ := guard_bind_eq_some.mp done
      obtain ⟨reprovisions, isRows, done⟩ := Option.bind_eq_some_iff.mp done
      obtain ⟨moved, isMoved, done⟩ := Option.bind_eq_some_iff.mp done
      cases done
      obtain ⟨⟨refreshed, heads⟩, isTarget⟩ := heads_of_refreshHead isHead isMoved
      obtain ⟨rows, isOld, isRow, isNew⟩ := rows_of_finishRow isRow isRows
      refine .inr ⟨?_, ?_, ?_, ⟨head, refreshed, isCluster ▸ heads⟩, ?_⟩
      · intro other map isMap
        rw [isTarget] at isMap
        exact .inr isMap
      · rw [isTarget]
        exact bindings_of_rebind isBindings
      · rw [isTarget, ← isCluster]
        exact ⟨rows, row, _, isOld, isRow, isComplete, rfl, isNew⟩
      · rw [isTarget]

theorem anchored_step {event : TargetEvent} (anchored : Anchored site expected s)
    (leaving : Leaving codec s event) (next : (targetRuns site expected).next s event t) :
    Anchored site expected t := by
  cases event with
  | provisions handoff targetMap fenceEpoch =>
      obtain ⟨isCluster, idempotent, done⟩ := next
      rcases moved_of_provisions done isCluster with rfl | ⟨clientId, moved⟩
      · exact anchored
      · exact anchored_of_moved anchored moved
  | promotes handoff sourceSecretDigest targetProof promoted =>
      obtain ⟨isCluster, idempotent, done⟩ := next
      rcases moved_of_promotes done isCluster with rfl | moved
      · exact anchored
      · exact anchored_of_moved anchored moved
  | writes op choice => exact anchored_of_writes anchored leaving next

variable {events : List TargetEvent}

end Readiness

/-- The canonical text of an authority without rows, where every primitive is written as nothing. -/
def emptyText : Text := text "\x7b:[],:[],:[],:[]\x7d"

def otherDigest : Text := text "66687aadf862bd776c8fc18b8e9f8e20089714856ee233b3902a591d0d5f2925"

/-- The authority without rows has a digest of its own. -/
def markedCodec : Codec where
  canonicalize := Json.canonicalText
  sha256 value := if value = emptyText then sampleDigest else otherDigest
  keySha256 := sampleCodec.keySha256
  normal_eq _ _ _ := Json.normal_eq_of_canonicalText
  canonicalize_normal := Json.canonicalText_normal
  isHex64_sha256 value := by
    by_cases same : value = emptyText
    · rw [if_pos same]
      decide
    · rw [if_neg same]
      decide

def markedOutbox : DurableOutbox markedCodec where
  append raw := ((sanitizeMutation markedCodec raw).map Mutation.json).filter
    (assertSanitized markedCodec)
  parse _ := none
  sanitized raw record appended := by
    obtain ⟨isRecord, accepted⟩ := Option.filter_eq_some_iff.mp appended
    obtain ⟨clean, sanitized, rfl⟩ := Option.map_eq_some_iff.mp isRecord
    exact ⟨accepted, clean, sanitized, rfl⟩

def markedSite : Site markedCodec Unit where
  database := sampleDatabase
  outbox := markedOutbox
  stringify _ := []
  byteLength _ := 0
  systemId := text "target"
  sourceSigned _ _ _ _ := true
  guardSigned _ _ _ _ := true
  areDistinct _ := true
  evidences _ _ _ := true

def digestAt (value : Json) : Text := markedCodec.sha256 (canonicalJson markedSite.stringify value)

theorem digestOf_marked {value : Json} (safe : hasSafeNumbers value = true) :
    digestOf markedSite value = some (digestAt value) :=
  if_pos safe

def markedManifest : Manifest :=
  { (sampleBundle 1 []).manifest with
    authorityDigest := digestAt (.obj [(text "identityBindings", .arr []),
      (text "idempotency", .arr []), (text "tskCredentials", .arr [])])
    stateDigest := digestAt (State.json ⟨[], [], [], []⟩) }

def markedBundle : Bundle :=
  { sampleBundle 1 [] with
    manifest := markedManifest
    manifestDigest := digestAt markedManifest.json
    guardDigest := digestAt (.obj (strings
      [("domain", text "selfconnect-ultra-independent-state-guard-v1"),
        ("manifestDigest", digestAt markedManifest.json), ("sourceKeyId", text "source-key"),
        ("sourceSignature", [])])) }

def markedCall : Call Unit := { sampleCall 1 [] with bundle := markedBundle }

theorem accepts_marked : accepts markedSite markedCall = true := by
  have hex : ∀ value, isHex64 (digestAt value) = true := fun _ => markedCodec.isHex64_sha256 _
  simp only [accepts, verifyIndependentStateBundle, validateManifest, Bool.and_eq_true,
    decide_eq_true_eq]
  and_intros
  all_goals try decide +kernel
  -- What is left is about digests, which are not computed.
  · exact digestOf_marked (by decide +kernel)
  · exact hex _
  · exact hex _
  · exact hex _
  · exact digestOf_marked (by decide +kernel)
  · exact digestOf_marked (by decide +kernel)
  · exact digestOf_marked (by decide +kernel)

theorem canonicalJson_four (a b c d : Json) :
    canonicalJson markedSite.stringify (.obj [(text "identityBindings", a),
      (text "idempotency", b), (text "tskCredentials", c), (text "tskCredentialProofs", d)]) =
    text "\x7b:" ++ canonicalJson markedSite.stringify b ++ text ",:" ++
      canonicalJson markedSite.stringify a ++ text ",:" ++
      canonicalJson markedSite.stringify d ++ text ",:" ++
      canonicalJson markedSite.stringify c ++ text "\x7d" := by
  have bindings : ¬ text "identityBindings" ≤ text "idempotency" := by decide
  have credentials : ¬ text "tskCredentials" ≤ text "tskCredentialProofs" := by decide
  have first : text "idempotency" ≤ text "tskCredentialProofs" := by decide
  have second : text "identityBindings" ≤ text "tskCredentialProofs" := by decide
  have sorted : ∀ a b c d : Text,
      sortMembers [(text "identityBindings", a), (text "idempotency", b),
        (text "tskCredentials", c), (text "tskCredentialProofs", d)] =
      [(text "idempotency", b), (text "identityBindings", a),
        (text "tskCredentialProofs", d), (text "tskCredentials", c)] := by
    intro a b c d
    simp [sortMembers, List.mergeSort, List.MergeSort.Internal.splitInTwo, bindings, credentials,
      first, second]
  change text "\x7b" ++ (text ",").intercalate ((sortMembers
    [(text "identityBindings", canonicalJson markedSite.stringify a),
      (text "idempotency", canonicalJson markedSite.stringify b),
      (text "tskCredentials", canonicalJson markedSite.stringify c),
      (text "tskCredentialProofs", canonicalJson markedSite.stringify d)]).map _) ++
    text "\x7d" = _
  rw [sorted]
  simp [markedSite, List.intercalate, List.intersperse, text]

/-- The authority of a target that has bindings only. -/
def authorityOf (rows : List (Text × Binding)) : Json :=
  .obj [(text "identityBindings", .arr (rows.map fun row => (BoundPair.mk row.1 row.2).json)),
    (text "idempotency", .arr []), (text "tskCredentials", .arr []),
    (text "tskCredentialProofs", .arr [])]

theorem authorityDigest_marked {s : Target} (maps : s.maps = ∅) (idempotency : s.idempotency = ∅)
    (proofs : s.proofs = []) {rows : List (Text × Binding)} (isRows : rowsOf s.bindings = rows)
    (valid : rows.all (fun row => requireAgentIdentity markedCodec row.2.agentId
      row.2.canonicalId row.2.agentPublicKeyHex) = true)
    (safe : hasSafeNumbers (authorityOf rows) = true) :
    authorityDigest markedSite s = some (digestAt (authorityOf rows)) := by
  have noCredentials : ∀ others : List (Text × Binding),
      others.mapM (fun row => credentialOf markedSite s row.2) =
        some (others.map fun _ => none) := by
    intro others
    induction others with
    | nil => rfl
    | cons row rest ih =>
        rw [List.mapM_cons, ih]
        unfold credentialOf
        rw [maps, Finmap.lookup_empty]
        rfl
  have isState : readTargetAuthorityState markedSite s = some (authorityOf rows) := by
    unfold readTargetAuthorityState Target.completeRows
    rw [isRows, idempotency, rowsOf_empty, proofs]
    refine guard_bind_eq_some.mpr ⟨valid, ?_⟩
    rw [noCredentials]
    have nothing : (rows.map fun _ => (none : Option Json)).filterMap id = [] := by
      refine List.filterMap_eq_nil_iff.mpr fun found member => ?_
      obtain ⟨_, -, rfl⟩ := List.mem_map.mp member
      rfl
    change some (Json.obj [_, _, (_, Json.arr ((rows.map fun _ => none).filterMap id)), _]) = _
    rw [nothing]
    rfl
  unfold authorityDigest
  rw [isState]
  exact digestOf_marked safe

def markedTarget : Target :=
  { emptyTarget with
    heads := emptyTarget.heads.insert (text "cluster")
      ⟨text "command", 1, text "source", text "target", markedBundle.manifestDigest,
        digestAt (authorityOf [])⟩
    reprovisions := emptyTarget.reprovisions.insert (text "cluster") ∅ }

theorem proofs_marked : markedTarget.proofs = [] := by
  change (rowsOf
    ((∅ : Table Text (Table Text Reprovision)).insert (text "cluster") ∅)).flatMap _ = []
  rw [rowsOf_singleton]
  change ((rowsOf (∅ : Table Text Reprovision)).filter _).map _ ++ [] = []
  rw [rowsOf_empty]
  rfl

theorem imported_marked : importIndependentState markedSite markedCall (fun _ => 0) emptyTarget =
    some (⟨false, markedBundle.manifestDigest, text "target"⟩, markedTarget) := by
  have authority : authorityDigest markedSite markedTarget = some (digestAt (authorityOf [])) :=
    authorityDigest_marked rfl rfl proofs_marked rowsOf_empty rfl (by decide)
  have processing : noProcessing emptyTarget = true := by
    unfold noProcessing
    rw [show emptyTarget.idempotency = ∅ from rfl, rowsOf_empty]
    rfl
  have replaced : replaceState markedSite markedCall (fun _ => 0) emptyTarget =
      some markedTarget := by
    refine guard_bind_eq_some.mpr ⟨processing, ?_⟩
    change (authorityDigest markedSite markedTarget).bind _ = _
    rw [authority]
    rfl
  refine guard_bind_eq_some.mpr ⟨accepts_marked, ?_⟩
  change (replaceState markedSite markedCall (fun _ => 0) emptyTarget).bind _ = _
  rw [replaced]
  rfl

/-- A pair that was not there is bound. -/
def newBinding : Binding where
  tskClientId := text "client"
  agentId := text "SC-66687AAD"
  canonicalId := text "SCID-66687aadf862bd776c8fc18b8e9f8e20089714856ee233b3902a591d0d5f2925"
  agentPublicKeyHex := text "3b6a27bcceb6a42d62a3a8d02a6f0d73653215771de243a63ac048a18b59da29"

def newValue : BindingValue :=
  ⟨.str newBinding.tskClientId, .str newBinding.agentId, .str newBinding.canonicalId,
    .str newBinding.agentPublicKeyHex⟩

def boundTarget : Target :=
  { markedTarget with bindings := markedTarget.bindings.insert (text "pair") newBinding }

theorem writes_newBinding : Writes markedSite markedTarget (.set (.str (text "pair")) newValue)
    ⟨false, 0, []⟩ boundTarget := by
  have sanitized : sanitizeMutation markedCodec (rawSet (.str (text "pair")) newValue) =
      some (.set (text "pair") newBinding) := by rfl
  have appends : (markedOutbox.append (Mutation.set (text "pair") newBinding).json).isSome =
      true := by decide +kernel
  obtain ⟨record, isRecord⟩ := Option.isSome_iff_exists.mp appends
  have absent : markedTarget.tables.bindings (text "pair") = none := by
    change Finmap.lookup (text "pair") (∅ : Table Text Binding) = none
    exact Finmap.lookup_empty _
  have isTables : boundTarget.tables = markedTarget.tables.bind (text "pair") newBinding :=
    tables_bind markedTarget (text "pair") newBinding
  refine ⟨⟨[record], ?_⟩, rfl, rfl, rfl, rfl⟩
  rw [isTables]
  exact perform_set sanitized isRecord absent

theorem authority_boundTarget : authorityDigest markedSite boundTarget =
    some (digestAt (authorityOf [(text "pair", newBinding)])) := by
  have isRows : rowsOf boundTarget.bindings = [(text "pair", newBinding)] :=
    rowsOf_singleton (text "pair") newBinding
  have proofs : boundTarget.proofs = [] := proofs_marked
  have valid : [(text "pair", newBinding)].all (fun row => requireAgentIdentity markedCodec
      row.2.agentId row.2.canonicalId row.2.agentPublicKeyHex) = true := by decide +kernel
  exact authorityDigest_marked (s := boundTarget) rfl rfl proofs isRows valid (by decide)

theorem digestAt_newBinding :
    digestAt (authorityOf [(text "pair", newBinding)]) ≠ digestAt (authorityOf []) := by
  have before : canonicalJson markedSite.stringify (authorityOf []) = emptyText :=
    (canonicalJson_four _ _ _ _).trans rfl
  have after : canonicalJson markedSite.stringify (authorityOf [(text "pair", newBinding)]) ≠
      emptyText := by
    unfold authorityOf
    rw [canonicalJson_four]
    decide +kernel
  have isOther : digestAt (authorityOf [(text "pair", newBinding)]) = otherDigest := if_neg after
  have isOwn : digestAt (authorityOf []) = sampleDigest := if_pos before
  rw [isOther, isOwn]
  decide

def markedExpected : ExpectedHead := expectedOf markedBundle

theorem settled_markedTarget : noPending markedExpected.clusterId markedTarget = true := by
  have rows : markedTarget.reprovisions.lookup markedExpected.clusterId = some ∅ :=
    Finmap.lookup_insert _
  unfold noPending
  rw [rows, Option.map_some, rowsOf_empty]
  rfl

theorem run_marked : (targetRuns markedSite markedExpected).Run [] markedTarget :=
  .start ⟨markedCall, fun _ => 0, emptyTarget, _, imported_marked, rfl, rfl⟩

end SelfConnect.Ultra.Independent
