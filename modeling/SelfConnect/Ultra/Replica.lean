import SelfConnect.Ultra.Secrecy

namespace SelfConnect.Ultra.Outbox

open SelfConnect.Js

/-! The replicated stores of the source, and the replica that applies what they append. -/

/-- The tables. The idempotency keys are UUIDs as PostgreSQL writes them. -/
structure Tables where
  bindings : Text → Option Binding
  entries : Text → Option Entry
  nonces : Text → Option Int

def Tables.empty : Tables := ⟨fun _ => none, fun _ => none, fun _ => none⟩

/-- What a replica has for a response with a secret. -/
def placeholder (responseDigest : Json) : Json :=
  .obj [(text "ok", .bool false), (text "error", .str (text "SECRET_REPROVISION_REQUIRED")),
    (text "originalResponseDigest", responseDigest)]

/-- How PostgreSQL reads a UUID and a date, and the JSON it takes. -/
structure Database where
  uuid : Json → Option Text
  timestamptz : Text → Option Int
  jsonb : Json → Bool
  uuid_str : ∀ value, isUuid value = true → uuid (.str value) = some (value.map lowerUnit)
  jsonb_placeholder : ∀ found, isHex64 found = true → jsonb (placeholder (.str found)) = true

/-- `appendInTx`, which sanitizes a mutation, checks it and writes it, or throws; and
`JSON.parse`, for responses that are strings. -/
structure DurableOutbox (codec : Codec) where
  append : Json → Option Json
  parse : Text → Option Json
  sanitized : ∀ raw record, append raw = some record → assertSanitized codec record = true ∧
    ∃ clean, sanitizeMutation codec raw = some clean ∧
      codec.canonicalize record = codec.canonicalize clean.json

/-- What a transaction comes to. -/
structure Done (α : Type) where
  answer : α
  tables : Tables
  appended : List Json

/-- The binding that a caller gives. -/
structure BindingValue where
  tskClientId : Json
  agentId : Json
  canonicalId : Json
  agentPublicKeyHex : Json

def BindingValue.members (binding : BindingValue) : List (Text × Json) :=
  [(text "tskClientId", binding.tskClientId), (text "agentId", binding.agentId),
    (text "canonicalId", binding.canonicalId),
    (text "agentPublicKeyHex", binding.agentPublicKeyHex)]

inductive SwapAnswer
  | updated
  | already
  | missing
  | conflict

inductive ClaimAnswer
  | claimed
  | conflict
  | complete (response : Json)
  | processing

section Stores

variable {codec : Codec} (database : Database) (outbox : DurableOutbox codec)

def Tables.bind (s : Tables) (pairId : Text) (binding : Binding) : Tables :=
  { s with bindings := Function.update s.bindings pairId (some binding) }

def Tables.putEntry (s : Tables) (key : Text) (entry : Entry) : Tables :=
  { s with entries := Function.update s.entries key (some entry) }

/-- The row has the owner of the binding, and the client that is expected. -/
def fits (current : Binding) (expectedClientId : Text) (binding : Binding) : Bool :=
  current.tskClientId = expectedClientId && current.agentId = binding.agentId &&
    current.canonicalId = binding.canonicalId &&
    current.agentPublicKeyHex = binding.agentPublicKeyHex

def set (pairId : Json) (binding : BindingValue) (s : Tables) : Option (Done Unit) := do
  let mutation ← sanitizeMutation codec (.obj
    ([(text "kind", .str Mutation.setKind), (text "pairId", pairId)] ++ binding.members))
  match mutation with
  | .set pairId binding => do
      let record ← outbox.append mutation.json
      match s.bindings pairId with
      | none => return ⟨(), s.bind pairId binding, [record]⟩
      | some current => if current = binding then return ⟨(), s, [record]⟩ else none
  | _ => none

def compareAndSwap (pairId expectedClientId : Json) (binding : BindingValue) (s : Tables) :
    Option (Done SwapAnswer) := do
  let mutation ← sanitizeMutation codec (.obj ([(text "kind", .str Mutation.swapKind),
    (text "pairId", pairId), (text "expectedClientId", expectedClientId)] ++ binding.members))
  match mutation with
  | .swap pairId expectedClientId binding =>
      match s.bindings pairId with
      | none => return ⟨.missing, s, []⟩
      | some current =>
          if current = binding then return ⟨.already, s, []⟩
          else if fits current expectedClientId binding = false then return ⟨.conflict, s, []⟩
          else do
            let record ← outbox.append mutation.json
            return ⟨.updated, s.bind pairId binding, [record]⟩
  | _ => none

/-- `parseJson` -/
def parseJson : Json → Option Json
  | .str value => outbox.parse value
  | value => some value

def claim (key operation agentId : Json) (s : Tables) : Option (Done ClaimAnswer) := do
  let mutation ← sanitizeMutation codec (.obj [(text "kind", .str Mutation.claimKind),
    (text "idempotencyKey", key), (text "operation", operation), (text "agentId", agentId)])
  match mutation with
  | .claim key operation agentId =>
      match s.entries key with
      | none => do
          let record ← outbox.append mutation.json
          return ⟨.claimed, s.putEntry key ⟨operation, agentId, none⟩, [record]⟩
      | some entry =>
          if entry.operation ≠ operation ∨ entry.agentId ≠ agentId then return ⟨.conflict, s, []⟩
          else match entry.response with
            | some response => do
                let response ← parseJson outbox response
                return ⟨.complete response, s, []⟩
            | none => return ⟨.processing, s, []⟩
  | _ => none

variable (codec) in
def sameText (first second : Json) : Bool :=
  (codec.canonicalize second).isSome && codec.canonicalize first = codec.canonicalize second

/-- The row is still processing, and PostgreSQL takes the response. -/
def updateResponse (key : Text) (response : Json) (s : Tables) : Option Tables :=
  match s.entries key with
  | some ⟨operation, agentId, none⟩ =>
      if database.jsonb response then
        some (s.putEntry key ⟨operation, agentId, some response⟩)
      else none
  | _ => none

/-- A completion before it is sanitized. -/
def rawCompletion (key : Json) (operation agentId : Text) (response : Json) : Json :=
  .obj [(text "kind", .str Mutation.completeKind), (text "idempotencyKey", key),
    (text "operation", .str operation), (text "agentId", .str agentId), (text "response", response)]

def complete (key response : Json) (s : Tables) : Option (Done Unit) := do
  let responseSnapshot ← jsonSnapshot codec response
  let row ← database.uuid key
  match s.entries row with
  | none => none
  | some ⟨_, _, some stored⟩ => do
      let stored ← parseJson outbox stored
      guard (sameText codec stored responseSnapshot)
      return ⟨(), s, []⟩
  | some ⟨operation, agentId, none⟩ => do
      let mutation ← sanitizeMutation codec (rawCompletion key operation agentId responseSnapshot)
      match mutation with
      | .complete key _ _ _ _ _ => do
          let record ← outbox.append mutation.json
          let tables ← updateResponse database key responseSnapshot s
          return ⟨(), tables, [record]⟩
      | _ => none

def dropExpired (hash : Text) (now : Int) (s : Tables) : Tables :=
  if (s.nonces hash).any (· ≤ now) then { s with nonces := Function.update s.nonces hash none }
  else s

/-- The answer is whether the nonce has been consumed before. -/
def checkAndConsume (nonce ttlMs : Json) (now : Int) (expiresAt : Text) (s : Tables) :
    Option (Done Bool) := do
  let nonce ← nonce.str?
  let ttlMs ← ttlMs.num?.bind safeInteger?
  guard (1 ≤ nonce.length ∧ nonce.length ≤ 4096 ∧ 1 ≤ ttlMs ∧ ttlMs ≤ 2147483647)
  let mutation ← sanitizeMutation codec (.obj [(text "kind", .str Mutation.consumeKind),
    (text "nonceHash", .str (codec.sha256 nonce)), (text "expiresAt", .str expiresAt)])
  match mutation with
  | .consume (.str hash) expiresAt => do
      let s := dropExpired hash now s
      let expiry ← database.timestamptz expiresAt
      match s.nonces hash with
      | some _ => return ⟨true, s, []⟩
      | none => do
          let record ← outbox.append mutation.json
          return ⟨false, { s with nonces := Function.update s.nonces hash (some expiry) }, [record]⟩
  | _ => none

end Stores

section Applier

variable (codec : Codec) (database : Database)

def applySet (s : Tables) (pairId : Text) (binding : Binding) : Option Tables :=
  match s.bindings pairId with
  | none => some (s.bind pairId binding)
  | some current => if current = binding then some s else none

def applySwap (s : Tables) (pairId expectedClientId : Text) (binding : Binding) : Option Tables :=
  match s.bindings pairId with
  | none => none
  | some current =>
      if current = binding then some s
      else if fits current expectedClientId binding then some (s.bind pairId binding)
      else none

def applyClaim (s : Tables) (key operation agentId : Text) : Option Tables :=
  match s.entries key with
  | none => some (s.putEntry key ⟨operation, agentId, none⟩)
  | some entry => if entry.operation = operation ∧ entry.agentId = agentId then some s else none

def applyComplete (s : Tables) (key operation agentId : Text) (response : Json) : Option Tables :=
  match s.entries key with
  | some entry =>
      if entry.operation = operation ∧ entry.agentId = agentId then
        updateResponse database key response s
      else none
  | none => none

/-- The later date stays. -/
def applyConsume (s : Tables) (nonceHash : Json) (expiresAt : Text) : Option Tables := do
  let hash ← nonceHash.str?
  let expiry ← database.timestamptz expiresAt
  let latest := ((s.nonces hash).map (max · expiry)).getD expiry
  return { s with nonces := Function.update s.nonces hash (some latest) }

/-- What the applier does with a sanitized mutation; it throws where a precondition fails. -/
def effect (s : Tables) : Mutation → Option Tables
  | .set pairId binding => applySet s pairId binding
  | .swap pairId expectedClientId binding => applySwap s pairId expectedClientId binding
  | .claim key operation agentId => applyClaim s key operation agentId
  | .complete key operation agentId response responseDigest required =>
      applyComplete database s key operation agentId
        (if required then placeholder responseDigest else response)
  | .consume nonceHash expiresAt => applyConsume database s nonceHash expiresAt

/-- `applyInTx` -/
def applyInTx (s : Tables) (mutation : Json) : Option Tables := do
  let clean ← sanitizeMutation codec mutation
  guard (sameText codec clean.json mutation)
  effect database s clean

end Applier

/-! Runs. -/

inductive Op
  | set (pairId : Json) (binding : BindingValue)
  | compareAndSwap (pairId expectedClientId : Json) (binding : BindingValue)
  | claim (key operation agentId : Json)
  | complete (key response : Json)
  | checkAndConsume (nonce ttlMs : Json)

/-- What the caller does not choose: whether the transaction is rolled back, the time, and when a
nonce expires. -/
structure Choice where
  fails : Bool
  now : Int
  expiresAt : Text

/-- The tables of the source, and what it has appended. -/
structure Source where
  tables : Tables
  appended : List Json

section Run

variable {codec : Codec} (database : Database) (outbox : DurableOutbox codec)

def Done.commit {α : Type} (done : Done α) : Tables × List Json := (done.tables, done.appended)

def perform (choice : Choice) (s : Tables) : Op → Option (Tables × List Json)
  | .set pairId binding => (set outbox pairId binding s).map Done.commit
  | .compareAndSwap pairId expectedClientId binding =>
      (compareAndSwap outbox pairId expectedClientId binding s).map Done.commit
  | .claim key operation agentId => (claim outbox key operation agentId s).map Done.commit
  | .complete key response => (complete database outbox key response s).map Done.commit
  | .checkAndConsume nonce ttlMs =>
      (checkAndConsume database outbox nonce ttlMs choice.now choice.expiresAt s).map Done.commit

/-- A transaction that throws, or is rolled back, leaves nothing. -/
def step (source : Source) (call : Op × Choice) : Source :=
  if call.2.fails then source
  else match perform database outbox call.2 source.tables call.1 with
    | some (tables, appended) => ⟨tables, source.appended ++ appended⟩
    | none => source

def run (calls : List (Op × Choice)) : Source :=
  calls.foldl (step database outbox) ⟨.empty, []⟩

end Run

/-! The replica agrees. -/

section Agree

variable (codec : Codec) in
/-- What a replica has for a response. -/
def replicated (response : Json) : Json :=
  if containsSecret response then placeholder (.str ((digest codec response).getD [])) else response

variable (codec : Codec) in
structure Agrees (source replica : Tables) : Prop where
  bindings : replica.bindings = source.bindings
  entries : ∀ key, replica.entries key =
    (source.entries key).map fun entry =>
      { entry with response := entry.response.map (replicated codec) }
  digested : ∀ key entry response, source.entries key = some entry →
    entry.response = some response → (digest codec response).isSome = true
  nonces : ∀ hash expiry, source.nonces hash = some expiry →
    ∃ later, replica.nonces hash = some later ∧ expiry ≤ later

variable {codec : Codec} {database : Database} {outbox : DurableOutbox codec}
  {source replica : Tables}

theorem applyInTx_of_append {mutation : Mutation} (valid : mutation.Valid codec) {record : Json}
    (appended : outbox.append mutation.json = some record) :
    applyInTx codec database replica record = effect database replica mutation := by
  obtain ⟨accepted, clean, sanitized, same⟩ := outbox.sanitized _ _ appended
  obtain ⟨snapshot, isSnapshot, -⟩ := Option.bind_eq_some_iff.mp sanitized
  obtain ⟨found, isFound, -⟩ := Option.map_eq_some_iff.mp isSnapshot
  have again := sanitizeMutation_json valid (Option.isSome_iff_exists.mpr ⟨found, isFound⟩)
  cases again.symm.trans sanitized
  have isRecord := same.trans isFound
  have alike := codec.normal_eq record mutation.json found isRecord isFound
  have received : sanitizeMutation codec record = some mutation := by
    unfold sanitizeMutation jsonSnapshot
    rw [isRecord]
    exact (congrArg (sanitizeSnapshot codec) alike).trans (sanitizeSnapshot_json valid)
  have exactly : sameText codec mutation.json record = true := by
    unfold sameText
    rw [isRecord, isFound]
    simp
  unfold applyInTx
  rw [received]
  exact guarded exactly _

theorem Agrees.bind (agrees : Agrees codec source replica) (pairId : Text) (binding : Binding) :
    Agrees codec (source.bind pairId binding) (replica.bind pairId binding) where
  bindings := by
    unfold Tables.bind
    rw [agrees.bindings]
  entries := agrees.entries
  digested := agrees.digested
  nonces := agrees.nonces

theorem Agrees.putEntry (agrees : Agrees codec source replica) (key : Text) {entry : Entry}
    (digested : ∀ response, entry.response = some response →
      (digest codec response).isSome = true) :
    Agrees codec (source.putEntry key entry)
      (replica.putEntry key { entry with response := entry.response.map (replicated codec) }) where
  bindings := agrees.bindings
  entries other := by
    dsimp only [Tables.putEntry]
    by_cases same : other = key
    · rw [same, Function.update_self, Function.update_self]
      rfl
    · rw [Function.update_of_ne same, Function.update_of_ne same]
      exact agrees.entries other
  digested other found response isEntry isResponse := by
    dsimp only [Tables.putEntry] at isEntry
    by_cases same : other = key
    · rw [same, Function.update_self] at isEntry
      cases isEntry
      exact digested response isResponse
    · rw [Function.update_of_ne same] at isEntry
      exact agrees.digested other found response isEntry isResponse
  nonces := agrees.nonces

variable (codec) in
/-- What a transaction leaves, the replica makes of what it has appended. -/
def Follows (database : Database) (replica : Tables) (done : Tables × List Json) : Prop :=
  ∃ next, done.2.foldlM (applyInTx codec database) replica = some next ∧
    Agrees codec done.1 next

theorem follows_of_effect {mutation : Mutation} (valid : mutation.Valid codec) {record : Json}
    (appended : outbox.append mutation.json = some record) {next tables : Tables}
    (applied : effect database replica mutation = some next) (agrees : Agrees codec tables next) :
    Follows codec database replica (tables, [record]) := by
  refine ⟨next, ?_, agrees⟩
  rw [List.foldlM_cons, applyInTx_of_append valid appended, applied]
  rfl

theorem follows_of_nothing (agrees : Agrees codec source replica) :
    Follows codec database replica (source, []) :=
  ⟨replica, rfl, agrees⟩

theorem follows_set {pairId : Json} {binding : BindingValue} {done : Done Unit}
    (agrees : Agrees codec source replica) (isDone : set outbox pairId binding source = some done) :
    Follows codec database replica done.commit := by
  obtain ⟨mutation, sanitized, isDone⟩ := Option.bind_eq_some_iff.mp isDone
  have valid := valid_of_sanitizeMutation sanitized
  split at isDone
  · next pairId binding =>
      obtain ⟨record, appended, isDone⟩ := Option.bind_eq_some_iff.mp isDone
      split at isDone
      · next unbound =>
          cases isDone
          refine follows_of_effect valid appended ?_ (agrees.bind pairId binding)
          change applySet replica pairId binding = _
          unfold applySet
          rw [agrees.bindings, unbound]
      · next current found =>
          split at isDone
          · next same =>
              cases isDone
              refine follows_of_effect valid appended ?_ agrees
              change applySet replica pairId binding = _
              unfold applySet
              rw [agrees.bindings, found]
              exact if_pos same
          · cases isDone
  · cases isDone

theorem follows_compareAndSwap {pairId expectedClientId : Json} {binding : BindingValue}
    {done : Done SwapAnswer} (agrees : Agrees codec source replica)
    (isDone : compareAndSwap outbox pairId expectedClientId binding source = some done) :
    Follows codec database replica done.commit := by
  obtain ⟨mutation, sanitized, isDone⟩ := Option.bind_eq_some_iff.mp isDone
  have valid := valid_of_sanitizeMutation sanitized
  split at isDone
  · next pairId expectedClientId binding =>
      split at isDone
      · cases isDone
        exact follows_of_nothing agrees
      · next current found =>
          split at isDone
          · cases isDone
            exact follows_of_nothing agrees
          · next differs =>
              split at isDone
              · cases isDone
                exact follows_of_nothing agrees
              · next fitting =>
                  obtain ⟨record, appended, isDone⟩ := Option.bind_eq_some_iff.mp isDone
                  cases isDone
                  refine follows_of_effect valid appended ?_ (agrees.bind pairId binding)
                  change applySwap replica pairId expectedClientId binding = _
                  unfold applySwap
                  rw [agrees.bindings, found]
                  exact (if_neg differs).trans (if_pos (Bool.eq_true_of_not_eq_false fitting))
  · cases isDone

theorem follows_claim {key operation agentId : Json} {done : Done ClaimAnswer}
    (agrees : Agrees codec source replica)
    (isDone : claim outbox key operation agentId source = some done) :
    Follows codec database replica done.commit := by
  obtain ⟨mutation, sanitized, isDone⟩ := Option.bind_eq_some_iff.mp isDone
  have valid := valid_of_sanitizeMutation sanitized
  split at isDone
  · next key operation agentId =>
      split at isDone
      · next unclaimed =>
          obtain ⟨record, appended, isDone⟩ := Option.bind_eq_some_iff.mp isDone
          cases isDone
          refine follows_of_effect valid appended ?_
            (agrees.putEntry key fun response isResponse => by cases isResponse)
          change applyClaim replica key operation agentId = _
          unfold applyClaim
          rw [agrees.entries, unclaimed]
          rfl
      · next entry found =>
          split at isDone
          · cases isDone
            exact follows_of_nothing agrees
          · split at isDone
            · obtain ⟨response, -, isDone⟩ := Option.bind_eq_some_iff.mp isDone
              cases isDone
              exact follows_of_nothing agrees
            · cases isDone
              exact follows_of_nothing agrees
  · cases isDone

theorem sanitizeKind_completeKind (raw : Json) :
    sanitizeKind codec raw Mutation.completeKind = sanitizeComplete codec raw := by
  unfold sanitizeKind
  rw [if_neg (by decide), if_neg (by decide), if_neg (by decide)]
  exact if_pos rfl

theorem eq_of_uuid? {raw : Json} {key : String} {value : Text}
    (found : uuid? raw key = some value) :
    ∃ spelled, raw.getStr? key = some spelled ∧ isUuid spelled = true ∧
      value = spelled.map lowerUnit := by
  obtain ⟨spelled, isSpelled, isValue⟩ := Option.map_eq_some_iff.mp found
  obtain ⟨isSpelled, isUuid⟩ := Option.filter_eq_some_iff.mp isSpelled
  exact ⟨spelled, isSpelled, isUuid, isValue.symm⟩

/-- A completion that is sanitized says whether it has kept its response. -/
theorem eq_of_sanitizeMutation {key response : Json} {operation agentId : Text}
    {mutation : Mutation} (isNormal : response.normal = response)
    (sanitized : sanitizeMutation codec (rawCompletion key operation agentId response) =
      some mutation) :
    ∃ spelled responseDigest, key = .str spelled ∧ isUuid spelled = true ∧
      digest codec response = some responseDigest ∧
      mutation = .complete (spelled.map lowerUnit) operation agentId
        (if containsSecret response then .null else response) (.str responseDigest)
        (containsSecret response) := by
  obtain ⟨snapshot, isSnapshot, sanitized⟩ := Option.bind_eq_some_iff.mp sanitized
  rw [normal_of_jsonSnapshot isSnapshot, sanitizeSnapshot, getStr?_normal] at sanitized
  change sanitizeKind codec _ Mutation.completeKind = _ at sanitized
  have undigested : (rawCompletion key operation agentId response).normal.get? "responseDigest" =
      none := by
    rw [Json.get?_normal]
    rfl
  have carried : (rawCompletion key operation agentId response).normal.get? "response" =
      some response := get?_normal_of_normal rfl isNormal
  simp only [sanitizeKind_completeKind, sanitizeComplete, completedResponse, undigested,
    Option.isSome_none, Bool.false_eq_true, if_false, rawResponse, carried, Option.bind_eq_bind,
    Option.bind_eq_some_iff, Option.bind_some, id?, Option.filter_eq_some_iff,
    getStr?_normal] at sanitized
  obtain ⟨_, ⟨_, -, kept, isKept, responseDigest, isDigest, same⟩, value, isValue, operation',
    ⟨isOperation, -⟩, agentId', ⟨isAgent, -⟩, isMutation⟩ := sanitized
  obtain rfl : kept = response := (normal_of_jsonSnapshot isKept).trans isNormal
  obtain rfl : operation = operation' := Option.some.inj isOperation
  obtain rfl : agentId = agentId' := Option.some.inj isAgent
  rw [uuid?_normal] at isValue
  obtain ⟨spelled, isSpelled, isUuid, rfl⟩ := eq_of_uuid? isValue
  cases same
  cases isMutation
  exact ⟨spelled, responseDigest, Json.eq_str isSpelled, isUuid, isDigest, rfl⟩

theorem updateResponse_eq {s t : Tables} {key : Text} {response : Json}
    (updated : updateResponse database key response s = some t) :
    ∃ operation agentId, s.entries key = some ⟨operation, agentId, none⟩ ∧
      database.jsonb response = true ∧ t = s.putEntry key ⟨operation, agentId, some response⟩ := by
  unfold updateResponse at updated
  split at updated
  · next operation agentId found =>
      split at updated
      · next taken =>
          cases updated
          exact ⟨operation, agentId, found, taken, rfl⟩
      · cases updated
  · cases updated

theorem follows_complete {key response : Json} {done : Done Unit}
    (agrees : Agrees codec source replica)
    (isDone : complete database outbox key response source = some done) :
    Follows codec database replica done.commit := by
  obtain ⟨snapshot, isSnapshot, isDone⟩ := Option.bind_eq_some_iff.mp isDone
  obtain ⟨row, isRow, isDone⟩ := Option.bind_eq_some_iff.mp isDone
  have isNormal : snapshot.normal = snapshot := by
    rw [normal_of_jsonSnapshot isSnapshot, Json.normal_normal]
  split at isDone
  · cases isDone
  · obtain ⟨stored, -, isDone⟩ := Option.bind_eq_some_iff.mp isDone
    obtain ⟨_, -, isDone⟩ := Option.bind_eq_some_iff.mp isDone
    cases isDone
    exact follows_of_nothing agrees
  · next operation agentId isEntry =>
      obtain ⟨mutation, sanitized, isDone⟩ := Option.bind_eq_some_iff.mp isDone
      have valid := valid_of_sanitizeMutation sanitized
      obtain ⟨spelled, responseDigest, isKey, isUuid, isDigest, rfl⟩ :=
        eq_of_sanitizeMutation isNormal sanitized
      obtain ⟨record, appended, isDone⟩ := Option.bind_eq_some_iff.mp isDone
      obtain ⟨tables, updated, isDone⟩ := Option.bind_eq_some_iff.mp isDone
      cases isDone
      rw [isKey, database.uuid_str spelled isUuid] at isRow
      cases isRow
      obtain ⟨operation', agentId', isEntry', taken, rfl⟩ := updateResponse_eq updated
      cases isEntry.symm.trans isEntry'
      have digested : ∀ response, some snapshot = some response →
          (digest codec response).isSome = true := by
        rintro _ ⟨⟩
        exact Option.isSome_iff_exists.mpr ⟨responseDigest, isDigest⟩
      refine follows_of_effect valid appended ?_ (agrees.putEntry _ digested)
      change applyComplete database replica _ operation agentId _ = _
      have isCopy : replica.entries (spelled.map lowerUnit) = some ⟨operation, agentId, none⟩ := by
        rw [agrees.entries, isEntry]
        rfl
      have stored : (if containsSecret snapshot then placeholder (.str responseDigest)
          else if containsSecret snapshot then .null else snapshot) =
        replicated codec snapshot := by
        unfold replicated
        rw [isDigest]
        split <;> rfl
      have storable : database.jsonb (replicated codec snapshot) = true := by
        unfold replicated
        rw [isDigest]
        split
        · exact database.jsonb_placeholder _ (isHex64_digest isDigest)
        · exact taken
      unfold applyComplete updateResponse
      rw [isCopy, stored]
      exact (if_pos ⟨rfl, rfl⟩).trans (if_pos storable)

theorem Agrees.dropExpired (agrees : Agrees codec source replica) (hash : Text) (now : Int) :
    Agrees codec (dropExpired hash now source) replica := by
  unfold Outbox.dropExpired
  split
  · refine ⟨agrees.bindings, agrees.entries, agrees.digested, fun other expiry found => ?_⟩
    by_cases same : other = hash
    · rw [same] at found
      cases (Function.update_self ..).symm.trans found
    · exact agrees.nonces other expiry ((Function.update_of_ne same ..).symm.trans found)
  · exact agrees

theorem applyConsume_str {hash expiresAt : Text} {expiry : Int} (s : Tables)
    (isExpiry : database.timestamptz expiresAt = some expiry) :
    ∃ latest, expiry ≤ latest ∧ (∀ before, s.nonces hash = some before → before ≤ latest) ∧
      applyConsume database s (.str hash) expiresAt =
        some { s with nonces := Function.update s.nonces hash (some latest) } := by
  refine ⟨((s.nonces hash).map (max · expiry)).getD expiry, ?_, ?_, ?_⟩
  · cases s.nonces hash with
    | none => exact Int.le_refl expiry
    | some before => exact Int.le_max_right before expiry
  · intro before found
    rw [found]
    exact Int.le_max_left before expiry
  · unfold applyConsume
    rw [isExpiry]
    rfl

theorem Agrees.consume (agrees : Agrees codec source replica) (hash : Text) {expiry latest : Int}
    (later : expiry ≤ latest) :
    Agrees codec { source with nonces := Function.update source.nonces hash (some expiry) }
      { replica with nonces := Function.update replica.nonces hash (some latest) } where
  bindings := agrees.bindings
  entries := agrees.entries
  digested := agrees.digested
  nonces other expiry' found := by
    dsimp only at found ⊢
    by_cases same : other = hash
    · rw [same, Function.update_self] at found ⊢
      cases found
      exact ⟨latest, rfl, later⟩
    · rw [Function.update_of_ne same] at found ⊢
      exact agrees.nonces other expiry' found

theorem follows_checkAndConsume {nonce ttlMs : Json} {now : Int} {expiresAt : Text}
    {done : Done Bool} (agrees : Agrees codec source replica)
    (isDone : checkAndConsume database outbox nonce ttlMs now expiresAt source = some done) :
    Follows codec database replica done.commit := by
  obtain ⟨nonce, -, isDone⟩ := Option.bind_eq_some_iff.mp isDone
  obtain ⟨ttlMs, -, isDone⟩ := Option.bind_eq_some_iff.mp isDone
  obtain ⟨_, -, isDone⟩ := Option.bind_eq_some_iff.mp isDone
  obtain ⟨mutation, sanitized, isDone⟩ := Option.bind_eq_some_iff.mp isDone
  have valid := valid_of_sanitizeMutation sanitized
  split at isDone
  · next hash expiresAt =>
      obtain ⟨expiry, isExpiry, isDone⟩ := Option.bind_eq_some_iff.mp isDone
      have kept := agrees.dropExpired hash now
      split at isDone
      · cases isDone
        exact follows_of_nothing kept
      · obtain ⟨record, appended, isDone⟩ := Option.bind_eq_some_iff.mp isDone
        cases isDone
        obtain ⟨latest, later, -, applied⟩ := applyConsume_str replica isExpiry
        exact follows_of_effect valid appended applied (kept.consume hash later)
  · cases isDone

theorem follows_perform {call : Op × Choice} {done : Tables × List Json}
    (agrees : Agrees codec source replica)
    (performed : perform database outbox call.2 source call.1 = some done) :
    Follows codec database replica done := by
  obtain ⟨op, choice⟩ := call
  cases op with
  | set pairId binding =>
      obtain ⟨_, isDone, rfl⟩ := Option.map_eq_some_iff.mp performed
      exact follows_set agrees isDone
  | compareAndSwap pairId expectedClientId binding =>
      obtain ⟨_, isDone, rfl⟩ := Option.map_eq_some_iff.mp performed
      exact follows_compareAndSwap agrees isDone
  | claim key operation agentId =>
      obtain ⟨_, isDone, rfl⟩ := Option.map_eq_some_iff.mp performed
      exact follows_claim agrees isDone
  | complete key response =>
      obtain ⟨_, isDone, rfl⟩ := Option.map_eq_some_iff.mp performed
      exact follows_complete agrees isDone
  | checkAndConsume nonce ttlMs =>
      obtain ⟨_, isDone, rfl⟩ := Option.map_eq_some_iff.mp performed
      exact follows_checkAndConsume agrees isDone

variable (codec database) in
/-- The replica that applies all that the source has appended. -/
def Converged (source : Source) : Prop :=
  ∃ replica, source.appended.foldlM (applyInTx codec database) .empty = some replica ∧
    Agrees codec source.tables replica

theorem converged_step {source : Source} (converged : Converged codec database source)
    (call : Op × Choice) : Converged codec database (step database outbox source call) := by
  unfold step
  split
  · exact converged
  · split
    · next tables appended performed =>
        obtain ⟨replica, applied, agrees⟩ := converged
        obtain ⟨next, further, agrees⟩ := follows_perform agrees performed
        refine ⟨next, ?_, agrees⟩
        rw [List.foldlM_append, applied]
        exact further
    · exact converged

theorem converged_foldl {source : Source} (converged : Converged codec database source)
    (calls : List (Op × Choice)) :
    Converged codec database (calls.foldl (step database outbox) source) := by
  induction calls generalizing source with
  | nil => exact converged
  | cons call rest ih => exact ih (converged_step converged call)

theorem converged_empty : Converged codec database ⟨.empty, []⟩ := by
  refine ⟨.empty, rfl, rfl, fun _ => rfl, ?_, ?_⟩
  · intro key entry response found
    cases found
  · intro hash expiry found
    cases found

/-- A replica that applies what the source has appended throws nowhere, and agrees with it. -/
theorem converged_run (calls : List (Op × Choice)) :
    ∃ replica, (run database outbox calls).appended.foldlM (applyInTx codec database) .empty =
        some replica ∧
      Agrees codec (run database outbox calls).tables replica :=
  converged_foldl converged_empty calls

end Agree

end SelfConnect.Ultra.Outbox
