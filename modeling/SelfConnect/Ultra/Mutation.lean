import SelfConnect.Js.Canonical
import SelfConnect.Ultra.Stores

namespace SelfConnect.Ultra.Outbox

open SelfConnect.Js

/-! The mutations of the state that the outbox carries, and what its sanitizer makes of them. -/

/-- `canonicalize` of the outbox, which throws for what is not bounded, and the hashes: of a text,
and of the bytes that a key spells. A canonical text has the members in order. -/
structure Codec where
  canonicalize : Json → Option Text
  sha256 : Text → Text
  keySha256 : Text → Text
  normal_eq : ∀ first second found, canonicalize first = some found →
    canonicalize second = some found → first.normal = second.normal
  canonicalize_normal : ∀ value, canonicalize value.normal = canonicalize value
  isHex64_sha256 : ∀ value, isHex64 (sha256 value) = true

/-- `HEX64.test`, which reads an array of one value as that value. -/
def testsHex64 : Json → Bool
  | .str value => isHex64 value
  | .arr [value] => testsHex64 value
  | _ => false

/-- `String.prototype.includes` -/
def includes (word : Text) : Text → Bool
  | [] => word.isPrefixOf []
  | u :: rest => word.isPrefixOf (u :: rest) || includes word rest

def secretWords : List Text :=
  ["secret", "token", "password", "private", "credential", "provisionpayload"].map text

/-- `SECRET_FIELD` -/
def isSecretField (key : Text) : Bool :=
  secretWords.any fun word => includes word (key.map lowerUnit)

mutual

def containsSecret : Json → Bool
  | .arr items => itemsContainSecret items
  | .obj members => membersContainSecret members
  | _ => false

def itemsContainSecret : List Json → Bool
  | [] => false
  | item :: rest => containsSecret item || itemsContainSecret rest

def membersContainSecret : List (Text × Json) → Bool
  | [] => false
  | (key, value) :: rest =>
      isSecretField key || containsSecret value || membersContainSecret rest

end

/-! Dates as `toISOString` writes them. -/

def digits? (value : Text) : Option Nat :=
  if value.all isDigit then some (value.foldl (fun n u => 10 * n + (u.toNat - 0x30)) 0) else none

def isLeap (year : Int) : Bool := year % 4 = 0 && (year % 100 ≠ 0 || year % 400 = 0)

def daysInMonth (year : Int) (month : Nat) : Nat :=
  if month = 2 then if isLeap year then 29 else 28
  else if month = 4 ∨ month = 6 ∨ month = 9 ∨ month = 11 then 30
  else 31

def field? (value : Text) (start width : Nat) : Option Nat :=
  digits? ((value.drop start).take width)

/-- `-MM-DDTHH:mm:ss.sssZ` -/
def isDayAndTime (year : Int) (value : Text) : Bool :=
  value.length = 20 &&
    [0, 3, 6, 9, 12, 15, 19].map (value.getD · 0) = text "--T::.Z" &&
    (field? value 1 2).any (fun month => 1 ≤ month && month ≤ 12 &&
      (field? value 4 2).any fun day => 1 ≤ day && day ≤ daysInMonth year month) &&
    (field? value 7 2).any (· ≤ 23) && (field? value 10 2).any (· ≤ 59) &&
    (field? value 13 2).any (· ≤ 59) && (field? value 16 3).isSome

/-- `new Date(value).toISOString() === value`. Dates go a hundred million days either way. -/
def isIso (value : Text) : Bool :=
  let rest := value.drop 7
  match value with
  | 0x2B :: _ => (field? value 1 6).any fun (year : Nat) =>
      10000 ≤ year && isDayAndTime year rest &&
      (year < 275760 || (year = 275760 && rest ≤ text "-09-13T00:00:00.000Z"))
  | 0x2D :: _ => (field? value 1 6).any fun (year : Nat) =>
      1 ≤ year && isDayAndTime (-year) rest &&
        (year < 271821 || (year = 271821 && text "-04-20T00:00:00.000Z" ≤ rest))
  | _ => (field? value 0 4).any fun (year : Nat) => isDayAndTime year (value.drop 4)

inductive Mutation
  | set (pairId : Text) (binding : Binding)
  | swap (pairId expectedClientId : Text) (binding : Binding)
  | claim (idempotencyKey operation agentId : Text)
  | complete (idempotencyKey operation agentId : Text) (response responseDigest : Json)
      (secretReprovisionRequired : Bool)
  | consume (nonceHash : Json) (expiresAt : Text)

namespace Mutation

def setKind : Text := text "ultra.binding.set.v2"
def swapKind : Text := text "ultra.binding.swap.v2"
def claimKind : Text := text "ultra.idempotency.claim.v1"
def completeKind : Text := text "ultra.idempotency.complete.v1"
def consumeKind : Text := text "ultra.nonce.consume.v1"

def bindingMembers (binding : Binding) : List (Text × Json) :=
  [(text "tskClientId", .str binding.tskClientId), (text "agentId", .str binding.agentId),
    (text "canonicalId", .str binding.canonicalId),
    (text "agentPublicKeyHex", .str binding.agentPublicKeyHex)]

def json : Mutation → Json
  | .set pairId binding =>
      .obj ([(text "kind", .str setKind), (text "pairId", .str pairId)] ++ bindingMembers binding)
  | .swap pairId expectedClientId binding =>
      .obj ([(text "kind", .str swapKind), (text "pairId", .str pairId),
        (text "expectedClientId", .str expectedClientId)] ++ bindingMembers binding)
  | .claim idempotencyKey operation agentId =>
      .obj [(text "kind", .str claimKind), (text "idempotencyKey", .str idempotencyKey),
        (text "operation", .str operation), (text "agentId", .str agentId)]
  | .complete idempotencyKey operation agentId response responseDigest required =>
      .obj [(text "kind", .str completeKind), (text "idempotencyKey", .str idempotencyKey),
        (text "operation", .str operation), (text "agentId", .str agentId),
        (text "response", response), (text "responseDigest", responseDigest),
        (text "secretReprovisionRequired", .bool required)]
  | .consume nonceHash expiresAt =>
      .obj [(text "kind", .str consumeKind), (text "nonceHash", nonceHash),
        (text "expiresAt", .str expiresAt)]

end Mutation

/-- Sorted, the keys are these. -/
def exactKeys (value : Json) (keys : List String) : Bool :=
  match value with
  | .obj members => (members.map (·.1)).isPerm (keys.map text)
  | _ => false

/-- `id` -/
def id? (raw : Json) (key : String) : Option Text := (raw.getStr? key).filter isIdentifier

/-- `uuid` -/
def uuid? (raw : Json) (key : String) : Option Text :=
  ((raw.getStr? key).filter isUuid).map (·.map lowerUnit)

section Sanitize

variable (codec : Codec)

def digest (value : Json) : Option Text := (codec.canonicalize value).map codec.sha256

/-- What `JSON.parse` reads in the canonical text. -/
def jsonSnapshot (value : Json) : Option Json :=
  (codec.canonicalize value).map fun _ => value.normal

def sanitizeBinding (raw : Json) : Option Binding := do
  let tskClientId ← id? raw "tskClientId"
  let agentId ← raw.getStr? "agentId"
  let canonicalId ← raw.getStr? "canonicalId"
  let agentPublicKeyHex ← raw.getStr? "agentPublicKeyHex"
  validateIdentityBinding codec.keySha256 ⟨tskClientId, agentId, canonicalId, agentPublicKeyHex⟩

def sanitizeSet (raw : Json) : Option Mutation := do
  guard (exactKeys raw
    ["agentId", "agentPublicKeyHex", "canonicalId", "kind", "pairId", "tskClientId"])
  let binding ← sanitizeBinding codec raw
  let pairId ← id? raw "pairId"
  return .set pairId binding

def sanitizeSwap (raw : Json) : Option Mutation := do
  guard (exactKeys raw ["agentId", "agentPublicKeyHex", "canonicalId", "expectedClientId", "kind",
    "pairId", "tskClientId"])
  let binding ← sanitizeBinding codec raw
  let pairId ← id? raw "pairId"
  let expectedClientId ← id? raw "expectedClientId"
  return .swap pairId expectedClientId binding

def sanitizeClaim (raw : Json) : Option Mutation := do
  guard (exactKeys raw ["agentId", "idempotencyKey", "kind", "operation"])
  let idempotencyKey ← uuid? raw "idempotencyKey"
  let operation ← id? raw "operation"
  let agentId ← id? raw "agentId"
  return .claim idempotencyKey operation agentId

/-- What is checked of a response that has been sanitized already. -/
def isSanitized (response responseDigest : Json) (required : Bool) : Bool :=
  testsHex64 responseDigest &&
    match required, response with
    | true, .null => true
    | true, _ => false
    | false, response => responseDigest.str?.isSome && responseDigest.str? = digest codec response

def sanitizedResponse (raw : Json) : Option (Json × Json × Bool) := do
  guard (exactKeys raw ["agentId", "idempotencyKey", "kind", "operation", "response",
    "responseDigest", "secretReprovisionRequired"])
  let response ← raw.get? "response"
  let responseDigest ← raw.get? "responseDigest"
  let required ← (raw.get? "secretReprovisionRequired").bind Json.bool?
  guard (isSanitized codec response responseDigest required)
  return (response, responseDigest, required)

def rawResponse (raw : Json) : Option (Json × Json × Bool) := do
  guard (exactKeys raw ["agentId", "idempotencyKey", "kind", "operation", "response"])
  let response ← (raw.get? "response").bind (jsonSnapshot codec)
  let responseDigest ← digest codec response
  let required := containsSecret response
  return (if required then .null else response, .str responseDigest, required)

def completedResponse (raw : Json) : Option (Json × Json × Bool) :=
  if (raw.get? "responseDigest").isSome then sanitizedResponse codec raw
  else rawResponse codec raw

def sanitizeComplete (raw : Json) : Option Mutation := do
  let (response, responseDigest, required) ← completedResponse codec raw
  let idempotencyKey ← uuid? raw "idempotencyKey"
  let operation ← id? raw "operation"
  let agentId ← id? raw "agentId"
  return .complete idempotencyKey operation agentId response responseDigest required

def sanitizeConsume (raw : Json) : Option Mutation := do
  guard (exactKeys raw ["expiresAt", "kind", "nonceHash"])
  let nonceHash ← (raw.get? "nonceHash").filter testsHex64
  let expiresAt ← (raw.getStr? "expiresAt").filter isIso
  return .consume nonceHash expiresAt

def sanitizeKind (raw : Json) (kind : Text) : Option Mutation :=
  if kind = Mutation.setKind then sanitizeSet codec raw
  else if kind = Mutation.swapKind then sanitizeSwap codec raw
  else if kind = Mutation.claimKind then sanitizeClaim raw
  else if kind = Mutation.completeKind then sanitizeComplete codec raw
  else if kind = Mutation.consumeKind then sanitizeConsume raw
  else none

def sanitizeSnapshot (raw : Json) : Option Mutation :=
  (raw.getStr? "kind").bind (sanitizeKind codec raw)

def sanitizeMutation (raw : Json) : Option Mutation :=
  (jsonSnapshot codec raw).bind (sanitizeSnapshot codec)

def assertSanitized (candidate : Json) : Bool :=
  (sanitizeMutation codec candidate).any fun clean =>
    (codec.canonicalize candidate).isSome &&
      codec.canonicalize clean.json = codec.canonicalize candidate

end Sanitize

/-! What the sanitizer returns it also takes. -/

theorem isUpper_iff (u : UInt16) : isUpper u = true ↔ 0x41 ≤ u.toNat ∧ u.toNat ≤ 0x5A := by
  simp [isUpper, UInt16.le_iff_toNat_le]

theorem toNat_lowerUnit (u : UInt16) :
    (lowerUnit u).toNat = if isUpper u then u.toNat + 0x20 else u.toNat := by
  unfold lowerUnit
  split
  · next upper =>
      rw [isUpper_iff] at upper
      rw [UInt16.toNat_add]
      change (u.toNat + 0x20) % 65536 = _
      omega
  · rfl

theorem lowerUnit_lowerUnit (u : UInt16) : lowerUnit (lowerUnit u) = lowerUnit u := by
  have lower := toNat_lowerUnit u
  refine if_neg ?_
  rw [isUpper_iff, lower]
  split
  · next upper =>
      rw [isUpper_iff] at upper
      omega
  · next notUpper =>
      rw [isUpper_iff] at notUpper
      omega

theorem isHex_iff (u : UInt16) : isHex u = true ↔ (0x30 ≤ u.toNat ∧ u.toNat ≤ 0x39) ∨
    (0x61 ≤ u.toNat ∧ u.toNat ≤ 0x66) ∨ (0x41 ≤ u.toNat ∧ u.toNat ≤ 0x46) := by
  simp [isHex, isLowerHex, isDigit, UInt16.le_iff_toNat_le, or_assoc]

theorem isHex_lowerUnit {u : UInt16} (hex : isHex u = true) : isHex (lowerUnit u) = true := by
  rw [isHex_iff] at hex ⊢
  rw [toNat_lowerUnit]
  split
  · next upper =>
      rw [isUpper_iff] at upper
      omega
  · exact hex

theorem lowerUnit_of_not {u : UInt16} (notUpper : ¬ (0x41 ≤ u.toNat ∧ u.toNat ≤ 0x5A)) :
    lowerUnit u = u := by
  refine if_neg ?_
  rwa [isUpper_iff]

theorem variant_lowerUnit {u : UInt16} (variant : (text "89abAB").contains u = true) :
    (text "89abAB").contains (lowerUnit u) = true := by
  have lowered : (text "89abAB").all
      (fun unit => (text "89abAB").contains (lowerUnit unit)) = true := by decide
  exact List.all_eq_true.mp lowered u (List.contains_iff_mem.mp variant)

theorem isUuid_lower {value : Text} (uuid : isUuid value = true) :
    isUuid (value.map lowerUnit) = true := by
  simp only [isUuid, Bool.and_eq_true, decide_eq_true_eq, List.all_eq_true, List.mem_range,
    List.length_map] at uuid ⊢
  obtain ⟨long, units⟩ := uuid
  refine ⟨long, fun i inside => ?_⟩
  have unit := units i inside
  have same : (value.map lowerUnit).getD i 0 = lowerUnit (value.getD i 0) := by
    rw [List.getD_eq_getElem?_getD, List.getD_eq_getElem?_getD, List.getElem?_map,
      List.getElem?_eq_getElem (by omega)]
    rfl
  rw [same]
  split at unit
  · next dash =>
      rw [if_pos dash]
      rw [of_decide_eq_true unit]
      rfl
  · next notDash =>
      rw [if_neg notDash]
      split at unit
      · next isVersion =>
          rw [if_pos isVersion]
          simp only [Bool.and_eq_true, decide_eq_true_eq, UInt16.le_iff_toNat_le] at unit
          have last : (value.getD i 0).toNat ≤ 0x35 := unit.2
          rw [lowerUnit_of_not (by omega)]
          simpa [UInt16.le_iff_toNat_le] using unit
      · next notVersion =>
          rw [if_neg notVersion]
          split at unit
          · next isVariant =>
              rw [if_pos isVariant]
              exact variant_lowerUnit unit
          · next notVariant =>
              rw [if_neg notVariant]
              exact isHex_lowerUnit unit

theorem getStr?_normal (value : Json) (key : String) :
    value.normal.getStr? key = value.getStr? key := by
  unfold Json.getStr?
  rw [Json.get?_normal]
  cases value.get? key with
  | none => rfl
  | some found => cases found <;> rfl

theorem exactKeys_normal (value : Json) (keys : List String) :
    exactKeys value.normal keys = exactKeys value keys := by
  cases value with
  | obj members =>
      refine Bool.eq_iff_iff.mpr ?_
      change List.isPerm _ _ = true ↔ List.isPerm _ _ = true
      rw [List.isPerm_iff, List.isPerm_iff]
      exact ⟨(Json.keys_normal members).symm.trans, (Json.keys_normal members).trans⟩
  | _ => rfl

theorem id?_normal (value : Json) (key : String) : id? value.normal key = id? value key := by
  unfold id?
  rw [getStr?_normal]

theorem uuid?_normal (value : Json) (key : String) : uuid? value.normal key = uuid? value key := by
  unfold uuid?
  rw [getStr?_normal]

section Valid

variable (codec : Codec)

theorem sanitizeBinding_normal (value : Json) :
    sanitizeBinding codec value.normal = sanitizeBinding codec value := by
  unfold sanitizeBinding
  simp only [id?_normal, getStr?_normal]

/-- What the sanitizer has made sure of. -/
def Mutation.Valid : Mutation → Prop
  | .set pairId binding => isIdentifier pairId = true ∧ isIdentifier binding.tskClientId = true ∧
      validateIdentityBinding codec.keySha256 binding = some binding
  | .swap pairId expectedClientId binding =>
      isIdentifier pairId = true ∧ isIdentifier expectedClientId = true ∧
        isIdentifier binding.tskClientId = true ∧
        validateIdentityBinding codec.keySha256 binding = some binding
  | .claim idempotencyKey operation agentId =>
      isUuid idempotencyKey = true ∧ idempotencyKey.map lowerUnit = idempotencyKey ∧
        isIdentifier operation = true ∧ isIdentifier agentId = true
  | .complete idempotencyKey operation agentId response responseDigest required =>
      isUuid idempotencyKey = true ∧ idempotencyKey.map lowerUnit = idempotencyKey ∧
        isIdentifier operation = true ∧ isIdentifier agentId = true ∧
        response.normal = response ∧ responseDigest.normal = responseDigest ∧
        isSanitized codec response responseDigest required = true
  | .consume nonceHash expiresAt =>
      testsHex64 nonceHash = true ∧ nonceHash.normal = nonceHash ∧ isIso expiresAt = true

variable {codec}

theorem valid_of_sanitizeBinding {raw : Json} {binding : Binding}
    (sanitized : sanitizeBinding codec raw = some binding) :
    isIdentifier binding.tskClientId = true ∧
      validateIdentityBinding codec.keySha256 binding = some binding := by
  simp only [sanitizeBinding, Option.bind_eq_bind, Option.bind_eq_some_iff, id?,
    Option.filter_eq_some_iff] at sanitized
  obtain ⟨tskClientId, ⟨-, isId⟩, agentId, -, canonicalId, -, key, -, isValid⟩ := sanitized
  cases eq_of_validateIdentityBinding isValid
  exact ⟨isId, isValid⟩

theorem id?_eq_some {raw : Json} {key : String} {value : Text}
    (isValue : raw.getStr? key = some value) (isId : isIdentifier value = true) :
    id? raw key = some value := by
  unfold id?
  rw [isValue]
  exact Option.filter_eq_some_iff.mpr ⟨rfl, isId⟩

theorem uuid?_eq_some {raw : Json} {key : String} {value : Text}
    (isValue : raw.getStr? key = some value) (isId : isUuid value = true)
    (isLower : value.map lowerUnit = value) : uuid? raw key = some value := by
  have kept : (raw.getStr? key).filter isUuid = some value := by
    rw [isValue]
    exact Option.filter_eq_some_iff.mpr ⟨rfl, isId⟩
  unfold uuid?
  rw [kept]
  exact congrArg some isLower

theorem sanitizeBinding_eq_some {raw : Json} {binding : Binding}
    (isId : isIdentifier binding.tskClientId = true)
    (isValid : validateIdentityBinding codec.keySha256 binding = some binding)
    (isClient : raw.getStr? "tskClientId" = some binding.tskClientId)
    (isAgent : raw.getStr? "agentId" = some binding.agentId)
    (isCanonical : raw.getStr? "canonicalId" = some binding.canonicalId)
    (isKey : raw.getStr? "agentPublicKeyHex" = some binding.agentPublicKeyHex) :
    sanitizeBinding codec raw = some binding := by
  unfold sanitizeBinding
  rw [id?_eq_some isClient isId, isAgent, isCanonical, isKey]
  exact isValid

theorem guarded {α : Type} {condition : Bool} (holds : condition = true) (rest : Option α) :
    (do guard condition; rest) = rest := by
  rw [holds]
  rfl

theorem of_guard {condition : Bool} {passed : Unit}
    (guarded : (guard (condition = true) : Option Unit) = some passed) : condition = true := by
  cases condition with
  | true => rfl
  | false => cases guarded

theorem valid_of_sanitizeSet {raw : Json} {clean : Mutation}
    (sanitized : sanitizeSet codec raw = some clean) : clean.Valid codec := by
  simp only [sanitizeSet, Option.bind_eq_bind, Option.bind_eq_some_iff, id?,
    Option.filter_eq_some_iff] at sanitized
  obtain ⟨-, -, binding, isBinding, pairId, ⟨-, isPair⟩, isClean⟩ := sanitized
  cases isClean
  exact ⟨isPair, valid_of_sanitizeBinding isBinding⟩

theorem sanitizeSet_json {pairId : Text} {binding : Binding}
    (valid : (Mutation.set pairId binding).Valid codec) :
    sanitizeSet codec (Mutation.set pairId binding).json.normal = some (.set pairId binding) := by
  obtain ⟨isPair, isId, isValid⟩ := valid
  unfold sanitizeSet
  rw [exactKeys_normal, sanitizeBinding_normal, id?_normal]
  rw [sanitizeBinding_eq_some isId isValid rfl rfl rfl rfl, id?_eq_some rfl isPair]
  exact guarded rfl _

theorem valid_of_sanitizeSwap {raw : Json} {clean : Mutation}
    (sanitized : sanitizeSwap codec raw = some clean) : clean.Valid codec := by
  simp only [sanitizeSwap, Option.bind_eq_bind, Option.bind_eq_some_iff, id?,
    Option.filter_eq_some_iff] at sanitized
  obtain ⟨-, -, binding, isBinding, pairId, ⟨-, isPair⟩, expected, ⟨-, isExpected⟩, isClean⟩ :=
    sanitized
  cases isClean
  exact ⟨isPair, isExpected, valid_of_sanitizeBinding isBinding⟩

theorem sanitizeSwap_json {pairId expectedClientId : Text} {binding : Binding}
    (valid : (Mutation.swap pairId expectedClientId binding).Valid codec) :
    sanitizeSwap codec (Mutation.swap pairId expectedClientId binding).json.normal =
      some (.swap pairId expectedClientId binding) := by
  obtain ⟨isPair, isExpected, isId, isValid⟩ := valid
  unfold sanitizeSwap
  rw [exactKeys_normal, sanitizeBinding_normal, id?_normal, id?_normal]
  rw [sanitizeBinding_eq_some isId isValid rfl rfl rfl rfl, id?_eq_some rfl isPair,
    id?_eq_some rfl isExpected]
  exact guarded rfl _

theorem uuid?_cases {raw : Json} {key : String} {value : Text}
    (found : uuid? raw key = some value) :
    isUuid value = true ∧ value.map lowerUnit = value := by
  obtain ⟨spelled, isSpelled, isValue⟩ := Option.map_eq_some_iff.mp found
  rw [← isValue, List.map_map]
  refine ⟨isUuid_lower (Option.filter_eq_some_iff.mp isSpelled).2, ?_⟩
  exact List.map_congr_left fun u _ => lowerUnit_lowerUnit u

theorem valid_of_sanitizeClaim {raw : Json} {clean : Mutation}
    (sanitized : sanitizeClaim raw = some clean) : clean.Valid codec := by
  simp only [sanitizeClaim, Option.bind_eq_bind, Option.bind_eq_some_iff, id?,
    Option.filter_eq_some_iff] at sanitized
  obtain ⟨-, -, key, isKey, operation, ⟨-, isOperation⟩, agentId, ⟨-, isAgent⟩, isClean⟩ :=
    sanitized
  cases isClean
  obtain ⟨isKey, isLower⟩ := uuid?_cases isKey
  exact ⟨isKey, isLower, isOperation, isAgent⟩

theorem sanitizeClaim_json {idempotencyKey operation agentId : Text}
    (valid : (Mutation.claim idempotencyKey operation agentId).Valid codec) :
    sanitizeClaim (Mutation.claim idempotencyKey operation agentId).json.normal =
      some (.claim idempotencyKey operation agentId) := by
  obtain ⟨isKey, isLower, isOperation, isAgent⟩ := valid
  unfold sanitizeClaim
  rw [exactKeys_normal, uuid?_normal, id?_normal, id?_normal]
  rw [uuid?_eq_some rfl isKey isLower, id?_eq_some rfl isOperation, id?_eq_some rfl isAgent]
  exact guarded rfl _

theorem normal_of_jsonSnapshot {value snapshot : Json}
    (found : jsonSnapshot codec value = some snapshot) : snapshot = value.normal := by
  obtain ⟨_, -, same⟩ := Option.map_eq_some_iff.mp found
  exact same.symm

theorem digest_normal (value : Json) : digest codec value.normal = digest codec value := by
  unfold digest
  rw [codec.canonicalize_normal]

theorem isHex64_digest {value : Json} {found : Text} (isDigest : digest codec value = some found) :
    isHex64 found = true := by
  obtain ⟨_, -, same⟩ := Option.map_eq_some_iff.mp isDigest
  exact same ▸ codec.isHex64_sha256 _

theorem normal_of_sanitizedResponse {raw response responseDigest : Json} {required : Bool}
    (found : sanitizedResponse codec raw.normal = some (response, responseDigest, required)) :
    response.normal = response ∧ responseDigest.normal = responseDigest ∧
      isSanitized codec response responseDigest required = true := by
  simp only [sanitizedResponse, Option.bind_eq_bind, Option.bind_eq_some_iff, Json.get?_normal,
    Option.map_eq_some_iff] at found
  obtain ⟨-, -, response', ⟨spelled, -, isResponse⟩, digest', ⟨spelled', -, isDigest⟩, required',
    -, _, checked, same⟩ := found
  cases same
  refine ⟨?_, ?_, of_guard checked⟩
  · rw [← isResponse, Json.normal_normal]
  · rw [← isDigest, Json.normal_normal]

theorem normal_of_rawResponse {raw response responseDigest : Json} {required : Bool}
    (found : rawResponse codec raw = some (response, responseDigest, required)) :
    response.normal = response ∧ responseDigest.normal = responseDigest ∧
      isSanitized codec response responseDigest required = true := by
  simp only [rawResponse, Option.bind_eq_bind, Option.bind_eq_some_iff] at found
  obtain ⟨-, -, snapshot, ⟨spelled, -, isSnapshot⟩, digested, isDigest, same⟩ := found
  have isNormal := normal_of_jsonSnapshot isSnapshot
  cases same
  refine ⟨?_, rfl, ?_⟩
  · split
    · rfl
    · rw [isNormal, Json.normal_normal]
  · cases containsSecret snapshot with
    | true => exact Bool.and_eq_true_iff.mpr ⟨isHex64_digest isDigest, rfl⟩
    | false =>
        refine Bool.and_eq_true_iff.mpr ⟨isHex64_digest isDigest, ?_⟩
        exact Bool.and_eq_true_iff.mpr ⟨rfl, decide_eq_true isDigest.symm⟩

theorem valid_of_sanitizeComplete {raw : Json} {clean : Mutation}
    (sanitized : sanitizeComplete codec raw.normal = some clean) : clean.Valid codec := by
  simp only [sanitizeComplete, Option.bind_eq_bind, Option.bind_eq_some_iff, id?,
    Option.filter_eq_some_iff] at sanitized
  obtain ⟨⟨response, responseDigest, required⟩, isResponse, key, isKey, operation,
    ⟨-, isOperation⟩, agentId, ⟨-, isAgent⟩, isClean⟩ := sanitized
  cases isClean
  obtain ⟨isKey, isLower⟩ := uuid?_cases isKey
  refine ⟨isKey, isLower, isOperation, isAgent, ?_⟩
  unfold completedResponse at isResponse
  split at isResponse
  · exact normal_of_sanitizedResponse isResponse
  · exact normal_of_rawResponse isResponse

theorem get?_normal_of_normal {raw value : Json} {key : String}
    (found : raw.get? key = some value) (isNormal : value.normal = value) :
    raw.normal.get? key = some value := by
  rw [Json.get?_normal, found]
  exact congrArg some isNormal

theorem sanitizeComplete_json {idempotencyKey operation agentId : Text}
    {response responseDigest : Json} {required : Bool}
    (valid : (Mutation.complete idempotencyKey operation agentId response responseDigest
      required).Valid codec) :
    sanitizeComplete codec (Mutation.complete idempotencyKey operation agentId response
        responseDigest required).json.normal =
      some (.complete idempotencyKey operation agentId response responseDigest required) := by
  obtain ⟨isKey, isLower, isOperation, isAgent, isNormal, isNormal', checked⟩ := valid
  let raw := (Mutation.complete idempotencyKey operation agentId response responseDigest
    required).json
  have isResponse : raw.normal.get? "response" = some response := get?_normal_of_normal rfl isNormal
  have isDigest : raw.normal.get? "responseDigest" = some responseDigest :=
    get?_normal_of_normal rfl isNormal'
  have isRequired : raw.normal.get? "secretReprovisionRequired" = some (.bool required) :=
    get?_normal_of_normal rfl rfl
  have found : completedResponse codec raw.normal = some (response, responseDigest, required) := by
    unfold completedResponse sanitizedResponse
    rw [exactKeys_normal, isResponse, isDigest, isRequired]
    exact (guarded rfl _).trans (guarded checked _)
  unfold sanitizeComplete
  rw [found, uuid?_normal, id?_normal, id?_normal,
    uuid?_eq_some rfl isKey isLower, id?_eq_some rfl isOperation, id?_eq_some rfl isAgent]
  rfl

theorem valid_of_sanitizeConsume {raw : Json} {clean : Mutation}
    (sanitized : sanitizeConsume raw.normal = some clean) : clean.Valid codec := by
  simp only [sanitizeConsume, Option.bind_eq_bind, Option.bind_eq_some_iff, Json.get?_normal,
    Option.filter_eq_some_iff, Option.map_eq_some_iff] at sanitized
  obtain ⟨-, -, nonceHash, ⟨⟨spelled, -, isHash⟩, isHex⟩, expiresAt, ⟨-, isDate⟩, isClean⟩ :=
    sanitized
  cases isClean
  refine ⟨isHex, ?_, isDate⟩
  rw [← isHash, Json.normal_normal]

theorem sanitizeConsume_json {nonceHash : Json} {expiresAt : Text}
    (valid : (Mutation.consume nonceHash expiresAt).Valid codec) :
    sanitizeConsume (Mutation.consume nonceHash expiresAt).json.normal =
      some (.consume nonceHash expiresAt) := by
  obtain ⟨isHex, isNormal, isDate⟩ := valid
  have isHash : (Mutation.consume nonceHash expiresAt).json.normal.get? "nonceHash" =
      some nonceHash := get?_normal_of_normal rfl isNormal
  have isExpiry : (Mutation.consume nonceHash expiresAt).json.getStr? "expiresAt" =
      some expiresAt := rfl
  unfold sanitizeConsume
  rw [exactKeys_normal, getStr?_normal, isHash, isExpiry,
    Option.filter_eq_some_iff.mpr ⟨rfl, isHex⟩, Option.filter_eq_some_iff.mpr ⟨rfl, isDate⟩]
  exact guarded rfl _

theorem valid_of_sanitizeSnapshot {raw : Json} {clean : Mutation}
    (sanitized : sanitizeSnapshot codec raw.normal = some clean) : clean.Valid codec := by
  obtain ⟨kind, -, sanitized⟩ := Option.bind_eq_some_iff.mp sanitized
  unfold sanitizeKind at sanitized
  split at sanitized
  · exact valid_of_sanitizeSet sanitized
  · split at sanitized
    · exact valid_of_sanitizeSwap sanitized
    · split at sanitized
      · exact valid_of_sanitizeClaim sanitized
      · split at sanitized
        · exact valid_of_sanitizeComplete sanitized
        · split at sanitized
          · exact valid_of_sanitizeConsume sanitized
          · cases sanitized

theorem sanitizeSnapshot_json {clean : Mutation} (valid : clean.Valid codec) :
    sanitizeSnapshot codec clean.json.normal = some clean := by
  unfold sanitizeSnapshot
  rw [getStr?_normal]
  cases clean with
  | set pairId binding =>
      change sanitizeKind codec _ Mutation.setKind = _
      exact (if_pos rfl).trans (sanitizeSet_json valid)
  | swap pairId expectedClientId binding =>
      change sanitizeKind codec _ Mutation.swapKind = _
      unfold sanitizeKind
      rw [if_neg (by decide)]
      exact (if_pos rfl).trans (sanitizeSwap_json valid)
  | claim idempotencyKey operation agentId =>
      change sanitizeKind codec _ Mutation.claimKind = _
      unfold sanitizeKind
      rw [if_neg (by decide), if_neg (by decide)]
      exact (if_pos rfl).trans (sanitizeClaim_json valid)
  | complete idempotencyKey operation agentId response responseDigest required =>
      change sanitizeKind codec _ Mutation.completeKind = _
      unfold sanitizeKind
      rw [if_neg (by decide), if_neg (by decide), if_neg (by decide)]
      exact (if_pos rfl).trans (sanitizeComplete_json valid)
  | consume nonceHash expiresAt =>
      change sanitizeKind codec _ Mutation.consumeKind = _
      unfold sanitizeKind
      rw [if_neg (by decide), if_neg (by decide), if_neg (by decide), if_neg (by decide)]
      exact (if_pos rfl).trans (sanitizeConsume_json valid)

theorem valid_of_sanitizeMutation {raw : Json} {clean : Mutation}
    (sanitized : sanitizeMutation codec raw = some clean) : clean.Valid codec := by
  obtain ⟨snapshot, isSnapshot, sanitized⟩ := Option.bind_eq_some_iff.mp sanitized
  rw [normal_of_jsonSnapshot isSnapshot] at sanitized
  exact valid_of_sanitizeSnapshot sanitized

/-- What is valid, and bounded, is sanitized already. -/
theorem sanitizeMutation_json {clean : Mutation} (valid : clean.Valid codec)
    (bounded : (codec.canonicalize clean.json).isSome = true) :
    sanitizeMutation codec clean.json = some clean := by
  obtain ⟨found, isFound⟩ := Option.isSome_iff_exists.mp bounded
  unfold sanitizeMutation jsonSnapshot
  rw [isFound]
  exact sanitizeSnapshot_json valid

end Valid

end SelfConnect.Ultra.Outbox
