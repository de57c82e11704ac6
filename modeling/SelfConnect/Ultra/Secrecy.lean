import SelfConnect.Ultra.Mutation

namespace SelfConnect.Ultra.Outbox

open SelfConnect.Js

/-! What a sanitized mutation can still carry. -/

/-- The names of the fields of a value, at any depth. -/
inductive Field : Json → Text → Prop
  | own {members : List (Text × Json)} {name : Text} {value : Json}
      (member : (name, value) ∈ members) : Field (.obj members) name
  | inMember {members : List (Text × Json)} {key name : Text} {value : Json}
      (member : (key, value) ∈ members) (field : Field value name) : Field (.obj members) name
  | inItem {items : List Json} {item : Json} {name : Text} (member : item ∈ items)
      (field : Field item name) : Field (.arr items) name

theorem itemsContainSecret_eq_any (items : List Json) :
    itemsContainSecret items = items.any containsSecret := by
  induction items with
  | nil => rfl
  | cons item rest ih => exact congrArg (containsSecret item || ·) ih

theorem membersContainSecret_eq_any (members : List (Text × Json)) :
    membersContainSecret members =
      members.any fun member => isSecretField member.1 || containsSecret member.2 := by
  induction members with
  | nil => rfl
  | cons member rest ih =>
      exact congrArg (isSecretField member.1 || containsSecret member.2 || ·) ih

theorem containsSecret_of_field {value : Json} {name : Text} (field : Field value name)
    (isSecret : isSecretField name = true) : containsSecret value = true := by
  induction field with
  | own member =>
      refine (membersContainSecret_eq_any _).trans (List.any_eq_true.mpr ⟨_, member, ?_⟩)
      exact Bool.or_eq_true_iff.mpr (.inl isSecret)
  | inMember member field ih =>
      refine (membersContainSecret_eq_any _).trans (List.any_eq_true.mpr ⟨_, member, ?_⟩)
      exact Bool.or_eq_true_iff.mpr (.inr (ih isSecret))
  | inItem member field ih =>
      exact (itemsContainSecret_eq_any _).trans (List.any_eq_true.mpr ⟨_, member, ih isSecret⟩)

mutual

theorem field_of_containsSecret : ∀ {value : Json}, containsSecret value = true →
    ∃ name, Field value name ∧ isSecretField name = true
  | .null, contains => by cases contains
  | .bool _, contains => by cases contains
  | .num _, contains => by cases contains
  | .str _, contains => by cases contains
  | .arr items, contains => by
      obtain ⟨item, name, member, field, isSecret⟩ := field_of_itemsContainSecret contains
      exact ⟨name, .inItem member field, isSecret⟩
  | .obj members, contains => field_of_membersContainSecret contains

theorem field_of_itemsContainSecret : ∀ {items : List Json}, itemsContainSecret items = true →
    ∃ item name, item ∈ items ∧ Field item name ∧ isSecretField name = true
  | [], contains => by cases contains
  | item :: rest, contains => by
      rcases Bool.or_eq_true_iff.mp contains with inFirst | inRest
      · obtain ⟨name, field, isSecret⟩ := field_of_containsSecret inFirst
        exact ⟨item, name, List.mem_cons_self, field, isSecret⟩
      · obtain ⟨item, name, member, found⟩ := field_of_itemsContainSecret inRest
        exact ⟨item, name, List.mem_cons_of_mem _ member, found⟩

theorem field_of_membersContainSecret : ∀ {members : List (Text × Json)},
    membersContainSecret members = true →
      ∃ name, Field (.obj members) name ∧ isSecretField name = true
  | [], contains => by cases contains
  | (key, value) :: rest, contains => by
      rcases Bool.or_eq_true_iff.mp contains with inFirst | inRest
      · rcases Bool.or_eq_true_iff.mp inFirst with isSecret | inValue
        · exact ⟨key, .own List.mem_cons_self, isSecret⟩
        · obtain ⟨name, field, isSecret⟩ := field_of_containsSecret inValue
          exact ⟨name, .inMember List.mem_cons_self field, isSecret⟩
      · obtain ⟨name, field, isSecret⟩ := field_of_membersContainSecret inRest
        refine ⟨name, ?_, isSecret⟩
        cases field with
        | own member => exact .own (List.mem_cons_of_mem _ member)
        | inMember member field => exact .inMember (List.mem_cons_of_mem _ member) field

end

theorem containsSecret_iff (value : Json) :
    containsSecret value = true ↔ ∃ name, Field value name ∧ isSecretField name = true := by
  refine ⟨field_of_containsSecret, ?_⟩
  rintro ⟨name, field, isSecret⟩
  exact containsSecret_of_field field isSecret

mutual

theorem containsSecret_normal : ∀ value : Json, containsSecret value.normal = containsSecret value
  | .null => rfl
  | .bool _ => rfl
  | .num _ => rfl
  | .str _ => rfl
  | .arr items => itemsContainSecret_normal items
  | .obj members => by
      change membersContainSecret (orderMembers (Json.normalMembers members)) =
        membersContainSecret members
      rw [membersContainSecret_eq_any, (orderMembers_perm _).any_eq, ← membersContainSecret_eq_any]
      exact membersContainSecret_normal members

theorem itemsContainSecret_normal : ∀ items : List Json,
    itemsContainSecret (Json.normalItems items) = itemsContainSecret items
  | [] => rfl
  | item :: rest =>
      congrArg₂ or (containsSecret_normal item) (itemsContainSecret_normal rest)

theorem membersContainSecret_normal : ∀ members : List (Text × Json),
    membersContainSecret (Json.normalMembers members) = membersContainSecret members
  | [] => rfl
  | (key, value) :: rest =>
      congrArg₂ or (congrArg (isSecretField key || ·) (containsSecret_normal value))
        (membersContainSecret_normal rest)

end

def isShort : Json → Bool
  | .null => true
  | .bool _ => true
  | .str value => isIdentifier value
  | _ => false

/-- What is bounded leaves room for two members more, each of them short or a member's value. -/
def Codec.Roomy (codec : Codec) : Prop :=
  ∀ members members' : List (Text × Json), (codec.canonicalize (.obj members)).isSome = true →
    members'.length ≤ members.length + 2 →
    (∀ member ∈ members', isIdentifier member.1 = true ∧
      (isShort member.2 = true ∨ ∃ key, (Json.obj members).get? key = some member.2)) →
    (codec.canonicalize (.obj members')).isSome = true

theorem isIdentifierUnit_of_isHex {u : UInt16} (hex : isHex u = true) :
    isIdentifierUnit u = true := by
  unfold isHex isLowerHex at hex
  unfold isIdentifierUnit isUpper isLower
  simp only [Bool.or_eq_true, Bool.and_eq_true, decide_eq_true_eq, UInt16.le_iff_toNat_le] at hex ⊢
  rcases hex with (digit | lower) | upper
  · exact .inl (.inr digit)
  · exact .inl (.inl (.inr ⟨lower.1, Nat.le_trans lower.2 (by decide)⟩))
  · exact .inl (.inl (.inl ⟨upper.1, Nat.le_trans upper.2 (by decide)⟩))

theorem isIdentifierUnit_of_variant {u : UInt16} (variant : u ∈ text "89abAB") :
    isIdentifierUnit u = true := by
  have identifiers : (text "89abAB").all isIdentifierUnit = true := by decide
  exact List.all_eq_true.mp identifiers u variant

theorem isIdentifier_of_isUuid {value : Text} (uuid : isUuid value = true) :
    isIdentifier value = true := by
  simp only [isUuid, Bool.and_eq_true, decide_eq_true_eq, List.all_eq_true, List.mem_range] at uuid
  obtain ⟨long, units⟩ := uuid
  simp only [isIdentifier, matchesRun, Bool.and_eq_true, decide_eq_true_eq, List.all_eq_true]
  refine ⟨⟨by omega, by omega⟩, fun u member => ?_⟩
  obtain ⟨i, inside, isUnit⟩ := List.getElem_of_mem member
  have unit := units i (long ▸ inside)
  have same : value.getD i 0 = u := by
    rw [List.getD_eq_getElem?_getD, List.getElem?_eq_getElem inside, isUnit]
    rfl
  rw [same] at unit
  split at unit
  · rw [of_decide_eq_true unit]
    decide
  · split at unit
    · simp only [Bool.and_eq_true, decide_eq_true_eq, UInt16.le_iff_toNat_le] at unit
      refine isIdentifierUnit_of_isHex ((isHex_iff u).mpr (.inl ?_))
      exact ⟨Nat.le_trans (by decide) unit.1, Nat.le_trans unit.2 (by decide)⟩
    · split at unit
      · exact isIdentifierUnit_of_variant (List.contains_iff_mem.mp unit)
      · exact isIdentifierUnit_of_isHex unit

theorem isIdentifier_of_isHex64 {value : Text} (hex : isHex64 value = true) :
    isIdentifier value = true := by
  simp only [isHex64, isIdentifier, matchesRun, Bool.and_eq_true, decide_eq_true_eq,
    List.all_eq_true] at hex ⊢
  refine ⟨⟨Nat.le_trans (by decide) hex.1.1, Nat.le_trans hex.1.2 (by decide)⟩, ?_⟩
  intro u member
  exact isIdentifierUnit_of_isHex (Bool.or_eq_true_iff.mpr (.inl (hex.2 u member)))

variable {codec : Codec}

/-- Where a member of a sanitized mutation comes from. -/
def Drawn (raw : Json) (member : Text × Json) : Prop :=
  isIdentifier member.1 = true ∧
    (isShort member.2 = true ∨ ∃ key, raw.get? key = some member.2)

theorem get?_of_getStr? {raw : Json} {key : String} {value : Text}
    (found : raw.getStr? key = some value) : raw.get? key = some (.str value) := by
  obtain ⟨spelled, isFound, isText⟩ := Option.bind_eq_some_iff.mp found
  exact isFound.trans (congrArg some (Json.eq_str isText))

theorem Drawn.of_get? {raw value : Json} {key : String} {name : Text}
    (found : raw.get? key = some value) (isName : isIdentifier name = true) :
    Drawn raw (name, value) :=
  ⟨isName, .inr ⟨key, found⟩⟩

theorem Drawn.of_short {raw value : Json} {name : Text} (short : isShort value = true)
    (isName : isIdentifier name = true) : Drawn raw (name, value) :=
  ⟨isName, .inl short⟩

theorem Drawn.of_getStr? {raw : Json} {key : String} {name : Text} {value : Text}
    (found : raw.getStr? key = some value) (isName : isIdentifier name = true) :
    Drawn raw (name, .str value) :=
  .of_get? (get?_of_getStr? found) isName

theorem drawn_binding {raw : Json} {binding : Binding}
    (sanitized : sanitizeBinding codec raw = some binding) :
    ∀ member ∈ Mutation.bindingMembers binding, Drawn raw member := by
  simp only [sanitizeBinding, Option.bind_eq_bind, Option.bind_eq_some_iff, id?,
    Option.filter_eq_some_iff] at sanitized
  obtain ⟨tskClientId, ⟨isClient, -⟩, agentId, isAgent, canonicalId, isCanonical, key, isKey,
    isValid⟩ := sanitized
  cases eq_of_validateIdentityBinding isValid
  simp only [Mutation.bindingMembers, List.forall_mem_cons, List.not_mem_nil, false_implies,
    implies_true, and_true]
  exact ⟨.of_getStr? isClient (by decide), .of_getStr? isAgent (by decide),
    .of_getStr? isCanonical (by decide), .of_getStr? isKey (by decide)⟩

theorem length_of_exactKeys {raw : Json} {keys : List String} (exact : exactKeys raw keys = true) :
    ∃ members, raw = .obj members ∧ members.length = keys.length := by
  cases raw with
  | obj members =>
      have lengths := (List.isPerm_iff.mp exact).length_eq
      rw [List.length_map, List.length_map] at lengths
      exact ⟨members, rfl, lengths⟩
  | _ => cases exact

/-- The members of a sanitized mutation come from those it was made of, but for two at most. -/
def DrawnFrom (raw : Json) (clean : Mutation) : Prop :=
  ∃ members members', raw = .obj members ∧ clean.json = .obj members' ∧
    members'.length ≤ members.length + 2 ∧ ∀ member ∈ members', Drawn raw member

theorem drawn_sanitizeSet {raw : Json} {clean : Mutation}
    (isKind : raw.getStr? "kind" = some Mutation.setKind)
    (sanitized : sanitizeSet codec raw = some clean) : DrawnFrom raw clean := by
  simp only [sanitizeSet, Option.bind_eq_bind, Option.bind_eq_some_iff, id?,
    Option.filter_eq_some_iff] at sanitized
  obtain ⟨_, exact, binding, isBinding, pairId, ⟨isPair, -⟩, isClean⟩ := sanitized
  cases isClean
  obtain ⟨members, isObject, long⟩ := length_of_exactKeys (of_guard exact)
  refine ⟨members, _, isObject, rfl, by simp [long, Mutation.bindingMembers], ?_⟩
  refine List.forall_mem_append.mpr ⟨?_, drawn_binding isBinding⟩
  simp only [List.forall_mem_cons, List.not_mem_nil, false_implies, implies_true, and_true]
  exact ⟨.of_getStr? isKind (by decide), .of_getStr? isPair (by decide)⟩

theorem drawn_sanitizeSwap {raw : Json} {clean : Mutation}
    (isKind : raw.getStr? "kind" = some Mutation.swapKind)
    (sanitized : sanitizeSwap codec raw = some clean) : DrawnFrom raw clean := by
  simp only [sanitizeSwap, Option.bind_eq_bind, Option.bind_eq_some_iff, id?,
    Option.filter_eq_some_iff] at sanitized
  obtain ⟨_, exact, binding, isBinding, pairId, ⟨isPair, -⟩, expected, ⟨isExpected, -⟩, isClean⟩ :=
    sanitized
  cases isClean
  obtain ⟨members, isObject, long⟩ := length_of_exactKeys (of_guard exact)
  refine ⟨members, _, isObject, rfl, by simp [long, Mutation.bindingMembers], ?_⟩
  refine List.forall_mem_append.mpr ⟨?_, drawn_binding isBinding⟩
  simp only [List.forall_mem_cons, List.not_mem_nil, false_implies, implies_true, and_true]
  exact ⟨.of_getStr? isKind (by decide), .of_getStr? isPair (by decide),
    .of_getStr? isExpected (by decide)⟩

theorem drawn_uuid? {raw : Json} {key : String} {name value : Text}
    (found : uuid? raw key = some value) (isName : isIdentifier name = true) :
    Drawn raw (name, .str value) :=
  .of_short (isIdentifier_of_isUuid (uuid?_cases found).1) isName

theorem drawn_sanitizeClaim {raw : Json} {clean : Mutation}
    (isKind : raw.getStr? "kind" = some Mutation.claimKind)
    (sanitized : sanitizeClaim raw = some clean) : DrawnFrom raw clean := by
  simp only [sanitizeClaim, Option.bind_eq_bind, Option.bind_eq_some_iff, id?,
    Option.filter_eq_some_iff] at sanitized
  obtain ⟨_, exact, key, isKey, operation, ⟨isOperation, -⟩, agentId, ⟨isAgent, -⟩, isClean⟩ :=
    sanitized
  cases isClean
  obtain ⟨members, isObject, long⟩ := length_of_exactKeys (of_guard exact)
  refine ⟨members, _, isObject, rfl, by simp [long], ?_⟩
  simp only [List.forall_mem_cons, List.not_mem_nil, false_implies, implies_true, and_true]
  exact ⟨.of_getStr? isKind (by decide), drawn_uuid? isKey (by decide),
    .of_getStr? isOperation (by decide), .of_getStr? isAgent (by decide)⟩

theorem drawn_sanitizedResponse {raw response responseDigest : Json} {required : Bool}
    (found : sanitizedResponse codec raw = some (response, responseDigest, required)) :
    (∃ members, raw = .obj members ∧ 5 ≤ members.length) ∧
      Drawn raw (text "response", response) ∧
        Drawn raw (text "responseDigest", responseDigest) := by
  simp only [sanitizedResponse, Option.bind_eq_bind, Option.bind_eq_some_iff] at found
  obtain ⟨_, exact, response', isResponse, digest', isDigest, required', -, -, -, same⟩ := found
  cases same
  obtain ⟨members, isObject, long⟩ := length_of_exactKeys (of_guard exact)
  exact ⟨⟨members, isObject, by simp [long]⟩, .of_get? isResponse (by decide),
    .of_get? isDigest (by decide)⟩

theorem drawn_rawResponse {raw response responseDigest : Json} {required : Bool}
    (isNormal : raw.normal = raw)
    (found : rawResponse codec raw = some (response, responseDigest, required)) :
    (∃ members, raw = .obj members ∧ 5 ≤ members.length) ∧
      Drawn raw (text "response", response) ∧
        Drawn raw (text "responseDigest", responseDigest) := by
  simp only [rawResponse, Option.bind_eq_bind, Option.bind_eq_some_iff] at found
  obtain ⟨_, exact, snapshot, ⟨spelled, isResponse, isSnapshot⟩, digested, isDigest, same⟩ := found
  have kept : spelled.normal = spelled := by
    rw [← isNormal, Json.get?_normal, Option.map_eq_some_iff] at isResponse
    obtain ⟨first, -, isNormal⟩ := isResponse
    rw [← isNormal, Json.normal_normal]
  have sameResponse := (normal_of_jsonSnapshot isSnapshot).trans kept
  cases same
  obtain ⟨members, isObject, long⟩ := length_of_exactKeys (of_guard exact)
  refine ⟨⟨members, isObject, by simp [long]⟩, ?_, .of_short ?_ (by decide)⟩
  · cases containsSecret snapshot with
    | true => exact .of_short rfl (by decide)
    | false => exact .of_get? (sameResponse ▸ isResponse) (by decide)
  · exact isIdentifier_of_isHex64 (isHex64_digest isDigest)

theorem drawn_sanitizeComplete {raw : Json} {clean : Mutation} (isNormal : raw.normal = raw)
    (isKind : raw.getStr? "kind" = some Mutation.completeKind)
    (sanitized : sanitizeComplete codec raw = some clean) : DrawnFrom raw clean := by
  simp only [sanitizeComplete, Option.bind_eq_bind, Option.bind_eq_some_iff, id?,
    Option.filter_eq_some_iff] at sanitized
  obtain ⟨⟨response, responseDigest, required⟩, found, key, isKey, operation, ⟨isOperation, -⟩,
    agentId, ⟨isAgent, -⟩, isClean⟩ := sanitized
  cases isClean
  have drawn : (∃ members, raw = .obj members ∧ 5 ≤ members.length) ∧
      Drawn raw (text "response", response) ∧
      Drawn raw (text "responseDigest", responseDigest) := by
    unfold completedResponse at found
    split at found
    · exact drawn_sanitizedResponse found
    · exact drawn_rawResponse isNormal found
  obtain ⟨⟨members, isObject, long⟩, drawnResponse, drawnDigest⟩ := drawn
  refine ⟨members, _, isObject, rfl, by simpa using long, ?_⟩
  simp only [List.forall_mem_cons, List.not_mem_nil, false_implies, implies_true, and_true]
  exact ⟨.of_getStr? isKind (by decide), drawn_uuid? isKey (by decide),
    .of_getStr? isOperation (by decide), .of_getStr? isAgent (by decide), drawnResponse,
    drawnDigest, .of_short rfl (by decide)⟩

theorem drawn_sanitizeConsume {raw : Json} {clean : Mutation}
    (isKind : raw.getStr? "kind" = some Mutation.consumeKind)
    (sanitized : sanitizeConsume raw = some clean) : DrawnFrom raw clean := by
  simp only [sanitizeConsume, Option.bind_eq_bind, Option.bind_eq_some_iff,
    Option.filter_eq_some_iff] at sanitized
  obtain ⟨_, exact, nonceHash, ⟨isHash, -⟩, expiresAt, ⟨isExpiry, -⟩, isClean⟩ := sanitized
  cases isClean
  obtain ⟨members, isObject, long⟩ := length_of_exactKeys (of_guard exact)
  refine ⟨members, _, isObject, rfl, by simp [long], ?_⟩
  simp only [List.forall_mem_cons, List.not_mem_nil, false_implies, implies_true, and_true]
  exact ⟨.of_getStr? isKind (by decide), .of_get? isHash (by decide),
    .of_getStr? isExpiry (by decide)⟩

theorem drawn_sanitizeSnapshot {raw : Json} {clean : Mutation} (isNormal : raw.normal = raw)
    (sanitized : sanitizeSnapshot codec raw = some clean) : DrawnFrom raw clean := by
  obtain ⟨kind, isKind, sanitized⟩ := Option.bind_eq_some_iff.mp sanitized
  unfold sanitizeKind at sanitized
  split at sanitized
  · next same => exact drawn_sanitizeSet (same ▸ isKind) sanitized
  · split at sanitized
    · next same => exact drawn_sanitizeSwap (same ▸ isKind) sanitized
    · split at sanitized
      · next same => exact drawn_sanitizeClaim (same ▸ isKind) sanitized
      · split at sanitized
        · next same => exact drawn_sanitizeComplete isNormal (same ▸ isKind) sanitized
        · split at sanitized
          · next same => exact drawn_sanitizeConsume (same ▸ isKind) sanitized
          · cases sanitized

/-- A mutation that has been sanitized is bounded, as the one it was made of. -/
theorem bounded_of_sanitizeMutation (roomy : codec.Roomy) {raw : Json} {clean : Mutation}
    (sanitized : sanitizeMutation codec raw = some clean) :
    (codec.canonicalize clean.json).isSome = true := by
  obtain ⟨snapshot, isSnapshot, sanitized⟩ := Option.bind_eq_some_iff.mp sanitized
  obtain ⟨found, isFound, same⟩ := Option.map_eq_some_iff.mp isSnapshot
  rw [← same] at sanitized
  obtain ⟨members, members', isObject, isClean, long, drawn⟩ :=
    drawn_sanitizeSnapshot (Json.normal_normal raw) sanitized
  rw [isObject] at drawn
  rw [isClean]
  refine roomy members members' ?_ long drawn
  rw [← isObject, codec.canonicalize_normal, isFound]
  rfl

theorem assertSanitized_iff {candidate : Json} : assertSanitized codec candidate = true ↔
    ∃ clean found, sanitizeMutation codec candidate = some clean ∧
      codec.canonicalize candidate = some found ∧ codec.canonicalize clean.json = some found := by
  simp only [assertSanitized, Option.any_eq_true, Bool.and_eq_true, Option.isSome_iff_exists,
    decide_eq_true_eq]
  constructor
  · rintro ⟨clean, sanitized, ⟨found, isFound⟩, same⟩
    exact ⟨clean, found, sanitized, isFound, same.trans isFound⟩
  · rintro ⟨clean, found, sanitized, isFound, isClean⟩
    exact ⟨clean, sanitized, ⟨found, isFound⟩, isClean.trans isFound.symm⟩

variable (codec) in
/-- The mutation is a sanitized completion whose response has kept a secret field. -/
structure Unredacted (mutation : Json) : Prop where
  bounded : (codec.canonicalize mutation).isSome = true
  completion : ∃ idempotencyKey operation agentId response responseDigest,
    mutation.normal = (Mutation.complete idempotencyKey operation agentId response
      (.str responseDigest) false).json.normal ∧
    isUuid idempotencyKey = true ∧ idempotencyKey.map lowerUnit = idempotencyKey ∧
    isIdentifier operation = true ∧ isIdentifier agentId = true ∧
    digest codec response = some responseDigest ∧
    ∃ name, Field response name ∧ isSecretField name = true

variable (codec) in
/-- The sanitizer takes what it returns, and what it takes carries no secret field. -/
structure Harmless (mutation : Json) : Prop where
  idempotent : ∀ clean, sanitizeMutation codec mutation = some clean →
    assertSanitized codec clean.json = true ∧
      (sanitizeMutation codec clean.json).map Mutation.json = some clean.json
  redacted : assertSanitized codec mutation = true → ∀ response,
    mutation.get? "response" = some response → ∀ name, Field response name →
      isSecretField name = false

theorem idempotent_of_roomy (roomy : codec.Roomy) {mutation : Json} {clean : Mutation}
    (sanitized : sanitizeMutation codec mutation = some clean) :
    assertSanitized codec clean.json = true ∧
      (sanitizeMutation codec clean.json).map Mutation.json = some clean.json := by
  have bounded := bounded_of_sanitizeMutation roomy sanitized
  have again := sanitizeMutation_json (valid_of_sanitizeMutation sanitized) bounded
  obtain ⟨found, isFound⟩ := Option.isSome_iff_exists.mp bounded
  exact ⟨assertSanitized_iff.mpr ⟨clean, found, again, isFound, isFound⟩,
    congrArg (Option.map Mutation.json) again⟩

theorem canonicalize_eq_of_normal {first second : Json} (same : first.normal = second.normal) :
    codec.canonicalize first = codec.canonicalize second := by
  rw [← codec.canonicalize_normal first, same, codec.canonicalize_normal]

/-- What is accepted with a secret field is a completion that says it has none. -/
theorem unredacted_of_field {mutation response : Json} {name : Text}
    (accepted : assertSanitized codec mutation = true)
    (isResponse : mutation.get? "response" = some response) (field : Field response name)
    (isSecret : isSecretField name = true) : Unredacted codec mutation := by
  obtain ⟨clean, found, sanitized, isFound, isClean⟩ := assertSanitized_iff.mp accepted
  have same := codec.normal_eq mutation clean.json found isFound isClean
  have valid := valid_of_sanitizeMutation sanitized
  have carried : clean.json.normal.get? "response" = some response.normal := by
    rw [← same, Json.get?_normal, isResponse]
    rfl
  rw [Json.get?_normal] at carried
  cases clean with
  | complete idempotencyKey operation agentId kept responseDigest required =>
      obtain ⟨isKey, isLower, isOperation, isAgent, isNormal, -, checked⟩ := valid
      have sameResponse : kept.normal = response.normal := Option.some.inj carried
      have contains : containsSecret kept = true := by
        rw [← containsSecret_normal, sameResponse, containsSecret_normal]
        exact containsSecret_of_field field isSecret
      have checked := (Bool.and_eq_true_iff.mp checked).2
      cases required with
      | true =>
          cases kept with
          | null => cases contains
          | _ => cases checked
      | false =>
          obtain ⟨isText, isDigest⟩ := Bool.and_eq_true_iff.mp checked
          obtain ⟨digested, isText⟩ := Option.isSome_iff_exists.mp isText
          cases Json.eq_str isText
          refine ⟨Option.isSome_iff_exists.mpr ⟨found, isFound⟩, idempotencyKey, operation,
            agentId, kept, digested, same, isKey, isLower, isOperation, isAgent,
            (of_decide_eq_true isDigest).symm, (containsSecret_iff kept).mp contains⟩
  | _ => cases carried

theorem accepted_of_unredacted {mutation : Json} (unredacted : Unredacted codec mutation) :
    assertSanitized codec mutation = true ∧ ∃ response name,
      mutation.get? "response" = some response ∧ Field response name ∧
        isSecretField name = true := by
  obtain ⟨bounded, idempotencyKey, operation, agentId, response, responseDigest, same, isKey,
    isLower, isOperation, isAgent, isDigest, named⟩ := unredacted
  have checked : isSanitized codec response.normal (.str responseDigest) false = true := by
    refine Bool.and_eq_true_iff.mpr ⟨isHex64_digest isDigest, Bool.and_eq_true_iff.mpr ⟨rfl, ?_⟩⟩
    exact decide_eq_true ((digest_normal response).trans isDigest).symm
  have valid : (Mutation.complete idempotencyKey operation agentId response.normal
      (.str responseDigest) false).Valid codec :=
    ⟨isKey, isLower, isOperation, isAgent, Json.normal_normal response, rfl, checked⟩
  have alike : mutation.normal = (Mutation.complete idempotencyKey operation agentId
      response.normal (.str responseDigest) false).json.normal := by
    rw [same]
    simp only [Mutation.json, Json.normal, Json.normalMembers, Json.normal_normal]
  obtain ⟨found, isFound⟩ := Option.isSome_iff_exists.mp bounded
  refine ⟨assertSanitized_iff.mpr ⟨_, found, ?_, isFound,
    (canonicalize_eq_of_normal alike).symm.trans isFound⟩, ?_⟩
  · unfold sanitizeMutation jsonSnapshot
    rw [isFound]
    exact (congrArg (sanitizeSnapshot codec) alike).trans (sanitizeSnapshot_json valid)
  · have carried := Json.get?_normal mutation "response"
    rw [same, Json.get?_normal] at carried
    obtain ⟨own, isOwn, sameResponse⟩ := Option.map_eq_some_iff.mp carried.symm
    have contains : containsSecret own = true := by
      rw [← containsSecret_normal, sameResponse, containsSecret_normal]
      exact (containsSecret_iff response).mpr named
    obtain ⟨name, field, isSecret⟩ := (containsSecret_iff own).mp contains
    exact ⟨own, name, isOwn, field, isSecret⟩

/-- The sanitizer is idempotent, and no mutation it accepts carries a secret field, unless the
mutation comes as a sanitized completion that says it needs no provisioning. -/
theorem harmless_iff (roomy : codec.Roomy) (mutation : Json) :
    Harmless codec mutation ↔ ¬ Unredacted codec mutation := by
  constructor
  · intro harmless unredacted
    obtain ⟨accepted, response, name, isResponse, field, isSecret⟩ :=
      accepted_of_unredacted unredacted
    rw [harmless.redacted accepted response isResponse name field] at isSecret
    cases isSecret
  · intro redacted
    refine ⟨fun clean => idempotent_of_roomy roomy, ?_⟩
    intro accepted response isResponse name field
    by_contra isSecret
    exact redacted
      (unredacted_of_field accepted isResponse field (Bool.eq_true_of_not_eq_false isSecret))

theorem roomy_of_canonicalText
    (isText : ∀ value, codec.canonicalize value = Json.canonicalText value) : codec.Roomy := by
  intro members members' bounded _ drawn
  rw [isText, Json.canonicalText, Option.isSome_ite] at bounded ⊢
  change Json.noNumbersMembers members = true at bounded
  change Json.noNumbersMembers members' = true
  rw [Json.noNumbersMembers_eq_all, List.all_eq_true] at bounded ⊢
  intro member inside
  rcases (drawn member inside).2 with short | ⟨key, isValue⟩
  · cases isValue : member.2 with
    | null => rfl
    | bool value => rfl
    | str value => rfl
    | _ =>
        rw [isValue] at short
        cases short
  · obtain ⟨before, after, isMembers, -⟩ := List.lookup_eq_some_iff.mp isValue
    exact bounded (text key, member.2) (isMembers ▸ List.mem_append_right _ List.mem_cons_self)

/-- Texts without numbers, and the digest of `{"secret":"x"}`. -/
def sampleCodec : Codec where
  canonicalize := Json.canonicalText
  sha256 _ := text "e526b7733cb569d86d018bfefd3e6536d7fdb46017ec4a96d73044bc8a229c77"
  keySha256 _ := text "66687aadf862bd776c8fc18b8e9f8e20089714856ee233b3902a591d0d5f2925"
  normal_eq _ _ _ := Json.normal_eq_of_canonicalText
  canonicalize_normal := Json.canonicalText_normal
  isHex64_sha256 _ := by decide

def secretResponse : Json := .obj [(text "secret", .str (text "x"))]

def completionKey : Text := text "6f1c2f0e-27c5-4d67-9c58-4dd04bb7a0aa"

/-- A completion that has been sanitized, but for its response. -/
def unredactedCompletion : Json :=
  (Mutation.complete completionKey (text "provision-tsk") (text "agent") secretResponse
    (.str (text "e526b7733cb569d86d018bfefd3e6536d7fdb46017ec4a96d73044bc8a229c77")) false).json

theorem unredacted_unredactedCompletion : Unredacted sampleCodec unredactedCompletion where
  bounded := rfl
  completion := ⟨completionKey, text "provision-tsk", text "agent", secretResponse, _, rfl,
    by decide,
    by decide, by decide, by decide, rfl, text "secret", .own List.mem_cons_self, by decide⟩

theorem not_harmless_unredacted : ¬ Harmless sampleCodec unredactedCompletion := by
  intro harmless
  obtain ⟨accepted, response, name, isResponse, field, isSecret⟩ :=
    accepted_of_unredacted unredacted_unredactedCompletion
  rw [harmless.redacted accepted response isResponse name field] at isSecret
  cases isSecret

theorem harmless_iff_unredactedCompletion :
    Harmless sampleCodec unredactedCompletion ↔ ¬ Unredacted sampleCodec unredactedCompletion :=
  harmless_iff (roomy_of_canonicalText fun _ => rfl) unredactedCompletion

end SelfConnect.Ultra.Outbox
