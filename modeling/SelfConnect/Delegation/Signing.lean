import SelfConnect.Delegation.Reach

namespace SelfConnect.Delegation

open SelfConnect.Python

/-! The receipt of a result that JSON can carry can be signed. -/

/-- What `canonical_bytes` takes. -/
def Canonical (value : Value) : Prop :=
  Json.sortable value = true ∧ Json.strict value = true

theorem canonical_iff {value : Value} :
    Canonical value ↔ ∃ bytes, canonicalBytes value = some bytes := by
  unfold Canonical canonicalBytes Json.dumpsStrict
  rw [← Bool.and_eq_true_iff]
  cases Json.sortable value && Json.strict value with
  | false => simp
  | true => simp

theorem dumpsSorted_of_canonical {value : Value} (canonical : Canonical value)
    (style : Json.Style) : ∃ text, Json.dumpsSorted style value = some text :=
  ⟨_, if_pos canonical.1⟩

theorem strict_object_iff {fields : List (String × Value)} :
    Json.strict (.object fields) = true ↔ ∀ field ∈ fields, Json.strict field.2 = true := by
  change Json.strictMembers (fields.map fun field => (Key.str (Str.lit field.1), field.2)) =
    true ↔ _
  induction fields with
  | nil => exact iff_of_true rfl fun _ absurdly => by cases absurdly
  | cons field rest ih =>
      rw [List.map_cons, Json.strictMembers, Bool.and_eq_true_iff, ih, List.forall_mem_cons]
      simp [Json.encodable_lit]

theorem canonical_object_iff {fields : List (String × Value)} :
    Canonical (.object fields) ↔ ∀ field ∈ fields, Canonical field.2 := by
  unfold Canonical
  rw [Json.sortable_object_iff, strict_object_iff]
  constructor
  · exact fun holds field member => ⟨holds.1 field member, holds.2 field member⟩
  · exact fun holds => ⟨fun field member => (holds field member).1,
      fun field member => (holds field member).2⟩

theorem canonical_str {s : Str} (encodable : Json.encodable s = true) : Canonical (.str s) :=
  ⟨rfl, encodable⟩

theorem canonical_lit (text : String) : Canonical (Value.lit text) :=
  canonical_str (Json.encodable_lit text)

/-! Digests. -/

private theorem digitChar_of_mem_hexText {bytes : Bytes} {c : Char} (member : c ∈ hexText bytes) :
    ∃ n, n < 16 ∧ c = n.digitChar := by
  induction bytes with
  | nil => cases member
  | cons byte rest ih =>
      have bound := byte.toNat_lt
      rcases List.mem_cons.mp member with isHigh | inTail
      · exact ⟨byte.toNat / 16, by omega, isHigh⟩
      · rcases List.mem_cons.mp inTail with isLow | inRest
        · exact ⟨byte.toNat % 16, by omega, isLow⟩
        · exact ih inRest

theorem validDigest_payloadDigest (payload : Bytes) :
    validDigest (payloadDigest payload) = true := by
  have length : (payloadDigest payload).length = 64 := by
    rw [payloadDigest, Str.ofText, List.length_map, length_hexText, sha256,
      sha256Family.length_digest (by decide)]
  have digits : ∀ n, n < 16 →
      (Str.lit "0123456789abcdef").contains (CodePoint.ofChar n.digitChar) = true := by decide
  rw [validDigest, length, Bool.and_eq_true_iff, List.all_eq_true]
  refine ⟨rfl, ?_⟩
  intro c member
  obtain ⟨d, isHex, isPoint⟩ := List.mem_map.mp member
  obtain ⟨n, bound, isDigit⟩ := digitChar_of_mem_hexText isHex
  rw [← isPoint, isDigit]
  exact digits n bound

private theorem hexDigit_range {c : CodePoint}
    (isDigit : (Str.lit "0123456789abcdef").contains c = true) :
    32 ≤ c.val ∧ c.isSurrogate = false := by
  have visible : ("0123456789abcdef".toList.all fun d => 32 ≤ (CodePoint.ofChar d).val) = true := by
    decide
  obtain ⟨d, member, isPoint⟩ := List.mem_map.mp (List.contains_iff_mem.mp isDigit)
  rw [← isPoint]
  exact ⟨of_decide_eq_true (List.all_eq_true.mp visible d member), Str.ofChar_not_surrogate d⟩

variable {value : Str}

theorem bounded_of_validDigest (valid : validDigest value = true) : bounded value = true := by
  obtain ⟨length, digits⟩ := Bool.and_eq_true_iff.mp valid
  have isLength : value.length = 64 := by simpa using length
  have filled : value.isEmpty = false := by
    cases value with
    | nil => cases isLength
    | cons c rest => rfl
  have visible : (value.all fun c => 32 ≤ c.val) = true := by
    apply List.all_eq_true.mpr
    exact fun c member => decide_eq_true (hexDigit_range (List.all_eq_true.mp digits c member)).1
  rw [bounded, isLength, filled, visible]
  rfl

theorem encodable_of_validDigest (valid : validDigest value = true) :
    Json.encodable value = true := by
  obtain ⟨-, digits⟩ := Bool.and_eq_true_iff.mp valid
  apply List.all_eq_true.mpr
  intro c member
  rw [(hexDigit_range (List.all_eq_true.mp digits c member)).2]
  rfl

theorem canonical_digest (valid : validDigest value = true) : Canonical (.str value) :=
  canonical_str (encodable_of_validDigest valid)

theorem validDigest_of_digest {signed : Value} (isDigest : digest signed = some value) :
    validDigest value = true := by
  obtain ⟨bytes, -, same⟩ := Option.map_eq_some_iff.mp isDigest
  rw [← same]
  exact validDigest_payloadDigest bytes

theorem digest_of_canonical {signed : Value} (canonical : Canonical signed) :
    ∃ value, digest signed = some value := by
  obtain ⟨bytes, found⟩ := canonical_iff.mp canonical
  exact ⟨payloadDigest bytes, by rw [digest, found]; rfl⟩

theorem bounded_agentIdOf (publicKey : Bytes) : bounded (agentIdOf true publicKey) = true := by
  have visible : ∀ n, n < 16 → 32 ≤ (CodePoint.ofChar n.digitChar.toUpper).val := by decide
  have length : (agentIdOf true publicKey).length ≤ 11 := by
    simp only [agentIdOf, Str.ofText, List.length_map, List.length_append, List.length_take]
    change 3 + _ ≤ _
    omega
  have points : ∀ c ∈ agentIdOf true publicKey, 32 ≤ c.val := by
    intro c member
    obtain ⟨d, inText, isPoint⟩ := List.mem_map.mp member
    rw [← isPoint]
    rcases List.mem_append.mp inText with inPrefix | inDigits
    · have plain : ("SC-".toList.all fun d => 32 ≤ (CodePoint.ofChar d).val) = true := by decide
      exact of_decide_eq_true (List.all_eq_true.mp plain d inPrefix)
    · obtain ⟨e, inHex, isUpper⟩ := List.mem_map.mp inDigits
      obtain ⟨n, bound, isDigit⟩ := digitChar_of_mem_hexText (List.mem_of_mem_take inHex)
      rw [← isUpper, isDigit]
      exact visible n bound
  rw [bounded, Bool.and_eq_true_iff, Bool.and_eq_true_iff, List.all_eq_true]
  refine ⟨⟨rfl, decide_eq_true (by omega)⟩, ?_⟩
  exact fun c member => decide_eq_true (points c member)

theorem encodable_agentIdOf (publicKey : Bytes) :
    Json.encodable (agentIdOf true publicKey) = true :=
  Json.encodable_ofText _

/-! Receipts. -/

theorem canonical_receipt {receipt : DelegatedActionReceipt}
    (plain : ∀ field ∈ receipt.fields, Canonical field.2)
    (signature : Json.encodable receipt.signatureHex = true) : Canonical receipt.toDict := by
  apply canonical_object_iff.mpr
  intro field member
  rcases List.mem_append.mp member with inFields | last
  · exact plain field inFields
  · rw [List.mem_singleton.mp last]
    exact canonical_str signature

section Signs

variable {identity : AgentIdentity} {grant : DelegationGrant} {proof : AgentActionProof}
  {result : Value} {status : String} {ledgerHead : Str} {issuedAt : PyFloat}
  {sessionId : Str} {tuple : ActionTuple}

theorem ids_of_tuple (isTuple : tupleOf grant proof sessionId = some tuple) :
    grant.grantId = some tuple.grantId ∧ proof.proofId = some tuple.proofId ∧
      proof.actionId = tuple.actionId := by
  unfold tupleOf at isTuple
  cases isGrant : grant.grantId with
  | none => simp [isGrant] at isTuple
  | some grantId =>
      cases isProof : proof.proofId with
      | none => simp [isGrant, isProof] at isTuple
      | some proofId =>
          simp only [isGrant, isProof, Option.bind_eq_bind, Option.bind_some, Option.pure_def,
            Option.some.injEq] at isTuple
          rw [← isTuple]
          exact ⟨rfl, rfl, rfl⟩

/-- The texts of a proof that has a digest. -/
theorem canonical_of_proofId {proofId : Str} (isProof : proof.proofId = some proofId) :
    Canonical (.str proof.actionId) ∧ Canonical (.str proof.agentId) ∧
      Canonical (.str proof.action) := by
  obtain ⟨bytes, isBytes, -⟩ := Option.map_eq_some_iff.mp isProof
  have fields := canonical_object_iff.mp (canonical_iff.mpr ⟨bytes, isBytes⟩)
  exact ⟨fields ("action_id", _) (by simp), fields ("agent_id", _) (by simp),
    fields ("action", _) (by simp)⟩

theorem bounded_of_wellFormed (wellFormed : proof.wellFormed = true) :
    bounded proof.actionId = true ∧ bounded proof.agentId = true ∧ bounded proof.action = true := by
  unfold AgentActionProof.wellFormed at wellFormed
  simp only [Bool.and_eq_true_iff, List.all_cons] at wellFormed
  obtain ⟨⟨⟨⟨⟨⟨⟨⟨-, isAction, isAgent, isTool, -⟩, -⟩, -⟩, -⟩, -⟩, -⟩, -⟩, -⟩ := wellFormed
  exact ⟨isAction, isAgent, isTool⟩

theorem targetDigest_of_wellFormed (wellFormed : proof.wellFormed = true) :
    ∃ value, targetDigest proof.target = some value ∧ validDigest value = true := by
  unfold AgentActionProof.wellFormed at wellFormed
  simp only [Bool.and_eq_true_iff] at wellFormed
  obtain ⟨⟨⟨⟨⟨-, isTarget⟩, -⟩, -⟩, -⟩, -⟩ := wellFormed
  obtain ⟨normalised, isNormalised⟩ := Option.isSome_iff_exists.mp isTarget
  have canonical : ∃ bytes, canonicalBytes (.dict normalised) = some bytes := by
    unfold normaliseJsonObject at isNormalised
    split at isNormalised
    · split at isNormalised
      · next bytes isBytes =>
          split at isNormalised
          · cases isNormalised
            exact ⟨bytes, isBytes⟩
          · cases isNormalised
      · cases isNormalised
    · cases isNormalised
  obtain ⟨bytes, isBytes⟩ := canonical
  refine ⟨payloadDigest bytes, ?_, validDigest_payloadDigest bytes⟩
  rw [targetDigest, isNormalised, Option.bind_some, digest, isBytes]
  rfl

/-- An executor signs the result of an action it has verified. -/
theorem signed (isKey : identity.publicKey.length = 32) (wellFormed : proof.wellFormed = true)
    (isTuple : tupleOf grant proof sessionId = some tuple) (canonical : Canonical result)
    (isStatus : bounded (Str.lit status) = true) (isHead : validDigest ledgerHead = true)
    (finite : issuedAt.isFinite = true) :
    ∃ receipt, signDelegatedReceipt identity grant proof result status ledgerHead
      (.float issuedAt) = some receipt ∧ Canonical receipt.toDict := by
  obtain ⟨target, isTarget, validTarget⟩ := targetDigest_of_wellFormed wellFormed
  obtain ⟨resultSha256, isResult⟩ := digest_of_canonical canonical
  obtain ⟨isGrant, isProof, isAction⟩ := ids_of_tuple isTuple
  obtain ⟨actionId, agentId, action⟩ := canonical_of_proofId isProof
  obtain ⟨boundedAction, boundedAgent, boundedTool⟩ := bounded_of_wellFormed wellFormed
  have validResult := validDigest_of_digest isResult
  have validGrant := validDigest_of_digest isGrant
  have validProof := validDigest_of_digest isProof
  have bindings : Canonical (.object [
      ("grant_id", .str tuple.grantId),
      ("proof_id", .str tuple.proofId),
      ("action_id", .str proof.actionId),
      ("target_sha256", .str target),
      ("result_sha256", .str resultSha256),
      ("ledger_head", .str ledgerHead)]) := by
    apply canonical_object_iff.mpr
    simp [canonical_digest validGrant, canonical_digest validProof, actionId,
      canonical_digest validTarget, canonical_digest validResult, canonical_digest isHead]
  obtain ⟨receiptId, isReceiptId⟩ := digest_of_canonical bindings
  have validReceipt := validDigest_of_digest isReceiptId
  let receipt (signatureHex : Str) : DelegatedActionReceipt := {
    schema := Str.lit receiptSchemaVersion
    receiptId := receiptId
    grantId := tuple.grantId
    proofId := tuple.proofId
    actionId := proof.actionId
    delegatedAgentId := proof.agentId
    agentId := identity.agentId
    agentPublicKeyHex := Str.ofText (hexText identity.publicKey)
    action := proof.action
    targetSha256 := target
    resultSha256 := resultSha256
    resultStatus := Str.lit status
    ledgerHead := ledgerHead
    issuedAt := .float issuedAt
    signatureAlgorithm := Str.lit ed25519
    signatureHex := signatureHex }
  have accepted : ∀ signature bytes, fromHex signature = some bytes →
      (receipt signature).checked = some (receipt signature) := by
    intro signature bytes isHex
    apply if_pos
    unfold DelegatedActionReceipt.wellFormed
    simp [receipt, isHex, fromHex_hexText, isKey, boundedAction, boundedAgent, boundedTool,
      bounded_of_validDigest validReceipt, isStatus, validGrant, validProof, validTarget,
      validResult, isHead, AgentIdentity.agentId, bounded_agentIdOf, validTime, finiteTime?, finite]
  have plain : ∀ signature, ∀ field ∈ (receipt signature).fields, Canonical field.2 := by
    intro signature
    simp [receipt, DelegatedActionReceipt.fields, canonical_digest validReceipt,
      canonical_digest validGrant, canonical_digest validProof, actionId, agentId, action,
      canonical_digest validTarget, canonical_digest validResult, canonical_digest isHead,
      canonical_str (encodable_agentIdOf _), canonical_str (Json.encodable_ofText _),
      canonical_str (Json.encodable_lit _), AgentIdentity.agentId]
    exact ⟨rfl, finite⟩
  obtain ⟨message, isMessage⟩ := canonical_iff.mp (canonical_object_iff.mpr (plain []))
  refine ⟨receipt (Str.ofText (hexText (identity.sign message))), ?_, ?_⟩
  · unfold signDelegatedReceipt
    simp only [isTarget, isResult, isGrant, isProof, Option.bind_eq_bind, Option.bind_some]
    rw [DelegatedActionReceipt.idOf, isReceiptId, Option.bind_some]
    change ((receipt []).checked).bind _ = _
    rw [accepted [] [] rfl, Option.bind_some]
    change (canonicalBytes (receipt []).unsignedDict).bind _ = _
    rw [DelegatedActionReceipt.unsignedDict, isMessage, Option.bind_some]
    exact accepted _ _ (fromHex_hexText _)
  · exact canonical_receipt (plain _) (Json.encodable_ofText _)

end Signs

end SelfConnect.Delegation
