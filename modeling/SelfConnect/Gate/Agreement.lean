import SelfConnect.Gate.Inject

namespace SelfConnect.Gate

open SelfConnect.Python SelfConnect.Library

/-! What an agent signs for a text is what its peer verifies for that text, and for no
other. -/

/-! The payload, from the signer's members to the verifier's. -/

/-- Entries whose keys are in order stay where they are. -/
theorem sortMembers_eq_self {members : Members}
    (ordered : (members.map Prod.fst).Pairwise fun first second => second.lt first = false) :
    Json.sortMembers members = members := by
  rw [List.pairwise_map] at ordered
  exact List.Pairwise.insertionSort_eq ordered

section Payload

def payloadKeys : List Key :=
  ["body_hash", "method", "nonce", "pair_id", "path", "secret_hmac", "timestamp",
    "version"].map fun name => .str (Str.lit name)

variable (bodyHash pairId : Str) (nonce path secretHmac : Text) (nowMs : Int)

theorem sortKeys_canonicalPayload :
    Json.sortKeys (canonicalPayload bodyHash pairId nonce path secretHmac nowMs) =
      canonicalPayload bodyHash pairId nonce path secretHmac nowMs := by
  have keys : payloadKeys.Pairwise fun first second => second.lt first = false := by
    decide +kernel
  simp only [canonicalPayload, Value.object, List.map_cons, List.map_nil, Value.lit,
    Json.sortKeys, Json.sortValues]
  exact congrArg Value.dict (sortMembers_eq_self keys)

variable {bodyHash pairId} (isHash : Json.encodable bodyHash = true)
  (isPair : Json.encodable pairId = true)

include isHash isPair

theorem strict_canonicalPayload :
    Json.strict (canonicalPayload bodyHash pairId nonce path secretHmac nowMs) = true := by
  simp [canonicalPayload, Value.object, Value.lit, Json.strict, Json.strictMembers,
    Json.encodable_lit, Json.encodable_ofText, isHash, isPair]

theorem isJson_canonicalPayload :
    Json.IsJson (canonicalPayload bodyHash pairId nonce path secretHmac nowMs) := by
  have scalar : ∀ {s : Str}, Json.encodable s = true → Json.IsJson (.str s) :=
    fun isEncodable => Str.joinSurrogates_of_scalar (Json.not_surrogate_of_encodable isEncodable)
  apply Json.isJson_object
  · simp
  · intro field member
    simp only [List.mem_cons, List.not_mem_nil, or_false] at member
    rcases member with rfl | rfl | rfl | rfl | rfl | rfl | rfl | rfl
    · exact scalar isHash
    · exact scalar (Json.encodable_lit _)
    · exact scalar (Json.encodable_ofText _)
    · exact scalar isPair
    · exact scalar (Json.encodable_ofText _)
    · exact scalar (Json.encodable_ofText _)
    · trivial
    · exact scalar (Json.encodable_lit _)

theorem canonicalize_canonicalPayload :
    canonicalize (canonicalPayload bodyHash pairId nonce path secretHmac nowMs) =
      some (encode (Json.render .compactUnicode
        (canonicalPayload bodyHash pairId nonce path secretHmac nowMs))) := by
  have json := isJson_canonicalPayload nonce path secretHmac nowMs isHash isPair
  have sorted := sortKeys_canonicalPayload bodyHash pairId nonce path secretHmac nowMs
  have sortable := Json.sortable_of_stringKeyed _ (Json.stringKeyed_of_isJson _ json)
  have plain : payloadKeys.all (fun key => plainEntry (key, .null)) = true := by decide +kernel
  have dumped : Json.dumpsSorted .compactUnicode
      (canonicalPayload bodyHash pairId nonce path secretHmac nowMs) =
        some (Json.render .compactUnicode
          (canonicalPayload bodyHash pairId nonce path secretHmac nowMs)) := by
    rw [Json.dumpsSorted, if_pos sortable, sorted]
  rw [canonicalPayload, Value.object] at dumped ⊢
  rw [canonicalize, if_pos, dumped]
  · rfl
  · rw [Bool.and_eq_true]
    refine ⟨plain, ?_⟩
    simp [encodableEntry, Value.lit, Key.text, Json.encodable_lit, Json.encodable_ofText,
      isHash, isPair]

theorem loadBytes_canonicalPayload :
    Json.loadBytes (encode (Json.render .compactUnicode
      (canonicalPayload bodyHash pairId nonce path secretHmac nowMs))) =
        some (canonicalPayload bodyHash pairId nonce path secretHmac nowMs) := by
  have json := isJson_canonicalPayload nonce path secretHmac nowMs isHash isPair
  have legible : Json.Legible .compactUnicode
      (canonicalPayload bodyHash pairId nonce path secretHmac nowMs) :=
    .inr (strict_canonicalPayload nonce path secretHmac nowMs isHash isPair)
  rw [Json.loadBytes, decode_encode, Option.bind_some,
    Json.loads_render_of_legible _ legible, Json.reread_of_isJson _ json,
    Json.build_of_isJson _ json]

end Payload

/-- Only a pair id that UTF-8 can encode is signed. -/
theorem encodable_of_canonicalize {bodyHash pairId : Str} {nonce path secretHmac : Text}
    {nowMs : Int} {canonical : Bytes}
    (isCanonical : canonicalize (canonicalPayload bodyHash pairId nonce path secretHmac nowMs) =
      some canonical) : Json.encodable pairId = true := by
  rw [canonicalPayload, Value.object, canonicalize] at isCanonical
  split at isCanonical
  · next allowed =>
    have entries := List.all_eq_true.mp (Bool.and_eq_true_iff.mp allowed).2
    have entry := entries (.str (Str.lit "pair_id"), .str pairId) (by simp)
    rw [encodableEntry] at entry
    exact (Bool.and_eq_true_iff.mp entry).2
  · cases isCanonical

/-! Its signature. -/

theorem verifyPayloadWithJwk_signPayload {ecdsa : Ecdsa} {key : SigningKey ecdsa}
    {payload : Value} {signature : Text} (signed : signPayload key payload = some signature) :
    verifyPayloadWithJwk ecdsa key.jwk payload (Str.ofText signature) = true := by
  obtain ⟨canonical, isCanonical, rfl⟩ := Option.map_eq_some_iff.mp signed
  have r := Sha2.length_bigEndian 32 (key.sign canonical).1
  have s := Sha2.length_bigEndian 32 (key.sign canonical).2
  simp only [verifyPayloadWithJwk, SigningKey.jwk, b64urlDecode_b64url, isCanonical]
  rw [List.take_left' r, List.drop_left' r, List.length_append, r, s,
    fromBigEndian_bigEndian key.onField.1, fromBigEndian_bigEndian key.onField.2,
    fromBigEndian_bigEndian (key.bounded canonical).1,
    fromBigEndian_bigEndian (key.bounded canonical).2, key.verifies]
  rfl

/-! What the verifier computes again. -/

theorem encode_injective : Function.Injective encode := by
  intro first second equal
  have decoded := decode_encode first
  rw [equal, decode_encode] at decoded
  exact (Option.some.inj decoded).symm

theorem utf8_ofText (text : Text) : utf8 (Str.ofText text) = some (encode text) := by
  rw [utf8, Str.toText?_ofText, Option.map_some]

theorem eq_of_utf8 {first second : Str} {bytes : Bytes} (isFirst : utf8 first = some bytes)
    (isSecond : utf8 second = some bytes) : first = second := by
  obtain ⟨text, isText, rfl⟩ := Option.map_eq_some_iff.mp isFirst
  obtain ⟨other, isOther, equal⟩ := Option.map_eq_some_iff.mp isSecond
  rw [← Str.ofText_of_toText? isText, ← Str.ofText_of_toText? isOther, encode_injective equal]

theorem constantTimeEqual_ofText {first second : Text} :
    constantTimeEqual (Str.ofText first) (Str.ofText second) = some true ↔ first = second := by
  simp [constantTimeEqual, utf8_ofText, encode_injective.eq_iff]

theorem b64url_injective : Function.Injective b64url := by
  intro first second equal
  have decoded := b64urlDecode_b64url first
  rw [equal, b64urlDecode_b64url] at decoded
  exact (Option.some.inj decoded).symm

section Checks

variable {bodyHash pairId text : Str} {nonce path secretHmac : Text} {nowMs : Int}

theorem checkWindow_canonicalPayload {later : Int} (near : |later - nowMs| ≤ 60000) :
    checkWindow later (canonicalPayload bodyHash pairId nonce path secretHmac nowMs) = .ok () := by
  apply checkWindow_eq_ok.mpr
  refine ⟨.finite |(later - nowMs : ℚ)|, ?_, ?_⟩
  · simp [Value.getD, canonicalPayload, distance?]
  · have bound : |(later - nowMs : ℚ)| ≤ 60000 := by exact_mod_cast near
    exact decide_eq_false (not_lt.mpr bound)

theorem checkBodyHash_canonicalPayload {digest : Bytes} :
    checkBodyHash (canonicalPayload (Str.ofText (b64url digest)) pairId nonce path secretHmac
      nowMs) text = .ok () ↔ ∃ bytes, utf8 text = some bytes ∧ sha256 bytes = digest := by
  have claimed : (canonicalPayload (Str.ofText (b64url digest)) pairId nonce path secretHmac
      nowMs).getD "body_hash" (Value.lit "") = .str (Str.ofText (b64url digest)) := by
    simp [Value.getD, canonicalPayload]
  simp only [checkBodyHash, claimed, bind_eq_ok, present_eq_ok, insist_eq_ok, Gate.bodyHash,
    Option.map_eq_some_iff, Value.str?]
  constructor
  · rintro ⟨_, ⟨bytes, isBytes, rfl⟩, _, isClaimed, same, isSame, rfl⟩
    cases isClaimed
    exact ⟨bytes, isBytes, (b64url_injective (constantTimeEqual_ofText.mp isSame)).symm⟩
  · rintro ⟨bytes, isBytes, rfl⟩
    exact ⟨_, ⟨bytes, isBytes, rfl⟩, _, rfl, true, constantTimeEqual_ofText.mpr rfl, rfl⟩

theorem signedNonce_canonicalPayload (nonempty : nonce ≠ []) :
    signedNonce (canonicalPayload bodyHash pairId nonce path secretHmac nowMs) =
      .ok (Str.ofText nonce) := by
  have isNonce : (canonicalPayload bodyHash pairId nonce path secretHmac nowMs).getD "nonce"
      (Value.lit "") = .str (Str.ofText nonce) := by
    simp [Value.getD, canonicalPayload]
  have filled : (!(Str.ofText nonce).isEmpty) = true := by simpa [Str.ofText] using nonempty
  simp only [signedNonce, isNonce, bind_eq_ok, insist_eq_ok]
  exact ⟨(), filled, trivial⟩

end Checks

theorem checkChecksum_generateTskKey {state : ClientState} {nowMs : Int} {tskKey : Str}
    (positive : ∀ seg ∈ state.segments, 1 ≤ seg.segLen)
    (generated : generateTskKey state nowMs = some tskKey) :
    checkChecksum state.stored tskKey = .ok () := by
  obtain ⟨keyBody, checksum, rfl, length, computed, -⟩ := generateTskKey_eq positive generated
  have whole : (Str.ofText (keyBody ++ checksum)).length - checksumLength =
      (Str.ofText keyBody).length := by
    rw [Str.ofText_append, List.length_append, Str.ofText, Str.ofText, List.length_map,
      List.length_map, length, Nat.add_sub_cancel]
  simp only [checkChecksum, bind_eq_ok, present_eq_ok, insist_eq_ok, whole]
  rw [Str.ofText_append, List.take_left, List.drop_left]
  exact ⟨_, computed, true, constantTimeEqual_ofText.mpr rfl, rfl⟩

/-! When there are headers. -/

/-- What can be encoded and written down, of a sender's state and of a text. -/
structure Sender.Ready {ecdsa : Ecdsa} (sender : Sender ecdsa) (nowMs : Int) (text : Str) :
    Prop where
  text : Json.encodable text = true
  pairId : Json.encodable sender.pairId = true
  time : (decimalText nowMs).isSome
  parts : ∀ seg ∈ sender.tskState.segments, (derivationInput seg nowMs
    (sender.tskState.hotpCounters.getD seg.segmentId seg.counter)).isSome

theorem isSome_toText? {s : Str} : s.toText?.isSome ↔ Json.encodable s = true := by
  rw [Str.toText?]
  split <;> simp [*]

theorem isSome_mapM {α β : Type} {f : α → Option β} {items : List α} :
    (items.mapM f).isSome ↔ ∀ item ∈ items, (f item).isSome := by
  induction items with
  | nil => simp
  | cons item rest ih =>
      rw [List.mapM_cons, List.forall_mem_cons, ← ih]
      cases f item <;> cases rest.mapM f <;> simp

theorem isSome_generateTskKey {state : ClientState} {nowMs : Int} :
    (generateTskKey state nowMs).isSome ↔ ∀ seg ∈ state.segments, (derivationInput seg nowMs
      (state.hotpCounters.getD seg.segmentId seg.counter)).isSome := by
  have parts := @isSome_mapM _ _ (fun seg => deriveSegmentValue state.secret seg nowMs
    (state.hotpCounters.getD seg.segmentId seg.counter)) state.segments
  simp only [deriveSegmentValue, Option.isSome_map] at parts
  rw [← parts]
  simp only [generateTskKey, deriveSegmentValue, Option.bind_eq_bind]
  cases (state.segments.mapM _ : Option (List Text)) with
  | none => exact iff_of_false Bool.false_ne_true Bool.false_ne_true
  | some values =>
      rw [Option.bind_some, computeChecksum, state.isSecret, Option.bind_some,
        Str.toText?_ofText, Option.map_some, Option.bind_some]
      exact iff_of_true rfl rfl

theorem isSome_hmacDerive {meshSecret : Str} {secretHash : Text}
    (isHash : hashSecret meshSecret = some secretHash) (data : Text) :
    (hmacDerive secretHash data).isSome := by
  rw [hashSecret] at isHash
  split at isHash
  · cases isHash
  · obtain ⟨keyMaterial, -, rfl⟩ := Option.map_eq_some_iff.mp isHash
    rw [hmacDerive, if_neg (b64url_hmacSha256_ne_nil _ _), b64urlDecode_b64url]
    rfl

theorem generateNonce_ne_nil (random : Bytes) : generateNonce random ≠ [] :=
  List.append_ne_nil_of_right_ne_nil _ (List.cons_ne_nil _ _)

section Build

variable {ecdsa : Ecdsa} {sender : Sender ecdsa} {now : ℚ} {random : Bytes} {targetHwnd : Int}
  {text : Str}

/-- The parts of the headers. -/
structure Built (sender : Sender ecdsa) (nowMs : Int) (random : Bytes) (targetHwnd : Int)
    (text : Str) where
  bytes : Bytes
  secretHmac : Text
  canonical : Bytes
  signature : Text
  tskKey : Str
  payload : Value
  isText : utf8 text = some bytes
  isPayload : payload = canonicalPayload (Str.ofText (b64url (sha256 bytes))) sender.pairId
    (generateNonce random) (targetPath targetHwnd) secretHmac nowMs
  isCanonical : canonicalize payload = some canonical
  signed : signPayload sender.key payload = some signature
  generated : generateTskKey sender.tskState nowMs = some tskKey

def Built.headers {nowMs : Int} (built : Built sender nowMs random targetHwnd text) :
    Dict Str Str :=
  requestHeaders sender.pairId sender.tskState.clientId built.canonical built.signature
    built.tskKey (targetPath targetHwnd)

theorem built_of_buildInjectionRequest {headers : Dict Str Str}
    (isBuilt : sender.buildInjectionRequest now random targetHwnd text = some headers) :
    ∃ built : Built sender (milliseconds now) random targetHwnd text,
      headers = built.headers := by
  simp only [Sender.buildInjectionRequest, Option.bind_eq_bind, Option.bind_eq_some_iff,
    Option.pure_def, Option.some.injEq, bodyHash, Option.map_eq_some_iff] at isBuilt
  obtain ⟨_, ⟨bytes, isText, rfl⟩, time, -, secretHmac, -, signature, signed, tskKey, generated,
    canonical, isCanonical, isHeaders⟩ := isBuilt
  exact ⟨⟨bytes, secretHmac, canonical, signature, tskKey, _, isText, rfl, isCanonical, signed,
    generated⟩, isHeaders.symm⟩

theorem isSome_buildInjectionRequest :
    (sender.buildInjectionRequest now random targetHwnd text).isSome ↔
      sender.Ready (milliseconds now) text := by
  constructor
  · intro isSome
    obtain ⟨headers, built⟩ := Option.isSome_iff_exists.mp isSome
    simp only [Sender.buildInjectionRequest, Option.bind_eq_bind, Option.bind_eq_some_iff,
      Option.pure_def, Option.some.injEq, bodyHash, utf8, Option.map_eq_some_iff] at built
    obtain ⟨_, ⟨bytes, ⟨chars, isText, -⟩, rfl⟩, time, isTime, secretHmac, -, signature, signed,
      tskKey, generated, canonical, isCanonical, -⟩ := built
    exact ⟨isSome_toText?.mp (Option.isSome_of_mem isText),
      encodable_of_canonicalize isCanonical, Option.isSome_of_mem isTime,
      isSome_generateTskKey.mp (Option.isSome_of_mem generated)⟩
  · intro ready
    obtain ⟨chars, isText⟩ := Option.isSome_iff_exists.mp (isSome_toText?.mpr ready.text)
    obtain ⟨time, isTime⟩ := Option.isSome_iff_exists.mp ready.time
    obtain ⟨meshSecret, isHash⟩ := sender.isHash
    obtain ⟨secretHmac, isHmac⟩ := Option.isSome_iff_exists.mp
      (isSome_hmacDerive isHash (generateNonce random ++ time))
    obtain ⟨tskKey, generated⟩ := Option.isSome_iff_exists.mp
      (isSome_generateTskKey.mpr ready.parts)
    have isCanonical := canonicalize_canonicalPayload (generateNonce random)
      (targetPath targetHwnd) secretHmac (milliseconds now)
      (Json.encodable_ofText (b64url (sha256 (encode chars)))) ready.pairId
    have isBodyHash : bodyHash text = some (Str.ofText (b64url (sha256 (encode chars)))) := by
      rw [bodyHash, utf8, isText, Option.map_some, Option.map_some]
    simp only [Sender.buildInjectionRequest, Option.bind_eq_bind, isBodyHash, Option.bind_some,
      isTime, isHmac, signPayload, isCanonical, Option.map_some, generated]
    exact rfl

end Build

/-! What a registration leaves. -/

theorem one_le_segLen_of_validSegments {seen : List Str} {segments : List ClientSegment}
    (valid : validSegments seen segments = true) : ∀ seg ∈ segments, 1 ≤ seg.segLen := by
  induction segments generalizing seen with
  | nil => exact fun _ absurdly => by cases absurdly
  | cons first rest ih =>
      simp only [validSegments, Bool.and_eq_true] at valid
      obtain ⟨⟨-, positive⟩, others⟩ := valid
      exact List.forall_mem_cons.mpr ⟨of_decide_eq_true positive, ih others⟩

theorem ne_nil_of_isBlank {s : Str} (solid : isBlank s = false) : s ≠ [] := by
  intro isNil
  rw [isNil] at solid
  cases solid

/-- A registered pair, as the gate of the peer holds it. -/
structure Registered (bindings : Dict Str Registration) (pairId : Str) (pubJwk : Jwk)
    (tskClientId : Str) (tskState : ClientState) : Prop where
  hasPair : pairId ≠ []
  hasClient : tskClientId ≠ []
  positive : ∀ seg ∈ tskState.segments, 1 ≤ seg.segLen
  held : bindings.get? pairId =
    some ⟨pubJwk, computeFingerprint pubJwk, tskClientId, tskState⟩

theorem registered_of_registerPeerBinding {onCurve : Nat → Nat → Bool}
    {bindings registered : Dict Str Registration} {pairId tskClientId : Str} {pubJwk : Jwk}
    {tskState : ClientState}
    (isRegistered : registerPeerBinding onCurve bindings pairId pubJwk tskClientId tskState =
      .ok registered) : Registered registered pairId pubJwk tskClientId tskState := by
  simp only [registerPeerBinding, bind_eq_ok, insist_eq_ok, exists_const] at isRegistered
  obtain ⟨pair, client, -, -, segments, -, -, rest⟩ := isRegistered
  cases rest
  exact ⟨ne_nil_of_isBlank (by simpa using pair), ne_nil_of_isBlank (by simpa using client),
    one_le_segLen_of_validSegments segments, Dict.get?_set_self⟩

/-! A local verification of what was built. -/

section Verification

variable {ecdsa : Ecdsa} {sender : Sender ecdsa} {nowMs : Int} {random : Bytes}
  {targetHwnd : Int} {text : Str} (built : Built sender nowMs random targetHwnd text)

/-- What the verifier reads is what was signed. -/
theorem Built.loaded :
    (b64urlDecode (Str.ofText (b64url built.canonical))).bind Json.loadBytes =
      some built.payload := by
  have isCanonical := built.isCanonical
  rw [built.isPayload] at isCanonical
  have isPair := encodable_of_canonicalize isCanonical
  have isHash := Json.encodable_ofText (b64url (sha256 built.bytes))
  rw [canonicalize_canonicalPayload _ _ _ _ isHash isPair, Option.some.injEq] at isCanonical
  rw [b64urlDecode_b64url, Option.bind_some, ← isCanonical,
    loadBytes_canonicalPayload _ _ _ _ isHash isPair, built.isPayload]

/-- The headers that the verifier looks up. -/
theorem Built.getD_headers :
    built.headers.getD (Str.lit "X-BPC-Signed-Data") [] = Str.ofText (b64url built.canonical) ∧
    built.headers.getD (Str.lit "X-BPC-Signature") [] = Str.ofText built.signature ∧
    built.headers.getD (Str.lit "X-BPC-Pair-ID") [] = sender.pairId ∧
    built.headers.getD (Str.lit "X-TSK-Key") [] = built.tskKey ∧
    built.headers.getD (Str.lit "X-TSK-Client-ID") [] = sender.tskState.clientId := by
  simp [Built.headers, requestHeaders, Dict.getD, Dict.get?_set]

/-- Any gate compares a text with the hash that was signed. -/
theorem Built.sha256_eq_of_verifyRequest {bindings : Dict Str PeerBinding} {later : ℚ}
    {other peerPairId : Str} {verified : Verified}
    (passed : verifyRequest ecdsa bindings later built.headers other peerPairId = .ok verified) :
    ∃ bytes, utf8 other = some bytes ∧ sha256 bytes = sha256 built.bytes := by
  obtain ⟨signedData, -⟩ := built.getD_headers
  simp only [verifyRequest, bind_eq_ok, insist_eq_ok, present_eq_ok, exists_and_left, exists_const,
    signedData, built.loaded] at passed
  obtain ⟨-, -, binding, -, state, -, -, -, payload, isPayload, -, -, ⟨⟩, -, ⟨⟩, same, -⟩ := passed
  cases isPayload
  rw [built.isPayload] at same
  exact checkBodyHash_canonicalPayload.mp same

theorem signature_ne_nil {key : SigningKey ecdsa} {payload : Value} {signature : Text}
    (signed : signPayload key payload = some signature) : signature ≠ [] := by
  obtain ⟨canonical, -, rfl⟩ := Option.map_eq_some_iff.mp signed
  apply b64url_ne_nil
  intro isNil
  have length := congrArg List.length isNil
  rw [List.length_append, Sha2.length_bigEndian, Sha2.length_bigEndian] at length
  cases length

/-- No header is empty. -/
theorem Built.filled (positive : ∀ seg ∈ sender.tskState.segments, 1 ≤ seg.segLen)
    (hasPair : sender.pairId ≠ []) (hasClient : sender.tskState.clientId ≠ []) :
    ([Str.ofText (b64url built.canonical), Str.ofText built.signature, sender.pairId, built.tskKey,
      sender.tskState.clientId].all fun field => !field.isEmpty) = true := by
  have signedData : Str.ofText (b64url built.canonical) ≠ [] := by
    intro isNil
    have loaded := built.loaded
    rw [isNil] at loaded
    cases loaded
  have signature : Str.ofText built.signature ≠ [] := by
    rw [Str.ofText, ne_eq, List.map_eq_nil_iff]
    exact signature_ne_nil built.signed
  have tskKey : built.tskKey ≠ [] := by
    obtain ⟨keyBody, checksum, isKey, length, -⟩ := generateTskKey_eq positive built.generated
    intro isNil
    rw [isNil, Str.ofText, eq_comm, List.map_eq_nil_iff, List.append_eq_nil_iff] at isKey
    rw [isKey.2] at length
    cases length
  rw [List.all_eq_true]
  intro field member
  simp only [List.mem_cons, List.not_mem_nil, or_false] at member
  rcases member with rfl | rfl | rfl | rfl | rfl <;> simpa

theorem Built.verifyRequest {bindings : Dict Str Registration} {registered : ClientState}
    {later : ℚ}
    (binding : Registered bindings sender.pairId sender.key.jwk sender.tskState.clientId registered)
    (isShared : registered.sharedSecret = sender.tskState.sharedSecret)
    (areSegments : registered.segments = sender.tskState.segments)
    (near : |milliseconds later - nowMs| ≤ 60000) :
    verifyRequest ecdsa (bindings.mapValues Registration.binding) later built.headers text
      sender.pairId = .ok ⟨Str.ofText (generateNonce random), milliseconds later, built.payload⟩ := by
  obtain ⟨signedData, signature, pairId, tskKey, tskClientId⟩ := built.getD_headers
  have positive := binding.positive
  rw [areSegments] at positive
  have isBinding : (bindings.mapValues Registration.binding).get? sender.pairId =
      some ⟨sender.key.jwk, sender.tskState.clientId, some sender.tskState.stored⟩ := by
    rw [Dict.get?_mapValues, binding.held, ClientState.stored, ← isShared, ← areSegments]
    rfl
  have window := @checkWindow_canonicalPayload (Str.ofText (b64url (sha256 built.bytes)))
    sender.pairId (generateNonce random) (targetPath targetHwnd) built.secretHmac nowMs _ near
  have body := (@checkBodyHash_canonicalPayload sender.pairId text (generateNonce random)
    (targetPath targetHwnd) built.secretHmac nowMs (sha256 built.bytes)).mpr
      ⟨built.bytes, built.isText, rfl⟩
  have nonce := @signedNonce_canonicalPayload (Str.ofText (b64url (sha256 built.bytes)))
    sender.pairId _ (targetPath targetHwnd) built.secretHmac nowMs (generateNonce_ne_nil random)
  have isPair : (built.payload.getD "pair_id" Value.null).eqv (.str sender.pairId) = true := by
    apply Value.eqv_str_iff.mpr
    rw [built.isPayload]
    simp [Value.getD, canonicalPayload]
  have isDict : built.payload.isDict = true := by
    rw [built.isPayload]
    rfl
  obtain ⟨-, -, -, -, -, length⟩ := generateTskKey_eq positive built.generated
  rw [← built.isPayload] at window body nonce
  simp only [Gate.verifyRequest, bind_eq_ok, insist_eq_ok, present_eq_ok, built.loaded, isBinding,
    signedData, signature, pairId, tskKey, tskClientId]
  exact ⟨(), built.filled positive binding.hasPair binding.hasClient, (), beq_self_eq_true _, _, rfl,
    _, rfl, (), beq_self_eq_true _, (), decide_eq_true length, _, rfl, (), isDict, (), isPair, (),
    window, (), body, (), verifyPayloadWithJwk_signPayload built.signed, (),
    checkChecksum_generateTskKey positive built.generated, _, nonce, rfl⟩

end Verification

/-- Two texts that SHA-256 does not tell apart. -/
def Collide (first second : Str) : Prop :=
  ∃ bytes other, utf8 first = some bytes ∧ utf8 second = some other ∧ bytes ≠ other ∧
    sha256 bytes = sha256 other

section Agreement

variable {ecdsa : Ecdsa} {onCurve : Nat → Nat → Bool} {sender : Sender ecdsa}
  {registered bindings : Dict Str Registration} {before : Dict Str Registration}
  {hotpCounters : Dict Str Int}

/-- There are headers for every text, pair, agent and state that can be written down at all. A
gate that registered the pair accepts them on first use within a minute, whatever the counters
were then; and no gate accepts them for another text at any time. -/
theorem accepted_for_signed_text
    (isRegistered : registerPeerBinding onCurve before sender.pairId sender.key.jwk
      sender.tskState.clientId { sender.tskState with hotpCounters } = .ok registered)
    (held : bindings.get? sender.pairId = registered.get? sender.pairId)
    (now : ℚ) (random : Bytes) (targetHwnd : Int) (text : Str) :
    ((sender.buildInjectionRequest now random targetHwnd text).isSome ↔
      sender.Ready (milliseconds now) text) ∧
    ∀ headers, sender.buildInjectionRequest now random targetHwnd text = some headers →
      (∀ seenNonces later consumedAt, |milliseconds later - milliseconds now| ≤ 60000 →
        seenNonces.get? (Str.ofText (generateNonce random)) = none →
        (verifyLocal ecdsa bindings seenNonces later consumedAt headers text sender.pairId).1 =
          .ok ()) ∧
      ∀ others seenNonces later consumedAt other peerPairId,
        (verifyLocal ecdsa others seenNonces later consumedAt headers other peerPairId).1 = .ok () →
          other = text ∨ Collide other text := by
  refine ⟨isSome_buildInjectionRequest, ?_⟩
  intro headers isBuilt
  obtain ⟨built, isHeaders⟩ := built_of_buildInjectionRequest isBuilt
  rw [isHeaders]
  constructor
  · intro seenNonces later consumedAt near unseen
    have binding := registered_of_registerPeerBinding isRegistered
    have bound : Registered bindings sender.pairId sender.key.jwk sender.tskState.clientId
        { sender.tskState with hotpCounters } := { binding with held := held.trans binding.held }
    have passed := built.verifyRequest bound rfl rfl near
    have kept : (expireNonces seenNonces consumedAt).get? (Str.ofText (generateNonce random)) =
        none := by
      rw [expireNonces, Dict.get?_filter, unseen]
      rfl
    rw [verifyLocal, passed]
    simp [consumeNonce, kept, insist]
  · intro others seenNonces later consumedAt other peerPairId accepted
    rw [verifyLocal] at accepted
    split at accepted
    · cases accepted
    · next verified passed =>
      obtain ⟨bytes, isOther, same⟩ := built.sha256_eq_of_verifyRequest passed
      rcases eq_or_ne bytes built.bytes with rfl | differs
      · exact .inl (eq_of_utf8 isOther built.isText)
      · exact .inr ⟨bytes, built.bytes, isOther, built.isText, differs, same⟩

end Agreement

/-! An agent with one static segment, and a peer that registered it before it knew anybody. -/

section Samples

/-- A scheme that signs the length of a message. -/
def lengthEcdsa : Ecdsa := fun x _ message r s => r = message.length % 256 && s = x

def sampleKey : SigningKey lengthEcdsa where
  x := 1
  y := 2
  sign message := (message.length % 256, 1)
  onField := by decide
  bounded message := ⟨(Nat.mod_lt _ (by decide)).trans (by decide), Nat.one_lt_pow (by decide)
    (by decide)⟩
  verifies message := by simp [lengthEcdsa]

def sampleClient : ClientState where
  clientId := Str.lit "tsk-1"
  sharedSecret := sampleSecret
  segments := [⟨⟨7⟩, Str.lit "s1", Str.lit "static", 0, 0⟩]
  hotpCounters := .empty
  secret := List.replicate 32 0xAA
  isSecret := by decide +kernel

def sampleSender : Sender lengthEcdsa where
  key := sampleKey
  secretHash := b64url (hmacSha256 (hmacSha256 (encode "bpc-protocol-hmac-salt-v1".toList)
    (encode "mesh".toList)) (encode "bpc-v1-hmac-key".toList ++ [1]))
  isHash := ⟨Str.lit "mesh", by rw [hashSecret, if_neg (by decide), Str.lit, utf8_ofText]; rfl⟩
  pairId := samplePair
  tskState := sampleClient

def sampleRandom : Bytes := List.replicate 16 0

def samplePeers : Dict Str Registration :=
  Dict.empty.set samplePair
    ⟨sampleKey.jwk, computeFingerprint sampleKey.jwk, Str.lit "tsk-1", sampleClient⟩

theorem registered_sample :
    registerPeerBinding (fun x y => x = 1 && y = 2) .empty samplePair sampleKey.jwk
      (Str.lit "tsk-1") sampleClient = .ok samplePeers := by
  simp only [registerPeerBinding, bind_eq_ok, insist_eq_ok]
  exact ⟨(), by decide +kernel, (), by decide +kernel, (), by decide +kernel, (),
    by decide +kernel, (), by decide +kernel, (), by decide +kernel, (), rfl, rfl⟩

theorem ready_sample : sampleSender.Ready (milliseconds 1000) sampleText where
  text := by decide +kernel
  pairId := by decide +kernel
  time := by decide +kernel
  parts := by
    intro seg member
    rw [List.mem_singleton.mp member]
    decide +kernel

theorem accepted_for_signed_sample :
    ∃ headers, sampleSender.buildInjectionRequest 1000 sampleRandom 7 sampleText =
        some headers ∧
      (verifyLocal lengthEcdsa samplePeers .empty 1000 1000 headers sampleText samplePair).1 =
        .ok () ∧
      ∀ others seenNonces later consumedAt other peerPairId,
        (verifyLocal lengthEcdsa others seenNonces later consumedAt headers other peerPairId).1 =
          .ok () → other = sampleText ∨ Collide other sampleText := by
  obtain ⟨isSome, agreed⟩ := @accepted_for_signed_text lengthEcdsa _ sampleSender samplePeers
    samplePeers .empty .empty registered_sample rfl 1000 sampleRandom 7
      sampleText
  obtain ⟨headers, built⟩ := Option.isSome_iff_exists.mp (isSome.mpr ready_sample)
  obtain ⟨accepts, only⟩ := agreed headers built
  exact ⟨headers, built, accepts .empty 1000 1000 (by simp) Dict.get?_empty, only⟩

end Samples

end SelfConnect.Gate
