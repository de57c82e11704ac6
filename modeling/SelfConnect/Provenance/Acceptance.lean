import SelfConnect.Provenance.Verify

namespace SelfConnect.Provenance

open SelfConnect.Python SelfConnect.Python.Json SelfConnect.Library

/-! The verifier accepts a log whose records follow one another: each carries the
hash of the one before it, none is older than the one before it, and what its
caller put into it survives a dump and load. -/

/-- What the next record has to carry as its `prev_hash`. -/
def Draft.hash (draft : Draft) : Str :=
  digest (render .compact (sortKeys draft.unsigned))

def sessionChain : HashChain Draft Str where
  genesis := genesisHash
  previous := Draft.prevHash
  hash := Draft.hash

/-- The caller's values can be dumped with sorted keys and keep their order. -/
def Draft.Stable (draft : Draft) : Prop :=
  ∀ v ∈ draft.given, sortable v = true ∧ keysStable v = true

def Line.loaded (line : Line) : Value :=
  build (reread line.value)

section Sound

variable (crypto : Crypto) (policy : Policy)

/-- A line whose signatures the verifier has no finding for. -/
structure Line.Genuine (line : Line) : Prop where
  attested : ∀ draft, line.draft? = some draft →
    ∃ attestation, verifyServiceAgentAttestation crypto line.loaded = some attestation ∧
      attestation ≠ .invalid
  signed : ∀ draft, line.draft? = some draft → policy.requireRecorderSignatures = true →
    verifyRecorderSignature crypto line.loaded (policy.recorderPublicKey.getD []) = true

/-- A line the verifier has no finding for, apart from its place in the chain. -/
structure Line.Sound (line : Line) : Prop extends Line.Genuine crypto policy line where
  stable : ∀ draft, line.draft? = some draft → draft.Stable

end Sound

theorem loads_text (line : Line) : loads (render .compact line.value) = some line.loaded :=
  loads_render .compact rfl line.value

theorem Line.value_isDict (line : Line) : line.value.isDict = true := by
  cases line <;> rfl

theorem canonicalBytes_of_stable {draft : Draft} (stable : draft.Stable)
    (recorderSig : Option Bytes) :
    canonicalBytes (draft.record recorderSig) =
      some (render .compact (sortKeys draft.unsigned)) := by
  rw [draft.canonicalBytes_record, dumpsSorted,
    if_pos (draft.sortable_unsigned_iff.mpr fun v member => (stable v member).1)]

theorem canonicalBytes_unsigned_of_stable {draft : Draft} (stable : draft.Stable) :
    canonicalBytes draft.unsigned = some (render .compact (sortKeys draft.unsigned)) := by
  have canonical := canonicalBytes_of_stable stable none
  rwa [Draft.record, Option.map_none, Option.toList_none, List.append_nil] at canonical

theorem canonicalBytes_loaded_of_stable {draft : Draft} (stable : draft.Stable)
    (recorderSig : Option Bytes) :
    canonicalBytes (Line.record draft recorderSig).loaded =
      some (render .compact (sortKeys draft.unsigned)) := by
  rw [Line.loaded, Line.value, (draft.canonicalBytes_build_reread_iff recorderSig
    fun v member => (stable v member).1).mpr fun v member => (stable v member).2,
    canonicalBytes_of_stable stable]

theorem canonicalHash_of_stable {draft : Draft} (stable : draft.Stable)
    (recorderSig : Option Bytes) :
    canonicalHash (draft.record recorderSig) = some draft.hash := by
  rw [canonicalHash, canonicalBytes_of_stable stable]
  rfl

theorem canonicalHash_loaded_of_stable {draft : Draft} (stable : draft.Stable)
    (recorderSig : Option Bytes) :
    canonicalHash (Line.record draft recorderSig).loaded = some draft.hash := by
  rw [canonicalHash, canonicalBytes_loaded_of_stable stable]
  rfl

/-! The fields the verifier looks up in a record it has read back. -/

namespace Draft

variable (draft : Draft) (recorderSig : Option Bytes)

private theorem loaded_record : (Line.record draft recorderSig).loaded =
    Value.object ((draft.fields ++ (recorderSig.map fun signature =>
      ("recorder_sig", Value.str (Str.ofText (hexText signature)))).toList).map
        fun field => (field.1, build (reread field.2))) :=
  draft.build_reread_record recorderSig

theorem loaded_isDict : (Line.record draft recorderSig).loaded.isDict = true := by
  rw [loaded_record]
  rfl

theorem get?_seq : (Line.record draft recorderSig).loaded.get? "seq" = some (.int draft.seq) := by
  simp [loaded_record, fields, reread, build]

theorem get?_prevHash : (Line.record draft recorderSig).loaded.get? "prev_hash" =
    some (.str (Str.joinSurrogates draft.prevHash)) := by
  simp [loaded_record, fields, reread, build]

theorem get?_agentId : (Line.record draft recorderSig).loaded.get? "agent_id" =
    some (.str (Str.joinSurrogates draft.agentId)) := by
  simp [loaded_record, fields, reread, build]

theorem get?_ts : (Line.record draft recorderSig).loaded.get? "ts" =
    some (.str (Str.ofText draft.now.isoformat)) := by
  simp [loaded_record, fields, reread, build, Str.joinSurrogates_ofText]

theorem get?_eventType : (Line.record draft recorderSig).loaded.get? "event_type" =
    some (Value.lit draft.eventType.value) := by
  simp [loaded_record, fields, reread, build, Value.lit]

theorem get?_recordVersion : (Line.record draft recorderSig).loaded.get? "record_version" =
    some (Value.lit recordVersionV2) := by
  simp [loaded_record, fields, reread, build, Value.lit]

theorem get?_payload : (Line.record draft recorderSig).loaded.get? "payload" =
    some (.dict (loadedMembers draft.payload)) := by
  simp [loaded_record, fields, build_reread_dict]

theorem get?_osCorroboration :
    (Line.record draft recorderSig).loaded.get? "os_corroboration" =
      draft.osCorroboration.map fun members => .dict (loadedMembers members) := by
  rw [loaded_record]
  unfold fields
  cases draft.osCorroboration <;> cases draft.signature <;> cases recorderSig <;>
    simp [build_reread_dict]

theorem get?_recorderSig :
    (Line.record draft recorderSig).loaded.get? "recorder_sig" =
      recorderSig.map fun signature => .str (Str.ofText (hexText signature)) := by
  rw [loaded_record]
  unfold fields
  cases draft.osCorroboration <;> cases draft.signature <;> cases recorderSig <;>
    simp [reread, build, Str.joinSurrogates_ofText]

end Draft

theorem Ack.get?_seq (receipt : Ack) : (Line.ack receipt).loaded.get? "seq" =
    some (.str (Str.ofText ("ack-".toList ++ intText receipt.seq))) := by
  rw [Line.loaded, Line.value, Ack.value, build_reread_object (by simp)]
  simp [reread, build, Str.joinSurrogates_ofText]

theorem Line.loaded_isDict (line : Line) : line.loaded.isDict = true := by
  cases line with
  | record draft recorderSig => exact draft.loaded_isDict recorderSig
  | ack receipt => rfl

/-- No corroboration of the record claims to come from the dedicated service. -/
def Draft.NoService (draft : Draft) : Prop :=
  ∀ members, draft.osCorroboration = some members →
    Members.lookup (Str.lit "provenance_service") (loadedMembers members) = none

theorem attestation_of_noService (crypto : Crypto) {draft : Draft} (free : draft.NoService)
    (recorderSig : Option Bytes) :
    verifyServiceAgentAttestation crypto (Line.record draft recorderSig).loaded =
      some .notService := by
  unfold verifyServiceAgentAttestation
  rw [draft.get?_osCorroboration recorderSig]
  cases given : draft.osCorroboration with
  | none => rfl
  | some members => simp [free members given]

/-- A signature over the canonical bytes is found again in the line read back. -/
theorem verifyRecorderSignature_of_stable (crypto : Crypto) {draft : Draft}
    (stable : draft.Stable) {signature : Bytes} (filled : signature ≠ []) (publicKey : Bytes)
    (verifies : (if publicKey.length = 32 then
        crypto.ed25519Verify publicKey signature
          (encode (render .compact (sortKeys draft.unsigned)))
      else if publicKey.length = 96 then
        crypto.cngVerify publicKey signature
          (encode (render .compact (sortKeys draft.unsigned)))
      else false) = true) :
    verifyRecorderSignature crypto (Line.record draft (some signature)).loaded publicKey =
      true := by
  unfold verifyRecorderSignature
  rw [draft.get?_recorderSig, Option.map_some, hexBytes, fromHex_hexText,
    canonicalBytes_loaded_of_stable stable]
  simpa [filled] using verifies

section Check

variable {crypto : Crypto} {policy : Policy}

/-- The time of the last accepted record, when there is one. -/
def lastTime (drafts : List Draft) : Option Value :=
  drafts.getLast?.map fun draft => .str (Str.ofText draft.now.isoformat)

private theorem regresses_of_le {first second : Datetime} (later : first ≤ second) :
    regresses (.str (Str.ofText second.isoformat))
      (some (.str (Str.ofText first.isoformat))) = some false := by
  have filled : (Value.str (Str.ofText first.isoformat)).truthy = true := by
    have := first.isoformat_ne_nil
    cases equal : first.isoformat with
    | nil => exact absurd equal this
    | cons c rest => rfl
  rw [regresses, if_pos filled, Value.lt?]
  simp [Datetime.not_isoformat_lt_of_le later]

private theorem trackSession_payload {record ts : Value} {payload : Members}
    (isPayload : record.get? "payload" = some (.dict payload)) (state : ChainState) :
    ∃ next, trackSession record ts state = some next ∧ next.prev = state.prev ∧
      next.count = state.count ∧ next.lastTs = state.lastTs := by
  unfold trackSession
  simp only [Value.getD, isPayload, Option.getD_some]
  split
  · exact ⟨_, rfl, rfl, rfl, rfl⟩
  split
  · split
    · exact ⟨_, rfl, rfl, rfl, rfl⟩
    · exact ⟨_, rfl, rfl, rfl, rfl⟩
  · exact ⟨_, rfl, rfl, rfl, rfl⟩

private theorem acceptRecord_payload {record ts : Value} {payload : Members} {seq : Int}
    {hash : Str} {state : ChainState} (isPayload : record.get? "payload" = some (.dict payload))
    (attestation : Attestation) :
    ∃ next, acceptRecord record (.int seq) ts hash attestation state = .ok next ∧
      next.prev = hash ∧ next.count = state.count + 1 ∧ next.lastTs = some ts := by
  unfold acceptRecord
  simp only [Value.toInt?]
  split
  · next failed =>
      obtain ⟨next, equal, -⟩ := trackSession_payload isPayload _
      rw [failed] at equal
      cases equal
  · next tracked found =>
      obtain ⟨next, equal, samePrev, sameCount, sameTs⟩ := trackSession_payload isPayload _
      rw [found, Option.some.injEq] at equal
      subst equal
      exact ⟨_, rfl, samePrev, sameCount, sameTs⟩

/-- What one sound record that follows the tip does to the verifier. -/
theorem checkRecord_record {draft : Draft} {recorderSig : Option Bytes} {state : ChainState}
    (line : Nat) (sound : (Line.record draft recorderSig).Sound crypto policy)
    {tip : Text} (atTip : state.prev = Str.ofText tip) (follows : draft.prevHash = state.prev)
    (timely : regresses (.str (Str.ofText draft.now.isoformat)) state.lastTs = some false) :
    ∃ next, checkRecord crypto policy line (Line.record draft recorderSig).loaded state =
        .ok next ∧
      next.prev = draft.hash ∧ next.count = state.count + 1 ∧
      next.lastTs = some (.str (Str.ofText draft.now.isoformat)) := by
  obtain ⟨attestation, attested, genuine⟩ := sound.attested draft rfl
  have isDict := draft.loaded_isDict recorderSig
  have prevHash : (Value.str (Str.joinSurrogates draft.prevHash)).eqv (.str state.prev) =
      true := by
    rw [follows, atTip, Str.joinSurrogates_ofText, Value.eqv]
    exact beq_self_eq_true _
  have signed : (policy.requireRecorderSignatures &&
      !verifyRecorderSignature crypto (Line.record draft recorderSig).loaded
        (policy.recorderPublicKey.getD [])) = false := by
    cases required : policy.requireRecorderSignatures with
    | false => rfl
    | true => simp [sound.signed draft rfl required]
  unfold checkRecord
  simp only [Value.getD, draft.get?_seq recorderSig, draft.get?_prevHash recorderSig,
    draft.get?_ts recorderSig, Option.getD_some, isDict, Bool.not_true, Bool.false_eq_true,
    if_false, isAck, prevHash, signed, attested, timely,
    canonicalHash_loaded_of_stable (sound.stable draft rfl) recorderSig]
  cases attestation with
  | invalid => exact absurd rfl genuine
  | notService | valid => exact acceptRecord_payload (draft.get?_payload recorderSig) _

/-- Acknowledgements are skipped. -/
theorem checkRecord_ack (receipt : Ack) (state : ChainState) (line : Nat) :
    checkRecord crypto policy line (Line.ack receipt).loaded state = .ok state := by
  have skipped : isAck (.str (Str.ofText ("ack-".toList ++ intText receipt.seq))) = true := by
    rw [isAck, Str.ofText_append, List.isPrefixOf_iff_prefix]
    exact List.prefix_append _ _
  unfold checkRecord
  simp only [Value.getD, receipt.get?_seq, Option.getD_some, (Line.ack receipt).loaded_isDict,
    Bool.not_true, Bool.false_eq_true, if_false, skipped, if_true]

theorem Line.stripText_render (line : Line) :
    stripText isSpace (render .compact line.value) = render .compact line.value := by
  cases line with
  | record draft recorderSig => exact stripText_render_dict _ rfl rfl _
  | ack receipt => exact stripText_render_dict _ rfl rfl _

theorem Line.isEmpty_render (line : Line) : (render .compact line.value).isEmpty = false := by
  cases line with
  | record draft recorderSig =>
      obtain ⟨middle, equal⟩ := render_dict_ends .compact
        ((draft.fields ++ (recorderSig.map fun signature =>
          ("recorder_sig", Value.str (Str.ofText (hexText signature)))).toList).map
            fun field => (Key.str (Str.lit field.1), field.2))
      exact (congrArg List.isEmpty equal).trans rfl
  | ack receipt => rfl

private theorem checkLine_line (state : ChainState) (line : Line) (number : Nat) :
    checkLine crypto policy state (render .compact line.value, number) =
      (checkRecord crypto policy number line.loaded state).mapError (state, ·) := by
  unfold checkLine
  simp only [line.stripText_render, line.isEmpty_render, Bool.false_eq_true, if_false, loads_text]

/-! Whole logs. -/

def drafts (lines : List Line) : List Draft :=
  lines.filterMap Line.draft?

theorem mem_drafts {lines : List Line} {draft : Draft} :
    draft ∈ drafts lines ↔ ∃ recorderSig, Line.record draft recorderSig ∈ lines := by
  constructor
  · intro member
    obtain ⟨line, found, isDraft⟩ := List.mem_filterMap.mp member
    cases line with
    | record other recorderSig =>
        cases isDraft
        exact ⟨recorderSig, found⟩
    | ack receipt => cases isDraft
  · rintro ⟨recorderSig, found⟩
    exact List.mem_filterMap.mpr ⟨_, found, rfl⟩

@[simp] theorem drafts_nil : drafts [] = [] := rfl

@[simp] theorem drafts_append (first second : List Line) :
    drafts (first ++ second) = drafts first ++ drafts second :=
  List.filterMap_append

@[simp] theorem drafts_record (draft : Draft) (recorderSig : Option Bytes) :
    drafts [.record draft recorderSig] = [draft] := rfl

@[simp] theorem drafts_ack (receipt : Ack) : drafts [.ack receipt] = [] := rfl

def logText (lines : List Line) : Text :=
  fileText .compact (lines.map Line.value)

/-- The hash the next record of a log has to carry. -/
def tip (lines : List Line) : Str :=
  sessionChain.tipAfter genesisHash (drafts lines)

/-- A log whose records follow one another, none older than the one before. -/
structure Chained (lines : List Line) : Prop where
  linked : sessionChain.Linked genesisHash (drafts lines)
  timely : (drafts lines).Pairwise fun first second => first.now ≤ second.now

theorem chained_nil : Chained [] := ⟨trivial, List.Pairwise.nil⟩

theorem tip_eq_ofText (lines : List Line) : ∃ text, tip lines = Str.ofText text := by
  unfold tip
  cases drafts lines using List.reverseRecOn with
  | nil => exact ⟨_, rfl⟩
  | append_singleton front last => exact ⟨_, sessionChain.tipAfter_snoc _ _ _⟩

theorem chained_snoc_record {lines : List Line} {draft : Draft} {recorderSig : Option Bytes} :
    Chained (lines ++ [.record draft recorderSig]) ↔
      Chained lines ∧ draft.prevHash = tip lines ∧ ∀ earlier ∈ drafts lines,
        earlier.now ≤ draft.now := by
  constructor
  · rintro ⟨linked, timely⟩
    rw [drafts_append, drafts_record, sessionChain.linked_snoc] at linked
    rw [drafts_append, drafts_record, List.pairwise_append] at timely
    exact ⟨⟨linked.1, timely.1⟩, linked.2,
      fun earlier member => timely.2.2 earlier member draft (by simp)⟩
  · rintro ⟨⟨linked, timely⟩, follows, later⟩
    constructor
    · rw [drafts_append, drafts_record, sessionChain.linked_snoc]
      exact ⟨linked, follows⟩
    · rw [drafts_append, drafts_record, List.pairwise_append]
      refine ⟨timely, List.pairwise_singleton _ _, ?_⟩
      intro earlier member last isLast
      rw [List.mem_singleton.mp isLast]
      exact later earlier member

theorem chained_snoc_ack {lines : List Line} {receipt : Ack} :
    Chained (lines ++ [.ack receipt]) ↔ Chained lines := by
  constructor
  · rintro ⟨linked, timely⟩
    rw [drafts_append, drafts_ack, List.append_nil] at linked timely
    exact ⟨linked, timely⟩
  · rintro ⟨linked, timely⟩
    constructor
    · rwa [drafts_append, drafts_ack, List.append_nil]
    · rwa [drafts_append, drafts_ack, List.append_nil]

private theorem checkLines_snoc {front : List Line} {state : ChainState}
    (checked : checkLines crypto policy ((front.map Line.value).map (render .compact)) =
      .ok state) (last : Line) :
    checkLines crypto policy (((front ++ [last]).map Line.value).map (render .compact)) =
      (checkRecord crypto policy (1 + front.length) last.loaded state).mapError (state, ·) := by
  have shape : (((front ++ [last]).map Line.value).map (render .compact)).zipIdx 1 =
      ((front.map Line.value).map (render .compact)).zipIdx 1 ++
        [(render .compact last.value, 1 + front.length)] := by
    simp [List.zipIdx_append]
  unfold checkLines at checked ⊢
  rw [shape, List.foldlM_append, checked]
  change (checkLine crypto policy state _ >>= pure) = _
  rw [bind_pure, checkLine_line]

/-- The verifier reads a chained log of sound lines to its end. -/
theorem checkLines_of_chained {lines : List Line}
    (sound : ∀ line ∈ lines, line.Sound crypto policy) (chained : Chained lines) :
    ∃ state, checkLines crypto policy ((lines.map Line.value).map (render .compact)) =
        .ok state ∧
      state.prev = tip lines ∧ state.count = (drafts lines).length ∧
      state.lastTs = lastTime (drafts lines) := by
  induction lines using List.reverseRecOn with
  | nil => exact ⟨_, rfl, rfl, rfl, rfl⟩
  | append_singleton front last ih =>
      have frontSound : ∀ line ∈ front, line.Sound crypto policy :=
        fun line member => sound line (by simp [member])
      have lastSound := sound last (by simp)
      cases last with
      | record draft recorderSig =>
          obtain ⟨frontChained, follows, later⟩ := chained_snoc_record.mp chained
          obtain ⟨state, checked, samePrev, sameCount, sameTs⟩ := ih frontSound frontChained
          obtain ⟨text, isText⟩ := tip_eq_ofText front
          have timely : regresses (.str (Str.ofText draft.now.isoformat)) state.lastTs =
              some false := by
            rw [sameTs, lastTime]
            cases found : (drafts front).getLast? with
            | none => rfl
            | some earlier =>
                exact regresses_of_le (later earlier (List.mem_of_getLast? found))
          obtain ⟨next, accepted, nextPrev, nextCount, nextTs⟩ :=
            checkRecord_record (1 + front.length) lastSound
              (samePrev.trans isText) (follows.trans samePrev.symm) timely
          refine ⟨next, ?_, ?_, ?_, ?_⟩
          · rw [checkLines_snoc checked, accepted, Except.mapError]
          · rw [nextPrev, tip, drafts_append, drafts_record, sessionChain.tipAfter_snoc,
              sessionChain]
          · rw [nextCount, sameCount, drafts_append, List.length_append, drafts_record,
              List.length_singleton]
          · rw [nextTs, lastTime, drafts_append, drafts_record, List.getLast?_concat,
              Option.map_some]
      | ack receipt =>
          obtain ⟨state, checked, samePrev, sameCount, sameTs⟩ :=
            ih frontSound (chained_snoc_ack.mp chained)
          refine ⟨state, ?_, ?_, ?_, ?_⟩
          · rw [checkLines_snoc checked, checkRecord_ack, Except.mapError]
          · rw [samePrev, tip, tip, drafts_append, drafts_ack, List.append_nil]
          · rw [sameCount, drafts_append, drafts_ack, List.append_nil]
          · rw [sameTs, drafts_append, drafts_ack, List.append_nil]

/-- A policy that asks for signatures names the key to check them with. -/
def Policy.HasKey (policy : Policy) : Prop :=
  policy.requireRecorderSignatures = true → policy.recorderPublicKey.isSome = true

theorem verifyChain_of_chained (hasKey : policy.HasKey) {lines : List Line}
    (sound : ∀ line ∈ lines, line.Sound crypto policy) (chained : Chained lines) :
    ∃ result, verifyChain crypto policy (some (logText lines)) = some result ∧
      result.ok = true ∧ result.count = (drafts lines).length := by
  obtain ⟨state, checked, -, count, -⟩ := checkLines_of_chained sound chained
  have keyed : (policy.requireRecorderSignatures && policy.recorderPublicKey.isNone) = false := by
    cases required : policy.requireRecorderSignatures with
    | false => rfl
    | true =>
        have := hasKey required
        cases key : policy.recorderPublicKey with
        | none => simp [key] at this
        | some publicKey => rfl
  have split : splitLines isNewline (logText lines) =
      (lines.map Line.value).map (render .compact) :=
    splitLines_fileText rfl boundary_isNewline _
  unfold verifyChain
  simp only [keyed, Bool.false_eq_true, if_false, split, checked]
  exact ⟨_, rfl, rfl, count⟩

end Check

end SelfConnect.Provenance
