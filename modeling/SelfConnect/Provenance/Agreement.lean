import SelfConnect.Provenance.Session
import SelfConnect.Provenance.Origin

namespace SelfConnect.Provenance

open SelfConnect.Python SelfConnect.Python.Json SelfConnect.Library

/-! The recorder against what its log file says on disk. -/

/-- The chained records of a log file, in file order. -/
def readRecords (log : Option Text) : Option (List Value) :=
  (parseLines (filledLines isNewline isSpace (log.getD []))).map chainRecords

/-- Sequence number and hash of the last record of a log file. -/
def durableTail (log : Option Text) : Option (Int × Str) :=
  match readRecords log with
  | none => none
  | some records =>
      match records.getLast? with
      | none => some (0, genesisHash)
      | some last =>
          match (last.get? "seq").bind Value.toInt?, canonicalHash last with
          | some seq, some hash => some (seq, hash)
          | _, _ => none

section

variable {turns : Nat → Turn} {w : World}

theorem readRecords_intact (intact : Intact turns w) :
    readRecords w.log =
      some ((records w.lines).map fun entry => (Line.record entry.1 entry.2).loaded) := by
  rw [readRecords, intact.text, filledLines_logText w.lines boundary_isNewline,
    parseLines_logText, Option.map_some, chainRecords_loaded]

theorem durableTail_intact (clean : AllClean w.attempts) (intact : Intact turns w) :
    durableTail w.log = some (((drafts w.lines).length : Int), tip w.lines) := by
  unfold durableTail
  rw [readRecords_intact intact]
  dsimp only
  rw [List.getLast?_map]
  have sameLast : (drafts w.lines).getLast? = (records w.lines).getLast?.map Prod.fst := by
    rw [← map_fst_records, List.getLast?_map]
  cases last : (records w.lines).getLast? with
  | none =>
      have none : drafts w.lines = [] := by
        rw [← map_fst_records, List.getLast?_eq_none_iff.mp last, List.map_nil]
      rw [tip, none]
      rfl
  | some entry =>
      rw [last, Option.map_some] at sameLast
      have stable := drafts_stable clean entry.1 (List.mem_of_getLast? sameLast)
      have isTail : tailOf w.lines = some ⟨entry.1.seq, entry.1.hash,
          ((drafts w.lines).head?.map Draft.hash)⟩ := by
        unfold tailOf
        rw [sameLast]
        cases first : (drafts w.lines).head? with
        | none =>
            rw [List.head?_eq_none_iff.mp first] at sameLast
            cases sameLast
        | some draft => rfl
      obtain ⟨seq, prevHash⟩ := tailOf_intact intact isTail
      dsimp only at seq prevHash
      simp only [Option.map_some, Draft.get?_seq, Option.bind_some, Value.toInt?,
        canonicalHash_loaded_of_stable stable, seq, prevHash]

end

theorem sound_of_clean {crypto : Crypto} {policy : Policy} {w : World}
    (clean : AllClean w.attempts) (genuine : ∀ line ∈ w.lines, line.Genuine crypto policy) :
    ∀ line ∈ w.lines, line.Sound crypto policy := by
  intro line member
  refine ⟨genuine line member, ?_⟩
  intro draft isDraft
  exact drafts_stable clean draft (List.mem_filterMap.mpr ⟨line, member, isDraft⟩)

theorem eq_nil_of_logText {lines : List Line} (empty : logText lines = []) : lines = [] := by
  cases lines with
  | nil => rfl
  | cons line rest => simp [logText, fileText, lineText] at empty

/-- An intact log is accepted when its signatures are. -/
theorem verifyChain_of_intact {turns : Nat → Turn} {crypto : Crypto} {policy : Policy}
    {w : World} (hasKey : policy.HasKey) (clean : AllClean w.attempts)
    (intact : Intact turns w) (genuine : ∀ line ∈ w.lines, line.Genuine crypto policy) :
    ∃ result, verifyChain crypto policy w.log = some result ∧ result.ok = true ∧
      result.count = (drafts w.lines).length := by
  have accepted := verifyChain_of_chained hasKey (sound_of_clean clean genuine) intact.chained
  rw [← intact.text] at accepted
  cases log : w.log with
  | some text =>
      rw [log] at accepted
      exact accepted
  | none =>
      have empty : w.lines = [] := by
        have text := intact.text
        rw [log, Option.getD_none, eq_comm] at text
        exact eq_nil_of_logText text
      exact ⟨_, rfl, rfl, by rw [empty]; rfl⟩

def quietTurn : Turn where
  now := ⟨2024, 1, 1, 0, 0, 0, 0, by decide⟩
  signFails := false
  write := .durable
  push := .notImplemented
  ackNow := ⟨2024, 1, 1, 0, 0, 0, 0, by decide⟩
  ackWrite := .durable
  readFails := false

def refusedSecond (n : Nat) : Turn :=
  { quietTurn with write := if n = 1 then .refused else .durable }

def consumerConfig : Config where
  sessionId := Str.lit "session"
  agentId := Str.lit "agent"
  auditMode := .consumer
  sealInterval := 100
  identity := none
  supervisorId := none
  orchestratorToken := none
  replicated := false

def toolCall : Call :=
  .record .toolCall none [] none none

def rejectingCrypto : Crypto :=
  ⟨fun _ _ _ => false, fun _ _ _ => false, fun _ _ _ => false⟩

def quietStart : World :=
  (newWorld consumerConfig).runAll (fun _ => quietTurn) [.start false false]

/-- The recorder's identity makes the signatures that a policy asks for. -/
def Config.SignsFor (crypto : Crypto) (policy : Policy) (config : Config) : Prop :=
  policy.requireRecorderSignatures = true →
    ∃ identity, config.identity = some identity ∧
      policy.recorderPublicKey = some identity.publicKey ∧
      ∀ message, identity.sign message ≠ [] ∧
        (if identity.publicKey.length = 32 then
          crypto.ed25519Verify identity.publicKey (identity.sign message) message
        else if identity.publicKey.length = 96 then
          crypto.cngVerify identity.publicKey (identity.sign message) message
        else false) = true

/-- String-keyed JSON, and no claim to come from the dedicated service. -/
def StringKeyedCall (payload : Members) (osCorroboration : Option Members) : Prop :=
  StringKeyed (.dict payload) ∧ ∀ members, osCorroboration = some members →
    StringKeyed (.dict members) ∧
      Members.lookup (Str.lit "provenance_service") members = none

def workingPremises (crypto : Crypto) (policy : Policy) : Premises where
  turn turn := turn.signFails = false ∧ turn.write = .durable ∧ turn.ackWrite = .durable
  config := Config.SignsFor crypto policy
  given := StringKeyedCall

theorem stringKeyed_atom {v : Value} (atom : isAtom v = true) : StringKeyed v := by
  cases v with
  | list | dict => cases atom
  | null | bool | int | float | str => trivial

theorem stringKeyedCall_display (fields : List (String × Value)) (flat : Flat fields) :
    StringKeyedCall (Members.of fields) none := by
  refine ⟨stringKeyed_object flat.1 fun field member => stringKeyed_atom (flat.2 field member), ?_⟩
  rintro members ⟨⟩

theorem stringKeyedCall_closing (summary : Members) (total : Int) (state : Str)
    (given : StringKeyedCall summary none) :
    StringKeyedCall (Members.of [("summary", .dict summary), ("total_events", .int total),
      ("session_state", .str state)]) none := by
  refine ⟨stringKeyed_object (by simp) ?_, ?_⟩
  · intro field member
    simp only [List.mem_cons, List.not_mem_nil, or_false] at member
    rcases member with rfl | rfl | rfl
    · exact given.1
    · exact stringKeyed_atom rfl
    · exact stringKeyed_atom rfl
  · rintro members ⟨⟩

theorem Draft.stable_of_stringKeyed {draft : Draft}
    (given : StringKeyedCall draft.payload draft.osCorroboration) : draft.Stable := by
  intro v member
  have keyed : StringKeyed v := by
    rcases List.mem_cons.mp member with payload | corroboration
    · rw [payload]
      exact given.1
    · rw [Option.mem_toList, Option.map_eq_some_iff] at corroboration
      obtain ⟨members, found, rfl⟩ := corroboration
      exact (given.2 members found).1
  exact ⟨sortable_of_stringKeyed v keyed, keysStable_of_stringKeyed v keyed⟩

theorem Draft.noService_of_stringKeyed {draft : Draft}
    (given : StringKeyedCall draft.payload draft.osCorroboration) : draft.NoService := by
  intro members found
  obtain ⟨keyed, free⟩ := given.2 members found
  have strings : StringKeys members := by
    rintro ⟨k, v⟩ member
    obtain ⟨⟨s, equal, -⟩, -⟩ := stringKeyedMembers_iff.mp keyed.2 k v member
    rw [equal]
    rfl
  rw [loadedMembers_of_keysStable (keysStable_of_stringKeyed _ keyed),
    lookup_rereadMembers (by decide) strings, free, Option.map_none]

section Working

variable {crypto : Crypto} {policy : Policy} {attempt : Attempt}

theorem complete_of_working (comesFrom : attempt.From (workingPremises crypto policy)) :
    attempt.Complete := by
  obtain ⟨turn, config, ⟨-, write, ackWrite⟩, -, facts⟩ := comesFrom
  have durable : attempt.write = .durable := by
    split at facts
    · exact facts.2.2.2.trans write
    · exact facts.trans ackWrite
  rw [Attempt.Complete, durable, Write.kept]

theorem clean_of_working (comesFrom : attempt.From (workingPremises crypto policy)) :
    attempt.Clean := by
  have complete := complete_of_working comesFrom
  obtain ⟨turn, config, ⟨signer, -, -⟩, -, facts⟩ := comesFrom
  split at facts
  · next draft recorderSig isRecord =>
      obtain ⟨given, -, raised, -⟩ := facts
      rw [Attempt.Clean, isRecord]
      refine ⟨?_, complete, Draft.stable_of_stringKeyed given⟩
      rw [raised, signer]
      cases config.identity <;> simp
  · next receipt isAck =>
      rw [Attempt.Clean, isAck]
      exact Or.inl complete

theorem genuine_of_working (comesFrom : attempt.From (workingPremises crypto policy)) :
    attempt.line.Genuine crypto policy := by
  obtain ⟨turn, config, ⟨signer, -, -⟩, signs, facts⟩ := comesFrom
  split at facts
  · next draft recorderSig isRecord =>
      obtain ⟨given, signature, -, -⟩ := facts
      have stable := Draft.stable_of_stringKeyed given
      rw [isRecord]
      constructor
      · rintro _ ⟨⟩
        exact ⟨.notService,
          attestation_of_noService crypto (Draft.noService_of_stringKeyed given) recorderSig,
          by decide⟩
      · rintro _ ⟨⟩ required
        obtain ⟨identity, isIdentity, isKey, working⟩ := signs required
        rw [isIdentity, canonicalBytes_unsigned_of_stable stable, signer] at signature
        rw [signature, isKey]
        exact verifyRecorderSignature_of_stable crypto stable (working _).1 _ (working _).2
  · next receipt isAck =>
      rw [isAck]
      constructor <;> intro draft isDraft <;> cases isDraft

end Working

theorem lines_of_complete_attempts {attempts : List Attempt}
    (complete : ∀ attempt ∈ attempts, attempt.Complete) :
    storedLines attempts = attempts.map Attempt.line := by
  rw [storedLines, ← List.filterMap_eq_map]
  exact List.filterMap_congr fun attempt member => if_pos (complete attempt member)

/-- The records a session set out to append. -/
def World.appended (w : World) : List Draft :=
  drafts (w.attempts.map Attempt.line)

def digestSignature (message : Bytes) : Bytes :=
  1 :: sha256 message

def digestCrypto : Crypto where
  ed25519Verify _ signature message := signature == digestSignature message
  p384Verify _ _ _ := false
  cngVerify _ _ _ := false

def signingConfig : Config :=
  { consumerConfig with identity := some ⟨digestSignature, List.replicate 32 7⟩ }

def signedPolicy : Policy :=
  ⟨some (List.replicate 32 7), true⟩

theorem signingConfig_signsFor : signingConfig.SignsFor digestCrypto signedPolicy := by
  intro _
  refine ⟨_, rfl, rfl, fun message => ⟨by simp [digestSignature], ?_⟩⟩
  simp [digestCrypto]

end SelfConnect.Provenance
