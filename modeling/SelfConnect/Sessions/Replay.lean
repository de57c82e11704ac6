import SelfConnect.Sessions.Index
import SelfConnect.Library.HashChain

namespace SelfConnect.Sessions

open SelfConnect.Python SelfConnect.Python.Json SelfConnect.Library SelfConnect.Provenance

/-! What the file of an index yields when it is loaded, entry by entry. -/

namespace SessionManifestEntry

/-- The fields are values that JSON hands back as they are. -/
def Faithful (entry : SessionManifestEntry) : Prop :=
  ∀ field ∈ entry.fields, IsJson field.2

/-- The entry with the keys of its dicts sorted, which is the same entry to Python. -/
def sorted (entry : SessionManifestEntry) : SessionManifestEntry where
  sessionId := sortKeys entry.sessionId
  agentId := sortKeys entry.agentId
  auditMode := sortKeys entry.auditMode
  startedAt := sortKeys entry.startedAt
  logPath := sortKeys entry.logPath
  firstEventHash := sortKeys entry.firstEventHash
  lastKnownSeq := sortKeys entry.lastKnownSeq
  lastHeartbeatTs := sortKeys entry.lastHeartbeatTs
  sessionState := sortKeys entry.sessionState
  closedAt := sortKeys entry.closedAt
  summary := sortKeys entry.summary
  remoteReceipt := sortKeys entry.remoteReceipt
  prevHash := sortKeys entry.prevHash
  entryHash := sortKeys entry.entryHash

end SessionManifestEntry

namespace IndexConfig

variable (config : IndexConfig) (entry : SessionManifestEntry)

def stampedFields : List (String × Value) :=
  entry.fields ++ (config.identity.map IndexIdentity.fields).getD []

def signingText : Text :=
  render .compact (sortKeys (Value.object (config.stampedFields entry)))

def signedFields : List (String × Value) :=
  config.stampedFields entry ++ (config.identity.map fun identity =>
    ("entry_signature", Value.str (Str.ofText
      (hexText (identity.sign (encode (config.signingText entry))))))).toList

def entryHash : Str :=
  digest (render .compact (sortKeys (Value.object (config.signedFields entry))))

/-- The record that is written for an entry. -/
def record : Value :=
  Value.object (config.signedFields entry ++ [("entry_hash", .str (config.entryHash entry))])

def recordHash : Str :=
  digest (render .compact (sortKeys (config.record entry)))

def hashed : SessionManifestEntry :=
  { entry with entryHash := .str (config.entryHash entry) }

end IndexConfig

theorem canonicalBytes_of_isJson {record : Value} (isDict : record.isDict = true)
    (json : IsJson record) (unsigned : record.get? "recorder_sig" = none)
    (unattested : record.get? "agent_sig" = none) :
    canonicalBytes record = some (render .compact (sortKeys record)) := by
  cases record with
  | dict members =>
      rw [canonicalBytes, Members.erase_of_lookup_eq_none unsigned,
        Members.erase_of_lookup_eq_none unattested, ite_self, dumpsSorted,
        if_pos (sortable_of_stringKeyed _ (stringKeyed_of_isJson _ json))]
  | null | bool | int | float | str | list => cases isDict

/-! Records without one of their entries. -/

theorem isDict_without (key : String) (v : Value) : (without key v).isDict = v.isDict := by
  cases v <;> rfl

theorem isJson_without {v : Value} (json : IsJson v) (key : String) : IsJson (without key v) := by
  cases v with
  | dict members => exact isJson_erase json _
  | null | bool | int | float | str | list => exact json

theorem without_object (key : String) (fields : List (String × Value)) :
    without key (Value.object fields) =
      Value.object (fields.filter fun field => decide (field.1 ≠ key)) :=
  congrArg Value.dict (erase_object key fields)

theorem get?_without {key other : String} (differs : other ≠ key) (v : Value) :
    (without key v).get? other = v.get? other := by
  cases v with
  | dict members =>
      change Members.lookup _ (Members.erase _ members) = Members.lookup _ members
      induction members with
      | nil => rfl
      | cons entry rest ih =>
          obtain ⟨k, w⟩ := entry
          by_cases erased : k = .str (Str.lit key)
          · rw [erased, Members.erase_cons_self, ih, Members.lookup, if_neg]
            simpa using differs.symm
          · rw [Members.erase_cons_of_ne erased]
            cases k with
            | str s => rw [Members.lookup, Members.lookup, ih]
            | int | float | bool | null => exact ih
  | null | bool | int | float | str | list => rfl

private theorem sortKeys_without {v : Value} (isDict : v.isDict = true) (json : IsJson v)
    (key : String) : sortKeys (without key (sortKeys v)) = sortKeys (without key v) := by
  cases v with
  | dict members => exact sortKeys_erase_sorted json _
  | null | bool | int | float | str | list => cases isDict

namespace IndexConfig

variable (config : IndexConfig) {entry : SessionManifestEntry}

private theorem names_nodup (entry : SessionManifestEntry) :
    ((config.signedFields entry ++ [("entry_hash", Value.str (config.entryHash entry))]).map
      Prod.fst).Nodup := by
  unfold signedFields stampedFields SessionManifestEntry.fields IndexIdentity.fields
  cases config.identity <;> simp

private theorem isJson_fields (faithful : entry.Faithful) :
    ∀ field ∈ config.signedFields entry ++ [("entry_hash", .str (config.entryHash entry))],
      IsJson field.2 := by
  have text : ∀ text : Text, IsJson (.str (Str.ofText text)) := Str.joinSurrogates_ofText
  intro field member
  unfold signedFields stampedFields at member
  rcases List.mem_append.mp member with signed | hash
  · rcases List.mem_append.mp signed with stamped | signature
    · rcases List.mem_append.mp stamped with own | signer
      · exact faithful field own
      · cases isIdentity : config.identity with
        | none => simp [isIdentity] at signer
        | some identity =>
            simp only [isIdentity, Option.map_some, Option.getD_some, IndexIdentity.fields,
              List.mem_cons, List.not_mem_nil, or_false] at signer
            rcases signer with rfl | rfl | rfl
            · trivial
            · exact text _
            · exact text _
    · cases isIdentity : config.identity with
      | none => simp [isIdentity] at signature
      | some identity =>
          simp only [isIdentity, Option.map_some, Option.toList_some, List.mem_singleton]
            at signature
          rw [signature]
          exact text _
  · rw [List.mem_singleton.mp hash]
    exact text _

private theorem isJson_record (faithful : entry.Faithful) : IsJson (config.record entry) :=
  isJson_object (config.names_nodup entry) (config.isJson_fields faithful)

private theorem isJson_signed (faithful : entry.Faithful) :
    IsJson (Value.object (config.signedFields entry)) := by
  refine isJson_object ?_ fun field member => ?_
  · have nodup := config.names_nodup entry
    rw [List.map_append] at nodup
    exact nodup.of_append_left
  · exact config.isJson_fields faithful field (List.mem_append_left _ member)

private theorem isJson_stamped (faithful : entry.Faithful) :
    IsJson (Value.object (config.stampedFields entry)) := by
  refine isJson_object ?_ fun field member => ?_
  · have nodup := config.names_nodup entry
    rw [signedFields, List.append_assoc, List.map_append] at nodup
    exact nodup.of_append_left
  · exact config.isJson_fields faithful field
      (List.mem_append_left _ (List.mem_append_left _ member))

/-! What the index looks up in the records it reads back. -/

private theorem get?_record (key : String) (value : Value)
    (found : (config.record entry).get? key = some value) (faithful : entry.Faithful) :
    (sortKeys (config.record entry)).get? key = some (sortKeys value) := by
  rw [get?_sortKeys (config.isJson_record faithful), found, Option.map_some]

private theorem lookup_record_unsigned (entry : SessionManifestEntry) {key : String}
    (other : key ∈ ["recorder_sig", "agent_sig"]) :
    (config.record entry).get? key = none := by
  unfold record signedFields stampedFields SessionManifestEntry.fields IndexIdentity.fields
  fin_cases other <;> cases config.identity <;> simp

private theorem lookup_signed_unsigned (entry : SessionManifestEntry) {key : String}
    (other : key ∈ ["recorder_sig", "agent_sig"]) :
    (Value.object (config.signedFields entry)).get? key = none := by
  unfold signedFields stampedFields SessionManifestEntry.fields IndexIdentity.fields
  fin_cases other <;> cases config.identity <;> simp

theorem canonicalHash_signed (faithful : entry.Faithful) :
    canonicalHash (Value.object (config.signedFields entry)) = some (config.entryHash entry) := by
  rw [canonicalHash, canonicalBytes_of_isJson rfl (config.isJson_signed faithful)
    (config.lookup_signed_unsigned entry (by simp))
    (config.lookup_signed_unsigned entry (by simp)), Option.map_some]
  rfl

theorem canonicalHash_record (faithful : entry.Faithful) :
    canonicalHash (config.record entry) = some (config.recordHash entry) := by
  rw [canonicalHash, canonicalBytes_of_isJson rfl (config.isJson_record faithful)
    (config.lookup_record_unsigned entry (by simp))
    (config.lookup_record_unsigned entry (by simp)), Option.map_some]
  rfl

theorem canonicalHash_sortKeys_record (faithful : entry.Faithful) :
    canonicalHash (sortKeys (config.record entry)) = some (config.recordHash entry) := by
  have json := config.isJson_record faithful
  have absent : ∀ key ∈ ["recorder_sig", "agent_sig"],
      (sortKeys (config.record entry)).get? key = none := by
    intro key member
    rw [get?_sortKeys json, config.lookup_record_unsigned entry member, Option.map_none]
  have isDict : (sortKeys (config.record entry)).isDict = true :=
    (isDict_sortKeys _).trans rfl
  rw [canonicalHash, canonicalBytes_of_isJson isDict (isJson_sortKeys _ json)
    (absent _ (by simp)) (absent _ (by simp)), sortKeys_sortKeys _ json, Option.map_some]
  rfl

private theorem without_record (entry : SessionManifestEntry) :
    without "entry_hash" (config.record entry) = Value.object (config.signedFields entry) := by
  rw [record, without_object, List.filter_append, List.filter_eq_self.mpr]
  · simp
  · intro field member
    have nodup := config.names_nodup entry
    rw [List.map_append, List.nodup_append] at nodup
    have differs := nodup.2.2 field.1 (List.mem_map_of_mem member) "entry_hash" (by simp)
    simpa using differs

private theorem without_signed (entry : SessionManifestEntry) :
    without "entry_signature" (Value.object (config.signedFields entry)) =
      Value.object (config.stampedFields entry) := by
  rw [without_object]
  congr 1
  unfold signedFields stampedFields SessionManifestEntry.fields IndexIdentity.fields
  cases config.identity <;> simp

theorem canonicalHash_withoutEntryHash (faithful : entry.Faithful) :
    canonicalHash (without "entry_hash" (sortKeys (config.record entry))) =
      some (config.entryHash entry) := by
  have json := config.isJson_record faithful
  have absent : ∀ key ∈ ["recorder_sig", "agent_sig"],
      (without "entry_hash" (sortKeys (config.record entry))).get? key = none := by
    intro key member
    have differs : key ≠ "entry_hash" := by
      rintro rfl
      simp at member
    rw [get?_without differs, get?_sortKeys json, config.lookup_record_unsigned entry member,
      Option.map_none]
  have isDict : (without "entry_hash" (sortKeys (config.record entry))).isDict = true :=
    ((isDict_without _ _).trans (isDict_sortKeys _)).trans rfl
  rw [canonicalHash, canonicalBytes_of_isJson isDict (isJson_without (isJson_sortKeys _ json) _)
    (absent _ (by simp)) (absent _ (by simp)), sortKeys_without rfl json, config.without_record,
    Option.map_some]
  rfl

theorem indexSigningBytes_stamped (faithful : entry.Faithful) :
    indexSigningBytes (Value.object (config.stampedFields entry)) =
      some (config.signingText entry) := by
  have unchanged : without "entry_signature" (without "entry_hash"
      (Value.object (config.stampedFields entry))) = Value.object (config.stampedFields entry) := by
    rw [without_object, without_object]
    congr 1
    unfold stampedFields SessionManifestEntry.fields IndexIdentity.fields
    cases config.identity <;> simp
  have isDict : (Value.object (config.stampedFields entry)).isDict = true := rfl
  rw [indexSigningBytes, if_pos isDict, unchanged, dumpsSorted_of_isJson
    (config.isJson_stamped faithful)]
  rfl

theorem indexSigningBytes_record (faithful : entry.Faithful) :
    indexSigningBytes (sortKeys (config.record entry)) = some (config.signingText entry) := by
  have json := config.isJson_record faithful
  have sorted := isJson_sortKeys _ json
  have isDict : (sortKeys (config.record entry)).isDict = true :=
    (isDict_sortKeys _).trans rfl
  -- removing the hash from the sorted record, or from the record itself
  have hashless : sortKeys (without "entry_hash" (sortKeys (config.record entry))) =
      sortKeys (Value.object (config.signedFields entry)) := by
    rw [sortKeys_without rfl json, config.without_record]
  have signless : sortKeys (without "entry_signature" (without "entry_hash"
      (sortKeys (config.record entry)))) = sortKeys (Value.object (config.stampedFields entry)) := by
    have left := sortKeys_without ((isDict_without "entry_hash" _).trans isDict)
      (isJson_without sorted "entry_hash") "entry_signature"
    have right := sortKeys_without rfl (config.isJson_signed faithful) "entry_signature"
    rw [← left, hashless, right, config.without_signed]
  rw [indexSigningBytes, if_pos isDict, dumpsSorted_of_isJson
    (isJson_without (isJson_without sorted _) _), signless]
  rfl

end IndexConfig

/-! Signatures that are asked for verify under the key of the identity. -/

section Reading

variable (crypto : Crypto)

def IndexConfig.Verifies (config : IndexConfig) : Prop :=
  config.requireSignatures = true → ∀ identity, config.identity = some identity →
    ∀ message, (if identity.publicKey.length = 32 then
        crypto.ed25519Verify identity.publicKey (identity.sign message) message
      else if identity.publicKey.length = 96 then
        crypto.cngVerify identity.publicKey (identity.sign message) message
      else false) = true

@[simp] private theorem sortKeys_str (s : Str) : sortKeys (.str s) = .str s := rfl

@[simp] private theorem sortKeys_int (n : Int) : sortKeys (.int n) = .int n := rfl

@[simp] theorem eqv_str_self (s : Str) : (Value.str s).eqv (.str s) = true := by
  rw [Value.eqv]
  exact beq_self_eq_true s

@[simp] theorem eqv_int_self (n : Int) : (Value.int n).eqv (.int n) = true := by
  simp [Value.eqv, Value.number?, Number.eqv]

/-- The chain of the entries an index has written. -/
def indexChain (config : IndexConfig) : HashChain SessionManifestEntry Value where
  genesis := .str genesisHash
  previous := SessionManifestEntry.prevHash
  hash entry := .str (config.recordHash entry)

variable {crypto} {config : IndexConfig} {entry : SessionManifestEntry}

private theorem checkIndexSignature_record (verifies : config.Verifies crypto)
    (faithful : entry.Faithful) (line : Nat) :
    checkIndexSignature crypto config.policy line (sortKeys (config.record entry)) = .ok () := by
  unfold checkIndexSignature IndexConfig.policy
  cases required : config.requireSignatures with
  | false => rfl
  | true =>
      obtain ⟨identity, isIdentity⟩ := Option.isSome_iff_exists.mp (config.signing required)
      have lookups : (config.record entry).get? "index_record_version" = some (.int 2) ∧
          (config.record entry).get? "signer_agent_id" =
            some (.str (Str.ofText identity.agentId)) ∧
          (config.record entry).get? "signer_public_key_hex" =
            some (.str (Str.ofText (hexText identity.publicKey))) ∧
          (config.record entry).get? "entry_signature" = some (.str (Str.ofText
            (hexText (identity.sign (encode (config.signingText entry)))))) := by
        unfold IndexConfig.record IndexConfig.signedFields IndexConfig.stampedFields
          SessionManifestEntry.fields IndexIdentity.fields
        simp [isIdentity]
      obtain ⟨version, signer, publicKey, signature⟩ := lookups
      have read : ∀ key value, (config.record entry).get? key = some value →
          (sortKeys (config.record entry)).get? key = some (sortKeys value) :=
        fun key value found => config.get?_record key value found faithful
      have verified := verifies required identity isIdentity (encode (config.signingText entry))
      have genuine : verifyIndexSignature crypto (sortKeys (config.record entry))
          identity.publicKey = true := by
        rw [verifyIndexSignature, read _ _ signature, config.indexSigningBytes_record faithful,
          sortKeys_str, hexBytes, fromHex_hexText]
        exact verified
      simp [getOrNull, Value.getD, isIdentity, read _ _ version, read _ _ signer,
        read _ _ publicKey, genuine]

private theorem checkIndexRecord_record (verifies : config.Verifies crypto)
    (faithful : entry.Faithful) {previous : Str} (follows : entry.prevHash = .str previous)
    (line : Nat) :
    checkIndexRecord crypto config.policy line (sortKeys (config.record entry)) previous =
      .ok (config.recordHash entry) := by
  have isDict : (sortKeys (config.record entry)).isDict = true :=
    (isDict_sortKeys _).trans rfl
  have lookups : (config.record entry).get? "prev_hash" = some (.str previous) ∧
      (config.record entry).get? "entry_hash" = some (.str (config.entryHash entry)) := by
    unfold IndexConfig.record IndexConfig.signedFields IndexConfig.stampedFields
      SessionManifestEntry.fields IndexIdentity.fields
    cases config.identity <;> simp [follows]
  have prevHash := config.get?_record _ _ lookups.1 faithful
  have entryHash := config.get?_record _ _ lookups.2 faithful
  have length : (config.entryHash entry).length = 96 := by
    rw [IndexConfig.entryHash, digest, Str.ofText, List.length_map, length_sha384Hex]
  unfold checkIndexRecord
  simp [isDict, getOrNull, Value.getD, prevHash, entryHash, length,
    config.canonicalHash_withoutEntryHash faithful, checkIndexSignature_record verifies faithful,
    config.canonicalHash_sortKeys_record faithful]

private theorem checkIndexLine_record (verifies : config.Verifies crypto)
    (faithful : entry.Faithful) {previous : Str} (follows : entry.prevHash = .str previous)
    (found : List Value) (line : Nat) :
    checkIndexLine crypto config.policy (found, previous)
        (render .compact (sortKeys (config.record entry)), line) =
      .ok (found ++ [sortKeys (config.record entry)], config.recordHash entry) := by
  have filled : (stripText isSpace (render .compact (sortKeys (config.record entry)))).isEmpty =
      false := by
    obtain ⟨members, isDict⟩ : ∃ members, sortKeys (config.record entry) = .dict members :=
      ⟨_, rfl⟩
    rw [isDict, stripText_render_dict _ rfl rfl]
    obtain ⟨middle, equal⟩ := render_dict_ends .compact members
    exact (congrArg List.isEmpty equal).trans rfl
  have loaded : loads (render .compact (sortKeys (config.record entry))) =
      some (sortKeys (config.record entry)) :=
    loads_render_sortKeys rfl (config.isJson_record faithful)
  unfold checkIndexLine
  simp only [filled, Bool.false_eq_true, if_false, loaded,
    checkIndexRecord_record verifies faithful follows]

/-- The file that holds the records of the entries. -/
def indexText (config : IndexConfig) (entries : List SessionManifestEntry) : Text :=
  fileText .compact (entries.map fun entry => sortKeys (config.record entry))

private theorem checkIndexLines (verifies : config.Verifies crypto)
    {entries : List SessionManifestEntry} (faithful : ∀ entry ∈ entries, entry.Faithful)
    {previous : Str} (linked : (indexChain config).Linked (.str previous) entries)
    (found : List Value) (line : Nat) :
    ∃ tip, (((entries.map fun entry => sortKeys (config.record entry)).map
        (render .compact)).zipIdx line).foldlM (checkIndexLine crypto config.policy)
          (found, previous) =
        .ok (found ++ entries.map fun entry => sortKeys (config.record entry), tip) ∧
      .str tip = (indexChain config).tipAfter (.str previous) entries := by
  induction entries generalizing previous found line with
  | nil => exact ⟨previous, by simp [pure, Except.pure], rfl⟩
  | cons entry rest ih =>
      obtain ⟨follows, linkedRest⟩ := linked
      obtain ⟨tip, read, isTip⟩ := ih (fun other member => faithful other (by simp [member]))
        linkedRest (found ++ [sortKeys (config.record entry)]) (line + 1)
      refine ⟨tip, ?_, isTip⟩
      rw [List.map_cons, List.map_cons, List.zipIdx_cons, List.foldlM_cons,
        checkIndexLine_record verifies (faithful entry (by simp)) follows]
      rw [List.append_assoc] at read
      exact read

theorem validatedIndexRecords_indexText (verifies : config.Verifies crypto)
    {entries : List SessionManifestEntry} (faithful : ∀ entry ∈ entries, entry.Faithful)
    (linked : (indexChain config).Linked (.str genesisHash) entries) {file : Option Text}
    (text : file.getD [] = indexText config entries) :
    ∃ tip, validatedIndexRecords crypto config.policy file =
        .ok (entries.map fun entry => sortKeys (config.record entry), tip) ∧
      .str tip = (indexChain config).tipAfter (.str genesisHash) entries := by
  obtain ⟨tip, read, isTip⟩ := checkIndexLines verifies faithful linked [] 1
  refine ⟨tip, ?_, isTip⟩
  cases file with
  | none =>
      cases entries with
      | nil => exact read
      | cons entry rest => simp [indexText, fileText, lineText] at text
  | some contents =>
      rw [Option.getD_some] at text
      rw [text, validatedIndexRecords, indexText,
        splitLines_fileText rfl boundary_isLineBoundary]
      exact read

/-! The entries in memory after a load. -/

private theorem getD_record (faithful : entry.Faithful) {name : String} {value : Value}
    (found : (config.record entry).get? name = some value) (default : Value) :
    (sortKeys (config.record entry)).getD name default = sortKeys value := by
  rw [Value.getD, config.get?_record name value found faithful, Option.getD_some]

private theorem getD_field (faithful : entry.Faithful) {name : String} {value : Value}
    (member : (name, value) ∈ entry.fields) (default : Value) :
    (sortKeys (config.record entry)).getD name default = sortKeys value := by
  have stored : ∀ field ∈ entry.fields, (config.record entry).get? field.1 = some field.2 := by
    unfold IndexConfig.record IndexConfig.signedFields IndexConfig.stampedFields
      SessionManifestEntry.fields
    simp
  exact getD_record faithful (stored _ member) default

private theorem getD_entryHash (faithful : entry.Faithful) :
    (sortKeys (config.record entry)).getD "entry_hash" .null = .str (config.entryHash entry) := by
  have stored : (config.record entry).get? "entry_hash" =
      some (.str (config.entryHash entry)) := by
    unfold IndexConfig.record IndexConfig.signedFields IndexConfig.stampedFields
      SessionManifestEntry.fields IndexIdentity.fields
    cases config.identity <;> simp
  exact getD_record faithful stored .null

theorem fromDict_record (faithful : entry.Faithful) :
    SessionManifestEntry.fromDict (sortKeys (config.record entry)) =
      (config.hashed entry).sorted := by
  have own : ∀ {name value}, (name, value) ∈ entry.fields → ∀ default,
      (sortKeys (config.record entry)).getD name default = sortKeys value :=
    fun member => getD_field faithful member
  unfold SessionManifestEntry.fromDict SessionManifestEntry.sorted
  rw [SessionManifestEntry.mk.injEq]
  refine ⟨own ?_ _, own ?_ _, own ?_ _, own ?_ _, own ?_ _, own ?_ _, own ?_ _, own ?_ _,
    own ?_ _, own ?_ _, own ?_ _, own ?_ _, own ?_ _, getD_entryHash faithful⟩
  all_goals simp [SessionManifestEntry.fields, IndexConfig.hashed]

/-- The session has a name, as every session that is opened has. -/
def SessionManifestEntry.Named (entry : SessionManifestEntry) : Prop :=
  ∃ sessionId : Str, entry.sessionId = .str sessionId ∧ sessionId ≠ []

/-- The entries that loading the records puts into memory. -/
def replay (config : IndexConfig) (entries : List SessionManifestEntry)
    (stored : List (Value × SessionManifestEntry)) : List (Value × SessionManifestEntry) :=
  entries.foldl (fun stored entry =>
    setEntry entry.sessionId (config.hashed entry).sorted stored) stored

theorem storeRecords_records {entries : List SessionManifestEntry}
    (faithful : ∀ entry ∈ entries, entry.Faithful) (named : ∀ entry ∈ entries, entry.Named)
    (w : IndexWorld) :
    Program.wp (storeRecords (entries.map fun entry => sortKeys (config.record entry)))
      (fun outcome after => outcome = .ok () ∧ after = w.update fun index =>
        { index with entries := replay config entries index.entries }) w := by
  induction entries generalizing w with
  | nil => exact ⟨rfl, rfl⟩
  | cons entry rest ih =>
      obtain ⟨sessionId, isName, filled⟩ := named entry (by simp)
      have name : (config.hashed entry).sorted.sessionId = entry.sessionId := by
        change sortKeys entry.sessionId = _
        rw [isName, sortKeys_str]
      have truthy : entry.sessionId.truthy = true := by
        rw [isName]
        cases sessionId with
        | nil => exact absurd rfl filled
        | cons c rest => rfl
      have hashable : isHashable entry.sessionId = true := by
        rw [isName]
        rfl
      have later := ih (fun other member => faithful other (by simp [member]))
        (fun other member => named other (by simp [member]))
        (w.update fun index => index.store entry.sessionId (config.hashed entry).sorted)
      rw [List.map_cons, storeRecords, fromDict_record (faithful entry (by simp)), name]
      simp only [Program.wp_bind, Program.wp_require, Program.wp_modify, Program.andThen_ok,
        truthy, hashable, true_imp_iff, reduceCtorEq, false_imp_iff, and_true]
      exact later

/-- What a file of chained records yields when it is loaded. -/
theorem load_indexText (verifies : config.Verifies crypto)
    {entries : List SessionManifestEntry} (faithful : ∀ entry ∈ entries, entry.Faithful)
    (named : ∀ entry ∈ entries, entry.Named)
    (linked : (indexChain config).Linked (.str genesisHash) entries) {w : IndexWorld}
    (isConfig : w.index.config = config) (text : w.file.getD [] = indexText config entries)
    (readFails : Bool) :
    ∃ tip, .str tip = (indexChain config).tipAfter (.str genesisHash) entries ∧
      Program.wp (load crypto readFails) (fun outcome after =>
        if readFails && w.file.isSome then
          outcome = .error (.sessionIndex .readFailed) ∧ after = w
        else outcome = .ok () ∧ after = w.update fun index =>
          { index with prevHash := tip, entries := replay config entries index.entries }) w := by
  obtain ⟨tip, read, isTip⟩ := validatedIndexRecords_indexText verifies faithful linked text
  refine ⟨tip, isTip, ?_⟩
  unfold load
  rw [Program.wp_bind, Program.wp_get, Program.andThen_ok, Program.wp_bind, Program.wp_require]
  cases fails : readFails && w.file.isSome with
  | true => exact ⟨nofun, fun _ => ⟨rfl, rfl⟩⟩
  | false =>
      refine ⟨fun _ => ?_, nofun⟩
      rw [Program.andThen_ok, Program.wp_bind, Program.wp_ofExcept, isConfig, read,
        Program.andThen_ok, Program.wp_bind]
      refine Program.wp_mono (storeRecords_records faithful named w) ?_
      intro outcome after ⟨returned, stored⟩
      rw [returned, stored]
      exact ⟨rfl, rfl⟩

theorem freshLoad_indexText (verifies : config.Verifies crypto)
    {entries : List SessionManifestEntry} (faithful : ∀ entry ∈ entries, entry.Faithful)
    (named : ∀ entry ∈ entries, entry.Named)
    (linked : (indexChain config).Linked (.str genesisHash) entries) {file : Option Text}
    (text : file.getD [] = indexText config entries) :
    ∃ fresh, freshLoad crypto config file = .ok fresh ∧
      .str fresh.prevHash = (indexChain config).tipAfter (.str genesisHash) entries ∧
      fresh.entries = replay config entries [] := by
  obtain ⟨tip, isTip, loaded⟩ := load_indexText verifies faithful named linked
    (w := ⟨SessionIndex.create config, file, 0⟩) rfl text false
  obtain ⟨returned, after⟩ := loaded
  refine ⟨{ SessionIndex.create config with
    prevHash := tip, entries := replay config entries [] }, ?_, isTip, rfl⟩
  rw [freshLoad]
  generalize load crypto false _ = outcome at returned after ⊢
  obtain ⟨result, reached⟩ := outcome
  cases returned
  cases after
  rfl

end Reading

/-! Entries that agree with what is loaded, up to the order of the keys of their dicts. -/

def normal (stored : Value × SessionManifestEntry) : Value × SessionManifestEntry :=
  (stored.1, stored.2.sorted)

theorem map_normal_setEntry (sessionId : Value) (entry : SessionManifestEntry)
    (stored : List (Value × SessionManifestEntry)) :
    (setEntry sessionId entry stored).map normal =
      setEntry sessionId entry.sorted (stored.map normal) := by
  induction stored with
  | nil => rfl
  | cons first rest ih =>
      obtain ⟨key, old⟩ := first
      by_cases same : key.eqv sessionId = true
      · simp [setEntry, normal, same]
      · simp [setEntry, normal, same, ih]

theorem setEntry_setEntry (sessionId : Value) (self : sessionId.eqv sessionId = true)
    (first second : SessionManifestEntry) (stored : List (Value × SessionManifestEntry)) :
    setEntry sessionId second (setEntry sessionId first stored) =
      setEntry sessionId second stored := by
  induction stored with
  | nil => simp [setEntry, self]
  | cons entry rest ih =>
      obtain ⟨key, old⟩ := entry
      by_cases same : key.eqv sessionId = true
      · simp [setEntry, same]
      · simp [setEntry, same, ih]

theorem mem_setEntry {sessionId key : Value} {entry found : SessionManifestEntry}
    {stored : List (Value × SessionManifestEntry)}
    (member : (key, found) ∈ setEntry sessionId entry stored) :
    (key, found) ∈ stored ∨ found = entry ∧ (key = sessionId ∨ key.eqv sessionId = true) := by
  induction stored with
  | nil =>
      cases List.mem_singleton.mp member
      exact Or.inr ⟨rfl, Or.inl rfl⟩
  | cons first rest ih =>
      obtain ⟨other, old⟩ := first
      rw [setEntry] at member
      split at member
      · next same =>
          rcases List.mem_cons.mp member with here | below
          · cases here
            exact Or.inr ⟨rfl, Or.inr same⟩
          · exact Or.inl (List.mem_cons_of_mem _ below)
      · rcases List.mem_cons.mp member with here | below
        · cases here
          exact Or.inl List.mem_cons_self
        · exact (ih below).imp (List.mem_cons_of_mem _) id

namespace SessionManifestEntry

variable {entry : SessionManifestEntry}

theorem faithful_iff : entry.Faithful ↔
    IsJson entry.sessionId ∧ IsJson entry.agentId ∧ IsJson entry.auditMode ∧
      IsJson entry.startedAt ∧ IsJson entry.logPath ∧ IsJson entry.firstEventHash ∧
      IsJson entry.lastKnownSeq ∧ IsJson entry.lastHeartbeatTs ∧ IsJson entry.sessionState ∧
      IsJson entry.closedAt ∧ IsJson entry.summary ∧ IsJson entry.remoteReceipt ∧
      IsJson entry.prevHash := by
  simp [Faithful, fields]

theorem Faithful.sorted (faithful : entry.Faithful) : entry.sorted.Faithful := by
  intro field member
  have shape : entry.sorted.fields = entry.fields.map fun field =>
    (field.1, sortKeys field.2) := rfl
  rw [shape] at member
  obtain ⟨own, below, rfl⟩ := List.mem_map.mp member
  exact isJson_sortKeys _ (faithful own below)

theorem sorted_sorted (faithful : entry.Faithful) (hashed : IsJson entry.entryHash) :
    entry.sorted.sorted = entry.sorted := by
  have own : ∀ {value}, value ∈ entry.fields.map Prod.snd →
      sortKeys (sortKeys value) = sortKeys value := by
    intro value member
    obtain ⟨field, found, rfl⟩ := List.mem_map.mp member
    exact sortKeys_sortKeys _ (faithful field found)
  unfold SessionManifestEntry.sorted
  rw [SessionManifestEntry.mk.injEq]
  refine ⟨own ?_, own ?_, own ?_, own ?_, own ?_, own ?_, own ?_, own ?_, own ?_, own ?_,
    own ?_, own ?_, own ?_, sortKeys_sortKeys _ hashed⟩
  all_goals simp [SessionManifestEntry.fields]

end SessionManifestEntry

/-! What writing an entry does. -/

/-- The state once an entry was signed and the line was handed to the disk. -/
def IndexWorld.written (w : IndexWorld) (write : Write) (entry : SessionManifestEntry) :
    IndexWorld :=
  (w.update fun index =>
    { index with
      entries := setEntry entry.sessionId (index.config.hashed entry) index.entries
      prevHash := index.config.recordHash entry }).append write
        (lineText .compact (sortKeys (w.index.config.record entry)))

theorem signEntry_faithful {config : IndexConfig} {entry : SessionManifestEntry}
    (faithful : entry.Faithful) (fails : Bool) :
    signEntry config fails entry =
      if fails && config.identity.isSome then .error .signingFailed
      else .ok (config.signedFields entry) := by
  have stamped := config.indexSigningBytes_stamped faithful
  unfold signEntry
  unfold IndexConfig.stampedFields at stamped
  unfold IndexConfig.signedFields IndexConfig.stampedFields
  cases isIdentity : config.identity with
  | none =>
      have unsigned : config.requireSignatures = false := by
        rw [Bool.eq_false_iff]
        intro required
        have := config.signing required
        rw [isIdentity] at this
        cases this
      simp [unsigned]
  | some identity =>
      simp only [isIdentity, Option.map_some, Option.getD_some] at stamped ⊢
      rw [stamped]
      cases fails <;> simp

theorem writeEntry_faithful {entry : SessionManifestEntry} (faithful : entry.Faithful)
    (turn : IndexTurn) (w : IndexWorld) :
    Program.wp (writeEntry turn entry) (fun _ after => after =
      if turn.directoryFails || (turn.signFails && w.index.config.identity.isSome) then w
      else w.written turn.write entry) w := by
  have hash := w.index.config.canonicalHash_signed faithful
  have prevHash := w.index.config.canonicalHash_record faithful
  rw [IndexConfig.record] at prevHash
  unfold writeEntry
  rw [Program.wp_bind, Program.wp_require]
  cases turn.directoryFails with
  | true => exact ⟨nofun, fun _ => rfl⟩
  | false =>
      refine ⟨fun _ => ?_, nofun⟩
      rw [Program.andThen_ok, Program.wp_bind, Program.wp_get, Program.andThen_ok,
        Program.wp_bind, Program.wp_ofExcept, signEntry_faithful faithful]
      cases turn.signFails && w.index.config.identity.isSome with
      | true => rfl
      | false =>
          simp only [Bool.false_eq_true, if_false, Except.mapError, Bool.or_false,
            Program.andThen_ok, Program.wp_bind, Program.wp_ofExcept, hash, Option.elim_some,
            Program.wp_modify, prevHash, Program.wp_require, Program.wp_pure,
            Program.andThen_error]
          exact ⟨fun _ => rfl, fun _ => rfl⟩

end SelfConnect.Sessions
