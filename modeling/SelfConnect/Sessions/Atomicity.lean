import SelfConnect.Provenance.Agreement
import SelfConnect.Sessions.Replay

namespace SelfConnect.Sessions

open SelfConnect.Python SelfConnect.Python.Json SelfConnect.Library SelfConnect.Provenance

/-! When what an index remembers is what its file would tell a new process. -/

section

variable (crypto : Crypto)

/-- The file loads, and a loaded index holds what it yields. -/
def Replays (w : IndexWorld) : Prop :=
  ∃ fresh, freshLoad crypto w.index.config w.file = .ok fresh ∧
    (w.index.loaded = true → fresh.prevHash = w.index.prevHash ∧
      fresh.entries.map normal = w.index.entries.map normal)

/-- The file has an entry of the session. -/
def Recorded (config : IndexConfig) (file : Option Text) (sessionId : Str) : Prop :=
  ∃ fresh, freshLoad crypto config file = .ok fresh ∧
    (getEntry sessionId fresh.entries).isSome = true

/-- The call gets past the loading of the file. -/
def IndexTurn.Loads (turn : IndexTurn) (w : IndexWorld) : Prop :=
  w.index.loaded = true ∨ (turn.readFails && w.file.isSome) = false

/-- Nothing fails before the index changes what it remembers. -/
def IndexTurn.signs (turn : IndexTurn) (config : IndexConfig) : Bool :=
  !(turn.directoryFails || (turn.signFails && config.identity.isSome))

/-- What an entry takes over from a recorder comes back as it is. -/
structure FaithfulRecorder (recorder : Recorder) (logPath : Str) : Prop where
  sessionId : IsJson (.str recorder.config.sessionId)
  named : recorder.config.sessionId ≠ []
  agentId : IsJson (.str recorder.config.agentId)
  logPath : IsJson (.str logPath)
  firstEventHash : ∀ hash, recorder.firstEventHash = some hash → IsJson (.str hash)

structure SessionUpdate.Faithful (update : SessionUpdate) : Prop where
  firstEventHash : ∀ recorder hash, update.recorder = some recorder →
    recorder.firstEventHash = some hash → IsJson (.str hash)
  summary : ∀ members, update.summary = some members → IsJson (.dict members)
  remoteReceipt : ∀ members, update.remoteReceipt = some members → IsJson (.dict members)

variable (turns : Nat → IndexTurn)

/-- An opened session fails before the index remembers it or not at all, an update of a
recorded session does not fail, and what they write comes back as it is. -/
def IndexCall.Accounted (w : IndexWorld) : IndexCall → Prop
  | .openSession recorder logPath =>
      (turns w.turns).Loads w → (turns w.turns).signs w.index.config = true →
        (turns w.turns).write.isDurable = true ∧ FaithfulRecorder recorder logPath
  | .updateSession sessionId update =>
      (turns w.turns).Loads w → Recorded crypto w.index.config w.file sessionId →
        (turns w.turns).signs w.index.config = true ∧ (turns w.turns).write.isDurable = true ∧
          update.Faithful
  | .getSession _ | .restart => True

end

/-! The invariant: the entries written so far, in the file and in memory. -/

structure Filed (config : IndexConfig) (file : Option Text)
    (entries : List SessionManifestEntry) : Prop where
  text : file.getD [] = indexText config entries
  faithful : ∀ entry ∈ entries, entry.Faithful
  named : ∀ entry ∈ entries, entry.Named
  linked : (indexChain config).Linked (.str genesisHash) entries

structure Remembered (index : SessionIndex) (entries : List SessionManifestEntry) : Prop where
  prevHash : .str index.prevHash = (indexChain index.config).tipAfter (.str genesisHash) entries
  stored : index.entries.map normal = replay index.config entries []
  sound : ∀ stored ∈ index.entries,
    stored.1 = stored.2.sessionId ∧ stored.2.Named ∧ stored.2.Faithful

def Accountable (w : IndexWorld) : Prop :=
  ∃ entries, Filed w.index.config w.file entries ∧
    (w.index.loaded = true → Remembered w.index entries) ∧
    (w.index.loaded = false → w.index = SessionIndex.create w.index.config)

section

variable {crypto : Crypto} {turns : Nat → IndexTurn}

theorem map_normal_replay (config : IndexConfig) {entries : List SessionManifestEntry}
    (faithful : ∀ entry ∈ entries, entry.Faithful) {stored : List (Value × SessionManifestEntry)}
    (normalised : stored.map normal = stored) :
    (replay config entries stored).map normal = replay config entries stored := by
  induction entries generalizing stored with
  | nil => exact normalised
  | cons entry rest ih =>
      refine ih (fun other member => faithful other (by simp [member])) ?_
      have hashed : (config.hashed entry).Faithful := faithful entry (by simp)
      rw [map_normal_setEntry, normalised,
        SessionManifestEntry.sorted_sorted hashed (Str.joinSurrogates_ofText _)]

theorem replays_of_accountable {w : IndexWorld}
    (verifies : w.index.config.Verifies crypto) (accountable : Accountable w) :
    Replays crypto w := by
  obtain ⟨entries, filed, remembered, -⟩ := accountable
  obtain ⟨fresh, loads, tip, stored⟩ := freshLoad_indexText verifies filed.faithful filed.named
    filed.linked filed.text
  refine ⟨fresh, loads, fun loaded => ⟨?_, ?_⟩⟩
  · have isTip := tip.trans (remembered loaded).prevHash.symm
    exact Value.str.inj isTip
  · rw [stored, map_normal_replay _ filed.faithful rfl, (remembered loaded).stored]

private theorem isJson_getD {α : Type} {given : Option α} {f : α → Value} {default : Value}
    (chosen : ∀ a, given = some a → IsJson (f a)) (isDefault : IsJson default) :
    IsJson ((given.map f).getD default) := by
  cases isGiven : given with
  | none => exact isDefault
  | some a => exact chosen a isGiven

private theorem Remembered.isJson_prevHash {index : SessionIndex}
    {entries : List SessionManifestEntry} (remembered : Remembered index entries) :
    IsJson (.str index.prevHash) := by
  rw [remembered.prevHash]
  cases entries using List.reverseRecOn with
  | nil => exact Str.joinSurrogates_ofText _
  | append_singleton front last =>
      rw [HashChain.tipAfter_snoc]
      exact Str.joinSurrogates_ofText _

private theorem eq_of_eqv_str {v : Value} {s : Str} (same : v.eqv (.str s) = true) :
    v = .str s := by
  cases v with
  | str t =>
      rw [Value.eqv] at same
      exact congrArg Value.str (eq_of_beq same)
  | null | bool | int | float | list | dict => cases same

private theorem mem_replay {config : IndexConfig} {entries : List SessionManifestEntry}
    {stored : List (Value × SessionManifestEntry)} {found : Value × SessionManifestEntry}
    (member : found ∈ replay config entries stored) :
    found ∈ stored ∨ ∃ entry ∈ entries, found.2 = (config.hashed entry).sorted ∧
      (found.1 = entry.sessionId ∨ found.1.eqv entry.sessionId = true) := by
  induction entries generalizing stored with
  | nil => exact Or.inl member
  | cons entry rest ih =>
      rcases ih member with before | ⟨later, below, facts⟩
      · rcases mem_setEntry before with kept | facts
        · exact Or.inl kept
        · exact Or.inr ⟨entry, List.mem_cons_self, facts⟩
      · exact Or.inr ⟨later, List.mem_cons_of_mem _ below, facts⟩

/-- What was just loaded is remembered. -/
private theorem remembered_loaded {config : IndexConfig} {entries : List SessionManifestEntry}
    {file : Option Text} (filed : Filed config file entries) {tip : Str}
    (isTip : .str tip = (indexChain config).tipAfter (.str genesisHash) entries) :
    Remembered ⟨config, tip, replay config entries [], true⟩ entries := by
  refine ⟨isTip, map_normal_replay config filed.faithful rfl, fun stored member => ?_⟩
  rcases mem_replay member with absent | ⟨entry, written, isEntry, isKey⟩
  · cases absent
  · obtain ⟨sessionId, isName, filled⟩ := filed.named entry written
    have name : stored.2.sessionId = .str sessionId := by
      rw [isEntry]
      change sortKeys entry.sessionId = _
      rw [isName]
      rfl
    have key : stored.1 = .str sessionId := by
      rw [isName] at isKey
      exact isKey.elim id eq_of_eqv_str
    have hashed : (config.hashed entry).Faithful := filed.faithful entry written
    refine ⟨key.trans name.symm, ⟨sessionId, name, filled⟩, ?_⟩
    rw [isEntry]
    exact hashed.sorted

/-- An entry that follows the last is written to the file and remembered. -/
private theorem accountable_written {w : IndexWorld} {entries : List SessionManifestEntry}
    (filed : Filed w.index.config w.file entries) (remembered : Remembered w.index entries)
    (loaded : w.index.loaded = true) {entry : SessionManifestEntry} (faithful : entry.Faithful)
    (named : entry.Named) (follows : entry.prevHash = .str w.index.prevHash) {write : Write}
    (durable : write.isDurable = true) : Accountable (w.written write entry) := by
  have reached : w.written write entry = ⟨{ w.index with
      entries := setEntry entry.sessionId (w.index.config.hashed entry) w.index.entries
      prevHash := w.index.config.recordHash entry }, some (w.file.getD [] ++
        lineText .compact (sortKeys (w.index.config.record entry))), w.turns⟩ := by
    cases write with
    | durable => rfl
    | refused | raised => cases durable
  rw [reached]
  refine ⟨entries ++ [entry], ⟨?_, ?_, ?_, ?_⟩, fun _ => ⟨?_, ?_, ?_⟩, fun unloaded => ?_⟩
  · rw [Option.getD_some, filed.text, indexText, indexText, List.map_append, List.map_singleton,
      fileText_snoc]
  · intro other member
    rcases List.mem_append.mp member with before | last
    · exact filed.faithful other before
    · rw [List.mem_singleton.mp last]
      exact faithful
  · intro other member
    rcases List.mem_append.mp member with before | last
    · exact filed.named other before
    · rw [List.mem_singleton.mp last]
      exact named
  · rw [HashChain.linked_snoc]
    exact ⟨filed.linked, follows.trans remembered.prevHash⟩
  · rw [HashChain.tipAfter_snoc]
    rfl
  · rw [map_normal_setEntry, remembered.stored, replay, replay, List.foldl_append]
    rfl
  · intro stored member
    rcases mem_setEntry member with before | ⟨isEntry, isKey⟩
    · exact remembered.sound stored before
    · have isNamed := named
      obtain ⟨sessionId, isName, -⟩ := named
      rw [isEntry]
      refine ⟨?_, isNamed, faithful⟩
      rw [isName] at isKey
      exact (isKey.elim id eq_of_eqv_str).trans isName.symm
  · rw [loaded] at unloaded
    cases unloaded

private theorem Remembered.accountable {w : IndexWorld} {entries : List SessionManifestEntry}
    (remembered : Remembered w.index entries) (filed : Filed w.index.config w.file entries)
    (loaded : w.index.loaded = true) : Accountable w := by
  refine ⟨entries, filed, fun _ => remembered, fun unloaded => ?_⟩
  rw [loaded] at unloaded
  cases unloaded

/-- Where a call on an accountable index stands once the file is loaded. -/
private structure Loaded (turn : IndexTurn) (w reached : IndexWorld)
    (entries : List SessionManifestEntry) : Prop where
  filed : Filed reached.index.config reached.file entries
  remembered : Remembered reached.index entries
  loaded : reached.index.loaded = true
  config : reached.index.config = w.index.config
  file : reached.file = w.file
  loads : turn.Loads w

private theorem ensureLoaded_accountable {turn : IndexTurn} {w : IndexWorld}
    (verifies : w.index.config.Verifies crypto) (accountable : Accountable w) :
    Program.wp (ensureLoaded crypto turn.readFails) (fun outcome after =>
      (outcome ≠ .ok () → after = w) ∧
        (outcome = .ok () → ∃ entries, Loaded turn w after entries)) w := by
  obtain ⟨entries, filed, remembered, new⟩ := accountable
  unfold ensureLoaded
  rw [Program.wp_bind, Program.wp_get, Program.andThen_ok, Program.wp_ite]
  refine ⟨fun loaded => ⟨fun failed => absurd rfl failed, fun _ => ?_⟩, fun unloaded => ?_⟩
  · exact ⟨entries, filed, remembered loaded, loaded, rfl, rfl, Or.inl loaded⟩
  · rw [Bool.not_eq_true] at unloaded
    obtain ⟨tip, isTip, loads⟩ := load_indexText verifies filed.faithful filed.named filed.linked
      rfl filed.text turn.readFails
    rw [Program.wp_bind]
    refine Program.wp_mono loads ?_
    intro outcome after reached
    cases fails : turn.readFails && w.file.isSome with
    | true =>
        rw [fails] at reached
        obtain ⟨raised, same⟩ := reached
        rw [raised]
        exact ⟨fun _ => same, nofun⟩
    | false =>
        rw [fails] at reached
        obtain ⟨returned, stored⟩ := reached
        have empty : w.index.entries = [] := by
          rw [new unloaded]
          rfl
        have remembered : Remembered ⟨w.index.config, tip,
            replay w.index.config entries w.index.entries, true⟩ entries := by
          rw [empty]
          exact remembered_loaded filed isTip
        rw [returned, stored, Program.andThen_ok, Program.wp_modify]
        exact ⟨fun failed => absurd rfl failed,
          fun _ => ⟨entries, filed, remembered, rfl, rfl, rfl, Or.inr fails⟩⟩

/-- Every call takes its turn and loads the file before it does anything else. -/
private theorem accountable_begin {α : Type} {w : IndexWorld}
    (verifies : w.index.config.Verifies crypto) (accountable : Accountable w)
    {rest : IndexTurn → Indexing α}
    (continues : ∀ reached entries, Loaded (turns w.turns) w reached entries →
      Program.wp (rest (turns w.turns)) (fun _ => Accountable) reached) :
    Program.wp (takeIndexTurn turns >>= fun turn =>
      ensureLoaded crypto turn.readFails >>= fun _ => rest turn) (fun _ => Accountable) w := by
  have turned : Accountable { w with turns := w.turns + 1 } := accountable
  unfold takeIndexTurn
  simp only [Program.wp_bind, Program.wp_get, Program.wp_modify, Program.andThen_ok,
    Program.wp_pure]
  have checked : Program.wp (ensureLoaded crypto (turns w.turns).readFails) (fun outcome after =>
      (outcome ≠ .ok () → after = { w with turns := w.turns + 1 }) ∧
        (outcome = .ok () → ∃ entries,
          Loaded (turns w.turns) { w with turns := w.turns + 1 } after entries))
      { w with turns := w.turns + 1 } := ensureLoaded_accountable verifies turned
  refine Program.wp_mono checked ?_
  intro outcome reached ended
  obtain ⟨failed, returned⟩ := ended
  cases outcome with
  | error raised =>
      rw [Program.andThen_error, failed (by intro same; cases same)]
      exact turned
  | ok loaded =>
      obtain ⟨entries, isLoaded⟩ := returned rfl
      exact continues reached entries ⟨isLoaded.filed, isLoaded.remembered, isLoaded.loaded,
        isLoaded.config, isLoaded.file, isLoaded.loads⟩

private theorem writeEntry_accountable {w : IndexWorld} {entries : List SessionManifestEntry}
    (filed : Filed w.index.config w.file entries) (remembered : Remembered w.index entries)
    (loaded : w.index.loaded = true) {entry : SessionManifestEntry} (faithful : entry.Faithful)
    (named : entry.Named) (follows : entry.prevHash = .str w.index.prevHash) {turn : IndexTurn}
    (durable : turn.signs w.index.config = true → turn.write.isDurable = true) :
    Program.wp (writeEntry turn entry) (fun _ => Accountable) w := by
  refine Program.wp_mono (writeEntry_faithful faithful turn w) ?_
  intro outcome after reached
  rw [IndexTurn.signs] at durable
  rw [reached]
  split
  · exact remembered.accountable filed loaded
  · next signs =>
      rw [Bool.not_eq_true] at signs
      refine accountable_written filed remembered loaded faithful named follows (durable ?_)
      rw [signs]
      rfl

/-- Signing fails whatever the entry holds. -/
private theorem writeEntry_unsigned {turn : IndexTurn} {w : IndexWorld}
    (unsigned : turn.signs w.index.config = false) (entry : SessionManifestEntry) :
    Program.wp (writeEntry turn entry) (fun _ after => after = w) w := by
  rw [IndexTurn.signs, Bool.not_eq_false', Bool.or_eq_true, Bool.and_eq_true] at unsigned
  unfold writeEntry
  rw [Program.wp_bind, Program.wp_require]
  refine ⟨fun creates => ?_, fun _ => rfl⟩
  rw [Program.andThen_ok, Program.wp_bind, Program.wp_get, Program.andThen_ok, Program.wp_bind,
    Program.wp_ofExcept]
  rcases unsigned with fails | ⟨fails, signer⟩
  · rw [fails] at creates
    cases creates
  · obtain ⟨identity, isIdentity⟩ := Option.isSome_iff_exists.mp signer
    unfold signEntry
    rw [isIdentity, fails]
    dsimp only
    cases indexSigningBytes (Value.object (entry.fields ++ identity.fields)) with
    | none => rfl
    | some payload => rfl

theorem openSession_accountable {w : IndexWorld} (verifies : w.index.config.Verifies crypto)
    (accountable : Accountable w) {recorder : Recorder} {logPath : Str}
    (accounted : (IndexCall.openSession recorder logPath).Accounted crypto turns w) :
    Program.wp (openSession crypto turns recorder logPath) (fun _ => Accountable) w := by
  refine accountable_begin verifies accountable ?_
  intro reached entries at_
  rw [Program.wp_bind, Program.wp_get, Program.andThen_ok]
  cases signs : (turns w.turns).signs reached.index.config with
  | false =>
      refine Program.wp_mono (writeEntry_unsigned signs _) ?_
      intro outcome after same
      rw [same]
      exact at_.remembered.accountable at_.filed at_.loaded
  | true =>
      rw [at_.config] at signs
      obtain ⟨durable, faithful⟩ := accounted at_.loads signs
      have isJson : ∀ text : Text, IsJson (.str (Str.ofText text)) := Str.joinSurrogates_ofText
      have firstEventHash : IsJson ((recorder.firstEventHash.map Value.str).getD .null) :=
        isJson_getD faithful.firstEventHash trivial
      refine writeEntry_accountable at_.filed at_.remembered at_.loaded ?_
        ⟨recorder.config.sessionId, rfl, faithful.named⟩ rfl fun _ => durable
      exact SessionManifestEntry.faithful_iff.mpr ⟨faithful.sessionId, faithful.agentId,
        isJson _, isJson _, faithful.logPath, firstEventHash, trivial, trivial, isJson _,
        trivial, trivial, trivial, at_.remembered.isJson_prevHash⟩

/-! Updating a session. -/

private theorem getEntry_some {sessionId : Str} {stored : List (Value × SessionManifestEntry)}
    {entry : SessionManifestEntry} (found : getEntry sessionId stored = some entry) :
    (Value.str sessionId, entry) ∈ stored := by
  obtain ⟨pair, isFound, rfl⟩ := Option.map_eq_some_iff.mp found
  have same : pair.1.eqv (.str sessionId) = true :=
    List.find?_some (p := fun stored : Value × SessionManifestEntry =>
      stored.1.eqv (.str sessionId)) isFound
  rw [← eq_of_eqv_str same]
  exact List.mem_of_find?_eq_some isFound

private theorem getEntry_normal (sessionId : Str) (stored : List (Value × SessionManifestEntry)) :
    getEntry sessionId (stored.map normal) =
      (getEntry sessionId stored).map SessionManifestEntry.sorted := by
  rw [getEntry, getEntry, List.find?_map, Option.map_map, Option.map_map]
  rfl

private theorem SessionUpdate.apply_faithful {update : SessionUpdate} (faithful : update.Faithful)
    {entry : SessionManifestEntry} (before : entry.Faithful) (now : Datetime) {prevHash : Str}
    (isJson : IsJson (.str prevHash)) : (update.apply now prevHash entry).Faithful := by
  obtain ⟨sessionId, agentId, auditMode, startedAt, logPath, firstEventHash, lastKnownSeq,
    lastHeartbeatTs, sessionState, closedAt, summary, remoteReceipt, -⟩ :=
    SessionManifestEntry.faithful_iff.mp before
  refine SessionManifestEntry.faithful_iff.mpr ⟨sessionId, agentId, auditMode, startedAt, logPath,
    ?_, ?_, lastHeartbeatTs, ?_, ?_, ?_, ?_, isJson⟩
  · refine isJson_getD (fun hash isHash => ?_) firstEventHash
    obtain ⟨bound, -⟩ := Option.filter_eq_some_iff.mp isHash
    obtain ⟨recorder, isRecorder, isFirst⟩ := Option.bind_eq_some_iff.mp bound
    exact faithful.firstEventHash recorder hash isRecorder isFirst
  · exact isJson_getD (fun _ _ => trivial) lastKnownSeq
  · exact isJson_getD (fun _ _ => Str.joinSurrogates_lit _) sessionState
  · change IsJson (if _ then _ else _)
    split
    · exact Str.joinSurrogates_ofText _
    · exact closedAt
  · exact isJson_getD faithful.summary summary
  · exact isJson_getD faithful.remoteReceipt remoteReceipt

/-- The entry was changed in its place before it is written there. -/
private theorem written_store {w : IndexWorld} {sessionId : Str} {entry : SessionManifestEntry}
    (name : entry.sessionId = .str sessionId) (write : Write) :
    (w.update fun index => index.store (.str sessionId) entry).written write entry =
      w.written write entry := by
  have twice : setEntry (.str sessionId) (w.index.config.hashed entry)
      (setEntry (.str sessionId) entry w.index.entries) =
        setEntry (.str sessionId) (w.index.config.hashed entry) w.index.entries :=
    setEntry_setEntry _ (eqv_str_self sessionId) _ _ _
  unfold IndexWorld.written IndexWorld.update SessionIndex.store
  dsimp only
  rw [name, twice]

theorem updateSession_accountable {w : IndexWorld} (verifies : w.index.config.Verifies crypto)
    (accountable : Accountable w) {sessionId : Str} {update : SessionUpdate}
    (accounted : (IndexCall.updateSession sessionId update).Accounted crypto turns w) :
    Program.wp (updateSession crypto turns sessionId update) (fun _ => Accountable) w := by
  refine accountable_begin verifies accountable ?_
  intro reached entries at_
  rw [Program.wp_bind, Program.wp_get, Program.andThen_ok]
  cases found : getEntry sessionId reached.index.entries with
  | none => exact at_.remembered.accountable at_.filed at_.loaded
  | some entry =>
      have recorded : Recorded crypto w.index.config w.file sessionId := by
        have filed := at_.filed
        rw [at_.config, at_.file] at filed
        obtain ⟨fresh, isFresh, -, stored⟩ := freshLoad_indexText verifies filed.faithful
          filed.named filed.linked filed.text
        refine ⟨fresh, isFresh, ?_⟩
        rw [stored, ← at_.config, ← at_.remembered.stored, getEntry_normal, found]
        rfl
      obtain ⟨signs, durable, faithful⟩ := accounted at_.loads recorded
      obtain ⟨key, named, before⟩ := at_.remembered.sound _ (getEntry_some found)
      generalize changed : update.apply (turns w.turns).now reached.index.prevHash entry = entry'
      have name : entry'.sessionId = .str sessionId := by
        rw [← changed]
        exact key.symm
      have changedFaithful : entry'.Faithful := by
        rw [← changed]
        exact update.apply_faithful faithful before _ at_.remembered.isJson_prevHash
      have follows : entry'.prevHash = .str reached.index.prevHash := by
        rw [← changed]
        rfl
      have changedNamed : entry'.Named := by
        rw [← changed]
        exact named
      rw [← at_.config, IndexTurn.signs, Bool.not_eq_true'] at signs
      dsimp only
      rw [changed, Program.wp_bind, Program.wp_modify, Program.andThen_ok, Program.wp_bind]
      refine Program.wp_mono (writeEntry_faithful changedFaithful (turns w.turns) _) ?_
      intro outcome after isAfter
      have written : Accountable after := by
        rw [isAfter, if_neg, written_store name]
        · exact accountable_written at_.filed at_.remembered at_.loaded changedFaithful changedNamed
            follows durable
        · rw [Bool.not_eq_true]
          exact signs
      cases outcome with
      | error raised => exact written
      | ok returned => exact written

/-- Loading alone writes nothing. -/
theorem getSession_accountable {w : IndexWorld} (verifies : w.index.config.Verifies crypto)
    (accountable : Accountable w) (sessionId : Str) :
    Program.wp (getSession crypto turns sessionId) (fun _ => Accountable) w := by
  refine accountable_begin verifies accountable ?_
  intro reached entries at_
  exact at_.remembered.accountable at_.filed at_.loaded

theorem accountable_run {w : IndexWorld} (verifies : w.index.config.Verifies crypto)
    (accountable : Accountable w) {call : IndexCall} (accounted : call.Accounted crypto turns w) :
    Accountable (call.run crypto turns w) := by
  cases call with
  | openSession recorder logPath => exact openSession_accountable verifies accountable accounted
  | updateSession sessionId update => exact updateSession_accountable verifies accountable accounted
  | getSession sessionId => exact getSession_accountable verifies accountable sessionId
  | restart =>
      obtain ⟨entries, filed, -⟩ := accountable
      exact ⟨entries, filed, nofun, fun _ => rfl⟩

/-! No call changes the configuration. -/

private def Configured (config : IndexConfig) (w : IndexWorld) : Prop :=
  w.index.config = config

private structure Upright (config : IndexConfig) (w : IndexWorld) : Prop where
  configured : Configured config w
  accountable : Accountable w

section Configured

variable {config : IndexConfig}

private theorem configured_update {f : SessionIndex → SessionIndex}
    (same : ∀ index, (f index).config = index.config) :
    (Program.modify fun w => w.update f : Indexing Unit).Keeps (Configured config) :=
  Program.Keeps.modify fun _ configured => (same _).trans configured

private theorem configured_storeRecords (records : List Value) :
    (storeRecords records).Keeps (Configured config) := by
  induction records with
  | nil => exact Program.Keeps.pure _
  | cons record rest ih =>
      refine Program.Keeps.bind (Program.Keeps.require _ _) fun _ => ?_
      refine Program.Keeps.bind (Program.Keeps.require _ _) fun _ => ?_
      exact Program.Keeps.bind (configured_update fun _ => rfl) fun _ => ih

private theorem configured_ensureLoaded (readFails : Bool) :
    (ensureLoaded crypto readFails).Keeps (Configured config) := by
  refine Program.Keeps.bind Program.Keeps.get fun w => ?_
  refine Program.Keeps.ite (fun _ => Program.Keeps.pure _) fun _ => ?_
  refine Program.Keeps.bind ?_ fun _ => configured_update fun _ => rfl
  refine Program.Keeps.bind Program.Keeps.get fun w => ?_
  refine Program.Keeps.bind (Program.Keeps.require _ _) fun _ => ?_
  refine Program.Keeps.bind (Program.Keeps.ofExcept _) fun found => ?_
  exact Program.Keeps.bind (configured_storeRecords _) fun _ => configured_update fun _ => rfl

private theorem configured_writeEntry (turn : IndexTurn) (entry : SessionManifestEntry) :
    (writeEntry turn entry).Keeps (Configured config) := by
  refine Program.Keeps.bind (Program.Keeps.require _ _) fun _ => ?_
  refine Program.Keeps.bind Program.Keeps.get fun w => ?_
  refine Program.Keeps.bind (Program.Keeps.ofExcept _) fun signed => ?_
  refine Program.Keeps.bind (Program.Keeps.ofExcept _) fun hash => ?_
  refine Program.Keeps.bind (configured_update fun _ => rfl) fun _ => ?_
  refine Program.Keeps.bind (Program.Keeps.ofExcept _) fun prevHash => ?_
  refine Program.Keeps.bind (configured_update fun _ => rfl) fun _ => ?_
  refine Program.Keeps.bind (Program.Keeps.modify fun w configured => ?_) fun _ =>
    Program.Keeps.bind (Program.Keeps.require _ _) fun _ => Program.Keeps.pure _
  cases turn.write <;> exact configured

private theorem configured_takeIndexTurn :
    (takeIndexTurn turns).Keeps (Configured config) :=
  Program.Keeps.bind Program.Keeps.get fun _ =>
    Program.Keeps.bind (Program.Keeps.modify fun _ configured => configured)
      fun _ => Program.Keeps.pure _

private theorem configured_run {w : IndexWorld} (configured : Configured config w)
    (call : IndexCall) : Configured config (call.run crypto turns w) := by
  cases call with
  | openSession recorder logPath =>
      refine Program.Keeps.bind configured_takeIndexTurn (fun turn => ?_) w configured
      refine Program.Keeps.bind (configured_ensureLoaded _) fun _ => ?_
      exact Program.Keeps.bind Program.Keeps.get fun _ => configured_writeEntry _ _
  | updateSession sessionId update =>
      refine Program.Keeps.bind configured_takeIndexTurn (fun turn => ?_) w configured
      refine Program.Keeps.bind (configured_ensureLoaded _) fun _ => ?_
      refine Program.Keeps.bind Program.Keeps.get fun reached => ?_
      cases getEntry sessionId reached.index.entries with
      | none => exact Program.Keeps.pure _
      | some entry =>
          refine Program.Keeps.bind (configured_update fun _ => rfl) fun _ => ?_
          exact Program.Keeps.bind (configured_writeEntry _ _) fun _ => Program.Keeps.pure _
  | getSession sessionId =>
      refine Program.Keeps.bind configured_takeIndexTurn (fun turn => ?_) w configured
      refine Program.Keeps.bind (configured_ensureLoaded _) fun _ => ?_
      exact Program.Keeps.bind Program.Keeps.get fun _ => Program.Keeps.pure _
  | restart => exact configured

end Configured

/-- While no update of a recorded session fails and no opened session fails at the write,
an index remembers what its file yields, and the file loads. -/
theorem replays_of_run {config : IndexConfig} (verifies : config.Verifies crypto)
    {calls : List IndexCall} {w : IndexWorld} (run : (indexSystem crypto turns config).Run calls w)
    (accounted : (indexSystem crypto turns config).Guarded
      (fun w call => call.Accounted crypto turns w) calls) : Replays crypto w := by
  have upright : Upright config w := by
    refine run.invariant_guarded ?_ ?_ accounted
    · intro w first
      rw [first]
      exact ⟨rfl, [], ⟨rfl, nofun, nofun, trivial⟩, nofun, fun _ => rfl⟩
    · intro w call after holds isAccounted next
      obtain ⟨configured, accountable⟩ := holds
      rw [← configured] at verifies
      rw [next]
      exact ⟨configured_run configured call, accountable_run verifies accountable isAccounted⟩
  rw [← upright.configured] at verifies
  exact replays_of_accountable verifies upright.accountable

end

theorem run_index (crypto : Crypto) (turns : Nat → IndexTurn) (config : IndexConfig)
    (calls : List IndexCall) :
    (indexSystem crypto turns config).Run calls
      (calls.foldl (IndexCall.run crypto turns) (newIndexWorld config)) := by
  induction calls using List.reverseRecOn with
  | nil => exact .start rfl
  | append_singleton front call ih =>
      rw [List.foldl_append]
      exact ih.step rfl

/-! A session that is opened and sealed, in a signed index and in one whose disk refuses
the second line. -/

def quietIndexTurn : IndexTurn where
  now := quietTurn.now
  readFails := false
  directoryFails := false
  signFails := false
  write := .durable

def signingIndexConfig : IndexConfig where
  identity := some ⟨⟨digestSignature, List.replicate 32 7⟩, "SC-00000000".toList⟩
  requireSignatures := true
  signing _ := rfl

def openConsumer : IndexCall :=
  .openSession (Recorder.create consumerConfig) (Str.lit "session.jsonl")

def sealSummary : Members :=
  Members.of [("turns", .int 2), ("calls", .int 1)]

def sealConsumer : IndexCall :=
  .updateSession (Str.lit "session") ⟨none, some .sealed, some sealSummary, none⟩

theorem replays_of_run_sealConsumer :
    Replays digestCrypto ([openConsumer, sealConsumer].foldl
      (IndexCall.run digestCrypto fun _ => quietIndexTurn) (newIndexWorld signingIndexConfig)) := by
  have verifies : signingIndexConfig.Verifies digestCrypto := by
    intro _ identity isIdentity message
    cases isIdentity
    simp [digestCrypto]
  refine replays_of_run verifies (run_index _ _ _ _) (System.Guarded.of_forall ?_)
  intro w call member
  have text : ∀ s : String, IsJson (.str (Str.lit s)) := Str.joinSurrogates_lit
  have summary : IsJson (.dict sealSummary) := by
    refine isJson_object (by simp) fun field member => ?_
    simp only [List.mem_cons, List.not_mem_nil, or_false] at member
    rcases member with rfl | rfl <;> trivial
  simp only [List.mem_cons, List.not_mem_nil, or_false] at member
  rcases member with rfl | rfl
  · intro _ _
    refine ⟨rfl, text "session", by decide, text "agent", text "session.jsonl", ?_⟩
    intro hash given
    cases given
  · intro _ _
    have faithful : SessionUpdate.Faithful ⟨none, some .sealed, some sealSummary, none⟩ := by
      constructor
      · intro recorder hash given
        cases given
      · intro members given
        rw [← Option.some.inj given]
        exact summary
      · intro members given
        cases given
    exact ⟨rfl, rfl, faithful⟩

def unsignedIndexConfig : IndexConfig where
  identity := none
  requireSignatures := false
  signing := nofun

def refusedSecondLine (n : Nat) : IndexTurn :=
  { quietIndexTurn with write := if n = 1 then .refused else .durable }

def refusedRun (calls : List IndexCall) : IndexWorld :=
  calls.foldl (IndexCall.run digestCrypto refusedSecondLine) (newIndexWorld unsignedIndexConfig)

/-- Which of the sessions an index calls sealed. -/
def sealedSessions (index : SessionIndex) : List Bool :=
  (index.entries.map normal).map fun stored => isText (some stored.2.sessionState) "sealed"

/-- The index remembers the seal that the disk refused. -/
theorem refused_update_not_replayed :
    (indexSystem digestCrypto refusedSecondLine unsignedIndexConfig).Run
        [openConsumer, sealConsumer] (refusedRun [openConsumer, sealConsumer]) ∧
      ¬ Replays digestCrypto (refusedRun [openConsumer, sealConsumer]) := by
  have remembered : (refusedRun [openConsumer, sealConsumer]).index.loaded = true ∧
      sealedSessions (refusedRun [openConsumer, sealConsumer]).index = [true] ∧
      (freshLoad digestCrypto (refusedRun [openConsumer, sealConsumer]).index.config
        (refusedRun [openConsumer, sealConsumer]).file).toOption.map sealedSessions =
          some [false] := by
    decide +kernel
  refine ⟨run_index digestCrypto refusedSecondLine unsignedIndexConfig [openConsumer, sealConsumer],
    fun ⟨fresh, loads, agrees⟩ => ?_⟩
  obtain ⟨loaded, memory, file⟩ := remembered
  have same : sealedSessions fresh = sealedSessions (refusedRun [openConsumer, sealConsumer]).index :=
    congrArg (List.map fun stored : Value × SessionManifestEntry =>
      isText (some stored.2.sessionState) "sealed") (agrees loaded).2
  rw [loads, Except.toOption, Option.map_some, same, memory] at file
  cases file

end SelfConnect.Sessions
