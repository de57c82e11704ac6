import SelfConnect.Ledger.Segments
import SelfConnect.Library.HashChain

namespace SelfConnect.Ledger

open SelfConnect.Python SelfConnect.Python.Json SelfConnect.Library

/-! What the verification of a ledger accepts: entries that are numbered, linked and
signed, however they are spread over segments. -/

def Entry.text (entry : Entry) : Text :=
  render .compact (sortKeys (.dict entry.unsigned))

def Entry.hash (entry : Entry) : Text :=
  sha256Hex entry.text

structure SignedEntry where
  entry : Entry
  signature : Bytes

def SignedEntry.value (signed : SignedEntry) : Value :=
  signed.entry.record signed.signature

def SignedEntry.loaded (signed : SignedEntry) : Value :=
  build (reread signed.value)

def ledgerChain : HashChain SignedEntry Text where
  genesis := genesisHash
  previous signed := signed.entry.prevHash
  hash signed := signed.entry.hash

/-- The hash the next entry has to carry. -/
def headHash (entries : List SignedEntry) : Text :=
  ledgerChain.tipAfter genesisHash entries

section

variable (verify : Ed25519Verify) (identity : AgentIdentity)

/-- An entry that is accepted in its place. -/
structure SignedEntry.Sound (signed : SignedEntry) : Prop where
  admitted : signed.entry.Admitted
  agentId : signed.entry.agentId = identity.agentId
  sorts : sortable (.dict signed.entry.unsigned) = true
  stable : keysStable (.dict signed.entry.unsigned) = true
  verified : verify (encode signed.entry.text) signed.signature identity.publicKey = true

structure Accepted (entries : List SignedEntry) : Prop where
  sound : ∀ signed ∈ entries, signed.Sound verify identity
  linked : ledgerChain.Linked genesisHash entries
  numbered : entries.map (fun signed => signed.entry.seq) = numbering entries.length

end

variable {verify : Ed25519Verify} {identity : AgentIdentity}

theorem accepted_nil : Accepted verify identity [] :=
  ⟨by simp, trivial, rfl⟩

theorem accepted_snoc {entries : List SignedEntry} {signed : SignedEntry} :
    Accepted verify identity (entries ++ [signed]) ↔
      Accepted verify identity entries ∧ signed.Sound verify identity ∧
        signed.entry.prevHash = headHash entries ∧ signed.entry.seq = entries.length + 1 := by
  constructor
  · rintro ⟨sound, linked, numbered⟩
    rw [ledgerChain.linked_snoc] at linked
    rw [List.map_append, List.length_append, List.length_singleton, numbering_succ,
      List.map_singleton] at numbered
    obtain ⟨front, last⟩ := List.append_inj' numbered rfl
    exact ⟨⟨fun e member => sound e (by simp [member]), linked.1, front⟩, sound signed (by simp),
      linked.2, by simpa using last⟩
  · rintro ⟨⟨sound, linked, numbered⟩, lastSound, prevHash, seq⟩
    refine ⟨?_, (ledgerChain.linked_snoc _ _ _).mpr ⟨linked, prevHash⟩, ?_⟩
    · intro e member
      rcases List.mem_append.mp member with front | last
      · exact sound e front
      · rw [List.mem_singleton.mp last]
        exact lastSound
    · rw [List.map_append, numbered, List.length_append, List.length_singleton, numbering_succ,
        List.map_singleton, seq]

theorem accepted_front {front back : List SignedEntry}
    (accepted : Accepted verify identity (front ++ back)) : Accepted verify identity front := by
  induction back using List.reverseRecOn with
  | nil => simpa using accepted
  | append_singleton rest last ih =>
      rw [← List.append_assoc] at accepted
      exact ih (accepted_snoc.mp accepted).1

/-! One entry read back. -/

namespace SignedEntry

theorem stringKeys {signed : SignedEntry} (sound : signed.Sound verify identity) :
    StringKeys signed.entry.unsigned :=
  stringKeys_of_sortable sound.sorts (signed.entry.seq_mem sound.admitted)

theorem loaded_eq {signed : SignedEntry} (sound : signed.Sound verify identity) :
    signed.loaded = .dict (Members.set (Str.lit "sig")
      (.str (Str.ofText (hexText signed.signature))) (rereadMembers signed.entry.unsigned)) := by
  rw [loaded, value, Entry.record, build_reread_dict, loadedMembers_set
    (Str.joinSurrogates_lit _) (Entry.lookup_sig sound.admitted),
    loadedMembers_of_keysStable sound.stable, reread, Str.joinSurrogates_ofText]
  rfl

theorem erase_sig {signed : SignedEntry} (sound : signed.Sound verify identity) (v : Value) :
    Members.erase (Str.lit "sig") (Members.set (Str.lit "sig") v
      (rereadMembers signed.entry.unsigned)) = rereadMembers signed.entry.unsigned := by
  rw [Members.erase_set_same, erase_rereadMembers (by decide) (stringKeys sound),
    Members.erase_of_lookup_eq_none (Entry.lookup_sig sound.admitted)]

theorem text_reread {signed : SignedEntry} (sound : signed.Sound verify identity) :
    render .compact (sortKeys (.dict (rereadMembers signed.entry.unsigned))) =
      signed.entry.text := by
  rw [← loadedMembers_of_keysStable sound.stable, ← build_reread_dict]
  exact (render_sortKeys_build_reread_iff .compact rfl _).mpr sound.stable

theorem signedText_loaded {signed : SignedEntry} (sound : signed.Sound verify identity) :
    signedText signed.loaded = some signed.entry.text := by
  rw [loaded_eq sound, signedText, erase_sig sound, ← text_reread sound,
    ← loadedMembers_of_keysStable sound.stable, ← build_reread_dict]
  exact if_pos (sortable_build_reread _)

theorem lookup_reread {signed : SignedEntry} (sound : signed.Sound verify identity)
    {name : String} (reserved : name ∈ reservedEntryFields) :
    Members.lookup (Str.lit name) (rereadMembers signed.entry.unsigned) =
      (Members.lookup (Str.lit name) signed.entry.head).map reread := by
  have isPlain : plain name = true := by
    revert name
    decide
  rw [lookup_rereadMembers isPlain (stringKeys sound),
    Entry.lookup_unsigned sound.admitted reserved]

theorem seq_loaded {signed : SignedEntry} (sound : signed.Sound verify identity) :
    signed.loaded.get? "seq" = some (.int signed.entry.seq) := by
  rw [loaded_eq sound, Value.get?_dict, Members.lookup_set_other (by simp),
    lookup_reread sound (by decide)]
  simp [Entry.head, Members.of, Members.lookup, reread]

end SignedEntry

/-- A sound entry that is next in number and chain is accepted. -/
theorem checkEntry_loaded {signed : SignedEntry} (sound : signed.Sound verify identity)
    (file : Text) (line : Nat) {cursor : Cursor} (seq : signed.entry.seq = cursor.expectedSeq)
    (prevHash : signed.entry.prevHash = cursor.prevHash) :
    checkEntry verify identity file line signed.loaded cursor =
      .ok
        { prevHash := signed.entry.hash
          count := cursor.count + 1
          expectedSeq := cursor.expectedSeq + 1
          entries := cursor.entries ++ [signed.loaded] } := by
  have seqFound := SignedEntry.lookup_reread sound (by decide : "seq" ∈ reservedEntryFields)
  have agentFound := SignedEntry.lookup_reread sound
    (by decide : "agent_id" ∈ reservedEntryFields)
  have prevFound := SignedEntry.lookup_reread sound
    (by decide : "prev_hash" ∈ reservedEntryFields)
  simp only [Entry.head, Members.of, List.map_cons, List.map_nil, Members.lookup, Str.lit_inj,
    String.reduceEq, if_true, if_false, Option.map_some, reread, sound.agentId,
    AgentIdentity.agentId, joinSurrogates_agentIdOf, Str.joinSurrogates_ofText]
    at seqFound agentFound prevFound
  have seqSame : (Value.int signed.entry.seq).eqv (.int cursor.expectedSeq) = true := by
    rw [seq]
    simp [Value.eqv, Value.number?, Number.eqv]
  have prevSame : (Value.str (Str.ofText signed.entry.prevHash)).eqv
      (.str (Str.ofText cursor.prevHash)) = true := by
    rw [prevHash, Value.eqv]
    exact beq_self_eq_true _
  have agentSame : (Value.str (agentIdOf true identity.publicKey)).eqv
      (.str (agentIdOf true identity.publicKey)) = true := by
    rw [Value.eqv]
    exact beq_self_eq_true _
  rw [SignedEntry.loaded_eq sound]
  unfold checkEntry
  simp only [Members.lookup_set_self, SignedEntry.erase_sig sound, Option.getD_some, seqFound,
    agentFound, AgentIdentity.agentId, prevFound, seqSame, prevSame, agentSame,
    Value.str?, Option.bind_some, fromHex_hexText, SignedEntry.text_reread sound, sound.verified,
    Bool.not_true, Bool.false_eq_true, if_false]
  rfl

/-! Files of such entries. -/

def entriesText (entries : List SignedEntry) : Text :=
  fileText .default (entries.map SignedEntry.value)

/-- Where the verification stands after some entries. -/
def cursorAt (entries : List SignedEntry) : Cursor where
  prevHash := headHash entries
  count := entries.length
  expectedSeq := entries.length + 1
  entries := entries.map SignedEntry.loaded

theorem SignedEntry.value_isDict (signed : SignedEntry) : signed.value.isDict = true := rfl

theorem loads_value (signed : SignedEntry) :
    loads (render .default signed.value) = some signed.loaded :=
  loads_render .default rfl signed.value

theorem filled_value (signed : SignedEntry) :
    (render .default signed.value).isEmpty = false := by
  obtain ⟨middle, equal⟩ := render_dict_ends .default (Members.set (Str.lit "sig")
    (.str (Str.ofText (hexText signed.signature))) signed.entry.unsigned)
  exact (congrArg List.isEmpty equal).trans rfl

private theorem checkLine_value {front : List SignedEntry} {signed : SignedEntry}
    (accepted : Accepted verify identity (front ++ [signed])) (file : Text) (line : Nat) :
    checkLine verify identity file (cursorAt front) (render .default signed.value, line) =
      .ok (cursorAt (front ++ [signed])) := by
  obtain ⟨-, sound, prevHash, seq⟩ := accepted_snoc.mp accepted
  have stripped : stripText isAsciiSpace (render .default signed.value) =
      render .default signed.value := stripText_render_dict _ rfl rfl _
  unfold checkLine
  simp only [stripped, filled_value, Bool.false_eq_true, if_false, loads_value]
  rw [checkEntry_loaded sound file line seq prevHash, Except.mapError]
  simp only [cursorAt, headHash, ledgerChain.tipAfter_snoc, List.map_append, List.map_singleton,
    List.length_append, List.length_singleton]
  rfl

private theorem checkLines_values (file : Text) {front : List SignedEntry}
    {entries : List SignedEntry} (accepted : Accepted verify identity (front ++ entries))
    (line : Nat) :
    (((entries.map SignedEntry.value).map (render .default)).zipIdx line).foldlM
        (checkLine verify identity file) (cursorAt front) =
      .ok (cursorAt (front ++ entries)) := by
  induction entries generalizing front line with
  | nil =>
      rw [List.append_nil]
      rfl
  | cons signed rest ih =>
      rw [List.append_cons] at accepted ⊢
      rw [List.map_cons, List.map_cons, List.zipIdx_cons, List.foldlM_cons,
        checkLine_value (accepted_front accepted)]
      exact ih accepted (line + 1)

theorem checkSegment_entriesText (name : Text) {front entries : List SignedEntry}
    (accepted : Accepted verify identity (front ++ entries)) :
    checkSegment verify identity (cursorAt front) ⟨name, entriesText entries⟩ =
      .ok (cursorAt (front ++ entries)) := by
  unfold checkSegment
  rw [entriesText, splitLines_fileText rfl boundary_isNewline]
  exact checkLines_values name accepted 1

/-- A list of files that hold the entries in order. -/
def Holds (paths : List Segment) (parts : List (List SignedEntry)) : Prop :=
  paths.map Segment.text = parts.map entriesText

theorem foldlM_checkSegment {paths : List Segment} {parts : List (List SignedEntry)}
    (holds : Holds paths parts) {front : List SignedEntry}
    (accepted : Accepted verify identity (front ++ parts.flatten)) :
    paths.foldlM (checkSegment verify identity) (cursorAt front) =
      .ok (cursorAt (front ++ parts.flatten)) := by
  induction paths generalizing front parts with
  | nil =>
      cases parts with
      | nil =>
          rw [List.flatten_nil, List.append_nil]
          rfl
      | cons part rest => cases holds
  | cons path paths ih =>
      cases parts with
      | nil => cases holds
      | cons part rest =>
          obtain ⟨same, tail⟩ := List.cons.inj holds
          obtain ⟨name, text⟩ := path
          dsimp only at same
          rw [List.flatten_cons, ← List.append_assoc] at accepted ⊢
          rw [List.foldlM_cons, same, checkSegment_entriesText name (accepted_front accepted)]
          exact ih tail accepted

/-- The verification accepts every ledger whose files hold acceptable entries. -/
theorem verifySnapshot_of_holds {disk : Disk} {parts : List (List SignedEntry)}
    (holds : Holds disk.ledgerPaths parts)
    (accepted : Accepted verify identity parts.flatten) :
    (verifySnapshot verify identity disk).valid = true ∧
      (verifySnapshot verify identity disk).count = parts.flatten.length ∧
      (verifySnapshot verify identity disk).entries =
        parts.flatten.map SignedEntry.loaded := by
  unfold verifySnapshot
  cases paths : disk.ledgerPaths with
  | nil =>
      rw [paths] at holds
      cases parts with
      | nil => exact ⟨rfl, rfl, rfl⟩
      | cons part rest => cases holds
  | cons path rest =>
      rw [paths] at holds
      have fromStart : Accepted verify identity ([] ++ parts.flatten) := accepted
      have checked := foldlM_checkSegment holds fromStart
      rw [List.nil_append] at checked
      have start : Cursor.initial = cursorAt [] := rfl
      simp only [start, checked]
      exact ⟨trivial, rfl, rfl⟩

end SelfConnect.Ledger
