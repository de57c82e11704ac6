import SelfConnect.CngLedger.Log
import SelfConnect.Library.HashChain
import SelfConnect.Library.History
import SelfConnect.Library.System

namespace SelfConnect.CngLedger

open SelfConnect.Python SelfConnect.Python.Json SelfConnect.Library SelfConnect.Ledger

/-! Runs of a ledger over one file: calls of `log`, and restarts. -/

inductive CngCall
  | log (turn : CngTurn) (request : Request)
  | restart

inductive CngOutcome
  | returned (entry : Value)
  | resumed
  | raised (raised : CngRaised)

def CngCall.run (w : CngWorld) : CngCall → CngOutcome × CngWorld
  | .log turn request =>
      match CngLedger.log turn request w with
      | (.ok entry, after) => (.returned entry, after)
      | (.error raised, after) => (.raised raised, after)
  | .restart =>
      match resume w with
      | (.ok _, after) => (.resumed, after)
      | (.error raised, after) => (.raised raised, after)

abbrev CngLabel := CngCall × CngOutcome

/-- An agent's ledger, from before its file is made. -/
def cngSystem (identity : CngIdentity) : System CngWorld CngLabel where
  initial w := w = ⟨identity, none, 0, genesisHashCng⟩
  next w label after := label.1.run w = (label.2, after)

def CngOutcome.isReturned : CngOutcome → Bool
  | .returned _ => true
  | _ => false

/-- The number of successful calls of `log`. -/
def successes (labels : List CngLabel) : Nat :=
  labels.countP fun label => label.2.isReturned

/-- The numbers in the file, in its order. -/
def fileSeqs (file : Option Text) : List Value :=
  (nonblankLines isNewline isSpace (file.getD [])).filterMap fun line =>
    (loads line).bind fun entry => entry.get? "seq"

/-- The file is accepted and holds the successful calls, numbered from one. -/
structure Intact (verify : Ed25519Verify) (labels : List CngLabel) (w : CngWorld) : Prop where
  accepted : ∃ message, verifyFile verify w.identity w.file =
    .ok ⟨true, successes labels, message⟩
  counted : entryCount w.file = successes labels
  numbered : fileSeqs w.file = (numbering (successes labels)).map Value.int

/-! A call that fails after its fields were checked leaves the object off the file. -/

/-- Some step of the call raises. -/
def CngTurn.fails (turn : CngTurn) : Bool :=
  !turn.serialises || turn.sign.isNone || !turn.opens || !turn.writes

def strayAfter (stray : Bool) : CngLabel → Bool
  | (.restart, _) => false
  | (.log turn request, _) => stray || ((collisions request).isEmpty && turn.fails)

/-- An earlier call on the same object failed after its fields were checked. -/
def stray (labels : List CngLabel) : Bool :=
  labels.foldl strayAfter false

/-- Calls that would succeed are made only on objects no call of which failed. -/
def Careful (labels : List CngLabel) : Prop :=
  Each (fun front label => ∀ turn request, label.1 = .log turn request →
    (collisions request).isEmpty = true → turn.fails = false → stray front = false) labels

/-- What a caller of `log` hands over: string-keyed metadata, and an identity whose
signatures verify. -/
def CngLabel.Presumed (verify : Ed25519Verify) (identity : CngIdentity) (label : CngLabel) :
    Prop :=
  ∀ turn request, label.1 = .log turn request →
    (∀ members, request.metadata = some members → StringKeyed (.dict members)) ∧
    ∀ sign, turn.sign = some sign →
      ∀ message, verify message (sign message) identity.publicKey = true

/-! An entry that was logged, before it is written and after it is read back. -/

structure Logged where
  entry : CngEntry
  signature : Bytes

namespace Logged

def value (logged : Logged) : Value :=
  logged.entry.record logged.signature

def text (logged : Logged) : Text :=
  render .compact (sortKeys (.dict logged.entry.unsigned))

def hash (logged : Logged) : Text :=
  sha384Hex logged.text

def loaded (logged : Logged) : Value :=
  .dict (Members.set (Str.lit "sig") (.str (Str.ofText (hexText logged.signature)))
    (rereadMembers logged.entry.unsigned))

end Logged

def cngChain : HashChain Logged Text where
  genesis := genesisHashCng
  previous logged := logged.entry.prevHash
  hash := Logged.hash

section

variable (verify : Ed25519Verify) (identity : CngIdentity)

structure Sound (logged : Logged) : Prop where
  free : collisions logged.entry.request = []
  keyed : StringKeyed (.dict logged.entry.unsigned)
  verified : verify (encode logged.text) logged.signature identity.publicKey = true

structure Accepted (entries : List Logged) : Prop where
  sound : ∀ logged ∈ entries, Sound verify identity logged
  linked : cngChain.Linked genesisHashCng entries
  numbered : entries.map (fun logged => logged.entry.seq) = numbering entries.length

end

private theorem absent_of {fields : List (String × Value)} {name : String}
    (other : name ∉ fields.map Prod.fst) (v : Value) :
    (Key.str (Str.lit name), v) ∉ Members.of fields := by
  intro member
  obtain ⟨field, found, equal⟩ := List.mem_map.mp member
  simp only [Prod.mk.injEq, Key.str.injEq, Str.lit_inj] at equal
  exact other (List.mem_map.mpr ⟨field, found, equal.1⟩)

namespace CngEntry

variable {entry : CngEntry}

/-- Reserved fields are what the ledger put there. -/
theorem lookup_unsigned (free : collisions entry.request = []) {name : String}
    (isReserved : name ∈ reserved) :
    Members.lookup (Str.lit name) entry.unsigned = Members.lookup (Str.lit name) entry.head := by
  have unreserved : ∀ members ∈ entry.extra, ∀ v, (Key.str (Str.lit name), v) ∉ members := by
    intro members isExtra v
    rcases List.mem_append.mp isExtra with isMetadata | isLabel
    · intro member
      have given := Option.mem_toList.mp isMetadata
      have collides := List.filter_eq_nil_iff.mp free name isReserved
      rw [Option.mem_def.mp given] at collides
      apply collides
      rw [Option.getD_some, List.any_eq_true]
      exact ⟨_, member, by simp⟩
    · obtain ⟨label, -, isDict⟩ := Option.map_eq_some_iff.mp (Option.mem_toList.mp isLabel)
      rw [← isDict]
      refine absent_of ?_ v
      simp only [List.map_cons, List.map_nil]
      revert name
      decide
  unfold unsigned
  generalize entry.extra = extra at unreserved
  generalize entry.head = head
  induction extra generalizing head with
  | nil => rfl
  | cons members rest ih =>
      rw [List.foldl_cons, ih fun other member => unreserved other (List.mem_cons_of_mem _ member)]
      exact Members.lookup_update (unreserved members List.mem_cons_self) head

theorem lookup_sig (free : collisions entry.request = []) :
    Members.lookup (Str.lit "sig") entry.unsigned = none := by
  rw [lookup_unsigned free (by decide)]
  simp [head, Members.of, Members.lookup]

theorem stringKeyed_unsigned
    (keyed : ∀ members, entry.request.metadata = some members → StringKeyed (.dict members)) :
    StringKeyed (.dict entry.unsigned) := by
  have headKeyed : StringKeyed (.dict entry.head) := by
    refine stringKeyed_object (by simp) ?_
    intro field member
    simp only [List.mem_cons, List.not_mem_nil, or_false] at member
    rcases member with rfl | rfl | rfl | rfl | rfl | rfl | rfl | rfl <;> trivial
  have extraKeyed : ∀ members ∈ entry.extra, StringKeyed (.dict members) := by
    intro members isExtra
    rcases List.mem_append.mp isExtra with isMetadata | isLabel
    · exact keyed members (Option.mem_toList.mp isMetadata)
    · obtain ⟨label, -, isDict⟩ := Option.map_eq_some_iff.mp (Option.mem_toList.mp isLabel)
      rw [← isDict]
      exact Entry.stringKeyed_toDict label
  unfold unsigned
  generalize entry.extra = extra at extraKeyed
  generalize entry.head = head at headKeyed
  induction extra generalizing head with
  | nil => exact headKeyed
  | cons members rest ih =>
      exact ih (fun other member => extraKeyed other (List.mem_cons_of_mem _ member)) _
        (stringKeyed_update headKeyed (extraKeyed members List.mem_cons_self))

end CngEntry

variable {verify : Ed25519Verify} {identity : CngIdentity} {logged : Logged}

section Loaded

variable (sound : Sound verify identity logged)
include sound

theorem stringKeys_unsigned : StringKeys logged.entry.unsigned := by
  have member : (Key.str (Str.lit "seq"), Value.int logged.entry.seq) ∈ logged.entry.unsigned := by
    apply Members.mem_of_lookup
    rw [CngEntry.lookup_unsigned sound.free (by decide)]
    simp [CngEntry.head, Members.of, Members.lookup]
  exact stringKeys_of_sortable (sortable_of_stringKeyed _ sound.keyed) member

theorem loads_value : loads (render .default logged.value) = some logged.loaded := by
  have stable := keysStable_of_stringKeyed _ sound.keyed
  rw [Logged.value, CngEntry.record, loads_render .default rfl, build_reread_dict,
    loadedMembers_set (Str.joinSurrogates_lit _) (CngEntry.lookup_sig sound.free),
    loadedMembers_of_keysStable stable, reread, Str.joinSurrogates_ofText]
  rfl

theorem erase_sig (v : Value) : Members.erase (Str.lit "sig")
    (Members.set (Str.lit "sig") v (rereadMembers logged.entry.unsigned)) =
      rereadMembers logged.entry.unsigned := by
  rw [Members.erase_set_same, erase_rereadMembers (by decide) (stringKeys_unsigned sound),
    Members.erase_of_lookup_eq_none (CngEntry.lookup_sig sound.free)]

theorem text_reread : render .compact (sortKeys (.dict (rereadMembers logged.entry.unsigned))) =
    logged.text := by
  have stable := keysStable_of_stringKeyed _ sound.keyed
  rw [← loadedMembers_of_keysStable stable, ← build_reread_dict]
  exact (render_sortKeys_build_reread_iff .compact rfl _).mpr stable

theorem lookup_reread {name : String} (isReserved : name ∈ reserved) :
    Members.lookup (Str.lit name) (rereadMembers logged.entry.unsigned) =
      (Members.lookup (Str.lit name) logged.entry.head).map reread := by
  have isPlain : plain name = true := by
    revert name
    decide
  rw [lookup_rereadMembers isPlain (stringKeys_unsigned sound),
    CngEntry.lookup_unsigned sound.free isReserved]

theorem seq_loaded : logged.loaded.get? "seq" = some (.int logged.entry.seq) := by
  rw [Logged.loaded, Value.get?_dict, Members.lookup_set_other (by simp),
    lookup_reread sound (by decide)]
  simp [CngEntry.head, Members.of, Members.lookup, reread]

/-- What a new object takes over from an entry that it finds last. -/
theorem signedText_loaded : signedText logged.loaded = some logged.text := by
  have stable := keysStable_of_stringKeyed _ sound.keyed
  rw [Logged.loaded, signedText, erase_sig sound, ← text_reread sound,
    ← loadedMembers_of_keysStable stable, ← build_reread_dict]
  exact if_pos (sortable_build_reread _)

/-- A sound entry that is next in the chain is accepted. -/
theorem checkEntry_loaded (line : Nat) (cursor : CngCursor)
    (prevHash : logged.entry.prevHash = cursor.prevHash) :
    checkEntry verify identity line logged.loaded cursor =
      .ok ⟨logged.hash, cursor.count + 1⟩ := by
  have prevFound := lookup_reread sound (by decide : "prev_hash" ∈ reserved)
  simp only [CngEntry.head, Members.of, List.map_cons, List.map_nil, Members.lookup, Str.lit_inj,
    String.reduceEq, if_true, if_false, Option.map_some, reread, Str.joinSurrogates_ofText]
    at prevFound
  have prevSame : (Value.str (Str.ofText logged.entry.prevHash)).eqv
      (.str (Str.ofText cursor.prevHash)) = true := by
    rw [prevHash, Value.eqv]
    exact beq_self_eq_true _
  unfold checkEntry Logged.loaded
  simp only [Members.lookup_set_self, erase_sig sound, Option.getD_some, prevFound, prevSame,
    fromHex_hexText, text_reread sound, sound.verified, Bool.not_true, Bool.false_eq_true,
    if_false]
  rfl

theorem truthy_loaded : logged.loaded.truthy = true := by
  have found := seq_loaded sound
  rw [Logged.loaded] at found ⊢
  cases members : Members.set (Str.lit "sig") (.str (Str.ofText (hexText logged.signature)))
      (rereadMembers logged.entry.unsigned) with
  | nil =>
      rw [members] at found
      cases found
  | cons entry rest => rfl

end Loaded

/-! The file of some entries. -/

def entriesText (entries : List Logged) : Text :=
  fileText .default (entries.map Logged.value)

theorem stripText_value (logged : Logged) :
    stripText isSpace (render .default logged.value) = render .default logged.value :=
  stripText_render_dict _ rfl rfl _

theorem filled_value (logged : Logged) : (render .default logged.value).isEmpty = false := by
  obtain ⟨middle, equal⟩ := render_dict_ends .default (Members.set (Str.lit "sig")
    (.str (Str.ofText (hexText logged.signature))) logged.entry.unsigned)
  exact (congrArg List.isEmpty equal).trans rfl

theorem nonblankLines_entriesText (entries : List Logged) {boundary : Char → Bool}
    (isBoundary : Boundary boundary) :
    nonblankLines boundary isSpace (entriesText entries) =
      (entries.map Logged.value).map (render .default) := by
  rw [nonblankLines, entriesText, splitLines_fileText rfl isBoundary]
  apply List.filter_eq_self.mpr
  intro line member
  obtain ⟨v, found, isLine⟩ := List.mem_map.mp member
  obtain ⟨logged, -, isValue⟩ := List.mem_map.mp found
  rw [← isLine, ← isValue, stripText_value, filled_value]
  rfl

def headHash (entries : List Logged) : Text :=
  cngChain.tipAfter genesisHashCng entries

theorem checkLines_values {front entries : List Logged}
    (sound : ∀ logged ∈ entries, Sound verify identity logged)
    (linked : cngChain.Linked (headHash front) entries) (line : Nat) :
    (((entries.map Logged.value).map (render .default)).zipIdx line).foldlM
        (checkLine verify identity) ⟨headHash front, front.length⟩ =
      .ok ⟨headHash (front ++ entries), (front ++ entries).length⟩ := by
  induction entries generalizing front line with
  | nil =>
      rw [List.append_nil]
      rfl
  | cons logged rest ih =>
      obtain ⟨prevHash, further⟩ := linked
      have isSound := sound logged List.mem_cons_self
      have snoc : headHash (front ++ [logged]) = logged.hash := cngChain.tipAfter_snoc _ _ _
      have checked : checkLine verify identity ⟨headHash front, front.length⟩
          (render .default logged.value, line) =
            .ok ⟨headHash (front ++ [logged]), (front ++ [logged]).length⟩ := by
        unfold checkLine
        simp only [stripText_value, filled_value, Bool.false_eq_true, if_false,
          loads_value isSound]
        rw [checkEntry_loaded isSound line ⟨headHash front, front.length⟩ prevHash, snoc,
          List.length_append, List.length_singleton]
      rw [List.map_cons, List.map_cons, List.zipIdx_cons, List.foldlM_cons, checked,
        List.append_cons front logged rest]
      refine ih (fun other member => sound other (List.mem_cons_of_mem _ member)) ?_ (line + 1)
      rw [snoc]
      exact further

theorem verifyFile_entriesText {entries : List Logged}
    (accepted : Accepted verify identity entries) :
    verifyFile verify identity (some (entriesText entries)) =
      .ok ⟨true, entries.length, .intact entries.length⟩ := by
  have checked := @checkLines_values verify identity [] entries accepted.sound accepted.linked 1
  have start : (⟨headHash [], ([] : List Logged).length⟩ : CngCursor) = ⟨genesisHashCng, 0⟩ := rfl
  rw [start, List.nil_append] at checked
  unfold verifyFile
  dsimp only
  rw [entriesText, splitLines_fileText rfl boundary_isNewline, checked]

theorem entryCount_entriesText (entries : List Logged) :
    entryCount (some (entriesText entries)) = entries.length := by
  rw [entryCount, Option.getD_some, nonblankLines_entriesText entries boundary_isLineBoundary,
    List.length_map, List.length_map]

theorem fileSeqs_entriesText {entries : List Logged}
    (accepted : Accepted verify identity entries) :
    fileSeqs (some (entriesText entries)) = (numbering entries.length).map Value.int := by
  rw [fileSeqs, Option.getD_some, nonblankLines_entriesText entries boundary_isNewline,
    List.filterMap_map, List.filterMap_map, ← accepted.numbered, List.map_map]
  rw [← List.filterMap_eq_map]
  apply List.filterMap_congr
  intro logged member
  have sound := accepted.sound logged member
  rw [Function.comp_apply, Function.comp_apply, loads_value sound, Option.bind_some,
    seq_loaded sound]
  rfl

theorem lastEntry_entriesText {entries : List Logged}
    (accepted : Accepted verify identity entries) :
    lastEntry (some (entriesText entries)) = entries.getLast?.map Logged.loaded := by
  rw [lastEntry, Option.bind_some, nonblankLines_entriesText entries boundary_isLineBoundary]
  cases entries using List.reverseRecOn with
  | nil => rfl
  | append_singleton front last =>
      have sound := accepted.sound last (List.mem_append_right _ (List.mem_singleton_self _))
      simp [loads_value sound]

theorem file_cases {file : Option Text} {entries : List Logged}
    (isFile : file.getD [] = entriesText entries) :
    file = some (entriesText entries) ∨ file = none ∧ entries = [] := by
  cases file with
  | some text => exact .inl (congrArg some isFile)
  | none =>
      cases entries with
      | nil => exact .inr ⟨rfl, rfl⟩
      | cons logged rest => simp [entriesText, fileText, lineText] at isFile

/-- A new object stands at the end of the file. -/
theorem resume_entriesText {w : CngWorld} {entries : List Logged}
    (accepted : Accepted verify identity entries)
    (isFile : w.file.getD [] = entriesText entries) :
    resume w = (.ok (), { w with seq := entries.length, prevHash := headHash entries }) := by
  have tail : loadLastSeq w.file = .ok (entries.length : Int) ∧
      loadLastHash w.file = .ok (headHash entries) := by
    rcases file_cases isFile with isText | ⟨isNone, isEmpty⟩
    · unfold loadLastSeq loadLastHash
      rw [isText, lastEntry_entriesText accepted]
      cases entries using List.reverseRecOn with
      | nil => exact ⟨rfl, rfl⟩
      | append_singleton front last =>
          have sound := accepted.sound last (List.mem_append_right _ (List.mem_singleton_self _))
          have number : last.entry.seq = (front ++ [last]).length := by
            have numbered := accepted.numbered
            rw [List.map_append, List.length_append, List.length_singleton, numbering_succ,
              List.map_singleton] at numbered
            have same := (List.cons.inj (List.append_inj' numbered rfl).2).1
            rw [same, List.length_append, List.length_singleton]
            rfl
          have isHead : headHash (front ++ [last]) = last.hash := cngChain.tipAfter_snoc _ _ _
          have isSeq : last.loaded.getD "seq" (.int 0) = .int last.entry.seq := by
            rw [Value.getD, seq_loaded sound]
            rfl
          rw [List.getLast?_concat, Option.map_some, isHead, ← number]
          simp only [truthy_loaded sound, Bool.not_true, Bool.false_eq_true, if_false, isSeq,
            signedText_loaded sound]
          exact ⟨rfl, rfl⟩
    · rw [isNone, isEmpty]
      exact ⟨rfl, rfl⟩
  change Program.wp resume (fun r t => (r, t) = _) w
  unfold resume
  simp only [Program.wp_bind, Program.wp_get, Program.andThen_ok, Program.wp_ofExcept, tail.1,
    tail.2, Program.wp_modify]

/-! What one call of `log` does. -/

def nextLogged (w : CngWorld) (turn : CngTurn) (request : Request) (sign : Bytes → Bytes) :
    Logged :=
  let entry := nextEntry { w with seq := w.seq + 1 } turn request
  ⟨entry, sign (encode (render .compact (sortKeys (.dict entry.unsigned))))⟩

/-- The call appended an entry. -/
structure Appended (w : CngWorld) (turn : CngTurn) (request : Request) (sign : Bytes → Bytes)
    (after : CngWorld) : Prop where
  free : (collisions request).isEmpty = true
  works : turn.fails = false
  isSign : turn.sign = some sign
  same : after.identity = w.identity
  file : after.file.getD [] =
    w.file.getD [] ++ lineText .default (nextLogged w turn request sign).value
  seq : after.seq = w.seq + 1
  prevHash : after.prevHash = (nextLogged w turn request sign).hash

/-- The call raised, and left the file as it was. -/
structure Refused (w : CngWorld) (turn : CngTurn) (request : Request) (after : CngWorld) :
    Prop where
  same : after.identity = w.identity
  file : after.file.getD [] = w.file.getD []
  cause : ((collisions request).isEmpty = false ∧ after = w) ∨
    ((collisions request).isEmpty = true ∧ turn.fails = true)

def Effect (w : CngWorld) (turn : CngTurn) (request : Request) :
    Except CngRaised Value → CngWorld → Prop
  | .ok _, after => ∃ sign, Appended w turn request sign after
  | .error _, after => Refused w turn request after

theorem log_spec {w : CngWorld} {turn : CngTurn} {request : Request}
    (keyed : ∀ members, request.metadata = some members → StringKeyed (.dict members)) :
    Program.wp (log turn request) (Effect w turn request) w := by
  have dumps : dumpsSorted .compact
      (.dict (nextEntry { w with seq := w.seq + 1 } turn request).unsigned) =
        some (render .compact (sortKeys
          (.dict (nextEntry { w with seq := w.seq + 1 } turn request).unsigned))) :=
    if_pos (sortable_of_stringKeyed _ (CngEntry.stringKeyed_unsigned keyed))
  unfold log
  simp only [Program.wp_bind, Program.wp_require, Program.andThen_ok, Program.andThen_error,
    Program.wp_modify, Program.wp_get, Program.wp_ofExcept, dumps, Option.elim_some]
  refine ⟨?_, fun collides => ⟨rfl, rfl, .inl ⟨collides, rfl⟩⟩⟩
  intro free
  refine ⟨?_, fun fails => ⟨rfl, rfl, .inr ⟨free, by simp [CngTurn.fails, fails]⟩⟩⟩
  intro serialises
  cases isSign : turn.sign with
  | none => exact ⟨rfl, rfl, .inr ⟨free, by simp [CngTurn.fails, isSign]⟩⟩
  | some sign =>
      simp only [Option.elim_some, Program.wp_bind, Program.wp_require, Program.wp_modify,
        Program.wp_pure, Program.andThen_ok, Program.andThen_error]
      refine ⟨?_, fun fails => ⟨rfl, rfl, .inr ⟨free, by simp [CngTurn.fails, fails]⟩⟩⟩
      intro opens
      refine ⟨?_, fun fails => ⟨rfl, rfl, .inr ⟨free, by simp [CngTurn.fails, fails]⟩⟩⟩
      intro writes
      refine ⟨sign, free, ?_, isSign, rfl, rfl, rfl, rfl⟩
      simp [CngTurn.fails, serialises, isSign, opens, writes]

/-! Whole runs. -/

/-- The file holds the entries that were logged, and an object that has not strayed
stands at their end. -/
structure Stands (verify : Ed25519Verify) (identity : CngIdentity) (labels : List CngLabel)
    (w : CngWorld) (entries : List Logged) : Prop where
  same : w.identity = identity
  file : w.file.getD [] = entriesText entries
  accepted : Accepted verify identity entries
  counted : entries.length = successes labels
  head : stray labels = false → w.seq = entries.length ∧ w.prevHash = headHash entries

theorem successes_snoc (labels : List CngLabel) (label : CngLabel) :
    successes (labels ++ [label]) = successes labels + if label.2.isReturned then 1 else 0 := by
  rw [successes, successes, List.countP_append, List.countP_singleton]

theorem stray_snoc (labels : List CngLabel) (label : CngLabel) :
    stray (labels ++ [label]) = strayAfter (stray labels) label := by
  rw [stray, stray, List.foldl_append, List.foldl_cons, List.foldl_nil]

theorem accepted_nil : Accepted verify identity [] where
  sound _ member := by cases member
  linked := trivial
  numbered := rfl

theorem Accepted.snoc {entries : List Logged} (accepted : Accepted verify identity entries)
    (sound : Sound verify identity logged) (prevHash : logged.entry.prevHash = headHash entries)
    (seq : logged.entry.seq = entries.length + 1) :
    Accepted verify identity (entries ++ [logged]) where
  sound other member := by
    rcases List.mem_append.mp member with before | last
    · exact accepted.sound other before
    · rw [List.mem_singleton.mp last]
      exact sound
  linked := (cngChain.linked_snoc _ _ _).mpr ⟨accepted.linked, prevHash⟩
  numbered := by
    rw [List.map_append, accepted.numbered, List.length_append, List.length_singleton,
      numbering_succ, List.map_singleton, seq]

theorem entriesText_snoc (entries : List Logged) (logged : Logged) :
    entriesText (entries ++ [logged]) = entriesText entries ++ lineText .default logged.value := by
  rw [entriesText, List.map_append, List.map_singleton, fileText_snoc]
  rfl

variable {labels : List CngLabel} {w after : CngWorld} {entries : List Logged} {turn : CngTurn}
  {request : Request}

theorem Stands.appended (stands : Stands verify identity labels w entries)
    (current : stray labels = false) {sign : Bytes → Bytes}
    (appended : Appended w turn request sign after)
    (presumed : CngLabel.Presumed verify identity (.log turn request, .returned value)) :
    ∃ entries, Stands verify identity
      (labels ++ [(.log turn request, .returned value)]) after entries := by
  obtain ⟨keyed, signs⟩ := presumed turn request rfl
  obtain ⟨seq, prevHash⟩ := stands.head current
  have sound : Sound verify identity (nextLogged w turn request sign) := by
    refine ⟨List.isEmpty_iff.mp appended.free, CngEntry.stringKeyed_unsigned keyed, ?_⟩
    exact signs sign appended.isSign _
  have isNext : (nextLogged w turn request sign).entry.seq = entries.length + 1 :=
    congrArg (· + 1) seq
  refine ⟨entries ++ [nextLogged w turn request sign], appended.same.trans stands.same, ?_,
    stands.accepted.snoc sound prevHash isNext, ?_, ?_⟩
  · rw [appended.file, stands.file, entriesText_snoc]
  · rw [List.length_append, List.length_singleton, stands.counted, successes_snoc]
    rfl
  · intro _
    rw [appended.seq, appended.prevHash, seq, List.length_append, List.length_singleton]
    exact ⟨rfl, (cngChain.tipAfter_snoc _ _ _).symm⟩

theorem Stands.refused (stands : Stands verify identity labels w entries)
    (refused : Refused w turn request after) :
    Stands verify identity (labels ++ [(.log turn request, .raised raised)]) after entries := by
  refine ⟨refused.same.trans stands.same, refused.file.trans stands.file, stands.accepted, ?_, ?_⟩
  · rw [stands.counted, successes_snoc]
    rfl
  · rw [stray_snoc, strayAfter, Bool.or_eq_false_iff]
    intro current
    rcases refused.cause with ⟨-, isSame⟩ | ⟨free, fails⟩
    · rw [isSame]
      exact stands.head current.1
    · rw [free, fails] at current
      cases current.2

theorem Stands.resumed (stands : Stands verify identity labels w entries)
    (next : CngCall.restart.run w = (outcome, after)) :
    Stands verify identity (labels ++ [(.restart, outcome)]) after entries := by
  have isResumed := resume_entriesText stands.accepted stands.file
  dsimp only [CngCall.run] at next
  rw [isResumed] at next
  cases next
  refine ⟨stands.same, stands.file, stands.accepted, ?_, fun _ => ⟨rfl, rfl⟩⟩
  rw [stands.counted, successes_snoc]
  rfl

theorem Careful.front {label : CngLabel} (careful : Careful (labels ++ [label])) :
    Careful labels := by
  intro front other rest split
  refine careful front other (rest ++ [label]) ?_
  rw [split, List.append_assoc, List.cons_append]

theorem stands_of_run (run : (cngSystem identity).Run labels w)
    (presumed : ∀ label ∈ labels, CngLabel.Presumed verify identity label)
    (careful : Careful labels) : ∃ entries, Stands verify identity labels w entries := by
  induction run with
  | start first =>
      rw [first]
      exact ⟨[], rfl, rfl, accepted_nil, rfl, fun _ => ⟨rfl, rfl⟩⟩
  | @step labels w after label before next ih =>
      obtain ⟨entries, stands⟩ :=
        ih (fun other member => presumed other (List.mem_append_left _ member)) careful.front
      obtain ⟨call, outcome⟩ := label
      have isPresumed := presumed (call, outcome) (List.mem_append_right _ List.mem_cons_self)
      cases call with
      | restart => exact ⟨entries, stands.resumed next⟩
      | log turn request =>
          have spec : Effect w turn request (CngLedger.log turn request w).1
              (CngLedger.log turn request w).2 := log_spec (isPresumed turn request rfl).1
          dsimp only [cngSystem, CngCall.run] at next
          generalize CngLedger.log turn request w = result at spec next
          obtain ⟨returned, reached⟩ := result
          cases returned with
          | error raised =>
              cases next
              exact ⟨entries, stands.refused spec⟩
          | ok value =>
              cases next
              obtain ⟨sign, appended⟩ := spec
              have current := careful labels _ [] rfl turn request rfl appended.free appended.works
              exact stands.appended current appended isPresumed

/-- A run in which only objects that never failed go on logging leaves a file that is
accepted, with every successful call in it, numbered from one. -/
theorem intact_of_run (run : (cngSystem identity).Run labels w)
    (presumed : ∀ label ∈ labels, CngLabel.Presumed verify identity label)
    (careful : Careful labels) : Intact verify labels w := by
  obtain ⟨entries, stands⟩ := stands_of_run run presumed careful
  rcases file_cases stands.file with isText | ⟨isNone, isEmpty⟩
  · constructor
    · rw [stands.same, isText, verifyFile_entriesText stands.accepted, ← stands.counted]
      exact ⟨_, rfl⟩
    · rw [isText, entryCount_entriesText, stands.counted]
    · rw [isText, fileSeqs_entriesText stands.accepted, stands.counted]
  · have none : successes labels = 0 := by
      rw [← stands.counted, isEmpty]
      rfl
    constructor
    · rw [isNone, none]
      exact ⟨_, rfl⟩
    · rw [isNone, none]
      rfl
    · rw [isNone, none]
      rfl

theorem run_call (run : (cngSystem identity).Run labels w) (call : CngCall) :
    (cngSystem identity).Run (labels ++ [(call, (call.run w).1)]) (call.run w).2 :=
  run.step rfl

/-! A write that fails: the next entry carries the hash of one that is not in the file,
unless a new object writes it. -/

def sampleIdentity : CngIdentity := ⟨[], Str.lit "software"⟩

/-- A scheme with one signature. -/
def tagVerify : Ed25519Verify := fun _ signature _ => signature == [1]

def sampleLog (writes : Bool) : CngCall :=
  .log ⟨.finite .zero, true, some fun _ => [1], true, writes⟩ ⟨Str.lit "read", [], none, none⟩

def sampleStart : CngWorld := ⟨sampleIdentity, none, 0, genesisHashCng⟩

def afterFailure : CngOutcome × CngWorld := (sampleLog false).run sampleStart

def afterRestart : CngOutcome × CngWorld := CngCall.restart.run afterFailure.2

theorem presumed_sampleLog (writes : Bool) (outcome : CngOutcome) :
    CngLabel.Presumed tagVerify sampleIdentity (sampleLog writes, outcome) := by
  intro turn request isLog
  cases isLog
  constructor
  · intro members absurdly
    cases absurdly
  · intro sign isSign message
    cases isSign
    rfl

theorem presumed_restart (outcome : CngOutcome) :
    CngLabel.Presumed tagVerify sampleIdentity (.restart, outcome) := by
  intro turn request isLog
  cases isLog

theorem run_afterFailure :
    (cngSystem sampleIdentity).Run [(sampleLog false, afterFailure.1)] afterFailure.2 :=
  run_call (.start rfl) (sampleLog false)

theorem intact_of_run_restarted : Intact tagVerify
    [(sampleLog false, afterFailure.1), (.restart, afterRestart.1),
      (sampleLog true, ((sampleLog true).run afterRestart.2).1)]
    ((sampleLog true).run afterRestart.2).2 := by
  refine intact_of_run (run_call (run_call run_afterFailure .restart) (sampleLog true)) ?_ ?_
  · intro label member
    simp only [List.mem_cons, List.not_mem_nil, or_false] at member
    rcases member with isFirst | isSecond | isThird
    · rw [isFirst]
      exact presumed_sampleLog false _
    · rw [isSecond]
      exact presumed_restart _
    · rw [isThird]
      exact presumed_sampleLog true _
  · refine Each.snoc (Each.snoc (Each.snoc Each.nil ?_) ?_) ?_
    · intro turn request isLog free works
      cases isLog
      cases works
    · intro turn request isLog
      cases isLog
    · exact fun _ _ _ _ _ => rfl

/-- The entry after a refused write breaks the chain. -/
theorem not_intact_after_refused_write : ∃ labels w,
    (cngSystem sampleIdentity).Run labels w ∧
      (∀ label ∈ labels, CngLabel.Presumed tagVerify sampleIdentity label) ∧
      ¬ Intact tagVerify labels w := by
  refine ⟨_, _, run_call run_afterFailure (sampleLog true), ?_, ?_⟩
  · intro label member
    rcases List.mem_cons.mp member with isFirst | isSecond
    · rw [isFirst]
      exact presumed_sampleLog false _
    · rw [List.mem_singleton.mp isSecond]
      exact presumed_sampleLog true _
  · intro intact
    obtain ⟨message, accepted⟩ := intact.accepted
    have rejected : ((verifyFile tagVerify ((sampleLog true).run afterFailure.2).2.identity
        ((sampleLog true).run afterFailure.2).2.file).toOption.map Verdict.valid) = some false := by
      decide +kernel
    rw [accepted] at rejected
    cases rejected

end SelfConnect.CngLedger
