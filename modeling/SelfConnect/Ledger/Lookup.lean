import SelfConnect.Ledger.NestedIndex
import SelfConnect.Ledger.Runs
import SelfConnect.Python.Json.Sorted

namespace SelfConnect.Ledger

open SelfConnect.Python SelfConnect.Python.Json SelfConnect.Library

/-! The indexes of a ledger answer as the scan of its files does. -/

/-! An index of some entries, against a scan of them. -/

theorem NestedIndex.getD_add (index : NestedIndex) (found : Option Str) (entry : Value)
    (value : Str) :
    (index.add found entry).getD value [] =
      if found = some value then index.getD value [] ++ [entry] else index.getD value [] := by
  cases found with
  | none => rfl
  | some nested =>
      rw [NestedIndex.add, Dict.getD, Dict.get?_set]
      by_cases same : value = nested
      · rw [if_pos same, if_pos (congrArg some same.symm), ← same]
        rfl
      · rw [if_neg same, if_neg fun equal => same (Option.some.inj equal).symm]
        rfl

theorem matchEntry_of_found {path : Path} {entry : Value} {found : Option Str}
    (isFound : nestedValue path entry = .ok found) (value : Str) (before : List Value) :
    matchEntry path value before entry =
      .ok (if found = some value then before ++ [entry] else before) := by
  rw [matchEntry, isFound]
  cases found with
  | none => rfl
  | some nested =>
      change Except.ok (if nested = value then before ++ [entry] else before) = _
      simp only [Option.some.injEq]

theorem foldlM_matchEntry (path : Path) (value : Str) (entries : List Value)
    (index : NestedIndex) :
    entries.foldlM (matchEntry path value) (index.getD value []) =
      (entries.foldlM (indexEntry path) index).map fun index => index.getD value [] := by
  induction entries generalizing index with
  | nil => rfl
  | cons entry rest ih =>
      rw [List.foldlM_cons, List.foldlM_cons, indexEntry]
      cases isFound : nestedValue path entry with
      | error raised =>
          rw [matchEntry, isFound]
          rfl
      | ok found =>
          rw [matchEntry_of_found isFound, ← NestedIndex.getD_add]
          exact ih (index.add found entry)

/-! What `log` does to the indexes. -/

theorem updateIndexes_ok {entry : Value} {indexes : List (Path × NestedIndex)}
    (found : ∀ path ∈ indexes.map Prod.fst, ∃ value, maintainedValue path entry = .ok value) :
    (updateIndexes entry indexes).1 = .ok () := by
  induction indexes with
  | nil => rfl
  | cons head rest ih =>
      obtain ⟨value, isValue⟩ := found head.1 (by simp)
      rw [updateIndexes, isValue]
      exact ih fun path member => found path (by simp [member])

theorem mem_updateIndexes {entry : Value} {indexes : List (Path × NestedIndex)}
    (returned : (updateIndexes entry indexes).1 = .ok ()) {path : Path} {updated : NestedIndex}
    (member : (path, updated) ∈ (updateIndexes entry indexes).2) :
    ∃ index value, (path, index) ∈ indexes ∧ maintainedValue path entry = .ok value ∧
      updated = index.add value entry := by
  induction indexes with
  | nil => cases member
  | cons head rest ih =>
      obtain ⟨first, index⟩ := head
      rw [updateIndexes] at returned member
      cases isValue : maintainedValue first entry with
      | error raised =>
          rw [isValue] at returned
          cases returned
      | ok value =>
          rw [isValue] at returned member
          rcases List.mem_cons.mp member with isHead | inRest
          · cases isHead
            exact ⟨index, value, by simp, isValue, rfl⟩
          · obtain ⟨other, value', isOther, rest_found⟩ := ih returned inRest
            exact ⟨other, value', by simp [isOther], rest_found⟩

/-- Under the path there is nothing that a look-up can ask for. -/
def Silent (path : Path) (entry : Value) : Prop :=
  containerOf path.container entry = .ok .null ∨
    ∃ nested, containerOf path.container entry = .ok (.dict nested) ∧
      ((Members.lookup path.field nested).getD .null = .null ∨
        Members.lookup path.field nested = some (.str []))

/-- An entry that an index over the path can take in: its container is missing, or an
object whose field is a string, and it is read back from its line as it is, unless no
look-up can ask for it. -/
structure Maintainable (path : Path) (entry loaded : Value) : Prop where
  shaped : containerOf path.container entry = .ok .null ∨
    ∃ nested value, containerOf path.container entry = .ok (.dict nested) ∧
      Members.lookup path.field nested = some (.str value)
  faithful : loaded = entry ∨ Silent path entry ∧ Silent path loaded

theorem found_of_shaped {path : Path} {entry : Value}
    (shaped : containerOf path.container entry = .ok .null ∨
      ∃ nested value, containerOf path.container entry = .ok (.dict nested) ∧
        Members.lookup path.field nested = some (.str value)) :
    ∃ found, maintainedValue path entry = .ok found ∧ nestedValue path entry = .ok found := by
  rcases shaped with missing | ⟨nested, value, isDict, isValue⟩
  · refine ⟨none, ?_, ?_⟩
    · rw [maintainedValue, missing]
      rfl
    · rw [nestedValue, missing]
      rfl
  · refine ⟨some value, ?_, ?_⟩
    · simp only [maintainedValue, isDict, bind, Except.bind, isValue]
    · simp only [nestedValue, isDict, bind, Except.bind, isValue, Option.getD_some]

theorem found_of_silent {path : Path} {entry : Value} (silent : Silent path entry) :
    ∃ found, nestedValue path entry = .ok found ∧
      ∀ value, value ≠ [] → found ≠ some value := by
  rcases silent with missing | ⟨nested, isDict, absent | empty⟩
  · refine ⟨none, ?_, by simp⟩
    rw [nestedValue, missing]
    rfl
  · refine ⟨none, ?_, by simp⟩
    simp only [nestedValue, isDict, bind, Except.bind, absent]
  · refine ⟨some [], ?_, ?_⟩
    · simp only [nestedValue, isDict, bind, Except.bind, empty, Option.getD_some]
    · intro value filled same
      exact filled (Option.some.inj same).symm

/-- What is put into the index is what the scan finds in the file. -/
theorem Maintainable.matches {path : Path} {entry loaded : Value}
    (maintainable : Maintainable path entry loaded) {found : Option Str}
    (isFound : maintainedValue path entry = .ok found) (index : NestedIndex) {value : Str}
    (filled : value ≠ []) :
    matchEntry path value (index.getD value []) loaded =
      .ok ((index.add found entry).getD value []) := by
  obtain ⟨found', isFound', isNested⟩ := found_of_shaped maintainable.shaped
  rw [isFound] at isFound'
  cases isFound'
  rw [NestedIndex.getD_add]
  rcases maintainable.faithful with same | ⟨entrySilent, loadedSilent⟩
  · rw [same]
    exact matchEntry_of_found isNested value _
  · obtain ⟨found', isFound', differs'⟩ := found_of_silent entrySilent
    rw [isNested] at isFound'
    cases isFound'
    obtain ⟨other, isOther, otherDiffers⟩ := found_of_silent loadedSilent
    rw [matchEntry_of_found isOther, if_neg (otherDiffers value filled),
      if_neg (differs' value filled)]

section

variable {verify : Ed25519Verify} {identity : AgentIdentity}

/-! An index built from the files. -/

private theorem foldlM_indexLine (path : Path) (entries : List SignedEntry) (index : NestedIndex) :
    ((entries.map SignedEntry.value).map (render .default)).foldlM (indexLine path) index =
      (entries.map SignedEntry.loaded).foldlM (indexEntry path) index := by
  induction entries generalizing index with
  | nil => rfl
  | cons signed rest ih =>
      have line : indexLine path index (render .default signed.value) =
          indexEntry path index signed.loaded := by
        rw [indexLine, loads_value]
      rw [List.map_cons, List.map_cons, List.map_cons, List.foldlM_cons, List.foldlM_cons, line]
      cases indexEntry path index signed.loaded with
      | error raised => rfl
      | ok index => exact ih index

theorem buildIndex_of_holds {disk : Disk} {parts : List (List SignedEntry)}
    (holds : Holds disk.ledgerPaths parts) (path : Path) :
    buildIndex path disk =
      (parts.flatten.map SignedEntry.loaded).foldlM (indexEntry path) Dict.empty := by
  have lines : (disk.ledgerPaths.flatMap fun segment =>
      nonblankLines isNewline isSpace segment.text) =
        (parts.flatten.map SignedEntry.value).map (render .default) := by
    generalize disk.ledgerPaths = paths at holds
    induction paths generalizing parts with
    | nil =>
        cases parts with
        | nil => rfl
        | cons part rest => cases holds
    | cons segment paths ih =>
        cases parts with
        | nil => cases holds
        | cons part rest =>
            obtain ⟨same, tail⟩ := List.cons.inj holds
            rw [List.flatMap_cons, ih tail, same,
              nonblankLines_entriesText part boundary_isNewline, List.flatten_cons, List.map_append, List.map_append]
  rw [buildIndex, lines]
  exact foldlM_indexLine path _ _

/-- Every index answers, for a value that can be asked for, as the scan of the entries
does. -/
def Answers (s : IndexedLedger) (entries : List SignedEntry) : Prop :=
  ∀ path index, s.nestedIndexes.get? path = some index → ∀ value, value ≠ [] →
    (entries.map SignedEntry.loaded).foldlM (matchEntry path value) [] = .ok (index.getD value [])

/-- The ledger is laid out and its indexes answer, as long as twenty digits number its
entries. -/
def Faithful (verify : Ed25519Verify) (identity : AgentIdentity) (s : IndexedLedger) : Prop :=
  s.ledger.returned.length < 10 ^ 20 → s.ledger.config.identity = identity ∧
    ∃ parts rest, Layout verify s.ledger parts rest ∧ Answers s (parts.flatten ++ rest)

theorem lookupArguments_filled {container field value : Value} {path : Path} {nested : Str}
    (taken : lookupArguments container field value = .ok (path, nested)) : nested ≠ [] := by
  cases container with
  | str container =>
      cases field with
      | str field =>
          cases value with
          | str value =>
              rw [lookupArguments] at taken
              split at taken
              · cases taken
              · next filled =>
                  cases taken
                  rintro rfl
                  exact filled (by simp)
          | null | bool | int | float | list | dict => cases taken
      | null | bool | int | float | list | dict => cases taken
  | null | bool | int | float | list | dict => cases taken

variable {s : IndexedLedger} {parts : List (List SignedEntry)} {rest : List SignedEntry}

theorem findVerified_eq (layout : Layout verify s.ledger parts rest)
    (bounded : parts.flatten.length < 10 ^ 20) (container field value : Value) :
    findVerifiedEntriesByNestedValue verify s.ledger container field value =
      lookupArguments container field value >>= fun asked =>
        ((parts.flatten ++ rest).map SignedEntry.loaded).foldlM
          (matchEntry asked.1 asked.2) [] := by
  obtain ⟨valid, -, entries⟩ := layout.verifies bounded
  rw [findVerifiedEntriesByNestedValue]
  simp only [valid, if_true, entries]

/-- A look-up returns what the scan returns, and the index it may have built answers
too. -/
theorem find_spec (layout : Layout verify s.ledger parts rest)
    (bounded : parts.flatten.length < 10 ^ 20) (answers : Answers s (parts.flatten ++ rest))
    (container field value : Value) :
    Program.wp (findEntriesByNestedValue container field value)
      (fun r t => r = findVerifiedEntriesByNestedValue verify s.ledger container field value ∧
        t.ledger = s.ledger ∧ Answers t (parts.flatten ++ rest)) s := by
  rw [findVerified_eq layout bounded]
  unfold findEntriesByNestedValue
  rw [Program.wp_bind, Program.wp_ofExcept]
  cases taken : lookupArguments container field value with
  | error raised => exact ⟨rfl, rfl, answers⟩
  | ok asked =>
      obtain ⟨path, nested⟩ := asked
      have filled := lookupArguments_filled taken
      rw [Program.andThen_ok]
      dsimp only
      rw [Program.wp_bind, Program.wp_get, Program.andThen_ok]
      cases built : s.nestedIndexes.get? path with
      | some index => exact ⟨(answers path index built nested filled).symm, rfl, answers⟩
      | none =>
          obtain ⟨all, holds, flat⟩ := layout.ledgerPaths bounded
          have scan : ∀ value, ((parts.flatten ++ rest).map SignedEntry.loaded).foldlM
              (matchEntry path value) [] =
                (buildIndex path s.ledger.disk).map fun index => index.getD value [] := by
            intro value
            rw [buildIndex_of_holds holds, flat, ← foldlM_matchEntry]
            rfl
          dsimp only
          rw [Program.wp_bind, Program.wp_ofExcept]
          cases result : buildIndex path s.ledger.disk with
          | error raised =>
              refine ⟨?_, rfl, answers⟩
              change _ = List.foldlM _ _ _
              rw [scan, result]
              rfl
          | ok index =>
              refine ⟨?_, rfl, ?_⟩
              · change _ = List.foldlM _ _ _
                rw [scan, result]
                rfl
              · intro other index' isIndex value _
                change (s.nestedIndexes.set path index).get? other = some index' at isIndex
                rw [Dict.get?_set] at isIndex
                split at isIndex
                · next same =>
                    cases isIndex
                    rw [same, scan, result]
                    rfl
                · exact answers other index' isIndex value ‹_›

variable {turn : Turn} {request : Request}

/-- The next entry of `log` reaches the files cleanly, and every index that was built can
take it in. -/
def Indexable (s : IndexedLedger) (turn : Turn) (request : Request) : Prop :=
  s.ledger.tears turn request = false ∧
    (s.ledger.appends turn request = true →
      keysStable (.dict (nextEntry s.ledger turn request).unsigned) = true ∧
        ∀ path ∈ s.nestedIndexes.keys, Maintainable path (nextSigned s.ledger turn request).value
          (nextSigned s.ledger turn request).loaded)

theorem Answers.appended (answers : Answers s (parts.flatten ++ rest)) {next : SignedEntry}
    (maintainable : ∀ path ∈ s.nestedIndexes.keys, Maintainable path next.value next.loaded)
    (ledger : World) :
    (updateNestedIndexes next.value { s with ledger }).1 = .ok () ∧
      Answers (updateNestedIndexes next.value { s with ledger }).2
        (parts.flatten ++ rest ++ [next]) := by
  have returned : (updateIndexes next.value s.nestedIndexes.entries).1 = .ok () := by
    refine updateIndexes_ok fun path member => ?_
    obtain ⟨found, isFound, -⟩ := found_of_shaped (maintainable path member).shaped
    exact ⟨found, isFound⟩
  refine ⟨returned, ?_⟩
  intro path updated isUpdated value filled
  rw [Dict.get?_eq_some_iff] at isUpdated
  obtain ⟨index, found, isIndex, isFound, rfl⟩ := mem_updateIndexes returned isUpdated
  have present : path ∈ s.nestedIndexes.keys := List.mem_map_of_mem isIndex
  rw [List.map_append, List.foldlM_append,
    answers path index (Dict.get?_eq_some_iff.mpr isIndex) value filled, List.map_singleton]
  change List.foldlM (matchEntry path value) (index.getD value []) [next.loaded] = _
  rw [List.foldlM_cons, (maintainable path present).matches isFound index filled]
  rfl

/-- What one call of `log` leaves behind, and that it raises only when its entry is not
in the files. -/
def Kept (verify : Ed25519Verify) (s : IndexedLedger) (before : List SignedEntry)
    (r : Except LookupRaised Value) (t : IndexedLedger) : Prop :=
  t.ledger.config = s.ledger.config ∧
    ∃ parts rest, Layout verify t.ledger parts rest ∧ Answers t (parts.flatten ++ rest) ∧
      ∀ raised, r = .error raised → parts.flatten ++ rest = before

theorem log_kept (signs : s.ledger.config.identity.Signs verify)
    (layout : Layout verify s.ledger parts rest)
    (bounded : (parts.flatten ++ rest).length < 10 ^ 20)
    (answers : Answers s (parts.flatten ++ rest)) (indexable : Indexable s turn request) :
    Program.wp (IndexedLedger.log verify turn request) (Kept verify s (parts.flatten ++ rest))
      s := by
  have outcome := log_outcome signs layout bounded indexable.1 fun appends =>
    (indexable.2 appends).1
  unfold IndexedLedger.log
  rw [Program.wp_bind, wp_onLedger]
  refine Program.wp_mono outcome ?_
  rintro (raised | entry) ledger ⟨config, parts', rest', layout', outcome⟩
  · exact ⟨config, parts', rest', layout', outcome.2 ▸ answers, fun _ _ => outcome.2⟩
  · obtain ⟨appends, rfl, more⟩ := outcome
    obtain ⟨returned, answers'⟩ := answers.appended (indexable.2 appends).2 ledger
    rw [Except.mapError, Program.andThen_ok, Program.wp_bind]
    unfold Program.wp
    rw [returned]
    refine ⟨config, parts', rest', layout', ?_, fun _ impossible => by cases impossible⟩
    rw [more]
    exact answers'

/-! Whole runs. -/

inductive IndexedCall
  | log (turn : Turn) (request : Request)
  | find (container field value : Value)
  | restart (config : Config)

def newIndexedLedger (config : Config) (logName : Text) : IndexedLedger :=
  ⟨newWorld config logName, Dict.empty⟩

/-- A restart begins without indexes. -/
def IndexedCall.run (verify : Ed25519Verify) (s : IndexedLedger) : IndexedCall → IndexedLedger
  | .log turn request => (IndexedLedger.log verify turn request s).2
  | .find container field value => (findEntriesByNestedValue container field value s).2
  | .restart config => ⟨(resume verify config s.ledger).2, Dict.empty⟩

def indexedSystem (verify : Ed25519Verify) (config : Config) (logName : Text) :
    System IndexedLedger IndexedCall where
  initial s := s = newIndexedLedger config logName
  next s call t := t = call.run verify s

def IndexedCall.Presumed (identity : AgentIdentity) (s : IndexedLedger) : IndexedCall → Prop
  | .log turn request => Indexable s turn request
  | .find _ _ _ => True
  | .restart config => config.identity = identity

theorem faithful_new (config : Config) (logName : Text) :
    Faithful verify config.identity (newIndexedLedger config logName) := by
  intro bounded
  have laidOut : LaidOut verify config.identity (newWorld config logName) :=
    laidOut_new config logName
  obtain ⟨same, parts, rest, layout⟩ := laidOut bounded
  exact ⟨same, parts, rest, layout, fun path index isIndex => by cases isIndex⟩

theorem keeps_indexedLog (n : Nat) (request : Request) :
    (IndexedLedger.log verify turn request).Keeps fun s => n ≤ s.ledger.returned.length := by
  refine Program.Keeps.bind (fun s held => keeps_log n request s.ledger held) fun entry => ?_
  exact Program.Keeps.bind (fun _ held => held) fun _ => Program.Keeps.pure _

theorem keeps_find (w : World) (container field value : Value) :
    (findEntriesByNestedValue container field value).Keeps fun s => s.ledger = w := by
  refine Program.Keeps.bind (Program.Keeps.ofExcept _) fun asked => ?_
  refine Program.Keeps.bind Program.Keeps.get fun s => ?_
  cases s.nestedIndexes.get? asked.1 with
  | some index => exact Program.Keeps.pure _
  | none =>
      refine Program.Keeps.bind (Program.Keeps.ofExcept _) fun index => ?_
      exact Program.Keeps.bind (Program.Keeps.modify fun _ held => held) fun _ =>
        Program.Keeps.pure _

theorem faithful_run (signs : identity.Signs verify) {call : IndexedCall}
    (faithful : Faithful verify identity s) (presumed : call.Presumed identity s) :
    Faithful verify identity (call.run verify s) := by
  intro bounded
  cases call with
  | log turn request =>
      have grown : s.ledger.returned.length ≤
          ((IndexedCall.log turn request).run verify s).ledger.returned.length :=
        keeps_indexedLog _ request s le_rfl
      obtain ⟨same, parts, rest, layout, answers⟩ := faithful (grown.trans_lt bounded)
      have small : (parts.flatten ++ rest).length < 10 ^ 20 := by
        rw [layout.length_returned]
        exact grown.trans_lt bounded
      obtain ⟨config, parts', rest', layout', answers', -⟩ :=
        log_kept (same ▸ signs) layout small answers presumed
      exact ⟨(congrArg Config.identity config).trans same, parts', rest', layout', answers'⟩
  | find container field value =>
      have same : ((IndexedCall.find container field value).run verify s).ledger = s.ledger :=
        keeps_find s.ledger container field value s rfl
      rw [same] at bounded
      obtain ⟨identity, parts, rest, layout, answers⟩ := faithful bounded
      have small : parts.flatten.length < 10 ^ 20 := by
        have total := layout.length_returned
        rw [List.length_append] at total
        omega
      obtain ⟨-, -, answers'⟩ := find_spec layout small answers container field value
      rw [same]
      exact ⟨identity, parts, rest, same.symm ▸ layout, answers'⟩
  | restart config =>
      have grown : s.ledger.returned.length ≤
          ((IndexedCall.restart config).run verify s).ledger.returned.length :=
        keeps_resume _ _ s.ledger le_rfl
      obtain ⟨same, parts, rest, layout, answers⟩ := faithful (grown.trans_lt bounded)
      have small : (parts.flatten ++ rest).length < 10 ^ 20 := by
        rw [layout.length_returned]
        exact grown.trans_lt bounded
      have sameIdentity : config.identity = s.ledger.config.identity := presumed.trans same.symm
      rw [IndexedCall.run, resume_eq layout small sameIdentity]
      exact ⟨presumed, parts, rest, layout.configured sameIdentity,
        fun path index isIndex => by cases isIndex⟩

theorem faithful_of_run {config : Config} {logName : Text} (signs : config.identity.Signs verify)
    {calls : List IndexedCall} (run : ((indexedSystem verify config logName).under
      (fun s call => call.Presumed config.identity s)).Run calls s) :
    Faithful verify config.identity s := by
  refine run.invariant ?_ ?_
  · rintro s rfl
    exact faithful_new config logName
  · rintro s call t faithful ⟨presumed, rfl⟩
    exact faithful_run signs faithful presumed

/-- In a run whose entries reach the files cleanly and fit the indexes that were built,
every look-up through an index returns or raises what the verified scan does, and `log`
raises only when the files are as they were. -/
theorem indexed_of_run {config : Config} {logName : Text} (signs : config.identity.Signs verify)
    {calls : List IndexedCall} (run : ((indexedSystem verify config logName).under
      (fun s call => call.Presumed config.identity s)).Run calls s)
    (bounded : s.ledger.returned.length < 10 ^ 20) :
    (∀ container field value, (findEntriesByNestedValue container field value s).1 =
        findVerifiedEntriesByNestedValue verify s.ledger container field value) ∧
      ∀ turn request raised, Indexable s turn request →
        (IndexedLedger.log verify turn request s).1 = .error raised →
          (IndexedLedger.log verify turn request s).2.ledger.disk.text = s.ledger.disk.text := by
  obtain ⟨same, parts, rest, layout, answers⟩ := faithful_of_run signs run bounded
  have small : (parts.flatten ++ rest).length < 10 ^ 20 := by
    rw [layout.length_returned]
    exact bounded
  have sealedSmall : parts.flatten.length < 10 ^ 20 := by
    rw [List.length_append] at small
    omega
  refine ⟨fun container field value => ?_, fun turn request raised indexable isRaised => ?_⟩
  · exact (find_spec layout sealedSmall answers container field value).1
  · obtain ⟨-, parts', rest', layout', -, unchanged⟩ :=
      log_kept (same ▸ signs) layout small answers indexable
    have entries := unchanged raised isRaised
    have small' : (parts'.flatten ++ rest').length < 10 ^ 20 := by
      rw [entries]
      exact small
    rw [layout'.text small', layout.text small, entries]

end

theorem SignedEntry.loaded_of_isJson {signed : SignedEntry}
    (json : IsJson (.dict signed.entry.unsigned)) : signed.loaded = signed.value := by
  have recordJson : IsJson signed.value :=
    IsJson.set (Str.joinSurrogates_lit _) (Str.joinSurrogates_ofText _) json
  rw [SignedEntry.loaded, reread_of_isJson _ recordJson, build_of_isJson _ recordJson]

/-! An index that was built before the entries it answers for. -/

def grantPath : Path :=
  ⟨Str.lit "delegation", Str.lit "grant_id"⟩

def grantLookup : IndexedCall :=
  .find (Value.lit "delegation") (Value.lit "grant_id") (Value.lit "g1")

def delegationRequest (fields : List (String × Value)) : Request :=
  ⟨[], [], some (Members.of [("delegation", .dict (Members.of fields))]), none⟩

def lookedUp : IndexedLedger :=
  grantLookup.run digestVerify (newIndexedLedger singleConfig [])

theorem lookedUp_layout : Layout digestVerify lookedUp.ledger [] [] :=
  ⟨rfl, rfl, by simp, accepted_nil, rfl, rfl, rfl⟩

/-- The next entry carries its delegation as it was given. -/
theorem unsigned_delegationRequest (w : World) (turn : Turn) (fields : List (String × Value))
    (keeps : w.config.redactDenied = false) :
    (nextEntry w turn (delegationRequest fields)).unsigned = Members.of
      [("seq", .int (w.seq + 1)), ("agent_id", .str w.config.identity.agentId),
        ("action", .str []), ("result", .str []), ("ts", .float turn.now),
        ("prev_hash", .str (Str.ofText w.prevHash)),
        ("delegation", .dict (Members.of fields))] := by
  rw [Entry.unsigned, Entry.extra, nextEntry]
  simp [keeps, delegationRequest, Entry.head, Members.of, Members.update, Members.setKey,
    Members.set]

theorem isJson_delegationRequest (w : World) (turn : Turn) {fields : List (String × Value)}
    (keeps : w.config.redactDenied = false) (json : IsJson (.dict (Members.of fields))) :
    IsJson (.dict (nextEntry w turn (delegationRequest fields)).unsigned) := by
  rw [unsigned_delegationRequest w turn fields keeps]
  refine isJson_object (by simp) fun field member => ?_
  simp only [List.mem_cons, List.not_mem_nil, or_false] at member
  rcases member with rfl | rfl | rfl | rfl | rfl | rfl | rfl
  · trivial
  · exact joinSurrogates_agentIdOf _ _
  · rfl
  · rfl
  · trivial
  · exact Str.joinSurrogates_ofText _
  · exact json

def grantRequest : Request :=
  delegationRequest [("grant_id", Value.lit "g1")]

theorem isJson_grantRequest :
    IsJson (.dict (nextEntry lookedUp.ledger steadyTurn grantRequest).unsigned) :=
  isJson_delegationRequest _ _ rfl
    (isJson_object (by simp) (by simp [IsJson, Value.lit, Str.joinSurrogates_lit]))

theorem indexable_grantRequest : Indexable lookedUp steadyTurn grantRequest := by
  refine ⟨rfl, fun _ => ⟨keysStable_of_isJson isJson_grantRequest, ?_⟩⟩
  intro path member
  have isGrant : path = grantPath := List.mem_singleton.mp member
  subst isGrant
  exact ⟨.inr ⟨_, _, rfl, rfl⟩, .inl (SignedEntry.loaded_of_isJson isJson_grantRequest)⟩

def grantCalls : List IndexedCall :=
  [grantLookup, .log steadyTurn grantRequest]

theorem indexed_of_run_grantCalls :
    (findEntriesByNestedValue (Value.lit "delegation") (Value.lit "grant_id") (Value.lit "g1")
        (IndexedCall.run digestVerify lookedUp (.log steadyTurn grantRequest))).1 =
      findVerifiedEntriesByNestedValue digestVerify
        (IndexedCall.run digestVerify lookedUp (.log steadyTurn grantRequest)).ledger
        (Value.lit "delegation") (Value.lit "grant_id") (Value.lit "g1") := by
  have run : ((indexedSystem digestVerify singleConfig []).under
      (fun s call => call.Presumed singleConfig.identity s)).Run grantCalls
        (IndexedCall.run digestVerify lookedUp (.log steadyTurn grantRequest)) := by
    have first : ((indexedSystem digestVerify singleConfig []).under
        (fun s call => call.Presumed singleConfig.identity s)).Run [grantLookup] lookedUp :=
      .step (.start rfl) ⟨trivial, rfl⟩
    exact first.step ⟨indexable_grantRequest, rfl⟩
  have one : (IndexedCall.run digestVerify lookedUp
      (.log steadyTurn grantRequest)).ledger.returned.length = 1 := rfl
  exact (indexed_of_run singleConfig_signs run (by rw [one]; norm_num)).1 _ _ _

/-- After a look-up that built an index, a delegation without a grant becomes durable
and the call raises. -/
theorem log_raises :
    Program.wp (IndexedLedger.log digestVerify steadyTurn (delegationRequest []))
      (fun r t => r = .error (.notString grantPath.container grantPath.field) ∧
        t.ledger.disk.text ≠ lookedUp.ledger.disk.text) lookedUp := by
  have json :
      IsJson (.dict (nextEntry lookedUp.ledger steadyTurn (delegationRequest [])).unsigned) :=
    isJson_delegationRequest _ _ rfl (isJson_object (by simp) (by simp))
  have outcome :
      Program.wp (log digestVerify steadyTurn (delegationRequest [])) _ lookedUp.ledger :=
    log_outcome singleConfig_signs lookedUp_layout (by norm_num) rfl
      fun _ => keysStable_of_isJson json
  unfold IndexedLedger.log
  rw [Program.wp_bind, wp_onLedger]
  refine Program.wp_mono outcome ?_
  rintro (raised | entry) ledger ⟨-, parts, rest, layout, outcome⟩
  · cases outcome.1
  · obtain ⟨-, rfl, entries⟩ := outcome
    refine ⟨rfl, ?_⟩
    change ledger.disk.text ≠ []
    have small : (parts.flatten ++ rest).length < 10 ^ 20 := by
      rw [entries]
      norm_num
    rw [layout.text small, entries]
    exact List.append_ne_nil_of_left_ne_nil (List.append_ne_nil_of_right_ne_nil _
      (List.cons_ne_nil _ _)) _

/-- An index that is built raises for entries the scan accepts. -/
theorem not_indexed : ¬ ∀ calls s, (indexedSystem digestVerify singleConfig []).Run calls s →
    (∀ container field value, (findEntriesByNestedValue container field value s).1 =
        findVerifiedEntriesByNestedValue digestVerify s.ledger container field value) ∧
      ∀ turn request raised, (IndexedLedger.log digestVerify turn request s).1 = .error raised →
        (IndexedLedger.log digestVerify turn request s).2.ledger.disk.text =
          s.ledger.disk.text := by
  intro claim
  have unchanged := (claim [grantLookup] lookedUp (.step (.start rfl) rfl)).2
  exact log_raises.2 (unchanged _ _ _ log_raises.1)

end SelfConnect.Ledger
