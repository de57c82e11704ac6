import Mathlib.Logic.Relation
import SelfConnect.Ultra.Import

namespace SelfConnect.Ultra.Independent

open SelfConnect.Js SelfConnect.Library SelfConnect.Library.Table SelfConnect.Ultra.Outbox

/-! What a target exports, and what a state comes to that is imported and exported again. -/

structure Snapshot where
  identityBindings : List BoundPair
  idempotency : List ExportedRow
  nonceTombstones : List Tombstone

def State.snapshot (state : State) : Snapshot :=
  ⟨state.identityBindings, state.idempotency, state.nonceTombstones⟩

/-- A proof of a credential that has been verified. -/
structure VerifiedCredential where
  credential : CredentialBinding
  isPromoted : Bool

/-- What the caller of an export gives: the proofs, what the lineage and the terminal revocation
of a promoted one are checked to be, the clock and the bounds. `isoString` is how the driver and
`toISOString` write a date of the tombstones. -/
structure ExportInput where
  sourceCredentials : List VerifiedCredential
  lineage : Target → VerifiedCredential → Bool
  isoString : Int → Text
  now : Int
  maxItems : Int
  maxBytes : Int

section Export

variable {codec : Codec} {Keys : Type} (site : Site codec Keys)

def snapshotFromRows (isoString : Int → Text) (bindings : List (Text × Binding))
    (idempotency : List (Text × Entry × Option Redaction)) (nonces : List (Text × Int)) :
    Option Snapshot := do
  let safeIdempotency ← idempotency.mapM fun row =>
    exportRow site.outbox site.stringify row.1 row.2.1 row.2.2
  guard (bindings.all fun row =>
    requireAgentIdentity codec row.2.agentId row.2.canonicalId row.2.agentPublicKeyHex)
  return ⟨bindings.map fun row => ⟨row.1, row.2⟩, safeIdempotency,
    nonces.map fun row => ⟨isoString row.2, row.1⟩⟩

def Target.recordRows (s : Target) : List (Text × Entry × Option Redaction) :=
  (rowsOf s.idempotency).filterMap fun row => row.2.response.map fun _ =>
    (row.1, row.2, s.redactions.lookup row.1)

variable (codec) in
def credentialFor (input : ExportInput) (s : Target) (row : Text × Binding) :
    Option CredentialBinding := do
  let binding := row.2
  guard (requireAgentIdentity codec binding.agentId binding.canonicalId binding.agentPublicKeyHex)
  let verified ← input.sourceCredentials.find? fun verified => verified.credential.pairId = row.1
  let credential := verified.credential
  guard (credential.agentId = binding.agentId ∧ credential.canonicalId = binding.canonicalId ∧
    credential.agentPublicKeyHex = binding.agentPublicKeyHex ∧
    credential.sourceClientId = binding.tskClientId)
  guard (verified.isPromoted = true → input.lineage s verified = true)
  return credential

/-- The state of what `exportIndependentState` signs. Tombstones that are past are deleted. -/
def exportState (input : ExportInput) (s : Target) : Option State := do
  guard (unique (input.sourceCredentials.map (·.credential.pairId)))
  guard (noProcessing s)
  guard (input.sourceCredentials.length = (rowsOf s.bindings).length)
  let credentialBindings ← (rowsOf s.bindings).mapM (credentialFor codec input s)
  let snapshot ← snapshotFromRows site input.isoString (rowsOf s.bindings) s.recordRows
    ((rowsOf s.nonces).filter fun row => input.now < row.2)
  let state : State := ⟨credentialBindings, snapshot.identityBindings, snapshot.idempotency,
    snapshot.nonceTombstones⟩
  guard ((snapshot.identityBindings.length + snapshot.idempotency.length +
    snapshot.nonceTombstones.length + credentialBindings.length : Nat) ≤ input.maxItems)
  guard (site.byteLength (canonicalJson site.stringify state.json) ≤ input.maxBytes)
  guard ((digestOf site state.json).isSome)
  return state

end Export

/-- A UUID is read as it is written. -/
def ReadsOwn (database : Database) : Prop :=
  ∀ value key, database.uuid value = some key → database.uuid (.str key) = some key

/-- What a row comes to: the key is written as PostgreSQL writes it, and a response with a secret
is left out and has to be provisioned again. -/
structure RowKept (database : Database) (row again : ExportedRow) : Prop where
  key : database.uuid (.str row.idempotencyKey) = some again.idempotencyKey
  operation : again.operation = row.operation
  agentId : again.agentId = row.agentId
  responseDigest : again.responseDigest = row.responseDigest
  required : again.secretReprovisionRequired =
    (row.secretReprovisionRequired || containsSecret row.response)
  response : again.response = if again.secretReprovisionRequired then .null else row.response

structure Kept (database : Database) (before after : Snapshot) : Prop where
  bindings : after.identityBindings.Perm before.identityBindings
  rows : ∀ row ∈ before.idempotency, ∃ again ∈ after.idempotency, RowKept database row again
  others : ∀ again ∈ after.idempotency, ∃ row ∈ before.idempotency, RowKept database row again
  once : (after.idempotency.map (·.idempotencyKey)).Nodup

/-- No response is a string, which is read as JSON again when it is exported. -/
def Structured (rows : List ExportedRow) : Prop := ∀ row ∈ rows, row.response.str? = none

theorem RowKept.trans {database : Database}
    (idempotent : ReadsOwn database)
    {row again last : ExportedRow} (front : RowKept database row again)
    (back : RowKept database again last) : RowKept database row last where
  key := by
    rw [front.key, ← idempotent _ _ front.key]
    exact back.key
  operation := back.operation.trans front.operation
  agentId := back.agentId.trans front.agentId
  responseDigest := back.responseDigest.trans front.responseDigest
  required := by
    rw [back.required, front.response, ← front.required]
    cases isRequired : again.secretReprovisionRequired with
    | true => rfl
    | false =>
        rw [front.required, Bool.or_eq_false_iff] at isRequired
        exact isRequired.2
  response := by
    rw [back.response, front.response, back.required]
    cases again.secretReprovisionRequired with
    | true => rfl
    | false => rfl

theorem Kept.trans {database : Database}
    (idempotent : ReadsOwn database)
    {first second third : Snapshot} (front : Kept database first second)
    (back : Kept database second third) : Kept database first third where
  bindings := back.bindings.trans front.bindings
  rows row member := by
    obtain ⟨again, isAgain, kept⟩ := front.rows row member
    obtain ⟨last, isLast, kept'⟩ := back.rows again isAgain
    exact ⟨last, isLast, kept.trans idempotent kept'⟩
  others last member := by
    obtain ⟨again, isAgain, kept'⟩ := back.others last member
    obtain ⟨row, isRow, kept⟩ := front.others again isAgain
    exact ⟨row, isRow, kept.trans idempotent kept'⟩
  once := back.once

theorem Kept.structured {database : Database} {before after : Snapshot}
    (kept : Kept database before after) (structured : Structured before.idempotency) :
    Structured after.idempotency := by
  intro again member
  obtain ⟨row, isRow, rowKept⟩ := kept.others again member
  rw [rowKept.response]
  split
  · rfl
  · exact structured row isRow

/-! The rows of the records of a bundle. -/

section Filed

variable {codec : Codec} {Keys : Type} {site : Site codec Keys} {bundle : Bundle}

def entryOf (row : ExportedRow) : Entry :=
  ⟨row.operation, row.agentId,
    some (if row.secretReprovisionRequired then placeholder (.str row.responseDigest)
      else row.response)⟩

variable (codec bundle) in
def redactionFor (row : ExportedRow) : Option Redaction :=
  if row.secretReprovisionRequired then some (redactionOf codec bundle row) else none

variable (site) in
/-- What an import checks of a record. -/
def Checked (row : ExportedRow) : Prop :=
  if row.secretReprovisionRequired = true then isNull row.response = true
  else digestOf site row.response = some row.responseDigest

/-- The rows of a key in both tables. -/
def Files (tables : Table Text Entry × Table Text Redaction) (key : Text) (entry : Entry)
    (redaction : Option Redaction) : Prop :=
  tables.1.lookup key = some entry ∧ tables.2.lookup key = redaction

/-- Every redaction is of a row that is there. -/
def Referenced (tables : Table Text Entry × Table Text Redaction) : Prop :=
  ∀ key, tables.1.lookup key = none → tables.2.lookup key = none

theorem insertRecord_eq_some {tables after : Table Text Entry × Table Text Redaction}
    {row : ExportedRow} (inserted : insertRecord site bundle tables row = some after) :
    Checked site row ∧ ∃ key, site.database.uuid (.str row.idempotencyKey) = some key ∧
      tables.1.lookup key = none ∧ after.1 = tables.1.insert key (entryOf row) ∧
      after.2 = ((redactionFor codec bundle row).map (tables.2.insert key ·)).getD tables.2 := by
  obtain ⟨isChecked, inserted⟩ := guard_bind_eq_some.mp inserted
  obtain ⟨key, isKey, inserted⟩ := Option.bind_eq_some_iff.mp inserted
  obtain ⟨-, inserted⟩ := guard_bind_eq_some.mp inserted
  obtain ⟨entries, isEntries, inserted⟩ := Option.bind_eq_some_iff.mp inserted
  obtain ⟨absent, rfl⟩ := insertRow_eq_some.mp isEntries
  unfold Checked
  cases required : row.secretReprovisionRequired with
  | true =>
      rw [required] at isChecked
      rw [if_pos required] at inserted
      obtain ⟨redactions, isRedactions, inserted⟩ := Option.bind_eq_some_iff.mp inserted
      obtain ⟨-, rfl⟩ := insertRow_eq_some.mp isRedactions
      cases inserted
      refine ⟨(Bool.and_eq_true_iff.mp isChecked).1, key, isKey, absent, ?_, ?_⟩
      · unfold entryOf
        rw [required]
      · unfold redactionFor
        rw [required]
        rfl
  | false =>
      rw [required] at isChecked
      rw [required] at inserted
      cases inserted
      refine ⟨of_decide_eq_true isChecked, key, isKey, absent, ?_, ?_⟩
      · unfold entryOf
        rw [required]
      · unfold redactionFor
        rw [required]
        rfl

theorem files_insertRecord {tables after : Table Text Entry × Table Text Redaction}
    {row : ExportedRow} (referenced : Referenced tables)
    (inserted : insertRecord site bundle tables row = some after) :
    Referenced after ∧ ∀ key entry redaction, Files after key entry redaction ↔
      (site.database.uuid (.str row.idempotencyKey) = some key ∧ entry = entryOf row ∧
        redaction = redactionFor codec bundle row) ∨ Files tables key entry redaction := by
  obtain ⟨-, own, isOwn, absent, isEntries, isRedactions⟩ := insertRecord_eq_some inserted
  have atOwn : after.1.lookup own = some (entryOf row) ∧
      after.2.lookup own = redactionFor codec bundle row := by
    rw [isEntries, isRedactions]
    refine ⟨Finmap.lookup_insert _, ?_⟩
    cases redactionFor codec bundle row with
    | none => exact referenced own absent
    | some redaction => exact Finmap.lookup_insert _
  have elsewhere : ∀ key, key ≠ own → after.1.lookup key = tables.1.lookup key ∧
      after.2.lookup key = tables.2.lookup key := by
    intro key differs
    rw [isEntries, isRedactions]
    refine ⟨Finmap.lookup_insert_of_ne _ differs, ?_⟩
    cases redactionFor codec bundle row with
    | none => rfl
    | some redaction => exact Finmap.lookup_insert_of_ne _ differs
  constructor
  · intro key isNone
    by_cases same : key = own
    · rw [same, atOwn.1] at isNone
      cases isNone
    · rw [(elsewhere key same).1] at isNone
      exact (elsewhere key same).2.trans (referenced key isNone)
  · intro key entry redaction
    by_cases same : key = own
    · subst same
      constructor
      · rintro ⟨isEntry, isRedaction⟩
        rw [atOwn.1] at isEntry
        exact .inl ⟨isOwn, (Option.some.inj isEntry).symm, isRedaction.symm.trans atOwn.2⟩
      · rintro (⟨-, rfl, rfl⟩ | ⟨isEntry, -⟩)
        · exact atOwn
        · rw [absent] at isEntry
          cases isEntry
    · unfold Files
      rw [(elsewhere key same).1, (elsewhere key same).2, isOwn]
      constructor
      · exact .inr
      · rintro (⟨isKey, -⟩ | found)
        · exact absurd (Option.some.inj isKey).symm same
        · exact found

/-- Inserting the records one after the other. -/
theorem files_foldlM {rows : List ExportedRow}
    {tables after : Table Text Entry × Table Text Redaction} (referenced : Referenced tables)
    (inserted : rows.foldlM (insertRecord site bundle) tables = some after) :
    (∀ row ∈ rows, Checked site row ∧
      (site.database.uuid (.str row.idempotencyKey)).isSome = true) ∧
    ∀ key entry redaction, Files after key entry redaction ↔
      (∃ row ∈ rows, site.database.uuid (.str row.idempotencyKey) = some key ∧
        entry = entryOf row ∧ redaction = redactionFor codec bundle row) ∨
      Files tables key entry redaction := by
  induction rows generalizing tables with
  | nil =>
      cases inserted
      exact ⟨fun row member => absurd member List.not_mem_nil, fun _ _ _ => by simp⟩
  | cons row rest ih =>
      rw [List.foldlM_cons] at inserted
      obtain ⟨next, isNext, inserted⟩ := Option.bind_eq_some_iff.mp inserted
      obtain ⟨isChecked, own, isOwn, -⟩ := insertRecord_eq_some isNext
      obtain ⟨nextReferenced, nextFiles⟩ := files_insertRecord referenced isNext
      obtain ⟨restChecked, files⟩ := ih nextReferenced inserted
      refine ⟨List.forall_mem_cons.mpr ⟨⟨isChecked, ?_⟩, restChecked⟩, ?_⟩
      · rw [isOwn]
        rfl
      · intro key entry redaction
        rw [files, nextFiles, List.exists_mem_cons_iff, ← or_assoc]
        exact or_congr_left or_comm

theorem isRedactionPlaceholder_placeholder (responseDigest : Text) :
    isRedactionPlaceholder (placeholder (.str responseDigest)) responseDigest = true := by
  have keys : exactKeys (placeholder (.str responseDigest))
      ["error", "ok", "originalResponseDigest"] = true := by
    change ([text "ok", text "error", text "originalResponseDigest"] : List Text).isPerm
      (["error", "ok", "originalResponseDigest"].map text) = true
    decide
  unfold isRedactionPlaceholder
  rw [keys]
  change (true && decide (some false = some false) && decide (_ = _) && decide (_ = _)) = true
  rw [decide_eq_true (show (placeholder (.str responseDigest)).getStr? "error" =
      some (text "SECRET_REPROVISION_REQUIRED") from rfl),
    decide_eq_true (show (placeholder (.str responseDigest)).getStr? "originalResponseDigest" =
      some responseDigest from rfl)]
  rfl

theorem parseJson_of_structured {outbox : DurableOutbox codec} {response : Json}
    (structured : response.str? = none) : parseJson outbox response = some response := by
  cases response with
  | str value => cases structured
  | _ => rfl

theorem exportRow_filed {row : ExportedRow} {key : Text}
    (isKey : site.database.uuid (.str row.idempotencyKey) = some key)
    (isChecked : Checked site row) (structured : row.response.str? = none) :
    ∃ again, exportRow site.outbox site.stringify key (entryOf row)
        (redactionFor codec bundle row) = some again ∧ again.idempotencyKey = key ∧
      RowKept site.database row again := by
  unfold Checked at isChecked
  cases required : row.secretReprovisionRequired with
  | true =>
      have isEntry : entryOf row =
          ⟨row.operation, row.agentId, some (placeholder (.str row.responseDigest))⟩ := by
        unfold entryOf
        rw [required]
        rfl
      have isRedaction : redactionFor codec bundle row = some (redactionOf codec bundle row) := by
        unfold redactionFor
        rw [required]
        rfl
      rw [isEntry, isRedaction]
      refine ⟨⟨row.agentId, key, row.operation, some (redactionOf codec bundle row).provenance,
        .null, row.responseDigest, true⟩, ?_, rfl, isKey, rfl, rfl, rfl, ?_, rfl⟩
      · exact guard_bind_eq_some.mpr ⟨isRedactionPlaceholder_placeholder row.responseDigest, rfl⟩
      · rw [required]
        rfl
  | false =>
      rw [required, if_neg Bool.false_ne_true] at isChecked
      have isEntry : entryOf row = ⟨row.operation, row.agentId, some row.response⟩ := by
        unfold entryOf
        rw [required]
        rfl
      have isRedaction : redactionFor codec bundle row = none := by
        unfold redactionFor
        rw [required]
        rfl
      rw [isEntry, isRedaction]
      refine ⟨⟨row.agentId, key, row.operation, none,
        if containsSecret row.response then .null else row.response, row.responseDigest,
        containsSecret row.response⟩, ?_, rfl, isKey, rfl, rfl, rfl, ?_, rfl⟩
      · change ((parseJson site.outbox row.response).bind _) = _
        rw [parseJson_of_structured structured, Option.bind_some]
        change ((exportDigest codec site.stringify row.response).bind _) = _
        rw [show exportDigest codec site.stringify row.response = some row.responseDigest from
          isChecked]
        rfl
      · rw [required]
        rfl

end Filed

/-! An import, and the export of the target. -/

section Hops

variable {codec : Codec} {Keys : Type} {site : Site codec Keys} {call : Call Keys}
  {clock : Text → Int} {s t : Target}

theorem tables_of_replaceState (replaced : replaceState site call clock s = some t) :
    call.bundle.manifest.state.identityBindings.foldlM (fun rows bound =>
        insertRow rows bound.pairId bound.binding) ∅ = some t.bindings ∧
      call.bundle.manifest.state.idempotency.foldlM (insertRecord site call.bundle) (∅, ∅) =
        some (t.idempotency, t.redactions) := by
  obtain ⟨-, replaced⟩ := guard_bind_eq_some.mp replaced
  obtain ⟨bindings, isBindings, replaced⟩ := Option.bind_eq_some_iff.mp replaced
  obtain ⟨tables, isTables, replaced⟩ := Option.bind_eq_some_iff.mp replaced
  obtain ⟨nonces, -, replaced⟩ := Option.bind_eq_some_iff.mp replaced
  obtain ⟨pending, -, replaced⟩ := Option.bind_eq_some_iff.mp replaced
  obtain ⟨imported, -, replaced⟩ := Option.bind_eq_some_iff.mp replaced
  cases replaced
  exact ⟨isBindings, isTables⟩

/-- The digest of an import is of identities that are valid. -/
theorem identities_of_replaceState (replaced : replaceState site call clock s = some t) :
    (rowsOf t.bindings).all (fun row => requireAgentIdentity codec row.2.agentId
      row.2.canonicalId row.2.agentPublicKeyHex) = true := by
  obtain ⟨imported, -, authority, -⟩ := replaced_of_replaceState replaced
  obtain ⟨state, isState, -⟩ := Option.bind_eq_some_iff.mp authority
  exact (guard_bind_eq_some.mp isState).1

theorem unique_of_accepts (isAccepted : accepts site call = true) :
    (call.bundle.manifest.state.identityBindings.map (·.pairId)).Nodup := by
  unfold accepts validateState at isAccepted
  simp only [Bool.and_eq_true] at isAccepted
  exact of_decide_eq_true isAccepted.1.1.2.1.1.1.1.1.1.1

theorem perm_bindings (isAccepted : accepts site call = true)
    (inserted : call.bundle.manifest.state.identityBindings.foldlM (fun rows bound =>
      insertRow rows bound.pairId bound.binding) ∅ = some t.bindings) :
    ((rowsOf t.bindings).map fun row => BoundPair.mk row.1 row.2).Perm
      call.bundle.manifest.state.identityBindings := by
  have once := (unique_of_accepts isAccepted).of_map
  have onceAfter : ((rowsOf t.bindings).map fun row => BoundPair.mk row.1 row.2).Nodup := by
    refine List.pairwise_map.mpr ((pairwise_rowsOf t.bindings).imp fun differs same => ?_)
    exact differs (congrArg BoundPair.pairId same)
  refine (List.perm_ext_iff_of_nodup onceAfter once).mpr fun bound => ?_
  have look := lookup_foldlM_insertRow inserted bound.pairId bound.binding
  rw [Finmap.lookup_empty] at look
  rw [List.mem_map]
  constructor
  · rintro ⟨row, isRow, rfl⟩
    rcases look.mp (mem_rowsOf.mp isRow) with ⟨source, isSource, samePair, sameBinding⟩ | isNone
    · have same : source = BoundPair.mk row.1 row.2 := congrArg₂ BoundPair.mk samePair sameBinding
      exact same ▸ isSource
    · cases isNone
  · intro member
    exact ⟨(bound.pairId, bound.binding),
      mem_rowsOf.mpr (look.mpr (.inl ⟨bound, member, rfl, rfl⟩)), rfl⟩

theorem mem_recordRows {key : Text} {entry : Entry} {redaction : Option Redaction} :
    (key, entry, redaction) ∈ t.recordRows ↔ entry.response.isSome = true ∧
      Files (t.idempotency, t.redactions) key entry redaction := by
  unfold Target.recordRows
  rw [List.mem_filterMap]
  constructor
  · rintro ⟨row, isRow, found⟩
    obtain ⟨response, isResponse, same⟩ := Option.map_eq_some_iff.mp found
    cases same
    exact ⟨Option.isSome_iff_exists.mpr ⟨response, isResponse⟩, mem_rowsOf.mp isRow, rfl⟩
  · rintro ⟨completed, isEntry, rfl⟩
    obtain ⟨response, isResponse⟩ := Option.isSome_iff_exists.mp completed
    refine ⟨(key, entry), mem_rowsOf.mpr isEntry, ?_⟩
    rw [isResponse]
    rfl

theorem pairwise_recordRows (t : Target) : (t.recordRows.map (·.1)).Nodup := by
  refine List.pairwise_map.mpr (List.pairwise_filterMap.mpr ((pairwise_rowsOf _).imp ?_))
  intro first second differs found isFound other isOther
  obtain ⟨_, -, rfl⟩ := Option.map_eq_some_iff.mp isFound
  obtain ⟨_, -, rfl⟩ := Option.map_eq_some_iff.mp isOther
  exact differs

theorem key_of_exportRow {row : Text × Entry × Option Redaction} {exported : ExportedRow}
    (isExported : exportRow site.outbox site.stringify row.1 row.2.1 row.2.2 = some exported) :
    exported.idempotencyKey = row.1 := by
  obtain ⟨response, -, isExported⟩ := Option.bind_eq_some_iff.mp isExported
  split at isExported
  · obtain ⟨-, isExported⟩ := guard_bind_eq_some.mp isExported
    cases isExported
    rfl
  · obtain ⟨responseDigest, -, isExported⟩ := Option.bind_eq_some_iff.mp isExported
    cases isExported
    rfl

theorem kept_of_replaceState (isAccepted : accepts site call = true)
    (structured : Structured call.bundle.manifest.state.idempotency)
    (replaced : replaceState site call clock s = some t) (isoString : Int → Text)
    (nonces : List (Text × Int)) : ∃ snapshot,
    snapshotFromRows site isoString (rowsOf t.bindings) t.recordRows nonces = some snapshot ∧
      Kept site.database call.bundle.manifest.state.snapshot snapshot := by
  obtain ⟨isBindings, isTables⟩ := tables_of_replaceState replaced
  obtain ⟨checked, files⟩ := files_foldlM (fun _ _ => Finmap.lookup_empty _) isTables
  have isRecord : ∀ key entry redaction, (key, entry, redaction) ∈ t.recordRows ↔
      ∃ row ∈ call.bundle.manifest.state.idempotency,
        site.database.uuid (.str row.idempotencyKey) = some key ∧ entry = entryOf row ∧
        redaction = redactionFor codec call.bundle row := by
    intro key entry redaction
    rw [mem_recordRows, files]
    constructor
    · rintro ⟨-, found | ⟨isEmpty, -⟩⟩
      · exact found
      · rw [Finmap.lookup_empty] at isEmpty
        cases isEmpty
    · rintro ⟨row, member, isKey, rfl, rfl⟩
      exact ⟨rfl, .inl ⟨row, member, isKey, rfl, rfl⟩⟩
  have read : ∀ item ∈ t.recordRows, ∃ row ∈ call.bundle.manifest.state.idempotency,
      ∃ again, exportRow site.outbox site.stringify item.1 item.2.1 item.2.2 = some again ∧
        RowKept site.database row again := by
    rintro ⟨key, entry, redaction⟩ member
    obtain ⟨row, isRow, isKey, rfl, rfl⟩ := (isRecord key entry redaction).mp member
    obtain ⟨again, isAgain, -, kept⟩ := exportRow_filed isKey (checked row isRow).1
      (structured row isRow)
    exact ⟨row, isRow, again, isAgain, kept⟩
  have completes : ∃ exported, t.recordRows.mapM (fun item =>
      exportRow site.outbox site.stringify item.1 item.2.1 item.2.2) = some exported := by
    refine mapM_of_forall fun item member => ?_
    obtain ⟨-, -, again, isAgain, -⟩ := read item member
    exact Option.isSome_iff_exists.mpr ⟨again, isAgain⟩
  obtain ⟨exported, isExported⟩ := completes
  obtain ⟨front, back⟩ := mem_of_mapM isExported
  refine ⟨_, Option.bind_eq_some_iff.mpr ⟨exported, isExported,
    guard_bind_eq_some.mpr ⟨identities_of_replaceState replaced, rfl⟩⟩, ?_, ?_, ?_, ?_⟩
  · exact perm_bindings isAccepted isBindings
  · intro row isRow
    obtain ⟨isChecked, hasKey⟩ := checked row isRow
    obtain ⟨key, isKey⟩ := Option.isSome_iff_exists.mp hasKey
    obtain ⟨again, isAgain, -, kept⟩ := exportRow_filed isKey isChecked (structured row isRow)
    obtain ⟨found, isMember, isFound⟩ := front _
      ((isRecord key (entryOf row) _).mpr ⟨row, isRow, isKey, rfl, rfl⟩)
    cases isAgain.symm.trans isFound
    exact ⟨again, isMember, kept⟩
  · intro again isAgain
    obtain ⟨item, isItem, isRead⟩ := back again isAgain
    obtain ⟨row, isRow, found, isFound, kept⟩ := read item isItem
    cases isFound.symm.trans isRead
    exact ⟨row, isRow, kept⟩
  · have keys : exported.map (·.idempotencyKey) = t.recordRows.map (·.1) :=
      map_of_mapM (fun item result isRead => key_of_exportRow isRead) isExported
    exact keys ▸ pairwise_recordRows t

/-- A site of another system identifier. -/
def Site.at (site : Site codec Keys) (systemId : Text) : Site codec Keys :=
  { site with systemId := systemId }

/-- An import into a target that has no head of the cluster. -/
def Loaded (site : Site codec Keys) (state : State) (t : Target) : Prop :=
  ∃ systemId call clock fresh result, call.bundle.manifest.state = state ∧
    fresh.heads.lookup call.bundle.manifest.clusterId = none ∧
    importIndependentState (site.at systemId) call clock fresh = some (result, t)

/-- A state is imported, and exported as another. -/
def Hop (site : Site codec Keys) (before after : State) : Prop :=
  ∃ t input, Loaded site before t ∧ exportState site input t = some after

theorem kept_of_loaded {state : State} (loaded : Loaded site state t)
    (structured : Structured state.idempotency) (isoString : Int → Text)
    (nonces : List (Text × Int)) : ∃ snapshot,
    snapshotFromRows site isoString (rowsOf t.bindings) t.recordRows nonces = some snapshot ∧
      Kept site.database state.snapshot snapshot := by
  obtain ⟨systemId, call, clock, fresh, result, rfl, isFresh, done⟩ := loaded
  obtain ⟨isAccepted, ⟨head, isHead, -⟩ | ⟨-, replaced⟩⟩ := import_cases done
  · rw [isFresh] at isHead
    cases isHead
  · exact kept_of_replaceState isAccepted structured replaced isoString nonces

theorem snapshot_of_exportState {input : ExportInput} {state : State}
    (exported : exportState site input t = some state) :
    snapshotFromRows site input.isoString (rowsOf t.bindings) t.recordRows
      ((rowsOf t.nonces).filter fun row => input.now < row.2) = some state.snapshot := by
  obtain ⟨-, exported⟩ := guard_bind_eq_some.mp exported
  obtain ⟨-, exported⟩ := guard_bind_eq_some.mp exported
  obtain ⟨-, exported⟩ := guard_bind_eq_some.mp exported
  obtain ⟨credentials, -, exported⟩ := Option.bind_eq_some_iff.mp exported
  obtain ⟨snapshot, isSnapshot, exported⟩ := Option.bind_eq_some_iff.mp exported
  obtain ⟨-, exported⟩ := guard_bind_eq_some.mp exported
  obtain ⟨-, exported⟩ := guard_bind_eq_some.mp exported
  obtain ⟨-, exported⟩ := guard_bind_eq_some.mp exported
  cases exported
  exact isSnapshot

theorem kept_of_hop {before after : State} (hop : Hop site before after)
    (structured : Structured before.idempotency) :
    Kept site.database before.snapshot after.snapshot := by
  obtain ⟨t, input, loaded, exported⟩ := hop
  obtain ⟨snapshot, isSnapshot, kept⟩ := kept_of_loaded loaded structured input.isoString
    ((rowsOf t.nonces).filter fun row => input.now < row.2)
  cases isSnapshot.symm.trans (snapshot_of_exportState exported)
  exact kept

theorem kept_of_hops (idempotent : ReadsOwn site.database) {first last : State}
    (hops : Relation.TransGen (Hop site) first last)
    (structured : Structured first.idempotency) :
    Kept site.database first.snapshot last.snapshot := by
  induction hops with
  | single hop => exact kept_of_hop hop structured
  | tail _ hop ih => exact ih.trans idempotent (kept_of_hop hop (ih.structured structured))

/-- After any number of hops, what an import has brought is exported again. -/
theorem kept_of_hops_loaded (idempotent : ReadsOwn site.database) {first last : State}
    (hops : Relation.ReflTransGen (Hop site) first last)
    (structured : Structured first.idempotency) (loaded : Loaded site last t)
    (isoString : Int → Text) (nonces : List (Text × Int)) : ∃ snapshot,
    snapshotFromRows site isoString (rowsOf t.bindings) t.recordRows nonces = some snapshot ∧
      Kept site.database first.snapshot snapshot := by
  rcases Relation.reflTransGen_iff_eq_or_transGen.mp hops with rfl | further
  · exact kept_of_loaded loaded structured isoString nonces
  · have kept := kept_of_hops idempotent further structured
    obtain ⟨snapshot, isSnapshot, again⟩ :=
      kept_of_loaded loaded (kept.structured structured) isoString nonces
    exact ⟨snapshot, isSnapshot, kept.trans idempotent again⟩

end Hops

/-- What a row would come to if nothing changed. -/
structure Exact (row again : ExportedRow) : Prop where
  key : again.idempotencyKey = row.idempotencyKey
  operation : again.operation = row.operation
  agentId : again.agentId = row.agentId
  response : again.response = row.response
  responseDigest : again.responseDigest = row.responseDigest
  required : again.secretReprovisionRequired = row.secretReprovisionRequired

/-- A state of one record, and a bundle of it. -/
def recordState (row : ExportedRow) : State := ⟨[], [], [row], []⟩

def recordCall (row : ExportedRow) : Call Unit :=
  let call := sampleCall 1 []
  { call with
    bundle := { call.bundle with
      manifest := { call.bundle.manifest with state := recordState row, itemCount := 1 } } }

/-- A secret that is not marked as one. -/
def secretRow : ExportedRow :=
  ⟨text "agent", completionKey, text "provision-tsk", none, secretResponse, sampleDigest, false⟩

theorem loaded_secretRow : ∃ t, Loaded sampleSite (recordState secretRow) t := by
  have imported : (importIndependentState sampleSite (recordCall secretRow) (fun _ => 0)
      emptyTarget).isSome = true := by decide +kernel
  obtain ⟨⟨result, t⟩, done⟩ := Option.isSome_iff_exists.mp imported
  exact ⟨t, sampleSite.systemId, recordCall secretRow, fun _ => 0, emptyTarget, result, rfl, rfl,
    done⟩

theorem structured_secretRow : Structured (recordState secretRow).idempotency :=
  List.forall_mem_singleton.mpr rfl

/-- The secret is left out of the first export. -/
theorem not_forall_exact_secretRow : ¬ ∀ (state : State) (t : Target) (snapshot : Snapshot),
    Structured state.idempotency → Loaded sampleSite state t →
      snapshotFromRows sampleSite (fun _ => []) (rowsOf t.bindings) t.recordRows [] =
        some snapshot →
      ∀ row ∈ state.idempotency, ∃ again ∈ snapshot.idempotency, Exact row again := by
  intro every
  obtain ⟨t, loaded⟩ := loaded_secretRow
  obtain ⟨snapshot, isSnapshot, kept⟩ :=
    kept_of_loaded loaded structured_secretRow (fun _ => []) []
  obtain ⟨again, isAgain, same⟩ :=
    every _ t snapshot structured_secretRow loaded isSnapshot secretRow List.mem_cons_self
  obtain ⟨row, isRow, rowKept⟩ := kept.others again isAgain
  cases List.mem_singleton.mp isRow
  have required : again.secretReprovisionRequired = true := by
    rw [rowKept.required]
    decide
  rw [same.required] at required
  cases required

theorem kept_of_hops_loaded_secretRow : ∃ (t : Target) (snapshot : Snapshot),
    snapshotFromRows sampleSite (fun _ => []) (rowsOf t.bindings) t.recordRows [] =
      some snapshot ∧
    Kept sampleDatabase (recordState secretRow).snapshot snapshot := by
  obtain ⟨t, loaded⟩ := loaded_secretRow
  have idempotent : ReadsOwn sampleSite.database := by
    intro value key isKey
    obtain ⟨spelled, -, rfl⟩ := Option.map_eq_some_iff.mp isKey
    change some ((spelled.map lowerUnit).map lowerUnit) = _
    rw [List.map_map]
    exact congrArg some (List.map_congr_left fun u _ => lowerUnit_lowerUnit u)
  obtain ⟨snapshot, isSnapshot, kept⟩ :=
    kept_of_hops_loaded idempotent .refl structured_secretRow loaded (fun _ => []) []
  exact ⟨t, snapshot, isSnapshot, kept⟩

end SelfConnect.Ultra.Independent
