import SelfConnect.Sessions.Manifest
import SelfConnect.Library.System

namespace SelfConnect.Sessions

open SelfConnect.Python SelfConnect.Python.Json SelfConnect.Library SelfConnect.Provenance

/-! The operations of the session index. -/

/-- A signed index has an identity to sign with. -/
structure IndexConfig where
  identity : Option IndexIdentity
  requireSignatures : Bool
  signing : requireSignatures = true → identity.isSome = true

def IndexConfig.policy (config : IndexConfig) : IndexPolicy where
  publicKey := config.identity.map fun identity => identity.publicKey
  expectedAgentId := config.identity.map fun identity => Str.ofText identity.agentId
  requireSignatures := config.requireSignatures

structure SessionIndex where
  config : IndexConfig
  prevHash : Str
  entries : List (Value × SessionManifestEntry)
  loaded : Bool

/-- `SessionIndex.__init__`. -/
def SessionIndex.create (config : IndexConfig) : SessionIndex :=
  ⟨config, genesisHash, [], false⟩

/-- What the surroundings do during a call. -/
structure IndexTurn where
  now : Datetime
  readFails : Bool
  directoryFails : Bool
  signFails : Bool
  write : Write

structure IndexWorld where
  index : SessionIndex
  file : Option Text
  turns : Nat

abbrev Indexing (α : Type) := Program IndexWorld IndexRaised α

def IndexWorld.update (w : IndexWorld) (f : SessionIndex → SessionIndex) : IndexWorld :=
  { w with index := f w.index }

def IndexWorld.append (w : IndexWorld) (write : Write) (text : Text) : IndexWorld :=
  match write with
  | .refused => w
  | _ => { w with file := some (w.file.getD [] ++ write.kept text) }

/-- `entries[session_id] = entry`; an equal key keeps its place. -/
def setEntry (sessionId : Value) (entry : SessionManifestEntry) :
    List (Value × SessionManifestEntry) → List (Value × SessionManifestEntry)
  | [] => [(sessionId, entry)]
  | (key, old) :: rest =>
      if key.eqv sessionId then (key, entry) :: rest
      else (key, old) :: setEntry sessionId entry rest

/-- `entries.get(session_id)`. -/
def getEntry (sessionId : Str) (entries : List (Value × SessionManifestEntry)) :
    Option SessionManifestEntry :=
  (entries.find? fun stored => stored.1.eqv (.str sessionId)).map Prod.snd

def SessionIndex.store (index : SessionIndex) (sessionId : Value) (entry : SessionManifestEntry) :
    SessionIndex :=
  { index with entries := setEntry sessionId entry index.entries }

def isHashable : Value → Bool
  | .list _ | .dict _ => false
  | _ => true

section Program

variable (crypto : Crypto) (turns : Nat → IndexTurn)

def takeIndexTurn : Indexing IndexTurn := do
  let w ← Program.get
  Program.modify fun w => { w with turns := w.turns + 1 }
  pure (turns w.turns)

/-- The loop of `_load`. -/
def storeRecords : List Value → Indexing Unit
  | [] => pure ()
  | record :: rest => do
      let entry := SessionManifestEntry.fromDict record
      Program.require entry.sessionId.truthy (.sessionIndex .emptySessionId)
      Program.require (isHashable entry.sessionId) .typeError
      Program.modify fun w => w.update fun index => index.store entry.sessionId entry
      storeRecords rest

/-- `_load`. -/
def load (readFails : Bool) : Indexing Unit := do
  let w ← Program.get
  Program.require (!(readFails && w.file.isSome)) (.sessionIndex .readFailed)
  let found ← Program.ofExcept (validatedIndexRecords crypto w.index.config.policy w.file)
  storeRecords found.1
  Program.modify fun w => w.update fun index => { index with prevHash := found.2 }

/-- `_ensure_loaded`. -/
def ensureLoaded (readFails : Bool) : Indexing Unit := do
  let w ← Program.get
  if w.index.loaded then pure ()
  else do
    load crypto readFails
    Program.modify fun w => w.update fun index => { index with loaded := true }

def IndexIdentity.fields (identity : IndexIdentity) : List (String × Value) :=
  [("index_record_version", .int 2),
    ("signer_agent_id", .str (Str.ofText identity.agentId)),
    ("signer_public_key_hex", .str (Str.ofText (hexText identity.publicKey)))]

/-- The fields of a record with its signature, when there is an identity to sign. -/
def signEntry (config : IndexConfig) (fails : Bool) (entry : SessionManifestEntry) :
    Except SessionIndexError (List (String × Value)) :=
  match config.identity with
  | none => if config.requireSignatures then .error .noSigningIdentity else .ok entry.fields
  | some identity =>
      let stamped := entry.fields ++ identity.fields
      match indexSigningBytes (Value.object stamped) with
      | none => .error .signingFailed
      | some payload =>
          if fails then .error .signingFailed
          else
            .ok (stamped ++ [("entry_signature",
              .str (Str.ofText (hexText (identity.sign (encode payload)))))])

/-- `_write_entry`. -/
def writeEntry (turn : IndexTurn) (entry : SessionManifestEntry) :
    Indexing SessionManifestEntry := do
  Program.require (!turn.directoryFails) .osError
  let w ← Program.get
  let signed ← Program.ofExcept
    ((signEntry w.index.config turn.signFails entry).mapError IndexRaised.sessionIndex)
  let entryHash ← Program.ofExcept
    ((canonicalHash (Value.object signed)).elim (.error IndexRaised.typeError) .ok)
  let hashed : SessionManifestEntry := { entry with entryHash := .str entryHash }
  let record := Value.object (signed ++ [("entry_hash", .str entryHash)])
  Program.modify fun w => w.update fun index => index.store hashed.sessionId hashed
  let prevHash ← Program.ofExcept
    ((canonicalHash record).elim (.error IndexRaised.typeError) .ok)
  Program.modify fun w => w.update fun index => { index with prevHash }
  Program.modify fun w => w.append turn.write (lineText .compact (sortKeys record))
  Program.require turn.write.isDurable (.sessionIndex .writeFailed)
  pure hashed

/-- `open_session`; the recorder knows its log's path. -/
def openSession (recorder : Recorder) (logPath : Str) : Indexing SessionManifestEntry := do
  let turn ← takeIndexTurn turns
  ensureLoaded crypto turn.readFails
  let w ← Program.get
  writeEntry turn
    { sessionId := .str recorder.config.sessionId
      agentId := .str recorder.config.agentId
      auditMode := Value.lit recorder.auditMode.value
      startedAt := .str (Str.ofText turn.now.isoformat)
      logPath := .str logPath
      firstEventHash := (recorder.firstEventHash.map Value.str).getD .null
      lastKnownSeq := .int recorder.seq
      lastHeartbeatTs := .null
      sessionState := Value.lit SessionState.opened.value
      closedAt := .null
      summary := .null
      remoteReceipt := .null
      prevHash := .str w.index.prevHash
      entryHash := .null }

/-- What an update says about a session. -/
structure SessionUpdate where
  recorder : Option Recorder
  state : Option SessionState
  summary : Option Members
  remoteReceipt : Option Members

/-- The changes `update_session` makes to the entry before it writes it. -/
def SessionUpdate.apply (update : SessionUpdate) (now : Datetime) (prevHash : Str)
    (entry : SessionManifestEntry) : SessionManifestEntry :=
  { entry with
    lastKnownSeq := (update.recorder.map fun r => Value.int r.seq).getD entry.lastKnownSeq
    firstEventHash :=
      (((update.recorder.bind Recorder.firstEventHash).filter fun hash => !hash.isEmpty).map
        Value.str).getD entry.firstEventHash
    sessionState := (update.state.map fun state => Value.lit state.value).getD entry.sessionState
    closedAt :=
      if update.state = some .sealed then .str (Str.ofText now.isoformat) else entry.closedAt
    summary := (update.summary.map Value.dict).getD entry.summary
    remoteReceipt := (update.remoteReceipt.map Value.dict).getD entry.remoteReceipt
    prevHash := .str prevHash }

/-- `update_session`, which changes the entry in its place before it writes it. -/
def updateSession (sessionId : Str) (update : SessionUpdate) :
    Indexing (Option SessionManifestEntry) := do
  let turn ← takeIndexTurn turns
  ensureLoaded crypto turn.readFails
  let w ← Program.get
  match getEntry sessionId w.index.entries with
  | none => pure none
  | some entry => do
      let changed := update.apply turn.now w.index.prevHash entry
      Program.modify fun w => w.update fun index => index.store (.str sessionId) changed
      let written ← writeEntry turn changed
      pure (some written)

/-- `get_session`. -/
def getSession (sessionId : Str) : Indexing (Option SessionManifestEntry) := do
  let turn ← takeIndexTurn turns
  ensureLoaded crypto turn.readFails
  let w ← Program.get
  pure (getEntry sessionId w.index.entries)

/-! Runs: calls on the index, and restarts that put a new index on the same file. -/

inductive IndexCall
  | openSession (recorder : Recorder) (logPath : Str)
  | updateSession (sessionId : Str) (update : SessionUpdate)
  | getSession (sessionId : Str)
  | restart

def IndexCall.run (w : IndexWorld) : IndexCall → IndexWorld
  | .openSession recorder logPath => (Sessions.openSession crypto turns recorder logPath w).2
  | .updateSession sessionId update => (Sessions.updateSession crypto turns sessionId update w).2
  | .getSession sessionId => (Sessions.getSession crypto turns sessionId w).2
  | .restart => { w with index := SessionIndex.create w.index.config }

def newIndexWorld (config : IndexConfig) : IndexWorld :=
  ⟨SessionIndex.create config, none, 0⟩

def indexSystem (config : IndexConfig) : System IndexWorld IndexCall where
  initial w := w = newIndexWorld config
  next w call w' := w' = call.run crypto turns w

/-- The index that a new process loads from the file. -/
def freshLoad (config : IndexConfig) (file : Option Text) : Except IndexRaised SessionIndex :=
  match load crypto false ⟨SessionIndex.create config, file, 0⟩ with
  | (.ok (), w) => .ok w.index
  | (.error raised, _) => .error raised

end Program

end SelfConnect.Sessions
