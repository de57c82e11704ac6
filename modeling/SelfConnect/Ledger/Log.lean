import SelfConnect.Ledger.Segments
import SelfConnect.Library.Program

namespace SelfConnect.Ledger

open SelfConnect.Python SelfConnect.Python.Json SelfConnect.Library

/-! Appending to a ledger, rotating its segments and resuming it. -/

/-- A limit of zero is no limit. -/
structure Config where
  identity : AgentIdentity
  redactDenied : Bool
  maxEntriesPerSegment : Nat
  maxBytesPerSegment : Nat

/-- What the surroundings do during one call of `log`. -/
structure Turn where
  now : PyFloat
  signFails : Bool
  replaceFails : Bool
  write : Write
  recoveryFails : Bool

/-- A ledger instance and its files, and the entries it has returned so far, which
the program never reads. -/
structure World where
  config : Config
  disk : Disk
  seq : Int
  prevHash : Text
  returned : List Value

abbrev Session (α : Type) := Program World Raised α

def segmentName (firstSeq lastSeq : Int) (prevHash : Text) : Text :=
  "segment-".toList ++ (zeroPadded 20 firstSeq.toNat ++ '-' ::
    (zeroPadded 20 lastSeq.toNat ++ '-' :: (prevHash.take 16 ++ ".jsonl".toList)))

/-- The file after a write to its end; only a refused open leaves a missing file
missing. -/
def Disk.append (disk : Disk) (write : Write) (text : Text) : Disk :=
  match write with
  | .refused => disk
  | _ => { disk with active := some (disk.active.getD [] ++ write.kept text) }

def Disk.truncate (disk : Disk) (size : Nat) : Disk :=
  { disk with active := disk.active.map (List.take size) }

def Disk.archive (disk : Disk) (name text : Text) : Disk :=
  { disk with archives := disk.archives ++ [⟨name, text⟩], active := none }

/-- One of the limits of a segment is reached. -/
def Config.isFull (config : Config) (text : Text) : Bool :=
  decide (0 < config.maxEntriesPerSegment ∧
    config.maxEntriesPerSegment ≤ (nonblankLines isNewline isSpace text).length) ||
  decide (0 < config.maxBytesPerSegment ∧ config.maxBytesPerSegment ≤ text.length)

def entrySeq (entry : Value) : Except Raised Int :=
  match entry.get? "seq" with
  | some seq => toIndex seq
  | none => .error .typeError

section Program

variable (verify : Ed25519Verify)

/-- `_rotate_if_needed`. -/
def rotateIfNeeded (turn : Turn) : Session Unit := do
  let w ← Program.get
  match w.disk.active with
  | none => pure ()
  | some text =>
      if text.isEmpty || !w.config.isFull text then pure ()
      else do
        let snapshot := verifySnapshot verify w.config.identity w.disk
        Program.require snapshot.valid (.rotationRefused snapshot.message)
        match (nonblankLines isLineBoundary isSpace text).mapM loads with
        | none => Program.raise .jsonError
        | some entries =>
            match entries.head?, entries.getLast? with
            | some first, some last => do
                let firstSeq ← Program.ofExcept (entrySeq first)
                let lastSeq ← Program.ofExcept (entrySeq last)
                let target := segmentName firstSeq lastSeq w.prevHash
                Program.require (!w.disk.archives.any fun segment => segment.name = target)
                  (.segmentExists target)
                Program.require (!turn.replaceFails) .osError
                Program.modify fun w => { w with disk := w.disk.archive target text }
            | _, _ => pure ()

/-- Cut the file back and reload the tail; the caller still gets the exception of
the write. -/
def recover (turn : Turn) (originalSize : Nat) : Session Unit := do
  Program.require (!turn.recoveryFails) .tailNotRestored
  Program.modify fun w => { w with disk := w.disk.truncate originalSize }
  let w ← Program.get
  Program.require (verifySnapshot verify w.config.identity w.disk).valid .tailNotRestored
  let seq ← Program.ofExcept ((loadLastSeq w.disk).mapError fun _ => .tailNotRestored)
  let prevHash ← Program.ofExcept ((loadLastHash w.disk).mapError fun _ => .tailNotRestored)
  Program.modify fun w => { w with seq, prevHash }

/-- The entry that `log` sets out to append. -/
def nextEntry (w : World) (turn : Turn) (request : Request) : Entry where
  seq := w.seq + 1
  agentId := w.config.identity.agentId
  now := turn.now
  prevHash := w.prevHash
  request := request
  redacted := w.config.redactDenied && request.isDeny

/-- `log` after the rotation. -/
def appendEntry (turn : Turn) (request : Request) : Session Value := do
  let w ← Program.get
  let entry := nextEntry w turn request
  let text ← Program.ofExcept
    ((dumpsSorted .compact (.dict entry.unsigned)).elim (.error Raised.typeError) .ok)
  Program.require (!turn.signFails) .signing
  let record := entry.record (w.config.identity.sign (encode text))
  Program.modify fun w => { w with disk := w.disk.append turn.write (lineText .default record) }
  if turn.write.isDurable then do
    Program.modify fun w =>
      { w with
        seq := entry.seq
        prevHash := sha256Hex text
        returned := w.returned ++ [record] }
    pure record
  else do
    recover verify turn (w.disk.active.getD []).length
    Program.raise .osError

/-- `log`. -/
def log (turn : Turn) (request : Request) : Session Value := do
  Program.require request.collisions.isEmpty (.reservedFields request.collisions)
  rotateIfNeeded verify turn
  appendEntry verify turn request

/-- `AgentLedger.__init__` over the files that are there. -/
def resume (config : Config) : Session Unit := do
  let w ← Program.get
  let snapshot := verifySnapshot verify config.identity w.disk
  Program.require snapshot.valid (.resumeRefused snapshot.message)
  let seq ← Program.ofExcept (loadLastSeq w.disk)
  let prevHash ← Program.ofExcept (loadLastHash w.disk)
  Program.modify fun w => { w with config, seq, prevHash }

end Program

end SelfConnect.Ledger
