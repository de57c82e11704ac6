import SelfConnect.Ledger.Entry
import SelfConnect.Python.Json.Lines
import SelfConnect.Python.File

namespace SelfConnect.Ledger

open SelfConnect.Python SelfConnect.Python.Json

/-! The files of a ledger: sealed segments, in the order they were sealed, and the
file that is appended to. -/

structure Segment where
  name : Text
  text : Text

structure Disk where
  logName : Text
  archives : List Segment
  active : Option Text

/-- `_archive_paths`, sorted by name; the directory holds nothing but segments. -/
def Disk.archivePaths (disk : Disk) : List Segment :=
  disk.archives.insertionSort fun first second => first.name ≤ second.name

/-- `_ledger_paths`. -/
def Disk.ledgerPaths (disk : Disk) : List Segment :=
  disk.archivePaths ++ (disk.active.map fun text => ⟨disk.logName, text⟩).toList

/-! Verification reads the segments in the order of their names and stops at the
first finding. -/

inductive Finding
  | parseError (file : Text) (line : Nat)
  | notObject (file : Text) (line : Nat)
  | missingSig (file : Text) (line : Nat)
  | sequenceMismatch (file : Text) (line : Nat) (expected : Int) (got : Value)
  | agentMismatch (file : Text) (line : Nat)
  | chainBroken (file : Text) (line : Nat) (expected : Text) (got : Value)
  | invalidSigHex (file : Text) (line : Nat)
  | signatureInvalid (file : Text) (line : Nat)

inductive Message
  | empty
  | finding (finding : Finding)
  | intact (count : Nat)

structure Snapshot where
  valid : Bool
  count : Nat
  message : Message
  entries : List Value

structure Cursor where
  prevHash : Text
  count : Nat
  expectedSeq : Int
  entries : List Value

def Cursor.initial : Cursor :=
  ⟨genesisHash, 0, 1, []⟩

section Verify

variable (verify : Ed25519Verify) (identity : AgentIdentity)

def checkEntry (file : Text) (line : Nat) (entry : Value) (cursor : Cursor) :
    Except Finding Cursor :=
  match entry with
  | .dict members =>
      let signed := Members.erase (Str.lit "sig") members
      match (Members.lookup (Str.lit "sig") members).getD .null with
      | .null => .error (.missingSig file line)
      | sigHex =>
          let seq := (Members.lookup (Str.lit "seq") signed).getD .null
          let agentId := (Members.lookup (Str.lit "agent_id") signed).getD .null
          let storedPrev := (Members.lookup (Str.lit "prev_hash") signed).getD (Value.lit "")
          if !seq.eqv (.int cursor.expectedSeq) then
            .error (.sequenceMismatch file line cursor.expectedSeq seq)
          else if !agentId.eqv (.str identity.agentId) then .error (.agentMismatch file line)
          else if !storedPrev.eqv (.str (Str.ofText cursor.prevHash)) then
            .error (.chainBroken file line cursor.prevHash storedPrev)
          else
            match sigHex.str?.bind fromHex with
            | none => .error (.invalidSigHex file line)
            | some signature =>
                -- the keys of a parsed entry are strings and sort
                let text := render .compact (sortKeys (.dict signed))
                if !verify (encode text) signature identity.publicKey then
                  .error (.signatureInvalid file line)
                else
                  .ok
                    { prevHash := sha256Hex text
                      count := cursor.count + 1
                      expectedSeq := cursor.expectedSeq + 1
                      entries := cursor.entries ++ [entry] }
  | _ => .error (.notObject file line)

/-- One line of a segment, `numbered` from 1. -/
def checkLine (file : Text) (cursor : Cursor) (numbered : Text × Nat) :
    Except (Nat × Finding) Cursor :=
  let line := stripText isAsciiSpace numbered.1
  if line.isEmpty then .ok cursor
  else
    match loads line with
    | none => .error (cursor.count, .parseError file numbered.2)
    | some entry =>
        (checkEntry verify identity file numbered.2 entry cursor).mapError (cursor.count, ·)

def checkSegment (cursor : Cursor) (segment : Segment) : Except (Nat × Finding) Cursor :=
  ((splitLines isNewline segment.text).zipIdx 1).foldlM
    (checkLine verify identity segment.name) cursor

/-- `_verify_snapshot`. -/
def verifySnapshot (disk : Disk) : Snapshot :=
  match disk.ledgerPaths with
  | [] => { valid := true, count := 0, message := .empty, entries := [] }
  | paths =>
      match paths.foldlM (checkSegment verify identity) Cursor.initial with
      | .error (count, finding) =>
          { valid := false, count, message := .finding finding, entries := [] }
      | .ok cursor =>
          { valid := true
            count := cursor.count
            message := .intact cursor.count
            entries := cursor.entries }

end Verify

/-! The tail of the ledger. -/

/-- The lines that hold something, as they are. -/
def nonblankLines (boundary space : Char → Bool) (text : Text) : List Text :=
  (splitLines boundary text).filter fun line => !(stripText space line).isEmpty

/-- `_last_entry`: the last line that parses, in the last segment that has one. -/
def lastEntry (disk : Disk) : Option Value :=
  disk.ledgerPaths.reverse.findSome? fun segment =>
    (nonblankLines isLineBoundary isSpace segment.text).reverse.findSome? loads

inductive Raised
  | reservedFields (names : List String)
  | typeError
  | attributeError
  | jsonError
  | signing
  | osError
  | resumeRefused (message : Message)
  | rotationRefused (message : Message)
  | segmentExists (name : Text)
  | tailNotRestored

/-- An integer attribute of a parsed entry; floats are cut off as `int` does. -/
def toIndex (value : Value) : Except Raised Int :=
  match value.number? with
  | some (.finite q) => .ok (q.num.tdiv q.den)
  | _ => .error .typeError

/-- `_load_last_seq`. -/
def loadLastSeq (disk : Disk) : Except Raised Int :=
  match lastEntry disk with
  | none => .ok 0
  | some last =>
      if !last.truthy then .ok 0
      else if !last.isDict then .error .attributeError
      else toIndex (last.getD "seq" (.int 0))

/-- `_load_last_hash`. -/
def loadLastHash (disk : Disk) : Except Raised Text :=
  match lastEntry disk with
  | none => .ok genesisHash
  | some last =>
      if !last.truthy then .ok genesisHash
      else
        match signedText last with
        | some text => .ok (sha256Hex text)
        | none => .error .attributeError

end SelfConnect.Ledger
