import SelfConnect.Ledger.Segments
import SelfConnect.Library.Program

namespace SelfConnect.CngLedger

open SelfConnect.Python SelfConnect.Python.Json SelfConnect.Library SelfConnect.Ledger

/-! The ledger of an agent with a P-384 key: one file, chained with SHA-384. -/

/-- `GENESIS_HASH_CNG`. -/
def genesisHashCng : Text := List.replicate 96 '0'

def algoId : String := "ECDSA_P384_SHA384"

/-- An agent's P-384 key, without the private half. -/
structure CngIdentity where
  publicKey : Bytes
  backendId : Str

def CngIdentity.agentId (identity : CngIdentity) : Str :=
  agentIdOf false identity.publicKey

/-- The fields that metadata may not bring, in order. -/
def reserved : List String :=
  ["action", "agent_id", "algo", "crypto_backend", "prev_hash", "result", "seq", "sig", "ts"]

def collisions (request : Request) : List String :=
  reserved.filter fun name =>
    (request.metadata.getD []).any fun entry => entry.1 = .str (Str.lit name)

/-- An entry before it is signed. -/
structure CngEntry where
  identity : CngIdentity
  seq : Int
  now : PyFloat
  prevHash : Text
  request : Request

namespace CngEntry

def head (entry : CngEntry) : Members :=
  Members.of
    [("seq", .int entry.seq),
      ("agent_id", .str entry.identity.agentId),
      ("algo", Value.lit algoId),
      ("crypto_backend", .str entry.identity.backendId),
      ("action", .str entry.request.action),
      ("result", .str entry.request.result),
      ("ts", .float entry.now),
      ("prev_hash", .str (Str.ofText entry.prevHash))]

def extra (entry : CngEntry) : List Members :=
  entry.request.metadata.toList ++ (entry.request.label.map LabelEnvelope.toDict).toList

def unsigned (entry : CngEntry) : Members :=
  entry.extra.foldl Members.update entry.head

/-- The entry as it is written and returned. -/
def record (entry : CngEntry) (signature : Bytes) : Value :=
  .dict (Members.set (Str.lit "sig") (.str (Str.ofText (hexText signature))) entry.unsigned)

end CngEntry

inductive CngRaised
  | reservedFields (names : List String)
  | serialisation
  | signing
  | osError
  | typeError
  | attributeError

/-- What the surroundings do during one call of `log`: each of its steps may raise. -/
structure CngTurn where
  now : PyFloat
  serialises : Bool
  sign : Option (Bytes → Bytes)
  opens : Bool
  writes : Bool

/-- A ledger object, and its file if there is one. -/
structure CngWorld where
  identity : CngIdentity
  file : Option Text
  seq : Int
  prevHash : Text

def nextEntry (w : CngWorld) (turn : CngTurn) (request : Request) : CngEntry where
  identity := w.identity
  seq := w.seq
  now := turn.now
  prevHash := w.prevHash
  request := request

/-- `log`. The number is taken before the entry is serialised, and the hash before it is
written. -/
def log (turn : CngTurn) (request : Request) : Program CngWorld CngRaised Value := do
  Program.require (collisions request).isEmpty (.reservedFields (collisions request))
  Program.modify fun w => { w with seq := w.seq + 1 }
  let w ← Program.get
  let entry := nextEntry w turn request
  Program.require turn.serialises .serialisation
  let text ← Program.ofExcept
    ((dumpsSorted .compact (.dict entry.unsigned)).elim (.error CngRaised.typeError) .ok)
  let sign ← Program.ofExcept (turn.sign.elim (.error CngRaised.signing) .ok)
  Program.modify fun w => { w with prevHash := sha384Hex text }
  Program.require turn.opens .osError
  Program.modify fun w => { w with file := some (w.file.getD []) }
  Program.require turn.writes .osError
  let record := entry.record (sign (encode text))
  Program.modify fun w => { w with file := some (w.file.getD [] ++ lineText .default record) }
  pure record

/-! Verification, and what a new object takes from the file. -/

inductive CngFinding
  | parseError (line : Nat)
  | missingSig (line : Nat)
  | chainBroken (line : Nat) (expected : Text) (got : Value)
  | invalidSigHex (line : Nat)
  | signatureInvalid (line : Nat)

inductive CngMessage
  | empty
  | finding (finding : CngFinding)
  | intact (count : Nat)

structure Verdict where
  valid : Bool
  count : Nat
  message : CngMessage

structure CngCursor where
  prevHash : Text
  count : Nat

/-- Why the loop over the lines ends early. -/
inductive Stop
  | found (count : Nat) (finding : CngFinding)
  | raised (raised : CngRaised)

section Verify

variable (verify : Ed25519Verify) (identity : CngIdentity)

def checkEntry (line : Nat) (entry : Value) (cursor : CngCursor) : Except Stop CngCursor :=
  match entry with
  | .dict members =>
      let signed := Members.erase (Str.lit "sig") members
      match (Members.lookup (Str.lit "sig") members).getD .null with
      | .null => .error (.found cursor.count (.missingSig line))
      | sigHex =>
          let storedPrev := (Members.lookup (Str.lit "prev_hash") signed).getD (Value.lit "")
          if !storedPrev.eqv (.str (Str.ofText cursor.prevHash)) then
            match storedPrev with
            | .str _ | .list _ =>
                .error (.found cursor.count (.chainBroken line cursor.prevHash storedPrev))
            | _ => .error (.raised .typeError)
          else
            let text := render .compact (sortKeys (.dict signed))
            match sigHex with
            | .str hex =>
                match fromHex hex with
                | none => .error (.found cursor.count (.invalidSigHex line))
                | some signature =>
                    if !verify (encode text) signature identity.publicKey then
                      .error (.found cursor.count (.signatureInvalid line))
                    else .ok ⟨sha384Hex text, cursor.count + 1⟩
            | _ => .error (.raised .typeError)
  | .list _ => .error (.raised .typeError)
  | _ => .error (.raised .attributeError)

def checkLine (cursor : CngCursor) (numbered : Text × Nat) : Except Stop CngCursor :=
  let line := stripText isSpace numbered.1
  if line.isEmpty then .ok cursor
  else
    match loads line with
    | none => .error (.found cursor.count (.parseError numbered.2))
    | some entry => checkEntry verify identity numbered.2 entry cursor

def verifyFile (file : Option Text) : Except CngRaised Verdict :=
  match file with
  | none => .ok ⟨true, 0, .empty⟩
  | some text =>
      match ((splitLines isNewline text).zipIdx 1).foldlM (checkLine verify identity)
        ⟨genesisHashCng, 0⟩ with
      | .ok cursor => .ok ⟨true, cursor.count, .intact cursor.count⟩
      | .error (.found count finding) => .ok ⟨false, count, .finding finding⟩
      | .error (.raised raised) => .error raised

end Verify

def entryCount (file : Option Text) : Nat :=
  (nonblankLines isLineBoundary isSpace (file.getD [])).length

/-- `_last_entry`. -/
def lastEntry (file : Option Text) : Option Value :=
  file.bind fun text => (nonblankLines isLineBoundary isSpace text).reverse.findSome? loads

/-- `_load_last_seq`; a number that the ledger did not write is not taken further. -/
def loadLastSeq (file : Option Text) : Except CngRaised Int :=
  match lastEntry file with
  | none => .ok 0
  | some last =>
      if !last.truthy then .ok 0
      else if !last.isDict then .error .attributeError
      else
        match last.getD "seq" (.int 0) with
        | .int seq => .ok seq
        | _ => .error .typeError

/-- `_load_last_hash`. -/
def loadLastHash (file : Option Text) : Except CngRaised Text :=
  match lastEntry file with
  | none => .ok genesisHashCng
  | some last =>
      if !last.truthy then .ok genesisHashCng
      else
        match signedText last with
        | some text => .ok (sha384Hex text)
        | none => .error .attributeError

/-- `CngLedger.__init__` over the file that is there. -/
def resume : Program CngWorld CngRaised Unit := do
  let w ← Program.get
  let seq ← Program.ofExcept (loadLastSeq w.file)
  let prevHash ← Program.ofExcept (loadLastHash w.file)
  Program.modify fun w => { w with seq, prevHash }

end SelfConnect.CngLedger
