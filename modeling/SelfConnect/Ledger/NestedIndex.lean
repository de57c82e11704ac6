import SelfConnect.Ledger.Log
import SelfConnect.Python.Dict

namespace SelfConnect.Ledger

open SelfConnect.Python SelfConnect.Python.Json SelfConnect.Library

/-! Look-ups of entries by a value nested in their metadata: through an index that is
built at the first look-up and kept up to date by `log`, and by a scan of the verified
files. -/

inductive LookupRaised
  | ledger (raised : Raised)
  | typeError
  | notObject (container : Str)
  | notString (container field : Str)
  | unverified (message : Message)

/-- The path of an index: a field of a container. -/
structure Path where
  container : Str
  field : Str
  deriving DecidableEq

abbrev NestedIndex := Dict Str (List Value)

/-- A ledger with the indexes it has built. -/
structure IndexedLedger where
  ledger : World
  nestedIndexes : Dict Path NestedIndex

abbrev LookupSession (α : Type) := Program IndexedLedger LookupRaised α

def onLedger {α : Type} (p : Session α) : LookupSession α := fun s =>
  ((p s.ledger).1.mapError .ledger, { s with ledger := (p s.ledger).2 })

theorem wp_onLedger {α : Type} (p : Session α)
    (post : Except LookupRaised α → IndexedLedger → Prop) (s : IndexedLedger) :
    Program.wp (onLedger p) post s ↔
      Program.wp p (fun r ledger => post (r.mapError .ledger) { s with ledger }) s.ledger :=
  Iff.rfl

/-- `entry.get(container)` -/
def containerOf (container : Str) (entry : Value) : Except LookupRaised Value :=
  match entry with
  | .dict members => .ok ((Members.lookup container members).getD .null)
  | _ => .error (.ledger .attributeError)

/-- What both scans find under a path, if anything. -/
def nestedValue (path : Path) (entry : Value) : Except LookupRaised (Option Str) := do
  match ← containerOf path.container entry with
  | .null => .ok none
  | .dict nested =>
      match (Members.lookup path.field nested).getD .null with
      | .null => .ok none
      | .str value => .ok (some value)
      | _ => .error (.notString path.container path.field)
  | _ => .error (.notObject path.container)

/-- What the maintenance of an index finds under its path. -/
def maintainedValue (path : Path) (entry : Value) : Except LookupRaised (Option Str) := do
  match ← containerOf path.container entry with
  | .null => .ok none
  | .dict nested =>
      match Members.lookup path.field nested with
      | some (.str value) => .ok (some value)
      | _ => .error (.notString path.container path.field)
  | _ => .error (.notString path.container path.field)

/-- `index.setdefault(value, []).append(entry)`, where there is a value. -/
def NestedIndex.add (index : NestedIndex) (value : Option Str) (entry : Value) : NestedIndex :=
  match value with
  | none => index
  | some value => index.set value (index.getD value [] ++ [entry])

/-- `_update_nested_indexes`, in the order in which the indexes were built; it stops at
the first that raises. -/
def updateIndexes (entry : Value) :
    List (Path × NestedIndex) → Except LookupRaised Unit × List (Path × NestedIndex)
  | [] => (.ok (), [])
  | (path, index) :: rest =>
      match maintainedValue path entry with
      | .error raised => (.error raised, (path, index) :: rest)
      | .ok value =>
          let (outcome, updated) := updateIndexes entry rest
          (outcome, (path, index.add value entry) :: updated)

theorem keys_updateIndexes (entry : Value) (indexes : List (Path × NestedIndex)) :
    (updateIndexes entry indexes).2.map Prod.fst = indexes.map Prod.fst := by
  induction indexes with
  | nil => rfl
  | cons head rest ih =>
      obtain ⟨path, index⟩ := head
      rw [updateIndexes]
      cases maintainedValue path entry with
      | error raised => rfl
      | ok value => exact congrArg (path :: ·) ih

def updateNestedIndexes (entry : Value) : LookupSession Unit := fun s =>
  ((updateIndexes entry s.nestedIndexes.entries).1,
    { s with
      nestedIndexes :=
        ⟨(updateIndexes entry s.nestedIndexes.entries).2, by
          rw [keys_updateIndexes]
          exact s.nestedIndexes.nodup⟩ })

/-- The three arguments are strings with something in them. -/
def lookupArguments (container field value : Value) : Except LookupRaised (Path × Str) :=
  match container, field, value with
  | .str container, .str field, .str value =>
      if container.isEmpty || field.isEmpty || value.isEmpty then .error .typeError
      else .ok (⟨container, field⟩, value)
  | _, _, _ => .error .typeError

def indexEntry (path : Path) (index : NestedIndex) (entry : Value) :
    Except LookupRaised NestedIndex := do
  let value ← nestedValue path entry
  return index.add value entry

def indexLine (path : Path) (index : NestedIndex) (line : Text) :
    Except LookupRaised NestedIndex :=
  match loads line with
  | none => .error (.ledger .jsonError)
  | some entry => indexEntry path index entry

def buildIndex (path : Path) (disk : Disk) : Except LookupRaised NestedIndex :=
  (disk.ledgerPaths.flatMap fun segment => nonblankLines isNewline isSpace segment.text).foldlM
    (indexLine path) Dict.empty

def findEntriesByNestedValue (container field value : Value) : LookupSession (List Value) := do
  let (path, value) ← Program.ofExcept (lookupArguments container field value)
  let s ← Program.get
  match s.nestedIndexes.get? path with
  | some index => pure (index.getD value [])
  | none => do
      let index ← Program.ofExcept (buildIndex path s.ledger.disk)
      Program.modify fun s => { s with nestedIndexes := s.nestedIndexes.set path index }
      pure (index.getD value [])

/-- One entry of the verified scan. -/
def matchEntry (path : Path) (value : Str) (found : List Value) (entry : Value) :
    Except LookupRaised (List Value) := do
  match ← nestedValue path entry with
  | some nested => return if nested = value then found ++ [entry] else found
  | none => return found

section

variable (verify : Ed25519Verify)

def findVerifiedEntriesByNestedValue (w : World) (container field value : Value) :
    Except LookupRaised (List Value) := do
  let (path, value) ← lookupArguments container field value
  let snapshot := verifySnapshot verify w.config.identity w.disk
  if snapshot.valid then snapshot.entries.foldlM (matchEntry path value) []
  else .error (.unverified snapshot.message)

/-- `log` of a ledger with indexes; the entry is durable when they are updated. -/
def IndexedLedger.log (turn : Turn) (request : Request) : LookupSession Value := do
  let entry ← onLedger (Ledger.log verify turn request)
  updateNestedIndexes entry
  return entry

end

end SelfConnect.Ledger
