import SelfConnect.Ledger.Entry
import SelfConnect.Library.Locks
import SelfConnect.Library.System
import SelfConnect.Python.Codec

namespace SelfConnect.Ownership

open SelfConnect.Python SelfConnect.Library SelfConnect.Ledger

/-! Locks on the identities of a ledger and an approval store, taken one at a time. -/

/-- `st_dev` and `st_ino`. -/
structure FileId where
  dev : Nat
  ino : Nat
  deriving DecidableEq

/-- A directory and a name in it. -/
structure Place where
  parent : FileId
  name : Str
  deriving DecidableEq

/-- Where a path leads once links are resolved, if its directory is there, and the files
that are there. -/
structure FileSystem where
  place : Str → Option Place
  fileAt : Place → Option FileId

namespace FileSystem

variable (fs : FileSystem)

/-- The file that a path leads to. -/
def fileOf (path : Str) : Option FileId := (fs.place path).bind fs.fileAt

/-- Files and names are added; a path that leads to a file goes on leading to it. -/
structure Grows (before after : FileSystem) : Prop where
  files : ∀ place file, before.fileAt place = some file → after.fileAt place = some file
  paths : ∀ path place file, before.place path = some place →
    before.fileAt place = some file → after.place path = some place

end FileSystem

def fileIdentity (file : FileId) : Str :=
  Str.lit "file:" ++ Str.ofText (natText file.dev) ++ Str.lit ":" ++ Str.ofText (natText file.ino)

section Identities

variable (casefold : Str → Str)

def pathIdentity (place : Place) : Str :=
  Str.lit "path:" ++ Str.ofText (natText place.parent.dev) ++ Str.lit ":" ++
    Str.ofText (natText place.parent.ino) ++ Str.lit ":" ++ casefold place.name

/-- `_resource_identities`; `none` is an `OSError`. On a system whose names have one case,
`casefold` is the identity. -/
def resourceIdentities (fs : FileSystem) (path : Str) : Option (List Str) :=
  (fs.place path).map fun place =>
    pathIdentity casefold place :: (fs.fileAt place).toList.map fileIdentity

end Identities

/-- The file whose lock stands for an identity; `none` is `UnicodeEncodeError`. -/
def lockFile (identity : Str) : Option Text :=
  (Str.toText? identity).map fun text =>
    "resource-".toList ++ sha256Hex text ++ ".lock".toList

/-- `_assert_distinct_resources`. -/
def distinct (first second : List Str) : Bool := first.all fun identity => !second.contains identity

inductive Purpose
  | constructing
  | binding

/-- How far a call has got. -/
inductive Phase
  | absent
  | readLedger (purpose : Purpose)
  | readApproval (purpose : Purpose) (ledger : List Str)
  | acquiring (purpose : Purpose) (sets : List Str × List Str) (pending : List Str)
  | rereadLedger (sets : List Str × List Str)
  | rereadApproval (sets : List Str × List Str) (ledger : List Str)
  | idle
  | closing (failed : Bool) (remaining : List Text)
  | gone

/-- A `RuntimeOwnershipLock`. It is bound from the end of a `bind_opened_resources` that
returns until it is closed. -/
structure OwnershipLock where
  ledgerPath : Str
  approvalPath : Str
  locks : List Text
  held : List Str
  bound : Bool
  phase : Phase

def noLock : OwnershipLock := ⟨[], [], [], [], false, .absent⟩

/-- An operation that may raise for reasons of its own. -/
def attempt {α : Type} (fails : Bool) (result : Option α) : Option α :=
  if fails then none else result

namespace OwnershipLock

variable (lock : OwnershipLock)

/-- `close`: the identities are forgotten first, and the locks released in reverse. -/
def close (failed : Bool) : OwnershipLock :=
  { lock with locks := [], held := [], bound := false, phase := .closing failed lock.locks.reverse }

/-- A constructor that raises closes; `bind_opened_resources` keeps what it has. -/
def raise : Purpose → OwnershipLock
  | .constructing => lock.close true
  | .binding => { lock with phase := .idle }

/-- The identities that are still to be acquired, sorted. -/
def toAcquire (identities : List Str) : List Str :=
  sortStrings (identities.filter fun identity => !lock.held.contains identity)

/-- The next step of the call that is running. -/
def step (casefold : Str → Str) (fs : FileSystem) (table : LockTable Text Nat) (owner : Nat)
    (fails : Bool) : Option (LockTable Text Nat × OwnershipLock) :=
  match lock.phase with
  | .readLedger purpose =>
      match attempt fails (resourceIdentities casefold fs lock.ledgerPath) with
      | none => some (table, lock.raise purpose)
      | some ledger => some (table, { lock with phase := .readApproval purpose ledger })
  | .readApproval purpose ledger =>
      match attempt fails (resourceIdentities casefold fs lock.approvalPath) with
      | none => some (table, lock.raise purpose)
      | some approval =>
          if distinct ledger approval then
            some (table, { lock with
              phase := .acquiring purpose (ledger, approval) (lock.toAcquire (ledger ++ approval)) })
          else some (table, lock.raise purpose)
  | .acquiring .constructing _ [] => some (table, { lock with phase := .idle })
  | .acquiring .binding sets [] => some (table, { lock with phase := .rereadLedger sets })
  | .acquiring purpose sets (identity :: rest) =>
      match attempt fails (lockFile identity) with
      | none => some (table, lock.raise purpose)
      | some file =>
          match table.acquire file owner with
          | none => some (table, lock.raise purpose)
          | some table => some (table, { lock with
              locks := lock.locks ++ [file]
              held := lock.held ++ [identity]
              phase := .acquiring purpose sets rest })
  | .rereadLedger sets =>
      match attempt fails (resourceIdentities casefold fs lock.ledgerPath) with
      | none => some (table, lock.raise .binding)
      | some ledger => some (table, { lock with phase := .rereadApproval sets ledger })
  | .rereadApproval sets ledger =>
      match attempt fails (resourceIdentities casefold fs lock.approvalPath) with
      | none => some (table, lock.raise .binding)
      | some approval =>
          if distinct ledger approval && sets == (ledger, approval) then
            some (table, { lock with bound := true, phase := .idle })
          else some (table, lock.raise .binding)
  | .closing failed (file :: rest) =>
      some (table.release file, { lock with phase := .closing failed rest })
  | .closing failed [] => some (table, { lock with phase := if failed then .gone else .idle })
  | .absent | .idle | .gone => none

end OwnershipLock

structure World where
  fs : FileSystem
  table : LockTable Text Nat
  locks : Nat → OwnershipLock

/-- What happens next. A call may raise at any of its steps; a process may die at any
moment, and the system then releases its locks. -/
inductive Event
  | grow (fs : FileSystem)
  | construct (owner : Nat) (ledgerPath approvalPath : Str)
  | bind (owner : Nat) (fails : Bool)
  | step (owner : Nat) (fails : Bool)
  | close (owner : Nat)
  | crash (owner : Nat)

namespace World

variable (casefold : Str → Str) (w : World)

def put (owner : Nat) (table : LockTable Text Nat) (lock : OwnershipLock) : World :=
  { w with table := table, locks := Function.update w.locks owner lock }

/-- The world after an event of one of the locks, where it can happen. -/
def act : Event → Option World
  | .grow _ => none
  | .construct owner ledgerPath approvalPath =>
      match (w.locks owner).phase with
      | .absent => some (w.put owner w.table
          ⟨ledgerPath, approvalPath, [], [], false, .readLedger .constructing⟩)
      | _ => none
  | .bind owner fails =>
      match (w.locks owner).phase with
      | .idle =>
          if fails then some w
          else some (w.put owner w.table { w.locks owner with phase := .readLedger .binding })
      | _ => none
  | .step owner fails =>
      ((w.locks owner).step casefold w.fs w.table owner fails).map fun result =>
        w.put owner result.1 result.2
  | .close owner =>
      match (w.locks owner).phase with
      | .idle => some (w.put owner w.table ((w.locks owner).close false))
      | _ => none
  | .crash owner =>
      some (w.put owner (w.table.releaseAll owner)
        { w.locks owner with locks := [], held := [], bound := false, phase := .gone })

end World

def ownershipNext (casefold : Str → Str) (w : World) (event : Event) (after : World) : Prop :=
  w.act casefold event = some after ∨
    ∃ fs, event = .grow fs ∧ w.fs.Grows fs ∧ after = { w with fs := fs }

/-- Any number of locks on one host, from any file system. -/
def ownershipSystem (casefold : Str → Str) : System World Event where
  initial w := w.table = (fun _ => none) ∧ w.locks = fun _ => noLock
  next := ownershipNext casefold

/-! What the locks are for. -/

/-- The event is one of another lock, or of none. -/
def Event.owner : Event → Option Nat
  | .grow _ => none
  | .construct owner _ _ | .bind owner _ | .step owner _ | .close owner | .crash owner =>
      some owner

def OwnershipLock.resources (lock : OwnershipLock) : List Str :=
  [lock.ledgerPath, lock.approvalPath]

/-- No two locks that are bound share a file. -/
def Exclusive (w : World) : Prop :=
  ∀ i j, i ≠ j → (w.locks i).bound = true → (w.locks j).bound = true →
    ∀ path ∈ (w.locks i).resources, ∀ path' ∈ (w.locks j).resources, ∀ file,
      w.fs.fileOf path = some file → w.fs.fileOf path' ≠ some file

/-- `bind_opened_resources` is called when both resources have been created. -/
def Opened (w : World) : Event → Prop
  | .bind owner _ => ∀ path ∈ (w.locks owner).resources, (w.fs.fileOf path).isSome = true
  | _ => True

/-- Whatever one lock does, failing or not, the others keep what they hold, and what was
held by another is not taken. -/
def Harmless (casefold : Str → Str) (w : World) : Prop :=
  ∀ event after, ownershipNext casefold w event after → ∀ file other,
    event.owner ≠ some other → w.table file = some other → after.table file = some other

end SelfConnect.Ownership
