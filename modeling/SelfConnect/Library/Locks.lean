import Mathlib.Logic.Function.Basic

namespace SelfConnect.Library

/-! Exclusive locks: every lock has one holder at most. -/

abbrev LockTable (Name Holder : Type) : Type :=
  Name → Option Holder

namespace LockTable

variable {Name Holder : Type} [DecidableEq Name]

/-- A lock that is held cannot be acquired, by its holder neither. -/
def acquire (table : LockTable Name Holder) (name : Name) (holder : Holder) :
    Option (LockTable Name Holder) :=
  match table name with
  | none => some (Function.update table name (some holder))
  | some _ => none

def release (table : LockTable Name Holder) (name : Name) : LockTable Name Holder :=
  Function.update table name none

/-- All the locks of a holder, as when it dies. -/
def releaseAll [DecidableEq Holder] (table : LockTable Name Holder) (holder : Holder) :
    LockTable Name Holder :=
  fun name => if table name = some holder then none else table name

/-- Nobody else loses a lock. -/
def KeepsOthers (holder : Holder) (before after : LockTable Name Holder) : Prop :=
  ∀ name other, other ≠ holder → before name = some other → after name = some other

variable {table after : LockTable Name Holder} {name : Name} {holder : Holder}

theorem acquire_eq_some :
    table.acquire name holder = some after ↔
      table name = none ∧ after = Function.update table name (some holder) := by
  unfold acquire
  cases free : table name with
  | none => exact ⟨fun same => ⟨rfl, (Option.some.inj same).symm⟩, fun same => same.2 ▸ rfl⟩
  | some other => exact iff_of_false (fun same => by cases same) fun same => by cases same.1

omit [DecidableEq Name] in
theorem KeepsOthers.refl (holder : Holder) (table : LockTable Name Holder) :
    KeepsOthers holder table table :=
  fun _ _ _ held => held

theorem keepsOthers_acquire (acquired : table.acquire name holder = some after) :
    KeepsOthers holder table after := by
  obtain ⟨free, isAfter⟩ := acquire_eq_some.mp acquired
  intro other owner _ held
  have differs : other ≠ name := by
    intro same
    rw [same, free] at held
    cases held
  rw [isAfter, Function.update_of_ne differs, held]

theorem keepsOthers_release (owned : table name = some holder) :
    KeepsOthers holder table (table.release name) := by
  intro other owner another held
  have differs : other ≠ name := by
    intro same
    rw [same, owned] at held
    exact another (Option.some.inj held).symm
  rw [release, Function.update_of_ne differs, held]

omit [DecidableEq Name] in
theorem keepsOthers_releaseAll [DecidableEq Holder] :
    KeepsOthers holder table (table.releaseAll holder) := by
  intro name other another held
  rw [releaseAll, held, if_neg]
  exact fun same => another (Option.some.inj same)

end LockTable

end SelfConnect.Library
