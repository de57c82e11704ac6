import Mathlib.Data.List.Nodup
import Mathlib.Data.List.Pairwise

namespace SelfConnect.Library

/-! Locks with a shared and an exclusive form, granted in the order in which they were asked
for: a waiting exclusive request keeps later shared ones waiting. -/

inductive LockMode
  | shared
  | exclusive
  deriving DecidableEq, Repr

def LockMode.Conflicts (a b : LockMode) : Prop :=
  a = .exclusive ∨ b = .exclusive

instance (a b : LockMode) : Decidable (a.Conflicts b) :=
  inferInstanceAs (Decidable (a = .exclusive ∨ b = .exclusive))

theorem LockMode.Conflicts.symm {a b : LockMode} (conflicts : a.Conflicts b) : b.Conflicts a :=
  Or.symm conflicts

/-- Two entries that may hold a lock together. -/
def Compatible {Holder : Type} (a b : Holder × LockMode) : Prop :=
  ¬ a.2.Conflicts b.2

instance {Holder : Type} : Std.Symm (@Compatible Holder) where
  symm := fun _ _ compatible conflicts => compatible conflicts.symm

@[ext]
structure FairLock (Holder : Type) where
  held : List (Holder × LockMode)
  waiting : List (Holder × LockMode)
  compatible : held.Pairwise Compatible

namespace FairLock

variable {Holder : Type}

def free : FairLock Holder where
  held := []
  waiting := []
  compatible := .nil

def ask (lock : FairLock Holder) (holder : Holder) (mode : LockMode) : FairLock Holder :=
  { lock with waiting := lock.waiting ++ [(holder, mode)] }

/-- Those ahead of a request: the holders and the earlier requests. -/
def Clear (lock : FairLock Holder) (front : List (Holder × LockMode)) (mode : LockMode) : Prop :=
  ∀ other ∈ lock.held ++ front, ¬ other.2.Conflicts mode

instance (lock : FairLock Holder) (front : List (Holder × LockMode)) (mode : LockMode) :
    Decidable (lock.Clear front mode) :=
  inferInstanceAs (Decidable (∀ other ∈ lock.held ++ front, ¬ other.2.Conflicts mode))

def grant (lock : FairLock Holder) (holder : Holder) (mode : LockMode)
    (front rest : List (Holder × LockMode)) (clear : lock.Clear front mode) :
    FairLock Holder where
  held := (holder, mode) :: lock.held
  waiting := front ++ rest
  compatible :=
    .cons (fun other member conflicts =>
      clear other (List.mem_append_left front member) conflicts.symm) lock.compatible

/-- A request is granted once nothing ahead of it conflicts. -/
inductive Granted (lock : FairLock Holder) (holder : Holder) (mode : LockMode) :
    FairLock Holder → Prop
  | intro (front rest : List (Holder × LockMode))
      (asked : lock.waiting = front ++ (holder, mode) :: rest)
      (clear : lock.Clear front mode) :
      Granted lock holder mode (lock.grant holder mode front rest clear)

def release [DecidableEq Holder] (lock : FairLock Holder) (holder : Holder) (mode : LockMode) :
    FairLock Holder where
  held := lock.held.erase (holder, mode)
  waiting := lock.waiting
  compatible := lock.compatible.sublist List.erase_sublist

/-- What a request has to wait for, one entry of it. -/
def BlockedBy (lock : FairLock Holder) (front : List (Holder × LockMode)) (mode : LockMode)
    (other : Holder × LockMode) : Prop :=
  other ∈ lock.held ++ front ∧ other.2.Conflicts mode

variable {lock after : FairLock Holder} {holder other : Holder} {mode otherMode : LockMode}

theorem Granted.held (granted : lock.Granted holder mode after) :
    after.held = (holder, mode) :: lock.held := by
  cases granted
  rfl

/-- The place a granted request left, and what was ahead of it. -/
theorem Granted.exists_split (granted : lock.Granted holder mode after) :
    ∃ front rest, lock.waiting = front ++ (holder, mode) :: rest ∧
      after.waiting = front ++ rest ∧ lock.Clear front mode := by
  cases granted with
  | intro front rest asked clear => exact ⟨front, rest, asked, rfl, clear⟩

/-- An exclusive holder is the only one. -/
theorem sole (exclusive : (holder, .exclusive) ∈ lock.held)
    (member : (other, otherMode) ∈ lock.held)
    (differs : other ≠ holder) : False := by
  have distinct : (holder, LockMode.exclusive) ≠ (other, otherMode) := by
    intro same
    exact differs (congrArg Prod.fst same).symm
  exact lock.compatible.forall exclusive member distinct (.inl rfl)

theorem mem_release [DecidableEq Holder] (member : (other, otherMode) ∈ lock.held)
    (differs : other ≠ holder) : (other, otherMode) ∈ (lock.release holder mode).held := by
  refine (List.mem_erase_of_ne ?_).mpr member
  intro same
  exact differs (congrArg Prod.fst same)

/-- Who waits once stands at one place of the queue. -/
theorem place_unique {queue front rest otherFront otherRest : List (Holder × LockMode)}
    (once : (queue.map Prod.fst).Nodup) (place : queue = front ++ (holder, mode) :: rest)
    (otherPlace : queue = otherFront ++ (holder, otherMode) :: otherRest) :
    front = otherFront ∧ mode = otherMode := by
  induction front generalizing queue otherFront with
  | nil =>
      cases otherFront with
      | nil =>
          rw [place] at otherPlace
          simp_all
      | cons head tail =>
          rw [place, List.nil_append, List.cons_append, List.cons.injEq] at otherPlace
          have again : holder ∈ rest.map Prod.fst :=
            List.mem_map.mpr ⟨(holder, otherMode), by simp [otherPlace.2], rfl⟩
          rw [place] at once
          exact absurd again (List.nodup_cons.mp once).1
  | cons head tail ih =>
      cases otherFront with
      | nil =>
          rw [place, List.nil_append, List.cons_append, List.cons.injEq] at otherPlace
          have again : holder ∈ (tail ++ (holder, mode) :: rest).map Prod.fst :=
            List.mem_map.mpr ⟨(holder, mode), by simp, rfl⟩
          rw [place, otherPlace.1] at once
          exact absurd again (List.nodup_cons.mp once).1
      | cons otherHead otherTail =>
          rw [place] at once
          rw [place, List.cons_append, List.cons_append, List.cons.injEq] at otherPlace
          have fewer : ((tail ++ (holder, mode) :: rest).map Prod.fst).Nodup :=
            (List.nodup_cons.mp once).2
          obtain ⟨sameTail, sameMode⟩ := ih fewer rfl otherPlace.2
          exact ⟨by rw [otherPlace.1, sameTail], sameMode⟩

theorem mem_of_earlier {queue front rest otherFront otherRest : List (Holder × LockMode)}
    {entry otherEntry : Holder × LockMode} (place : queue = front ++ entry :: rest)
    (otherPlace : queue = otherFront ++ otherEntry :: otherRest)
    (earlier : front.length < otherFront.length) : entry ∈ otherFront := by
  have here : queue[front.length]? = some entry := by simp [place]
  rw [otherPlace, List.getElem?_append_left earlier] at here
  exact List.mem_of_getElem? here

/-- Who stays behind when another request leaves the queue had no less ahead of it. -/
theorem place_before {front rest ownFront ownRest : List (Holder × LockMode)}
    {entry : Holder × LockMode} (own : Holder × LockMode)
    (left : ownFront ++ ownRest = front ++ entry :: rest) :
    ∃ earlier later, ownFront ++ own :: ownRest = earlier ++ entry :: later ∧
      ∀ other ∈ front, other ∈ earlier := by
  rcases List.append_eq_append_iff.mp left with ⟨between, isFront, isRest⟩ | ⟨between, isFront, isRest⟩
  · refine ⟨ownFront ++ own :: between, rest, by simp [isRest], fun other member => ?_⟩
    rw [isFront] at member
    rcases List.mem_append.mp member with before | after
    · exact List.mem_append_left _ before
    · exact List.mem_append_right _ (List.mem_cons_of_mem _ after)
  · cases between with
    | nil =>
        refine ⟨front ++ [own], rest, ?_, fun other member => List.mem_append_left _ member⟩
        rw [isFront, List.append_nil, ← show entry :: rest = ownRest from isRest]
        simp
    | cons head between =>
        obtain ⟨isEntry, isLater⟩ := List.cons.inj isRest
        refine ⟨front, between ++ own :: ownRest, ?_, fun other member => member⟩
        rw [isFront, isEntry]
        simp

/-- An exclusive holder holds the lock once, and nobody else does. -/
theorem held_of_exclusive (exclusive : (holder, .exclusive) ∈ lock.held) :
    lock.held = [(holder, .exclusive)] := by
  obtain ⟨front, rest, split⟩ := List.append_of_mem exclusive
  have compatible := lock.compatible
  rw [split, List.pairwise_append] at compatible
  obtain ⟨_, later, earlier⟩ := compatible
  have noFront : front = [] := by
    refine List.eq_nil_iff_forall_not_mem.mpr fun entry member => ?_
    exact earlier entry member _ List.mem_cons_self (.inr rfl)
  have noRest : rest = [] := by
    refine List.eq_nil_iff_forall_not_mem.mpr fun entry member => ?_
    exact (List.pairwise_cons.mp later).1 entry member (.inl rfl)
  rw [split, noFront, noRest, List.nil_append]

end FairLock

end SelfConnect.Library
