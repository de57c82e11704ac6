import Mathlib.Data.Set.Card
import Mathlib.Logic.Function.Basic
import SelfConnect.Library.System

namespace SelfConnect.Runtime

open SelfConnect.Library

/-! `RuntimeLifetime`: the operations of many threads, and their drain. -/

/-- The code of the class that runs with its condition held. -/
inductive Section
  | admission
  | departure
  | closing
  | draining
  deriving DecidableEq, Repr

/-- Where a thread stands; `parked` is inside `Condition.wait`. -/
inductive Place
  | running
  | awaiting (part : Section)
  | holding (part : Section)
  | parked
  deriving DecidableEq, Repr

structure RuntimeLifetime (Thread : Type) where
  accepting : Bool
  inFlight : Int
  revoked : Bool
  holder : Option Thread
  /-- `_local.depth`, zero where it is not set. -/
  depth : Thread → Nat
  place : Thread → Place

namespace RuntimeLifetime

variable {Thread : Type} [DecidableEq Thread]

def new : RuntimeLifetime Thread where
  accepting := true
  inFlight := 0
  revoked := false
  holder := none
  depth := fun _ => 0
  place := fun _ => .running

def goes (s : RuntimeLifetime Thread) (u : Thread) (place : Place) : RuntimeLifetime Thread :=
  { s with place := Function.update s.place u place }

def deep (s : RuntimeLifetime Thread) (u : Thread) (depth : Nat) : RuntimeLifetime Thread :=
  { s with depth := Function.update s.depth u depth }

def take (s : RuntimeLifetime Thread) (u : Thread) (part : Section) : RuntimeLifetime Thread :=
  { s with holder := some u }.goes u (.holding part)

def release (s : RuntimeLifetime Thread) (u : Thread) (place : Place) : RuntimeLifetime Thread :=
  { s with holder := none }.goes u place

def notifyAll (s : RuntimeLifetime Thread) : RuntimeLifetime Thread :=
  { s with place := fun v => if s.place v = .parked then .awaiting .draining else s.place v }

/-- `operation` up to its `yield`, or to the condition. -/
def operation (s : RuntimeLifetime Thread) (u : Thread) : RuntimeLifetime Thread :=
  if s.depth u ≠ 0 then s.deep u (s.depth u + 1)
  else s.goes u (.awaiting .admission)

/-- The admission of an outermost operation; a closed runtime raises. -/
def admitOperation (s : RuntimeLifetime Thread) (u : Thread) : RuntimeLifetime Thread :=
  if s.accepting = false then s.release u .running
  else ({ s with inFlight := s.inFlight + 1 }.deep u 1).release u .running

/-- The `finally` of an operation, whether its body returned or raised. -/
def leave (s : RuntimeLifetime Thread) (u : Thread) : RuntimeLifetime Thread :=
  if 1 < s.depth u then s.deep u (s.depth u - 1)
  else (s.deep u 0).goes u (.awaiting .departure)

def count (s : RuntimeLifetime Thread) : RuntimeLifetime Thread :=
  { s with inFlight := s.inFlight - 1 }

def depart (s : RuntimeLifetime Thread) (u : Thread) : RuntimeLifetime Thread :=
  if s.count.inFlight = 0 then s.count.notifyAll.release u .running
  else s.count.release u .running

/-- The loop of `close_and_drain`, each time with the condition held. -/
def drain (s : RuntimeLifetime Thread) (u : Thread) : RuntimeLifetime Thread :=
  if s.inFlight ≠ 0 then s.release u .parked else s.release u .running

def close (s : RuntimeLifetime Thread) (u : Thread) : RuntimeLifetime Thread :=
  { s with accepting := false, revoked := true }.drain u

/-- `close_and_drain` up to the condition; inside an operation it raises. -/
def closeAndDrain (s : RuntimeLifetime Thread) (u : Thread) : RuntimeLifetime Thread :=
  if s.depth u ≠ 0 then s else s.goes u (.awaiting .closing)

/-- An outermost operation, from its admission until the count is given back. -/
def InProgress (s : RuntimeLifetime Thread) (u : Thread) : Prop :=
  s.depth u ≠ 0 ∨ s.place u = .awaiting .departure ∨ s.place u = .holding .departure

end RuntimeLifetime

/-- What a thread does next; `left` and `departed` say whether the body raised. -/
inductive Event
  | nested
  | requested
  | locked (part : Section)
  | admitted
  | refused
  | left (raised : Bool)
  | departed (raised : Bool)
  | ended
  | reentrant
  | closing
  | parked
  | closed
  deriving DecidableEq, Repr

structure Label (Thread : Type) where
  thread : Thread
  event : Event
  deriving DecidableEq, Repr

def Event.Starts (event : Event) : Prop := event = .nested ∨ event = .admitted

variable {Thread : Type} [DecidableEq Thread]

/-- One thread goes on, to its next use of the condition or of its depth. -/
inductive Step :
    RuntimeLifetime Thread → Label Thread → RuntimeLifetime Thread → Prop
  | nested {s : RuntimeLifetime Thread} {u : Thread} :
      s.place u = .running → s.depth u ≠ 0 → Step s ⟨u, .nested⟩ (s.operation u)
  | requested {s : RuntimeLifetime Thread} {u : Thread} :
      s.place u = .running → s.depth u = 0 → Step s ⟨u, .requested⟩ (s.operation u)
  | locked {s : RuntimeLifetime Thread} {u : Thread} {part : Section} :
      s.place u = .awaiting part → s.holder = none → Step s ⟨u, .locked part⟩ (s.take u part)
  | admitted {s : RuntimeLifetime Thread} {u : Thread} :
      s.place u = .holding .admission → s.accepting = true →
      Step s ⟨u, .admitted⟩ (s.admitOperation u)
  | refused {s : RuntimeLifetime Thread} {u : Thread} :
      s.place u = .holding .admission → s.accepting = false →
      Step s ⟨u, .refused⟩ (s.admitOperation u)
  | left {s : RuntimeLifetime Thread} {u : Thread} {raised : Bool} :
      s.place u = .running → 1 < s.depth u → Step s ⟨u, .left raised⟩ (s.leave u)
  | departed {s : RuntimeLifetime Thread} {u : Thread} {raised : Bool} :
      s.place u = .running → s.depth u = 1 → Step s ⟨u, .departed raised⟩ (s.leave u)
  | ended {s : RuntimeLifetime Thread} {u : Thread} :
      s.place u = .holding .departure → Step s ⟨u, .ended⟩ (s.depart u)
  | reentrant {s : RuntimeLifetime Thread} {u : Thread} :
      s.place u = .running → s.depth u ≠ 0 → Step s ⟨u, .reentrant⟩ (s.closeAndDrain u)
  | closing {s : RuntimeLifetime Thread} {u : Thread} :
      s.place u = .running → s.depth u = 0 → Step s ⟨u, .closing⟩ (s.closeAndDrain u)
  | parked {s : RuntimeLifetime Thread} {u : Thread} :
      s.place u = .holding .closing → s.inFlight ≠ 0 → Step s ⟨u, .parked⟩ (s.close u)
  | parkedAgain {s : RuntimeLifetime Thread} {u : Thread} :
      s.place u = .holding .draining → s.inFlight ≠ 0 → Step s ⟨u, .parked⟩ (s.drain u)
  | closed {s : RuntimeLifetime Thread} {u : Thread} :
      s.place u = .holding .closing → s.inFlight = 0 → Step s ⟨u, .closed⟩ (s.close u)
  | drained {s : RuntimeLifetime Thread} {u : Thread} :
      s.place u = .holding .draining → s.inFlight = 0 → Step s ⟨u, .closed⟩ (s.drain u)

variable (Thread) in
/-- Any threads, in any order. -/
def lifetime : System (RuntimeLifetime Thread) (Label Thread) where
  initial := fun s => s = .new
  next := Step

namespace Event

/-- Where a step leaves its thread. -/
def place : Event → Place
  | .requested => .awaiting .admission
  | .locked part => .holding part
  | .departed _ => .awaiting .departure
  | .closing => .awaiting .closing
  | .parked => .parked
  | _ => .running

def depth (event : Event) (before : Nat) : Nat :=
  match event with
  | .nested => before + 1
  | .admitted => 1
  | .left _ => before - 1
  | .departed _ => 0
  | _ => before

def counts : Event → Int
  | .admitted => 1
  | .ended => -1
  | _ => 0

end Event

/-- What the outermost operations in progress are after a step. -/
def Label.progress (label : Label Thread) (before : Set Thread) : Set Thread :=
  match label.event with
  | .admitted => insert label.thread before
  | .ended => before \ {label.thread}
  | _ => before

section Steps

open RuntimeLifetime

variable {s t : RuntimeLifetime Thread} {label : Label Thread} {u v : Thread}

/-- The count may reach zero here, and then every parked thread is woken. -/
theorem depart_cases (s : RuntimeLifetime Thread) (u : Thread) :
    (s.inFlight - 1 = 0 ∧ s.depart u = s.count.notifyAll.release u .running) ∨
      (s.inFlight - 1 ≠ 0 ∧ s.depart u = s.count.release u .running) := by
  by_cases last : s.inFlight - 1 = 0
  · exact .inl ⟨last, if_pos last⟩
  · exact .inr ⟨last, if_neg last⟩

/-- A step of another thread leaves a thread where it is, except that it may wake it. -/
theorem step_other (step : Step s label t) (other : v ≠ label.thread) :
    t.depth v = s.depth v ∧
      (t.place v = s.place v ∨ s.place v = .parked ∧ t.place v = .awaiting .draining) := by
  cases step with
  | nested _ inside => simp_all [operation, deep]
  | requested _ outside => simp_all [operation, goes]
  | locked => simp_all [take, goes]
  | admitted _ accepting => simp_all [admitOperation, deep, release, goes]
  | refused _ accepting => simp_all [admitOperation, release, goes]
  | left _ inner => simp_all [leave, deep]
  | departed _ outermost => simp_all [leave, deep, goes]
  | @ended u _ =>
      rcases depart_cases s u with ⟨_, isAfter⟩ | ⟨_, isAfter⟩
      · rw [isAfter]
        by_cases waits : s.place v = .parked <;> simp_all [count, notifyAll, release, goes]
      · simp_all [count, release, goes]
  | reentrant _ inside => simp_all [closeAndDrain]
  | closing _ outside => simp_all [closeAndDrain, goes]
  | parked _ some => simp_all [close, drain, release, goes]
  | parkedAgain _ some => simp_all [drain, release, goes]
  | closed _ none => simp_all [close, drain, release, goes]
  | drained _ none => simp_all [drain, release, goes]

theorem step_own (step : Step s label t) :
    t.place label.thread = label.event.place ∧
      t.depth label.thread = label.event.depth (s.depth label.thread) := by
  cases step with
  | nested runs inside => simp_all [operation, deep, Event.place, Event.depth]
  | requested runs outside => simp_all [operation, goes, Event.place, Event.depth]
  | locked => simp [take, goes, Event.place, Event.depth]
  | admitted _ accepting =>
      simp [admitOperation, accepting, deep, release, goes, Event.place, Event.depth]
  | refused _ accepting => simp [admitOperation, accepting, release, goes, Event.place, Event.depth]
  | left runs inner => simp [leave, runs, inner, deep, Event.place, Event.depth]
  | departed _ outermost => simp [leave, outermost, deep, goes, Event.place, Event.depth]
  | @ended u _ =>
      rcases depart_cases s u with ⟨_, isAfter⟩ | ⟨_, isAfter⟩ <;>
        simp [isAfter, count, notifyAll, release, goes, Event.place, Event.depth]
  | reentrant runs inside => simp [closeAndDrain, runs, inside, Event.place, Event.depth]
  | closing _ outside => simp [closeAndDrain, outside, goes, Event.place, Event.depth]
  | parked _ some => simp [close, drain, some, release, goes, Event.place, Event.depth]
  | parkedAgain _ some => simp [drain, some, release, goes, Event.place, Event.depth]
  | closed _ none => simp [close, drain, none, release, goes, Event.place, Event.depth]
  | drained _ none => simp [drain, none, release, goes, Event.place, Event.depth]

theorem step_inFlight (step : Step s label t) :
    t.inFlight = s.inFlight + label.event.counts := by
  cases step with
  | nested _ inside => simp [operation, inside, deep, Event.counts]
  | requested _ outside => simp [operation, outside, goes, Event.counts]
  | locked => simp [take, goes, Event.counts]
  | admitted _ accepting => simp [admitOperation, accepting, deep, release, goes, Event.counts]
  | refused _ accepting => simp [admitOperation, accepting, release, goes, Event.counts]
  | left _ inner => simp [leave, inner, deep, Event.counts]
  | departed _ outermost => simp [leave, outermost, deep, goes, Event.counts]
  | @ended u _ =>
      rcases depart_cases s u with ⟨_, isAfter⟩ | ⟨_, isAfter⟩ <;>
        simp [isAfter, count, notifyAll, release, goes, Event.counts, Int.sub_eq_add_neg]
  | reentrant _ inside => simp [closeAndDrain, inside, Event.counts]
  | closing _ outside => simp [closeAndDrain, outside, goes, Event.counts]
  | parked _ some => simp [close, drain, some, release, goes, Event.counts]
  | parkedAgain _ some => simp [drain, some, release, goes, Event.counts]
  | closed _ none => simp [close, drain, none, release, goes, Event.counts]
  | drained _ none => simp [drain, none, release, goes, Event.counts]

/-- Closing the runtime is for good. -/
theorem step_accepting (step : Step s label t) (accepting : t.accepting = true) :
    s.accepting = true := by
  cases step with
  | nested _ inside => simpa [operation, inside, deep] using accepting
  | requested _ outside => simpa [operation, outside, goes] using accepting
  | locked => simpa [take, goes] using accepting
  | admitted _ accepts => exact accepts
  | refused _ refuses => simp [admitOperation, refuses, release, goes] at accepting
  | left _ inner => simpa [leave, inner, deep] using accepting
  | departed _ outermost => simpa [leave, outermost, deep, goes] using accepting
  | @ended u _ =>
      rcases depart_cases s u with ⟨_, isAfter⟩ | ⟨_, isAfter⟩ <;>
        simpa [isAfter, count, notifyAll, release, goes] using accepting
  | reentrant _ inside => simpa [closeAndDrain, inside] using accepting
  | closing _ outside => simpa [closeAndDrain, outside, goes] using accepting
  | parked _ some => simp [close, drain, some, release, goes] at accepting
  | parkedAgain _ some => simpa [drain, some, release, goes] using accepting
  | closed _ none => simp [close, drain, none, release, goes] at accepting
  | drained _ none => simpa [drain, none, release, goes] using accepting

/-- A thread is outside of every operation where it awaits or holds the condition. -/
def Outside (s : RuntimeLifetime Thread) : Prop :=
  ∀ v, s.place v ≠ .running → s.depth v = 0

theorem step_outside (step : Step s label t) (outside : Outside s) : Outside t := by
  intro v away
  by_cases own : v = label.thread
  · obtain ⟨placed, deepened⟩ := step_own step
    rw [own] at away ⊢
    rw [placed] at away
    rw [deepened]
    cases step with
    | requested _ atNone => exact atNone
    | departed => rfl
    | closing _ atNone => exact atNone
    | locked waits => exact outside _ (by simp [waits])
    | parked holds => exact outside _ (by simp [holds])
    | parkedAgain holds => exact outside _ (by simp [holds])
    | _ => exact absurd rfl away
  · obtain ⟨sameDepth, samePlace | ⟨parked, _⟩⟩ := step_other step own
    · rw [sameDepth]
      exact outside v (samePlace ▸ away)
    · rw [sameDepth]
      exact outside v (by simp [parked])

theorem inProgress_other (step : Step s label t) (other : v ≠ label.thread) :
    t.InProgress v ↔ s.InProgress v := by
  obtain ⟨sameDepth, samePlace | ⟨parked, woken⟩⟩ := step_other step other
  · rw [InProgress, InProgress, sameDepth, samePlace]
  · simp [InProgress, sameDepth, parked, woken]

theorem step_progress (step : Step s label t) (outside : Outside s) :
    {v | t.InProgress v} = label.progress {v | s.InProgress v} := by
  ext v
  by_cases own : v = label.thread
  · obtain ⟨placed, deepened⟩ := step_own step
    rw [own]
    cases step with
    | admitted holds =>
        simp_all [Label.progress, InProgress, Event.place, Event.depth]
    | @ended u holds =>
        have none := outside u (by simp [holds])
        simp_all [Label.progress, InProgress, Event.place, Event.depth]
    | left _ inner =>
        have stays := Nat.sub_ne_zero_of_lt inner
        have inside := Nat.ne_zero_of_lt inner
        simp_all [Label.progress, InProgress, Event.place, Event.depth]
    | _ => simp_all [Label.progress, InProgress, Event.place, Event.depth]
  · have same := inProgress_other step own
    cases step <;> simp_all [Label.progress]

/-- The condition is held by the one thread that is in its code. -/
def Exclusive (s : RuntimeLifetime Thread) : Prop :=
  ∀ v, s.holder = some v ↔ ∃ part, s.place v = .holding part

/-- Whether an event gives the condition back. -/
def Event.releases : Event → Bool
  | .admitted | .refused | .ended | .parked | .closed => true
  | _ => false

theorem step_holder (step : Step s label t) :
    (label.event.releases = true ∧ (∃ part, s.place label.thread = .holding part) ∧
        t.holder = none) ∨
      (∃ part, label.event = .locked part ∧ s.holder = none ∧ t.holder = some label.thread) ∨
      (label.event.releases = false ∧ (∀ part, label.event ≠ .locked part) ∧
        s.holder = t.holder ∧ s.place label.thread = .running) := by
  cases step with
  | nested runs inside => simp [operation, inside, deep, Event.releases, runs]
  | requested runs outside => simp [operation, outside, goes, Event.releases, runs]
  | locked _ free =>
      simp [take, goes, Event.releases, free]
  | admitted holds accepts => simp [admitOperation, accepts, deep, release, goes, Event.releases, holds]
  | refused holds refuses => simp [admitOperation, refuses, release, goes, Event.releases, holds]
  | left runs inner => simp [leave, inner, deep, Event.releases, runs]
  | departed runs outermost => simp [leave, outermost, deep, goes, Event.releases, runs]
  | @ended u holds =>
      rcases depart_cases s u with ⟨_, isAfter⟩ | ⟨_, isAfter⟩ <;>
        simp [isAfter, count, notifyAll, release, goes, Event.releases, holds]
  | reentrant runs inside => simp [closeAndDrain, inside, Event.releases, runs]
  | closing runs outside => simp [closeAndDrain, outside, goes, Event.releases, runs]
  | parked holds some => simp [close, drain, some, release, goes, Event.releases, holds]
  | parkedAgain holds some => simp [drain, some, release, goes, Event.releases, holds]
  | closed holds none => simp [close, drain, none, release, goes, Event.releases, holds]
  | drained holds none => simp [drain, none, release, goes, Event.releases, holds]

theorem holding_other (step : Step s label t) (other : v ≠ label.thread) (part : Section) :
    t.place v = .holding part ↔ s.place v = .holding part := by
  obtain ⟨_, samePlace | ⟨parked, woken⟩⟩ := step_other step other
  · rw [samePlace]
  · simp [parked, woken]

theorem step_exclusive (step : Step s label t) (exclusive : Exclusive s) : Exclusive t := by
  intro v
  have others (w : Thread) (other : w ≠ label.thread) :
      (∃ part, t.place w = .holding part) ↔ s.holder = some w := by
    rw [exclusive w]
    exact exists_congr (holding_other step other)
  have placed := (step_own step).1
  rcases step_holder step with
    ⟨releases, held, isFree⟩ | ⟨part, isLocked, wasFree, taken⟩ | ⟨keeps, unlocked, same, runs⟩
  · have owns : s.holder = some label.thread := (exclusive _).mpr held
    by_cases own : v = label.thread
    · rw [own, placed, isFree]
      cases event : label.event <;> simp_all [Event.releases, Event.place]
    · rw [others v own, isFree, owns]
      simp [Ne.symm own]
  · by_cases own : v = label.thread
    · simp [own, placed, isLocked, taken, Event.place]
    · rw [others v own, taken, wasFree]
      simp [Ne.symm own]
  · by_cases own : v = label.thread
    · have free : s.holder ≠ some label.thread := by simp [exclusive label.thread, runs]
      rw [own, placed, ← same]
      cases event : label.event <;> simp_all [Event.releases, Event.place]
    · rw [others v own, same]

/-- A thread in the drain of `close_and_drain` has closed the runtime. -/
def Closing (s : RuntimeLifetime Thread) : Prop :=
  ∀ v, s.place v = .parked ∨ s.place v = .awaiting .draining ∨ s.place v = .holding .draining →
    s.accepting = false

theorem accepting_of_drain (step : Step s label t) (closing : Closing s)
    (drains : label.event = .parked ∨ label.event = .closed) : t.accepting = false := by
  cases step with
  | parked _ some => simp [close, drain, some, release, goes]
  | closed _ none => simp [close, drain, none, release, goes]
  | @parkedAgain u holds some =>
      simpa [drain, some, release, goes] using closing u (by simp [holds])
  | @drained u holds none =>
      simpa [drain, none, release, goes] using closing u (by simp [holds])
  | _ => simp at drains

theorem step_closing (step : Step s label t) (closing : Closing s) : Closing t := by
  intro v drains
  have stays (refuses : s.accepting = false) : t.accepting = false := by
    by_contra accepts
    have accepted := step_accepting step (by simpa using accepts)
    simp [refuses] at accepted
  by_cases own : v = label.thread
  · rw [own, (step_own step).1] at drains
    cases step with
    | @locked u part waits =>
        cases part with
        | draining => exact stays (closing u (by simp [waits]))
        | _ => simp [Event.place] at drains
    | @parked u holds some => exact accepting_of_drain (.parked holds some) closing (.inl rfl)
    | @parkedAgain u holds some =>
        exact accepting_of_drain (.parkedAgain holds some) closing (.inl rfl)
    | _ => simp [Event.place] at drains
  · obtain ⟨_, same | ⟨parked, _⟩⟩ := step_other step own
    · exact stays (closing v (same ▸ drains))
    · exact stays (closing v (.inl parked))

/-- The count of the code is the number of the outermost operations in progress. -/
def Counted (s : RuntimeLifetime Thread) : Prop :=
  {v | s.InProgress v}.Finite ∧ s.inFlight = {v | s.InProgress v}.ncard

omit [DecidableEq Thread] in
theorem not_inProgress_of_holding (outside : Outside s) {part : Section}
    (holds : s.place v = .holding part) (other : part ≠ .departure) : ¬ s.InProgress v := by
  simp [InProgress, holds, other, outside v (by simp [holds])]

theorem step_counted (step : Step s label t) (outside : Outside s) (counted : Counted s) :
    Counted t := by
  obtain ⟨finite, total⟩ := counted
  rw [Counted, step_progress step outside, step_inFlight step, total]
  cases step with
  | @admitted u holds =>
      have fresh : u ∉ {v | s.InProgress v} :=
        not_inProgress_of_holding outside holds (by decide)
      refine ⟨finite.insert u, ?_⟩
      simp only [Label.progress, Event.counts]
      rw [Set.ncard_insert_of_notMem fresh finite, Nat.cast_succ]
  | @ended u holds =>
      have member : u ∈ {v | s.InProgress v} := .inr (.inr holds)
      refine ⟨finite.sdiff, ?_⟩
      simp only [Label.progress, Event.counts]
      have removed := Set.ncard_sdiff_singleton_add_one member finite
      omega
  | _ => exact ⟨finite, by simp [Label.progress, Event.counts]⟩

/-- Nobody waits in the drain for a count that is zero already. -/
def Woken (s : RuntimeLifetime Thread) : Prop :=
  ∀ v, s.place v = .parked → s.inFlight ≠ 0

omit [DecidableEq Thread] in
theorem notifyAll_place (s : RuntimeLifetime Thread) (v : Thread) :
    s.notifyAll.place v ≠ .parked := by
  unfold notifyAll
  by_cases waits : s.place v = .parked <;> simp [waits]

theorem step_woken (step : Step s label t) (counted : Counted s) (woken : Woken s) : Woken t := by
  intro v parked
  rw [step_inFlight step]
  by_cases own : v = label.thread
  · rw [own, (step_own step).1] at parked
    cases step with
    | parked _ some => simpa [Event.counts] using some
    | parkedAgain _ some => simpa [Event.counts] using some
    | _ => simp [Event.place] at parked
  · obtain ⟨_, same | ⟨_, awake⟩⟩ := step_other step own
    · have some := woken v (same ▸ parked)
      cases step with
      | admitted =>
          have total := counted.2
          simp only [Event.counts]
          omega
      | @ended u holds =>
          rcases depart_cases s u with ⟨_, isAfter⟩ | ⟨left, _⟩
          · rw [isAfter] at parked
            simp only [release, goes, Function.update_of_ne own] at parked
            exact absurd parked (notifyAll_place s.count v)
          · simpa [Event.counts, Int.sub_eq_add_neg] using left
      | _ => simpa [Event.counts] using some
    · simp [awake] at parked

/-- What every run keeps. -/
structure Sound (s : RuntimeLifetime Thread) : Prop where
  outside : Outside s
  exclusive : Exclusive s
  closing : Closing s
  counted : Counted s
  woken : Woken s

omit [DecidableEq Thread] in
theorem sound_new : Sound (new : RuntimeLifetime Thread) where
  outside := fun _ _ => rfl
  exclusive := fun _ => by simp [new]
  closing := fun _ drains => by simp [new] at drains
  counted := by simp [Counted, InProgress, new]
  woken := fun _ parked => by simp [new] at parked

theorem step_sound (step : Step s label t) (sound : Sound s) : Sound t where
  outside := step_outside step sound.outside
  exclusive := step_exclusive step sound.exclusive
  closing := step_closing step sound.closing
  counted := step_counted step sound.outside sound.counted
  woken := step_woken step sound.counted sound.woken

theorem sound_of_run {labels : List (Label Thread)} (run : (lifetime Thread).Run labels s) :
    Sound s := by
  have initially (first : RuntimeLifetime Thread) (isNew : first = new) : Sound first := by
    rw [isNew]
    exact sound_new
  have preserved (s : RuntimeLifetime Thread) (label : Label Thread)
      (t : RuntimeLifetime Thread) (sound : Sound s) (step : Step s label t) : Sound t :=
    step_sound step sound
  exact run.invariant initially preserved

/-- A closed runtime in which nothing is left to wait for. -/
def Quiet (s : RuntimeLifetime Thread) : Prop :=
  s.accepting = false ∧ ∀ v, ¬ s.InProgress v

theorem quiet_of_closed (step : Step s ⟨u, .closed⟩ t) (sound : Sound s) :
    (∀ v, ¬ s.InProgress v) ∧ Quiet t := by
  have none : s.inFlight = 0 := by
    cases step with
    | closed _ none => exact none
    | drained _ none => exact none
  have empty : {v | s.InProgress v} = ∅ := by
    obtain ⟨finite, total⟩ := sound.counted
    rw [none] at total
    exact (Set.ncard_eq_zero finite).mp (by omega)
  have before (v : Thread) : ¬ s.InProgress v := fun inside => by
    have member : v ∈ {v | s.InProgress v} := inside
    simp [empty] at member
  refine ⟨before, accepting_of_drain step sound.closing (.inr rfl), fun v inside => ?_⟩
  have member : v ∈ {v | t.InProgress v} := inside
  rw [step_progress step sound.outside] at member
  exact before v member

theorem step_quiet (step : Step s label t) (sound : Sound s) (quiet : Quiet s) :
    ¬ label.event.Starts ∧ Quiet t := by
  obtain ⟨refuses, none⟩ := quiet
  have starts : ¬ label.event.Starts := by
    intro starts
    cases step with
    | @nested u _ inside => exact none u (.inl inside)
    | admitted _ accepts => simp [refuses] at accepts
    | _ => simp [Event.Starts] at starts
  refine ⟨starts, ?_, fun v inside => ?_⟩
  · by_contra accepts
    have accepted := step_accepting step (by simpa using accepts)
    simp [refuses] at accepted
  · have member : v ∈ {v | t.InProgress v} := inside
    rw [step_progress step sound.outside] at member
    cases step with
    | admitted => exact starts (.inr rfl)
    | ended => exact none v member.1
    | _ => exact none v member

/-- The admissions of a thread that no end of its own has answered yet. -/
def Balanced (labels : List (Label Thread)) (s : RuntimeLifetime Thread) (u : Thread) : Prop :=
  (s.InProgress u → labels.count ⟨u, .admitted⟩ = labels.count ⟨u, .ended⟩ + 1) ∧
    (¬ s.InProgress u → labels.count ⟨u, .admitted⟩ = labels.count ⟨u, .ended⟩)

theorem step_balanced {labels : List (Label Thread)} (step : Step s label t) (sound : Sound s)
    (balanced : Balanced labels s u) : Balanced (labels ++ [label]) t u := by
  have member (v : Thread) : t.InProgress v ↔ v ∈ label.progress {v | s.InProgress v} := by
    rw [← step_progress step sound.outside, Set.mem_ofPred_eq]
  unfold Balanced at balanced ⊢
  rw [member u, List.count_append, List.count_append]
  cases step with
  | @admitted w holds =>
      have fresh : ¬ s.InProgress w :=
        not_inProgress_of_holding sound.outside holds (by decide)
      by_cases own : u = w
      · rw [own] at balanced ⊢
        simp [Label.progress, balanced.2 fresh]
      · simpa [Label.progress, own, Ne.symm own] using balanced
  | @ended w holds =>
      have inside : s.InProgress w := .inr (.inr holds)
      by_cases own : u = w
      · rw [own] at balanced ⊢
        simp [Label.progress, balanced.1 inside]
      · simpa [Label.progress, own, Ne.symm own] using balanced
  | _ => simpa [Label.progress] using balanced

omit [DecidableEq Thread] in
theorem running_of_depth (outside : Outside s) (inside : s.depth u ≠ 0) :
    s.place u = .running := by
  by_contra away
  exact inside (outside u away)

/-- A thread that holds the condition can give it back. -/
theorem holder_steps (holds : ∃ part, s.place v = .holding part) :
    ∃ event t, Step s ⟨v, event⟩ t ∧ t.holder = none := by
  obtain ⟨part, holds⟩ := holds
  have frees {event : Event} {t : RuntimeLifetime Thread} (step : Step s ⟨v, event⟩ t)
      (releases : event.releases = true) : t.holder = none := by
    rcases step_holder step with ⟨_, _, free⟩ | ⟨part, isLocked, _⟩ | ⟨keeps, _⟩
    · exact free
    · simp [show event = .locked part from isLocked, Event.releases] at releases
    · simp [releases] at keeps
  cases part with
  | admission =>
      by_cases accepts : s.accepting = true
      · exact ⟨_, _, .admitted holds accepts, frees (.admitted holds accepts) rfl⟩
      · have refuses : s.accepting = false := by simpa using accepts
        exact ⟨_, _, .refused holds refuses, frees (.refused holds refuses) rfl⟩
  | departure => exact ⟨_, _, .ended holds, frees (.ended holds) rfl⟩
  | closing =>
      by_cases none : s.inFlight = 0
      · exact ⟨_, _, .closed holds none, frees (.closed holds none) rfl⟩
      · exact ⟨_, _, .parked holds none, frees (.parked holds none) rfl⟩
  | draining =>
      by_cases none : s.inFlight = 0
      · exact ⟨_, _, .drained holds none, frees (.drained holds none) rfl⟩
      · exact ⟨_, _, .parkedAgain holds none, frees (.parkedAgain holds none) rfl⟩

theorem run_cons {labels : List (Label Thread)} {last : RuntimeLifetime Thread}
    (step : Step s label t) (run : ((lifetime Thread).since t).Run labels last) :
    ((lifetime Thread).since s).Run (label :: labels) last :=
  run.cons step

/-- The operation of a thread can end, and nobody else has to step but `other`. -/
def MayEnd (s : RuntimeLifetime Thread) (u : Thread) (other : Option Thread) : Prop :=
  ∃ rest t, ((lifetime Thread).since s).Run rest t ∧ ¬ t.InProgress u ∧
    ∀ label ∈ rest, label.thread = u ∨ other = some label.thread

theorem MayEnd.before {other : Option Thread} (step : Step s label t) (ends : MayEnd t u other)
    (own : label.thread = u ∨ other = some label.thread) : MayEnd s u other := by
  obtain ⟨rest, last, run, done, steps⟩ := ends
  refine ⟨label :: rest, last, run_cons step run, done, fun later member => ?_⟩
  rcases List.mem_cons.mp member with isFirst | inRest
  · exact isFirst ▸ own
  · exact steps later inRest

theorem mayEnd_holding {other : Option Thread} (sound : Sound s)
    (holds : s.place u = .holding .departure) : MayEnd s u other := by
  have step : Step s ⟨u, .ended⟩ (s.depart u) := .ended holds
  obtain ⟨placed, deepened⟩ := step_own step
  have outside : s.depth u = 0 := sound.outside u (by simp [holds])
  refine MayEnd.before step ⟨[], _, .nil _, ?_, fun _ member => ?_⟩ (.inl rfl)
  · simp_all [InProgress, Event.place, Event.depth]
  · cases member

theorem mayEnd_awaiting_free {other : Option Thread} (sound : Sound s)
    (waits : s.place u = .awaiting .departure) (free : s.holder = none) : MayEnd s u other := by
  have step : Step s ⟨u, .locked .departure⟩ (s.take u .departure) := .locked waits free
  exact (mayEnd_holding (step_sound step sound) (step_own step).1).before step (.inl rfl)

theorem mayEnd_awaiting (sound : Sound s) (waits : s.place u = .awaiting .departure) :
    MayEnd s u s.holder := by
  cases holds : s.holder with
  | none => exact mayEnd_awaiting_free sound waits holds
  | some v =>
      have held := (sound.exclusive v).mp holds
      obtain ⟨event, t, step, free⟩ := holder_steps held
      have differs : u ≠ v := by
        obtain ⟨part, held⟩ := held
        intro same
        rw [← same, waits] at held
        cases held
      obtain ⟨_, same | ⟨parked, _⟩⟩ := step_other step differs
      · exact (mayEnd_awaiting_free (step_sound step sound) (same.trans waits) free).before
          step (.inr rfl)
      · simp [waits] at parked

theorem mayEnd_running (sound : Sound s) (depth : Nat) (inside : s.depth u = depth + 1) :
    MayEnd s u s.holder := by
  induction depth generalizing s with
  | zero =>
      have runs := running_of_depth sound.outside (by omega : s.depth u ≠ 0)
      have step : Step s ⟨u, .departed false⟩ (s.leave u) := .departed runs inside
      have same : (s.leave u).holder = s.holder := by simp [leave, inside, deep, goes]
      exact same ▸ (mayEnd_awaiting (step_sound step sound) (step_own step).1).before
        step (.inl rfl)
  | succ depth ih =>
      have runs := running_of_depth sound.outside (by omega : s.depth u ≠ 0)
      have step : Step s ⟨u, .left false⟩ (s.leave u) := .left runs (by omega)
      have same : (s.leave u).holder = s.holder := by simp [leave, inside, deep]
      have shallower : (s.leave u).depth u = depth + 1 := by
        rw [(step_own step).2]
        simp [Event.depth, inside]
      exact same ▸ (ih (step_sound step sound) shallower).before step (.inl rfl)

theorem mayEnd_of_inProgress (sound : Sound s) (inside : s.InProgress u) :
    MayEnd s u s.holder := by
  by_cases none : s.depth u = 0
  · rcases inside with some | waits | holds
    · exact absurd none some
    · exact mayEnd_awaiting sound waits
    · exact mayEnd_holding sound holds
  · exact mayEnd_running sound (s.depth u - 1) (by omega)

/-- Nobody else ends, resumes or moves an operation, and no part of it is refused. -/
def Undisturbed (s : RuntimeLifetime Thread) (u : Thread) : Prop :=
  (∀ label t, Step s label t → label.thread ≠ u →
      t.depth u = s.depth u ∧ t.place u = s.place u) ∧
    (s.depth u ≠ 0 → Step s ⟨u, .nested⟩ (s.deep u (s.depth u + 1))) ∧
    ∀ t, ¬ Step s ⟨u, .refused⟩ t

theorem undisturbed_of_inProgress (sound : Sound s) (inside : s.InProgress u) :
    Undisturbed s u := by
  refine ⟨fun label t step other => ?_, fun deep => ?_, fun t step => ?_⟩
  · obtain ⟨sameDepth, samePlace | ⟨parked, _⟩⟩ := step_other step (Ne.symm other)
    · exact ⟨sameDepth, samePlace⟩
    · simp [InProgress, parked, sound.outside u (by simp [parked])] at inside
  · have step : Step s ⟨u, .nested⟩ (s.operation u) :=
      .nested (running_of_depth sound.outside deep) deep
    rwa [operation, if_pos deep] at step
  · cases step with
    | refused holds =>
        exact not_inProgress_of_holding sound.outside holds (by decide) inside

/-- What the drain promises of a run. -/
structure Drains (labels : List (Label Thread)) (s : RuntimeLifetime Thread) : Prop where
  counted : {u | s.InProgress u}.Finite ∧ s.inFlight = {u | s.InProgress u}.ncard
  executing : ∀ u, s.depth u ≠ 0 → s.InProgress u
  quiet : (∃ u, ⟨u, .closed⟩ ∈ labels) → ∀ u, ¬ s.InProgress u
  sealed : ∀ before u after, labels = before ++ ⟨u, .closed⟩ :: after →
    (∀ v, before.count ⟨v, .admitted⟩ = before.count ⟨v, .ended⟩) ∧
      ∀ label ∈ after, ¬ label.event.Starts
  undisturbed : ∀ u, s.InProgress u → Undisturbed s u ∧ MayEnd s u s.holder

theorem quiet_of_run {labels : List (Label Thread)} (run : (lifetime Thread).Run labels s)
    (closed : ∃ u, ⟨u, .closed⟩ ∈ labels) : Quiet s := by
  induction run with
  | start => simp at closed
  | @step labels s t label before step ih =>
      obtain ⟨u, member⟩ := closed
      rcases List.mem_append.mp member with earlier | last
      · exact (step_quiet step (sound_of_run before) (ih ⟨u, earlier⟩)).2
      · rw [← List.mem_singleton.mp last] at step
        exact (quiet_of_closed step (sound_of_run before)).2

theorem balanced_of_run {labels : List (Label Thread)} (run : (lifetime Thread).Run labels s) :
    Balanced labels s u := by
  induction run with
  | start isNew => simp [Balanced, show _ = new from isNew, new, InProgress]
  | step before step ih => exact step_balanced step (sound_of_run before) ih

theorem sealed_of_run {labels : List (Label Thread)} (run : (lifetime Thread).Run labels s) :
    ∀ before u after, labels = before ++ ⟨u, .closed⟩ :: after →
      (∀ v, before.count ⟨v, .admitted⟩ = before.count ⟨v, .ended⟩) ∧
        ∀ label ∈ after, ¬ label.event.Starts := by
  induction run with
  | start => simp
  | @step labels s t label front step ih =>
      intro before u after split
      have sound := sound_of_run front
      rcases List.eq_nil_or_concat after with isNil | ⟨shorter, last, isConcat⟩
      · rw [isNil] at split
        obtain ⟨same, isLast⟩ := List.append_inj' split rfl
        cases isLast
        refine ⟨fun v => ?_, by simp [isNil]⟩
        exact same ▸ (balanced_of_run front).2 ((quiet_of_closed step sound).1 v)
      · rw [isConcat, List.concat_eq_append, ← List.cons_append, ← List.append_assoc] at split
        obtain ⟨same, isLast⟩ := List.append_inj' split rfl
        cases isLast
        obtain ⟨answered, unstarted⟩ := ih before u shorter same
        refine ⟨answered, fun other member => ?_⟩
        rw [isConcat, List.concat_eq_append] at member
        rcases List.mem_append.mp member with earlier | last
        · exact unstarted other earlier
        · rw [List.mem_singleton.mp last]
          have closed : ∃ v, ⟨v, .closed⟩ ∈ labels := ⟨u, by simp [same]⟩
          exact (step_quiet step sound (quiet_of_run front closed)).1

theorem drains_of_run {labels : List (Label Thread)} (run : (lifetime Thread).Run labels s) :
    Drains labels s where
  counted := (sound_of_run run).counted
  executing := fun _ inside => .inl inside
  quiet := fun closed => (quiet_of_run run closed).2
  sealed := sealed_of_run run
  undisturbed := fun _ inside =>
    ⟨undisturbed_of_inProgress (sound_of_run run) inside,
      mayEnd_of_inProgress (sound_of_run run) inside⟩

end Steps

/-- Thread 1 closes the runtime while thread 0 is in an operation. -/
def busyClose : List (Label Nat) :=
  [⟨0, .requested⟩, ⟨0, .locked .admission⟩, ⟨0, .admitted⟩, ⟨1, .closing⟩,
    ⟨1, .locked .closing⟩, ⟨1, .parked⟩, ⟨0, .nested⟩, ⟨0, .left true⟩, ⟨0, .departed true⟩,
    ⟨0, .locked .departure⟩, ⟨0, .ended⟩, ⟨1, .locked .draining⟩, ⟨1, .closed⟩]

theorem run_busyClose : ∃ s, (lifetime Nat).Run busyClose s :=
  ⟨_, run_cons (.requested rfl rfl) <| run_cons (.locked rfl rfl) <|
    run_cons (.admitted rfl rfl) <| run_cons (.closing rfl rfl) <|
    run_cons (.locked rfl rfl) <| run_cons (.parked rfl (by decide)) <|
    run_cons (.nested rfl (by decide)) <| run_cons (.left rfl (by decide)) <|
    run_cons (.departed rfl rfl) <| run_cons (.locked rfl rfl) <| run_cons (.ended rfl) <|
    run_cons (.locked rfl rfl) <| run_cons (.drained rfl rfl) <| .nil _⟩

theorem drains_of_run_busyClose : ∃ s, Drains busyClose s := by
  obtain ⟨s, run⟩ := run_busyClose
  exact ⟨s, drains_of_run run⟩

end SelfConnect.Runtime
