import Mathlib.Data.Set.Basic
import Mathlib.Logic.Function.Basic
import SelfConnect.Library.FairLock
import SelfConnect.Library.System

namespace SelfConnect.Ultra.Pool

open SelfConnect.Library

/-! The governed routes over one connection pool: `_withAdvisoryLock` pins a connection from
before it asks for its lock until the lock is given back. -/

/-- The HA transition lock and the locks of single agents, pairs and credentials. -/
inductive LockName (Key : Type)
  | transition
  | named (key : Key)
  deriving DecidableEq

/-- What a request asks of the pool; `queries` are as many in parallel. -/
inductive Op (Key : Type)
  | queries (parallel : Nat)
  | lock (name : LockName Key) (mode : LockMode)
  | unlock (name : LockName Key) (mode : LockMode)
  deriving DecidableEq

def withLock {Key : Type} (name : LockName Key) (mode : LockMode) (body : List (Op Key)) :
    List (Op Key) :=
  .lock name mode :: (body ++ [.unlock name mode])

def queries {Key : Type} (parallels : List Nat) : List (Op Key) :=
  parallels.map .queries

/-- The governed routes, by the locks they take: `nested` are `/register-pair`,
`/provision-tsk`, `/rotate-tsk/prepare`, `/bind-identity`, `/verify` and `PATCH /bpc/pairs`;
`command` is `/ha/command` and `reload` is `/ha/reload-tsk-authority`. -/
inductive Route (Key : Type)
  | plain (before inside : List Nat)
  | nested (before inside : List Nat) (key : Key) (locked after : List Nat)
  | command (before inside : List Nat)
  | reload (before outer inner : List Nat)

namespace Route

variable {Key : Type}

def plan : Route Key → List (Op Key)
  | .plain before inside =>
      queries before ++ withLock .transition .shared (queries inside)
  | .nested before inside key locked after =>
      queries before ++ withLock .transition .shared
        (queries inside ++ (withLock (.named key) .exclusive (queries locked) ++ queries after))
  | .command before inside =>
      queries before ++ withLock .transition .exclusive (queries inside)
  | .reload before outer inner =>
      queries before ++ withLock .transition .shared
        (queries outer ++ withLock .transition .shared (queries inner))

/-- The form in which a route takes the transition lock. -/
def mode : Route Key → LockMode
  | .command _ _ => .exclusive
  | _ => .shared

end Route

/-- Where the handler of a request stands; `waiting` queries have no connection yet. -/
inductive Doing (Key : Type)
  | ready
  | querying (waiting : Nat)
  | connecting
  | locking (name : LockName Key) (mode : LockMode)
  deriving DecidableEq

structure Server (Request Key : Type) where
  plan : Request → List (Op Key)
  doing : Request → Doing Key
  /-- Who pins a connection for a lock, and who runs a query on one. -/
  pins : List Request
  running : List Request
  lock : LockName Key → FairLock Request

namespace Server

variable {Request Key : Type} [DecidableEq Request] [DecidableEq Key]

def goes (s : Server Request Key) (r : Request) (plan : List (Op Key)) (doing : Doing Key) :
    Server Request Key :=
  { s with plan := Function.update s.plan r plan, doing := Function.update s.doing r doing }

def setLock (s : Server Request Key) (name : LockName Key) (lock : FairLock Request) :
    Server Request Key :=
  { s with lock := Function.update s.lock name lock }

/-- The `finally` of `_withAdvisoryLock`: the lock and its connection are given back. -/
def giveBack (s : Server Request Key) (r : Request) (name : LockName Key) (mode : LockMode) :
    Server Request Key :=
  { s.setLock name ((s.lock name).release r mode) with pins := s.pins.erase r }

/-- A connection of the pool that nobody has. -/
def Free (s : Server Request Key) (size : Nat) : Prop :=
  s.pins.length + s.running.length < size

instance (s : Server Request Key) (size : Nat) : Decidable (s.Free size) :=
  inferInstanceAs (Decidable (_ < _))

end Server

inductive Action
  | asked
  | connected
  | answered
  | resumed
  | connecting
  | pinned
  | granted
  | unlocked
  | settled
  deriving DecidableEq, Repr

structure Label (Request : Type) where
  request : Request
  action : Action

variable {Request Key : Type} [DecidableEq Request] [DecidableEq Key]

/-- What one request does next, in a pool of `size` connections. The response of a request may
end before its handler does (`settled`), and then its transition lock is given back. -/
inductive Step (size : Nat) : Server Request Key → Label Request → Server Request Key → Prop
  | asked {s : Server Request Key} {r : Request} {parallel : Nat} {rest : List (Op Key)} :
      s.doing r = .ready → s.plan r = .queries parallel :: rest →
      Step size s ⟨r, .asked⟩ (s.goes r rest (.querying parallel))
  | connected {s : Server Request Key} {r : Request} {waiting : Nat} :
      s.doing r = .querying (waiting + 1) → s.Free size →
      Step size s ⟨r, .connected⟩
        { s.goes r (s.plan r) (.querying waiting) with running := r :: s.running }
  | answered {s : Server Request Key} {r : Request} :
      r ∈ s.running → Step size s ⟨r, .answered⟩ { s with running := s.running.erase r }
  | resumed {s : Server Request Key} {r : Request} :
      s.doing r = .querying 0 → r ∉ s.running →
      Step size s ⟨r, .resumed⟩ (s.goes r (s.plan r) .ready)
  | connecting {s : Server Request Key} {r : Request} {name : LockName Key} {mode : LockMode}
      {rest : List (Op Key)} :
      s.doing r = .ready → s.plan r = .lock name mode :: rest →
      Step size s ⟨r, .connecting⟩ (s.goes r (s.plan r) .connecting)
  | pinned {s : Server Request Key} {r : Request} {name : LockName Key} {mode : LockMode}
      {rest : List (Op Key)} :
      s.doing r = .connecting → s.plan r = .lock name mode :: rest → s.Free size →
      Step size s ⟨r, .pinned⟩
        { (s.setLock name ((s.lock name).ask r mode)).goes r (s.plan r) (.locking name mode) with
          pins := r :: s.pins }
  | granted {s : Server Request Key} {r : Request} {name : LockName Key} {mode : LockMode}
      {rest : List (Op Key)} {lock : FairLock Request} :
      s.doing r = .locking name mode → s.plan r = .lock name mode :: rest →
      (s.lock name).Granted r mode lock →
      Step size s ⟨r, .granted⟩ ((s.setLock name lock).goes r rest .ready)
  | unlocked {s : Server Request Key} {r : Request} {name : LockName Key} {mode : LockMode}
      {rest : List (Op Key)} :
      s.doing r = .ready → s.plan r = .unlock name mode :: rest →
      Step size s ⟨r, .unlocked⟩ ((s.giveBack r name mode).goes r rest .ready)
  | settled {s : Server Request Key} {r : Request} {mode : LockMode}
      {front rest : List (Op Key)} :
      (r, mode) ∈ (s.lock .transition).held →
      s.plan r = front ++ .unlock .transition mode :: rest →
      .unlock .transition mode ∉ rest →
      Step size s ⟨r, .settled⟩
        ((s.giveBack r .transition mode).goes r (front ++ rest) (s.doing r))

def pool (size : Nat) (route : Request → Route Key) :
    System (Server Request Key) (Label Request) where
  initial := fun s =>
    s = { plan := fun r => (route r).plan, doing := fun _ => .ready, pins := [], running := [],
          lock := fun _ => .free }
  next := Step size

/-- A request that can go on only after a member of the set did: all connections are the
members', or one of them is ahead of it at the lock it waits for. -/
inductive Stuck (size : Nat) (s : Server Request Key) (members : Set Request) (r : Request) : Prop
  | connection (wants : s.doing r = .connecting ∨
        r ∉ s.running ∧ ∃ waiting, s.doing r = .querying (waiting + 1))
      (full : ¬ s.Free size) (taken : ∀ other ∈ s.pins ++ s.running, other ∈ members) :
      Stuck size s members r
  | lock (name : LockName Key) (mode : LockMode) (front rest : List (Request × LockMode))
      (other : Request × LockMode) (wants : s.doing r = .locking name mode)
      (place : (s.lock name).waiting = front ++ (r, mode) :: rest)
      (blocked : (s.lock name).BlockedBy front mode other) (member : other.1 ∈ members) :
      Stuck size s members r

def Deadlock (size : Nat) (s : Server Request Key) (members : Set Request) : Prop :=
  members.Nonempty ∧ ∀ r ∈ members, Stuck size s members r

/-- A lock does not pin the last connection that is not pinned, and a request asks again for a
lock it holds only while no exclusive request waits for it. -/
def Spared (size : Nat) (s : Server Request Key) (label : Label Request) : Prop :=
  label.action = .pinned →
    s.pins.length + 1 < size ∧
    ∀ name mode rest, s.plan label.request = .lock name mode :: rest →
      (∃ held, (label.request, held) ∈ (s.lock name).held) →
      ∀ other ∈ (s.lock name).waiting, other.2 = .shared

/-- A plan that takes named locks one at a time, and no other lock within one. -/
inductive Orderly : Option Key → List (Op Key) → Prop
  | done : Orderly none []
  | queries {inner : Option Key} {parallel : Nat} {rest : List (Op Key)} :
      Orderly inner rest → Orderly inner (.queries parallel :: rest)
  | outer {mode : LockMode} {rest : List (Op Key)} :
      Orderly none rest → Orderly none (.lock .transition mode :: rest)
  | outerEnd {inner : Option Key} {mode : LockMode} {rest : List (Op Key)} :
      Orderly inner rest → Orderly inner (.unlock .transition mode :: rest)
  | inner {key : Key} {rest : List (Op Key)} :
      Orderly (some key) rest → Orderly none (.lock (.named key) .exclusive :: rest)
  | innerEnd {key : Key} {rest : List (Op Key)} :
      Orderly none rest → Orderly (some key) (.unlock (.named key) .exclusive :: rest)

/-- What a run keeps in which no lock pins the last free connection. -/
structure Sound (size : Nat) (route : Request → Route Key) (s : Server Request Key) : Prop where
  unpinned : s.pins.length < size
  running : ∀ r ∈ s.running, ∃ waiting, s.doing r = .querying waiting
  heads : ∀ r name mode, s.doing r = .locking name mode →
    ∃ rest, s.plan r = .lock name mode :: rest
  waits : ∀ name r mode, (r, mode) ∈ (s.lock name).waiting → s.doing r = .locking name mode
  once : ∀ name, ((s.lock name).waiting.map Prod.fst).Nodup
  orderly : ∀ r, ∃ inner, Orderly inner (s.plan r) ∧
    ∀ key mode, (r, mode) ∈ (s.lock (.named key)).held → inner = some key ∧ mode = .exclusive
  modes : ∀ r mode,
    .lock .transition mode ∈ s.plan r ∨ (r, mode) ∈ (s.lock .transition).held →
    mode = (route r).mode
  single : ∀ r, (route r).mode = .exclusive →
    (s.plan r).count (.lock .transition .exclusive) +
      (s.lock .transition).held.count (r, .exclusive) ≤ 1
  first : ∀ r mode front rest, (∃ held, (r, held) ∈ (s.lock .transition).held) →
    (s.lock .transition).waiting = front ++ (r, mode) :: rest → ∀ other ∈ front, other.2 = .shared

section Deadlocks

variable {size : Nat} {route : Request → Route Key} {s : Server Request Key}
  {members : Set Request}

theorem locking_of_stuck (sound : Sound size route s) {r : Request}
    (stuck : Stuck size s members r) (all : ∀ r ∈ members, Stuck size s members r) :
    ∃ name mode front rest other, s.doing r = .locking name mode ∧
      (s.lock name).waiting = front ++ (r, mode) :: rest ∧
      (s.lock name).BlockedBy front mode other ∧ other.1 ∈ members := by
  cases stuck with
  | lock name mode front rest other wants place blocked member =>
      exact ⟨name, mode, front, rest, other, wants, place, blocked, member⟩
  | connection wants full taken =>
      -- some connection runs a query, whose request does not wait
      have some : s.running ≠ [] := by
        intro none
        have pinned := sound.unpinned
        simp [Server.Free, none] at full
        omega
      obtain ⟨runner, runs⟩ := List.exists_mem_of_ne_nil _ some
      obtain ⟨waiting, isQuerying⟩ := sound.running runner runs
      exfalso
      cases all runner (taken runner (List.mem_append_right _ runs)) with
      | connection wants =>
          rcases wants with connects | ⟨idle, _⟩
          · rw [isQuerying] at connects
            cases connects
          · exact idle runs
      | lock _ _ _ _ _ wants =>
          rw [isQuerying] at wants
          cases wants

/-- Inside the lock of an agent, a pair or a credential no other lock is waited for. -/
theorem not_locking_of_named (sound : Sound size route s) {r : Request} {key : Key}
    {mode : LockMode} (held : (r, mode) ∈ (s.lock (.named key)).held) (name : LockName Key)
    (other : LockMode) : s.doing r ≠ .locking name other := by
  intro waits
  obtain ⟨rest, isPlan⟩ := sound.heads r name other waits
  obtain ⟨inner, orderly, holds⟩ := sound.orderly r
  rw [(holds key mode held).1, isPlan] at orderly
  cases orderly

theorem not_locking_named (sound : Sound size route s)
    (all : ∀ r ∈ members, Stuck size s members r) (ahead : Nat) :
    ∀ r ∈ members, ∀ key mode front rest, front.length = ahead →
      (s.lock (.named key)).waiting ≠ front ++ (r, mode) :: rest := by
  induction ahead using Nat.strongRecOn with
  | ind ahead ih =>
      intro r member key mode front rest isAhead place
      have waits := sound.waits (.named key) r mode (by simp [place])
      obtain ⟨name, ownMode, ownFront, ownRest, other, doing, ownPlace, blocked, isMember⟩ :=
        locking_of_stuck sound (all r member) all
      rw [waits] at doing
      cases doing
      obtain ⟨sameFront, _⟩ := FairLock.place_unique (sound.once _) place ownPlace
      rcases List.mem_append.mp blocked.1 with held | inFront
      · -- the holder waits for no lock, and so is not stuck
        obtain ⟨name, mode, _, _, _, waits, _⟩ :=
          locking_of_stuck sound (all other.1 isMember) all
        exact not_locking_of_named sound held name mode waits
      · obtain ⟨earlier, later, split⟩ := List.append_of_mem inFront
        refine ih earlier.length ?_ other.1 isMember key other.2 earlier
          (later ++ (r, mode) :: rest) rfl ?_
        · rw [← isAhead, sameFront, split]
          simp
        · rw [place, sameFront, split]
          simp

theorem locking_transition_of_stuck (sound : Sound size route s)
    (all : ∀ r ∈ members, Stuck size s members r) {r : Request} (member : r ∈ members) :
    ∃ mode front rest other, s.doing r = .locking .transition mode ∧
      (s.lock .transition).waiting = front ++ (r, mode) :: rest ∧
      (s.lock .transition).BlockedBy front mode other ∧ other.1 ∈ members := by
  obtain ⟨name, mode, front, rest, other, doing, place, blocked, isMember⟩ :=
    locking_of_stuck sound (all r member) all
  cases name with
  | transition => exact ⟨mode, front, rest, other, doing, place, blocked, isMember⟩
  | named key => exact absurd place (not_locking_named sound all _ r member key mode front rest rfl)

/-- Who asks again for the transition lock asks for it in its shared form, and holds it so. -/
theorem shared_of_again (sound : Sound size route s) {r : Request} {held mode : LockMode}
    (holds : (r, held) ∈ (s.lock .transition).held)
    (again : s.doing r = .locking .transition mode) : held = .shared ∧ mode = .shared := by
  obtain ⟨rest, isPlan⟩ := sound.heads r _ _ again
  have isMode := sound.modes r mode (.inl (by simp [isPlan]))
  have isHeld := sound.modes r held (.inr holds)
  cases isExclusive : (route r).mode with
  | shared => exact ⟨isHeld.trans isExclusive, isMode.trans isExclusive⟩
  | exclusive =>
      have single := sound.single r isExclusive
      rw [isHeld, isExclusive] at holds
      rw [isMode, isExclusive] at isPlan
      have counted := List.count_pos_iff.mpr holds
      rw [isPlan, List.count_cons_self] at single
      omega

theorem not_locking_transition (sound : Sound size route s)
    (all : ∀ r ∈ members, Stuck size s members r) (ahead : Nat) :
    ∀ r ∈ members, ∀ mode front rest, front.length = ahead →
      (s.lock .transition).waiting ≠ front ++ (r, mode) :: rest := by
  induction ahead using Nat.strongRecOn with
  | ind ahead ih =>
      intro r member mode front rest isAhead place
      obtain ⟨ownMode, ownFront, ownRest, other, _, ownPlace, blocked, isMember⟩ :=
        locking_transition_of_stuck sound all member
      obtain ⟨sameFront, sameMode⟩ := FairLock.place_unique (sound.once _) place ownPlace
      rcases List.mem_append.mp blocked.1 with held | inFront
      · -- the holder waits for the same lock again, behind this request or as this request
        obtain ⟨again, behind, end_, _, waits, otherPlace, _⟩ :=
          locking_transition_of_stuck sound all isMember
        obtain ⟨isShared, againShared⟩ := shared_of_again sound held waits
        have notEarlier : ¬ behind.length < ahead := fun earlier =>
          ih behind.length earlier other.1 isMember again behind end_ rfl otherPlace
        have isMode : mode = .shared := by
          rcases Nat.lt_or_ge front.length behind.length with later | same
          · have inFront := FairLock.mem_of_earlier place otherPlace later
            exact sound.first other.1 again behind end_ ⟨other.2, held⟩ otherPlace _ inFront
          · have sameLength : front.length = behind.length := by omega
            have isOther : (r, mode) = (other.1, again) := by
              have both := place.symm.trans otherPlace
              exact (List.cons.inj (List.append_inj both sameLength).2).1
            exact (congrArg Prod.snd isOther).trans againShared
        have conflicts := blocked.2
        rw [isShared, ← sameMode, isMode] at conflicts
        exact absurd conflicts (by decide)
      · obtain ⟨earlier, later, split⟩ := List.append_of_mem inFront
        refine ih earlier.length ?_ other.1 isMember other.2 earlier
          (later ++ (r, mode) :: rest) rfl ?_
        · rw [← isAhead, sameFront, split]
          simp
        · rw [place, sameFront, split]
          simp

theorem no_deadlock_of_sound (sound : Sound size route s) : ¬ Deadlock size s members := by
  rintro ⟨⟨r, member⟩, all⟩
  obtain ⟨mode, front, rest, _, _, place, _⟩ := locking_transition_of_stuck sound all member
  exact not_locking_transition sound all _ r member mode front rest rfl place

end Deadlocks

section Steps

variable {size : Nat} {route : Request → Route Key} {s t : Server Request Key}
  {label : Label Request} {r q : Request}

theorem step_other (step : Step size s label t) (other : q ≠ label.request) :
    t.plan q = s.plan q ∧ t.doing q = s.doing q := by
  cases step with
  | answered => exact ⟨rfl, rfl⟩
  | _ => exact ⟨Function.update_of_ne other _ _, Function.update_of_ne other _ _⟩

theorem step_unpinned (step : Step size s label t) (spared : Spared size s label)
    (unpinned : s.pins.length < size) : t.pins.length < size := by
  cases step with
  | pinned => exact (spared rfl).1
  | unlocked => exact lt_of_le_of_lt List.length_erase_le unpinned
  | settled => exact lt_of_le_of_lt List.length_erase_le unpinned
  | _ => exact unpinned

theorem step_running (step : Step size s label t)
    (running : ∀ r ∈ s.running, ∃ waiting, s.doing r = .querying waiting) :
    ∀ r ∈ t.running, ∃ waiting, t.doing r = .querying waiting := by
  intro q runs
  by_cases own : q = label.request
  · rw [own] at runs ⊢
    cases step with
    | @asked r parallel => exact ⟨parallel, by simp [Server.goes]⟩
    | @connected r waiting => exact ⟨waiting, by simp [Server.goes]⟩
    | answered => exact running _ (List.mem_of_mem_erase runs)
    | resumed _ idle => exact absurd runs idle
    | settled => simpa [Server.goes] using running _ runs
    | connecting doing =>
        obtain ⟨_, isQuerying⟩ := running _ runs
        cases doing.symm.trans isQuerying
    | pinned doing =>
        obtain ⟨_, isQuerying⟩ := running _ runs
        cases doing.symm.trans isQuerying
    | granted doing =>
        obtain ⟨_, isQuerying⟩ := running _ runs
        cases doing.symm.trans isQuerying
    | unlocked doing =>
        obtain ⟨_, isQuerying⟩ := running _ runs
        cases doing.symm.trans isQuerying
  · rw [(step_other step own).2]
    cases step with
    | connected => exact running q (List.mem_of_ne_of_mem own runs)
    | answered => exact running q (List.mem_of_mem_erase runs)
    | _ => exact running q runs

theorem step_heads (step : Step size s label t)
    (heads : ∀ r name mode, s.doing r = .locking name mode →
      ∃ rest, s.plan r = .lock name mode :: rest) :
    ∀ r name mode, t.doing r = .locking name mode → ∃ rest, t.plan r = .lock name mode :: rest := by
  intro q name mode waits
  by_cases own : q = label.request
  · rw [own] at waits ⊢
    cases step with
    | answered => exact heads _ name mode waits
    | pinned _ isPlan =>
        simp only [Server.goes, Function.update_self, Doing.locking.injEq] at waits ⊢
        rw [← waits.1, ← waits.2, isPlan]
        exact ⟨_, rfl⟩
    | @settled r _ front rest _ isPlan =>
        simp only [Server.goes, Function.update_self] at waits ⊢
        obtain ⟨tail, isHead⟩ := heads r name mode waits
        rw [isPlan] at isHead
        cases front with
        | nil => simp at isHead
        | cons head front =>
            exact ⟨front ++ rest, by rw [List.cons_append, (List.cons.inj isHead).1]⟩
    | _ => simp [Server.goes] at waits
  · obtain ⟨samePlan, sameDoing⟩ := step_other step own
    rw [samePlan]
    exact heads q name mode (sameDoing ▸ waits)

/-- What a step does to a queue: a request joins its end or leaves it, or nothing happens. -/
theorem step_waiting (step : Step size s label t) (name : LockName Key) :
    (t.lock name).waiting = (s.lock name).waiting ∨
      (∃ mode, s.doing label.request = .connecting ∧
        t.doing label.request = .locking name mode ∧ label.action = .pinned ∧
        (∃ rest, s.plan label.request = .lock name mode :: rest) ∧
        (t.lock name).waiting = (s.lock name).waiting ++ [(label.request, mode)]) ∨
      ∃ mode front rest, s.doing label.request = .locking name mode ∧
        (s.lock name).waiting = front ++ (label.request, mode) :: rest ∧
        (t.lock name).waiting = front ++ rest := by
  cases step with
  | @pinned r asked mode rest doing isPlan free =>
      by_cases same : name = asked
      · subst same
        exact .inr (.inl ⟨mode, doing, by simp [Server.goes], rfl, ⟨rest, isPlan⟩,
          by simp [Server.goes, Server.setLock, FairLock.ask]⟩)
      · exact .inl (by simp [Server.goes, Server.setLock, same])
  | @granted r asked mode rest lock doing isPlan granted =>
      by_cases same : name = asked
      · subst same
        obtain ⟨front, rest, place, left, _⟩ := granted.exists_split
        exact .inr (.inr ⟨mode, front, rest, doing, place,
          by simp [Server.goes, Server.setLock, left]⟩)
      · exact .inl (by simp [Server.goes, Server.setLock, same])
  | @unlocked r asked mode rest doing isPlan =>
      by_cases same : name = asked
      · subst same
        exact .inl (by simp [Server.goes, Server.giveBack, Server.setLock, FairLock.release])
      · exact .inl (by simp [Server.goes, Server.giveBack, Server.setLock, same])
  | @settled r mode front rest held isPlan outermost =>
      by_cases same : name = .transition
      · subst same
        exact .inl (by simp [Server.goes, Server.giveBack, Server.setLock, FairLock.release])
      · exact .inl (by simp [Server.goes, Server.giveBack, Server.setLock, same])
  | _ => exact .inl rfl

/-- A request that waits in a queue waits on, unless it was granted its lock. -/
theorem doing_of_waiting (step : Step size s label t) {name : LockName Key} {mode : LockMode}
    (waits : s.doing q = .locking name mode) :
    t.doing q = s.doing q ∨
      (q = label.request ∧ ∃ front rest, (t.lock name).waiting = front ++ rest ∧
        (s.lock name).waiting = front ++ (q, mode) :: rest) := by
  by_cases own : q = label.request
  · rw [own] at waits ⊢
    cases step with
    | answered => exact .inl rfl
    | @granted r asked mode rest lock doing isPlan granted =>
        cases doing.symm.trans waits
        obtain ⟨front, rest, place, left, _⟩ := granted.exists_split
        exact .inr ⟨rfl, front, rest, by simp [Server.goes, Server.setLock, left], place⟩
    | settled => exact .inl (by simp [Server.goes])
    | asked doing => cases doing.symm.trans waits
    | connected doing => cases doing.symm.trans waits
    | resumed doing => cases doing.symm.trans waits
    | connecting doing => cases doing.symm.trans waits
    | pinned doing => cases doing.symm.trans waits
    | unlocked doing => cases doing.symm.trans waits
  · exact .inl (step_other step own).2

theorem step_waits (step : Step size s label t) (sound : Sound size route s) :
    ∀ name r mode, (r, mode) ∈ (t.lock name).waiting → t.doing r = .locking name mode := by
  intro name q mode member
  have stays (before : (q, mode) ∈ (s.lock name).waiting) : t.doing q = .locking name mode := by
    have waits := sound.waits name q mode before
    rcases doing_of_waiting step waits with same | ⟨_, front, rest, left, place⟩
    · rw [same, waits]
    · -- a request that was granted its lock has left the queue
      have once := sound.once name
      rw [place, List.map_append, List.map_cons, List.nodup_middle] at once
      rw [left] at member
      have again : q ∈ (front ++ rest).map Prod.fst :=
        List.mem_map.mpr ⟨(q, mode), member, rfl⟩
      rw [List.map_append] at again
      exact absurd again (List.nodup_cons.mp once).1
  rcases step_waiting step name with same | ⟨asked, _, doing, _, _, joined⟩ |
      ⟨asked, front, rest, _, place, left⟩
  · exact stays (same ▸ member)
  · rw [joined] at member
    rcases List.mem_append.mp member with before | own
    · exact stays before
    · cases List.mem_singleton.mp own
      exact doing
  · refine stays ?_
    rw [place]
    rw [left] at member
    rcases List.mem_append.mp member with before | after
    · exact List.mem_append_left _ before
    · exact List.mem_append_right _ (List.mem_cons_of_mem _ after)

theorem step_once (step : Step size s label t) (sound : Sound size route s) :
    ∀ name, ((t.lock name).waiting.map Prod.fst).Nodup := by
  intro name
  have once := sound.once name
  rcases step_waiting step name with same | ⟨asked, doing, _, _, _, joined⟩ |
      ⟨asked, front, rest, _, place, left⟩
  · rw [same]
    exact once
  · rw [joined, List.map_append, List.map_singleton]
    refine List.nodup_append.mpr ⟨once, List.nodup_singleton _, fun first member last isLast => ?_⟩
    rintro rfl
    rw [List.mem_singleton.mp isLast] at member
    obtain ⟨entry, waiting, isOwn⟩ := List.mem_map.mp member
    have waits := sound.waits name entry.1 entry.2 waiting
    rw [isOwn, doing] at waits
    cases waits
  · rw [place] at once
    rw [left]
    exact once.sublist (List.Sublist.map _
      (List.Sublist.append (.refl _) (List.sublist_cons_self _ _)))

/-- What a step does to the holders of a lock. -/
theorem step_held (step : Step size s label t) (name : LockName Key) :
    (t.lock name).held = (s.lock name).held ∨
      (∃ mode rest, s.plan label.request = .lock name mode :: rest ∧
        t.plan label.request = rest ∧ t.doing label.request = .ready ∧
        (t.lock name).held = (label.request, mode) :: (s.lock name).held) ∨
      (∃ mode rest, s.plan label.request = .unlock name mode :: rest ∧
        t.plan label.request = rest ∧
        (t.lock name).held = (s.lock name).held.erase (label.request, mode)) ∨
      name = .transition ∧ ∃ mode,
        (t.lock name).held = (s.lock name).held.erase (label.request, mode) := by
  cases step with
  | @pinned r asked mode rest doing isPlan free =>
      by_cases same : name = asked
      · subst same
        exact .inl (by simp [Server.goes, Server.setLock, FairLock.ask])
      · exact .inl (by simp [Server.goes, Server.setLock, same])
  | @granted r asked mode rest lock doing isPlan granted =>
      by_cases same : name = asked
      · subst same
        exact .inr (.inl ⟨mode, rest, isPlan, by simp [Server.goes], by simp [Server.goes],
          by simp [Server.goes, Server.setLock, granted.held]⟩)
      · exact .inl (by simp [Server.goes, Server.setLock, same])
  | @unlocked r asked mode rest doing isPlan =>
      by_cases same : name = asked
      · subst same
        exact .inr (.inr (.inl ⟨mode, rest, isPlan, by simp [Server.goes],
          by simp [Server.goes, Server.giveBack, Server.setLock, FairLock.release]⟩))
      · exact .inl (by simp [Server.goes, Server.giveBack, Server.setLock, same])
  | @settled r mode front rest held isPlan outermost =>
      by_cases same : name = .transition
      · subst same
        exact .inr (.inr (.inr ⟨rfl, mode,
          by simp [Server.goes, Server.giveBack, Server.setLock, FairLock.release]⟩))
      · exact .inl (by simp [Server.goes, Server.giveBack, Server.setLock, same])
  | _ => exact .inl rfl

theorem mem_held_other (step : Step size s label t) {name : LockName Key} {mode : LockMode}
    (other : q ≠ label.request) (held : (q, mode) ∈ (t.lock name).held) :
    (q, mode) ∈ (s.lock name).held := by
  rcases step_held step name with
    same | ⟨_, _, _, _, _, taken⟩ | ⟨_, _, _, _, given⟩ | ⟨_, _, given⟩
  · exact same ▸ held
  · rw [taken] at held
    rcases List.mem_cons.mp held with isOwn | before
    · exact absurd (congrArg Prod.fst isOwn) other
    · exact before
  · rw [given] at held
    exact List.mem_of_mem_erase held
  · rw [given] at held
    exact List.mem_of_mem_erase held

omit [DecidableEq Key] in
theorem Orderly.settle {inner : Option Key} {front rest : List (Op Key)} {mode : LockMode}
    (orderly : Orderly inner (front ++ .unlock .transition mode :: rest)) :
    Orderly inner (front ++ rest) := by
  induction front generalizing inner with
  | nil =>
      cases orderly with
      | outerEnd after => exact after
  | cons head front ih =>
      cases orderly with
      | queries after => exact .queries (ih after)
      | outer after => exact .outer (ih after)
      | outerEnd after => exact .outerEnd (ih after)
      | inner after => exact .inner (ih after)
      | innerEnd after => exact .innerEnd (ih after)

theorem step_orderly (step : Step size s label t)
    (orderly : ∀ r, ∃ inner, Orderly inner (s.plan r) ∧
      ∀ key mode, (r, mode) ∈ (s.lock (.named key)).held → inner = some key ∧ mode = .exclusive) :
    ∀ r, ∃ inner, Orderly inner (t.plan r) ∧
      ∀ key mode, (r, mode) ∈ (t.lock (.named key)).held →
        inner = some key ∧ mode = .exclusive := by
  intro q
  obtain ⟨inner, inOrder, holds⟩ := orderly q
  by_cases own : q = label.request
  · rw [own] at inOrder holds ⊢
    cases step with
    | @asked r parallel rest doing isPlan =>
        rw [isPlan] at inOrder
        cases inOrder with
        | queries after => exact ⟨inner, by simpa [Server.goes] using after, holds⟩
    | answered => exact ⟨inner, inOrder, holds⟩
    | connected => exact ⟨inner, by simpa [Server.goes] using inOrder, holds⟩
    | resumed => exact ⟨inner, by simpa [Server.goes] using inOrder, holds⟩
    | connecting => exact ⟨inner, by simpa [Server.goes] using inOrder, holds⟩
    | @pinned r name mode rest doing isPlan free =>
        refine ⟨inner, by simpa [Server.goes] using inOrder, fun key other held => ?_⟩
        refine holds key other ?_
        by_cases same : LockName.named key = name
        · subst same
          simpa [Server.goes, Server.setLock, FairLock.ask] using held
        · simpa [Server.goes, Server.setLock, same] using held
    | @granted r name mode rest lock doing isPlan granted =>
        rw [isPlan] at inOrder
        cases inOrder with
        | outer after =>
            exact ⟨none, by simpa [Server.goes] using after, fun key other held =>
              holds key other (by simpa [Server.goes, Server.setLock] using held)⟩
        | @inner taken _ after =>
            refine ⟨some taken, by simpa [Server.goes] using after, fun key other held => ?_⟩
            by_cases same : key = taken
            · subst same
              simp only [Server.goes, Server.setLock, Function.update_self, granted.held] at held
              rcases List.mem_cons.mp held with isNew | before
              · exact ⟨rfl, congrArg Prod.snd isNew⟩
              · cases (holds key other before).1
            · have before : (r, other) ∈ (s.lock (.named key)).held := by
                simpa [Server.goes, Server.setLock, same] using held
              cases (holds key other before).1
    | @unlocked r name mode rest doing isPlan =>
        rw [isPlan] at inOrder
        cases inOrder with
        | outerEnd after =>
            exact ⟨inner, by simpa [Server.goes] using after, fun key other held =>
              holds key other
                (by simpa [Server.goes, Server.giveBack, Server.setLock] using held)⟩
        | @innerEnd given _ after =>
            refine ⟨none, by simpa [Server.goes] using after, fun key other held => ?_⟩
            by_cases same : key = given
            · subst same
              simp only [Server.goes, Server.giveBack, Server.setLock, Function.update_self,
                FairLock.release] at held
              have before := List.mem_of_mem_erase held
              rw [(holds key other before).2] at before
              rw [FairLock.held_of_exclusive before] at held
              simp at held
            · have before : (r, other) ∈ (s.lock (.named key)).held := by
                simpa [Server.goes, Server.giveBack, Server.setLock, same] using held
              cases (holds key other before).1
              exact absurd rfl same
    | @settled r mode front rest held isPlan outermost =>
        rw [isPlan] at inOrder
        exact ⟨inner, by simpa [Server.goes] using inOrder.settle, fun key other held =>
          holds key other (by simpa [Server.goes, Server.giveBack, Server.setLock] using held)⟩
  · rw [(step_other step own).1]
    exact ⟨inner, inOrder, fun key mode held => holds key mode (mem_held_other step own held)⟩

theorem step_plan (step : Step size s label t) (q : Request) : (t.plan q).Sublist (s.plan q) := by
  by_cases own : q = label.request
  · rw [own]
    cases step with
    | asked _ isPlan => simp [Server.goes, isPlan]
    | answered => exact .refl _
    | granted _ isPlan => simp [Server.goes, isPlan]
    | unlocked _ isPlan => simp [Server.goes, isPlan]
    | settled _ isPlan => simp [Server.goes, isPlan]
    | _ => simp [Server.goes]
  · rw [(step_other step own).1]

theorem step_modes (step : Step size s label t)
    (modes : ∀ r mode,
      .lock .transition mode ∈ s.plan r ∨ (r, mode) ∈ (s.lock .transition).held →
      mode = (route r).mode) :
    ∀ r mode, .lock .transition mode ∈ t.plan r ∨ (r, mode) ∈ (t.lock .transition).held →
      mode = (route r).mode := by
  intro q mode either
  rcases either with planned | held
  · exact modes q mode (.inl ((step_plan step q).subset planned))
  · rcases step_held step .transition with same | ⟨_, rest, isPlan, _, _, isHeld⟩ |
        ⟨_, _, _, _, given⟩ | ⟨_, _, given⟩
    · exact modes q mode (.inr (same ▸ held))
    · rw [isHeld] at held
      rcases List.mem_cons.mp held with isOwn | before
      · cases isOwn
        exact modes _ mode (.inl (by simp [isPlan]))
      · exact modes q mode (.inr before)
    · exact modes q mode (.inr (List.mem_of_mem_erase (given ▸ held)))
    · exact modes q mode (.inr (List.mem_of_mem_erase (given ▸ held)))

theorem step_single (step : Step size s label t)
    (single : ∀ r, (route r).mode = .exclusive →
      (s.plan r).count (.lock .transition .exclusive) +
        (s.lock .transition).held.count (r, .exclusive) ≤ 1) :
    ∀ r, (route r).mode = .exclusive →
      (t.plan r).count (.lock .transition .exclusive) +
        (t.lock .transition).held.count (r, .exclusive) ≤ 1 := by
  intro q isExclusive
  have before := single q isExclusive
  have shrinks := (step_plan step q).count_le (.lock .transition .exclusive)
  rcases step_held step .transition with same | ⟨mode, rest, isPlan, isRest, _, taken⟩ |
      ⟨_, _, _, _, given⟩ | ⟨_, _, given⟩
  · rw [same]
    omega
  · by_cases own : q = label.request
    · rw [own] at before ⊢
      rw [isPlan] at before
      rw [isRest, taken]
      cases mode with
      | shared => simpa [List.count_cons] using before
      | exclusive =>
          rw [List.count_cons_self] at before ⊢
          omega
    · have differs : (label.request, mode) ≠ (q, LockMode.exclusive) :=
        fun same => own (congrArg Prod.fst same).symm
      rw [taken, List.count_cons_of_ne differs]
      omega
  · rw [given]
    exact le_trans (Nat.add_le_add shrinks (List.erase_sublist.count_le _)) before
  · rw [given]
    exact le_trans (Nat.add_le_add shrinks (List.erase_sublist.count_le _)) before

theorem step_first (step : Step size s label t) (spared : Spared size s label)
    (sound : Sound size route s) :
    ∀ r mode front rest, (∃ held, (r, held) ∈ (t.lock .transition).held) →
      (t.lock .transition).waiting = front ++ (r, mode) :: rest →
      ∀ other ∈ front, other.2 = .shared := by
  intro q mode front rest holds place
  obtain ⟨held, holds⟩ := holds
  have waits := step_waits step sound .transition q mode (by simp [place])
  have before : (q, held) ∈ (s.lock .transition).held := by
    by_cases own : q = label.request
    · rcases step_held step .transition with same | ⟨_, _, _, _, ready, _⟩ |
        ⟨_, _, _, _, given⟩ | ⟨_, _, given⟩
      · exact same ▸ holds
      · rw [own, ready] at waits
        cases waits
      · exact List.mem_of_mem_erase (given ▸ holds)
      · exact List.mem_of_mem_erase (given ▸ holds)
    · exact mem_held_other step own holds
  rcases step_waiting step .transition with
      same | ⟨asked, _, _, isPinned, ⟨planned, isPlan⟩, joined⟩ |
      ⟨asked, ownFront, ownRest, _, ownPlace, left⟩
  · exact sound.first q mode front rest ⟨held, before⟩ (same ▸ place)
  · rw [joined] at place
    rcases List.eq_nil_or_concat rest with isNil | ⟨shorter, last, isConcat⟩
    · rw [isNil] at place
      obtain ⟨sameFront, isOwn⟩ := List.append_inj' place rfl
      cases isOwn
      rw [← sameFront]
      exact (spared isPinned).2 .transition mode planned isPlan ⟨held, before⟩
    · rw [isConcat, List.concat_eq_append, ← List.cons_append, ← List.append_assoc] at place
      exact sound.first q mode front shorter ⟨held, before⟩ (List.append_inj' place rfl).1
  · obtain ⟨earlier, later, split, subset⟩ :=
      FairLock.place_before (label.request, asked) (left.symm.trans place)
    intro other member
    exact sound.first q mode earlier later ⟨held, before⟩ (ownPlace.trans split) other
      (subset other member)

end Steps

section Plans

variable {Request Key : Type} [DecidableEq Key]

omit [DecidableEq Key] in
theorem orderly_queries_append {inner : Option Key} {rest : List (Op Key)} (parallels : List Nat)
    (orderly : Orderly inner rest) : Orderly inner (queries parallels ++ rest) := by
  induction parallels with
  | nil => exact orderly
  | cons parallel parallels ih => exact .queries ih

omit [DecidableEq Key] in
theorem orderly_plan (route : Route Key) : Orderly none route.plan := by
  have end_ {mode : LockMode} : Orderly (none : Option Key) [.unlock .transition mode] :=
    .outerEnd .done
  cases route with
  | plain before inside => exact orderly_queries_append _ (.outer (orderly_queries_append _ end_))
  | command before inside => exact orderly_queries_append _ (.outer (orderly_queries_append _ end_))
  | nested before inside key locked after =>
      simp only [Route.plan, withLock, List.append_assoc, List.cons_append]
      exact orderly_queries_append _ (.outer (orderly_queries_append _ (.inner
        (orderly_queries_append _ (.innerEnd (orderly_queries_append _ end_))))))
  | reload before outer inner =>
      simp only [Route.plan, withLock, List.append_assoc, List.cons_append]
      exact orderly_queries_append _ (.outer (orderly_queries_append _ (.outer
        (orderly_queries_append _ (.outerEnd end_)))))

omit [DecidableEq Key] in
theorem not_mem_queries {name : LockName Key} {mode : LockMode} (parallels : List Nat) :
    Op.lock name mode ∉ queries parallels := by
  simp [queries]

omit [DecidableEq Key] in
theorem mode_of_plan {route : Route Key} {mode : LockMode}
    (member : .lock .transition mode ∈ route.plan) : mode = route.mode := by
  cases route with
  | plain => simpa [Route.plan, Route.mode, withLock, not_mem_queries] using member
  | nested => simpa [Route.plan, Route.mode, withLock, not_mem_queries] using member
  | command => simpa [Route.plan, Route.mode, withLock, not_mem_queries] using member
  | reload => simpa [Route.plan, Route.mode, withLock, not_mem_queries] using member

theorem count_plan {route : Route Key} (isCommand : route.mode = .exclusive) :
    route.plan.count (.lock .transition .exclusive) ≤ 1 := by
  cases route with
  | command before inside =>
      have none (parallels : List Nat) :
          (queries parallels).count (Op.lock (.transition : LockName Key) .exclusive) = 0 :=
        List.count_eq_zero_of_not_mem (not_mem_queries parallels)
      simp [Route.plan, withLock, none]
  | _ => cases isCommand

end Plans

section Runs

variable {size : Nat} {route : Request → Route Key} {s : Server Request Key}

theorem sound_of_run {labels : List (Label Request)} (some : 0 < size)
    (run : ((pool size route).under (Spared size)).Run labels s) : Sound size route s := by
  have initially (s : Server Request Key)
      (isNew : ((pool size route).under (Spared size)).initial s) :
      Sound size route s := by
    cases isNew
    exact {
      unpinned := some
      running := by simp
      heads := by simp
      waits := by simp [FairLock.free]
      once := by simp [FairLock.free]
      orderly := fun r => ⟨none, orderly_plan (route r), by simp [FairLock.free]⟩
      modes := fun r mode either => mode_of_plan (by simpa [FairLock.free] using either)
      single := fun r isCommand => by simpa [FairLock.free] using count_plan isCommand
      first := by simp [FairLock.free] }
  have preserved (s : Server Request Key) (label : Label Request) (t : Server Request Key)
      (sound : Sound size route s) (step : Spared size s label ∧ Step size s label t) :
      Sound size route t :=
    { unpinned := step_unpinned step.2 step.1 sound.unpinned
      running := step_running step.2 sound.running
      heads := step_heads step.2 sound.heads
      waits := step_waits step.2 sound
      once := step_once step.2 sound
      orderly := step_orderly step.2 sound.orderly
      modes := step_modes step.2 sound.modes
      single := step_single step.2 sound.single
      first := step_first step.2 step.1 sound }
  exact run.invariant initially preserved

theorem run_cons {labels : List (Label Request)} {label : Label Request}
    {t last : Server Request Key} (step : Step size s label t)
    (run : ((pool size route).since t).Run labels last) :
    ((pool size route).since s).Run (label :: labels) last :=
  run.cons step

theorem spared_cons {labels : List (Label Request)} {label : Label Request}
    {t last : Server Request Key} (step : Step size s label t) (spared : Spared size s label)
    (run : (((pool size route).under (Spared size)).since t).Run labels last) :
    (((pool size route).under (Spared size)).since s).Run (label :: labels) last :=
  run.cons ⟨spared, step⟩

omit [DecidableEq Request] [DecidableEq Key] in
theorem spared_of_ne {label : Label Request} (other : label.action ≠ .pinned) :
    Spared size s label :=
  fun isPinned => absurd isPinned other

end Runs

/-- Requests to `/resume-identity`, each with one query behind the transition lock. -/
def resumes (_ : Nat) : Route Nat := .plain [] [1]

/-- Two requests take the lock, and then each asks for a connection. -/
def crowded : List (Label Nat) :=
  [⟨0, .connecting⟩, ⟨0, .pinned⟩, ⟨0, .granted⟩, ⟨1, .connecting⟩, ⟨1, .pinned⟩, ⟨1, .granted⟩,
    ⟨0, .asked⟩, ⟨1, .asked⟩]

end SelfConnect.Ultra.Pool
