import Mathlib.Data.Finset.Card
import Mathlib.Data.List.Chain
import Mathlib.Logic.Function.Basic
import SelfConnect.Library.System
import SelfConnect.Ultra.Stores

namespace SelfConnect.Ultra.Reload

open SelfConnect.Js SelfConnect.Library

/-! `loadReloadablePromotedTskRuntime`: the operations, reloads and the close of its manager. -/

structure Authority where
  commandId : Text
  controlToASkewBoundMs : Int
  grantDigest : Text
  grantSeq : Int
  holderNodeId : Text
  leaseExpiresAtMs : Int
  leaseId : Text
  prevGrantDigest : Option Text
  sourceEpoch : Int
  streamId : Text
  deriving DecidableEq

/-- What the loader returns: an object of its own, which is complete if it has the members and the
fields that are looked for. -/
structure Runtime where
  id : ℕ
  isComplete : Bool
  hasClose : Bool
  authority : Authority
  deriving DecidableEq

/-- `id` -/
def isId (value : Text) : Bool :=
  matchesRun (fun u => isIdentifierUnit u || u = 0x2F) 1 128 value

def isPositive (value : Int) : Bool := isSafeInteger value && 1 ≤ value

def validateRuntimeAuthority (runtime : Runtime) : Bool :=
  let authority := runtime.authority
  runtime.isComplete && isId authority.streamId && isId authority.holderNodeId &&
    isId authority.leaseId && isId authority.commandId && isPositive authority.sourceEpoch &&
    isPositive authority.grantSeq && isPositive authority.leaseExpiresAtMs &&
    isSafeInteger authority.controlToASkewBoundMs && 0 ≤ authority.controlToASkewBoundMs &&
    authority.controlToASkewBoundMs ≤ 3600000 && isHex64 authority.grantDigest &&
    authority.prevGrantDigest.all isHex64

def assertSameAuthorityAndNewer (current candidate : Authority) : Bool :=
  candidate.streamId = current.streamId && candidate.sourceEpoch = current.sourceEpoch &&
    candidate.holderNodeId = current.holderNodeId && candidate.leaseId = current.leaseId &&
    candidate.commandId = current.commandId && candidate.grantSeq = current.grantSeq + 1 &&
    candidate.prevGrantDigest = some current.grantDigest &&
    !(candidate.grantDigest = current.grantDigest : Bool) &&
    current.leaseExpiresAtMs < candidate.leaseExpiresAtMs

def assertLeaseUsable (authority : Authority) (now : Int) : Bool :=
  now + authority.controlToASkewBoundMs < authority.leaseExpiresAtMs

/-- A call of `withRuntime`. It is woken when the promise it waits for has been resolved, and
returned when that of its body has settled. -/
inductive Operation
  | uncalled
  | waiting
  | woken
  | refused
  | admitted (captured : Runtime)
  | entered (captured : Runtime)
  | returned (captured : Runtime)
  | ended (captured : Runtime)

namespace Operation

def captured? : Operation → Option Runtime
  | admitted captured => some captured
  | entered captured => some captured
  | returned captured => some captured
  | ended captured => some captured
  | _ => none

/-- It is counted in `active`. -/
def isActive : Operation → Bool
  | admitted _ => true
  | entered _ => true
  | returned _ => true
  | _ => false

def wake : Operation → Operation
  | waiting => woken
  | operation => operation

end Operation

/-- A call of `reload`, with the runtime that is active then, and whether another call has
installed a runtime while this one waited. -/
structure Pending where
  before : Runtime
  overtaken : Bool

/-- How far `reloadOnce` has come; `ending` is in its `finally`. -/
inductive Turn
  | idle
  | draining (call : Pending)
  | drained (call : Pending)
  | loading (call : Pending)
  | retiring (call : Pending) (previous : Runtime)
  | ending (call : Pending) (answer : Option Authority)

def Turn.wake : Turn → Turn
  | draining call => drained call
  | turn => turn

/-- How far `close` has come. -/
inductive Closer
  | uncalled
  | awaiting
  | draining
  | drained
  | retiring
  | settled (fulfilled : Bool)

def Closer.wake : Closer → Closer
  | draining => drained
  | closer => closer

/-- A call of `reload` that has settled, as it was then. -/
structure Settled where
  call : Pending
  answer : Option Authority
  after : Runtime
  /-- `after` takes operations. -/
  usable : Bool
  /-- The close of the runtime before the call has been fulfilled. -/
  retired : Bool

structure Manager where
  runtime : Runtime
  active : ℕ
  blocked : Bool
  closing : Bool
  closed : Bool
  operations : ℕ → Operation
  turn : Turn
  /-- `reloadTail`: the calls that wait for their turn. -/
  queue : List Pending
  closer : Closer
  /-- The runtimes that have been installed, the last one first. -/
  installed : List Runtime
  /-- How many runtimes have been loaded. -/
  loaded : ℕ
  closeCalled : List ℕ
  closeFulfilled : List ℕ
  settled : List Settled

namespace Manager

def goes (s : Manager) (op : ℕ) (operation : Operation) : Manager :=
  { s with operations := Function.update s.operations op operation }

def wakeUnblocked (s : Manager) : Manager :=
  { s with operations := fun op => (s.operations op).wake }

def wakeDrained (s : Manager) : Manager :=
  if s.active ≠ 0 then s else { s with turn := s.turn.wake, closer := s.closer.wake }

def acquireRuntime (s : Manager) (op : ℕ) (now : Int) : Manager :=
  if s.closing || s.closed then s.goes op .refused
  else if s.blocked then s.goes op .waiting
  else if validateRuntimeAuthority s.runtime && assertLeaseUsable s.runtime.authority now then
    { s with active := s.active + 1 }.goes op (.admitted s.runtime)
  else s.goes op .refused

/-- The `finally` of `withRuntime`. -/
def leave (s : Manager) (op : ℕ) (captured : Runtime) : Manager :=
  ({ s with active := s.active - 1 }.goes op (.ended captured)).wakeDrained

def settle (s : Manager) (call : Pending) (answer : Option Authority) : Manager :=
  { s with
    settled :=
      { call := call
        answer := answer
        after := s.runtime
        usable := !s.closing && !s.blocked && !s.closeCalled.contains s.runtime.id
        retired := s.closeFulfilled.contains call.before.id } :: s.settled }

def reload (s : Manager) : Manager :=
  if s.closing || s.closed then s.settle ⟨s.runtime, false⟩ none
  else { s with queue := s.queue ++ [⟨s.runtime, false⟩] }

/-- `reloadOnce` up to its first `await`. -/
def reloadOnce (s : Manager) (call : Pending) (rest : List Pending) : Manager :=
  if s.closed then { s with queue := rest }.settle call none
  else if s.active ≠ 0 then
    { s with queue := rest, blocked := true, turn := .draining call }
  else { s with queue := rest, blocked := true, turn := .loading call }

/-- `close?.()` -/
def closeOf (runtime : Runtime) : List ℕ := if runtime.hasClose then [runtime.id] else []

/-- What the loader returned is refused, or replaces the runtime, whose close is called. -/
def install (s : Manager) (call : Pending) (candidate : Runtime) (now : Int) : Manager :=
  if validateRuntimeAuthority s.runtime && validateRuntimeAuthority candidate &&
      assertLeaseUsable candidate.authority now &&
      assertSameAuthorityAndNewer s.runtime.authority candidate.authority then
    { s with
      runtime := candidate
      installed := candidate :: s.installed
      loaded := s.loaded + 1
      queue := s.queue.map fun waiting => { waiting with overtaken := true }
      closeCalled := s.runtime.id :: s.closeCalled
      turn := .retiring call s.runtime }
  else
    { s with
      loaded := s.loaded + 1
      closeCalled := closeOf candidate ++ s.closeCalled
      turn := .ending call none }

def retire (s : Manager) (call : Pending) (previous : Runtime) (fulfilled : Bool) : Manager :=
  if fulfilled then
    { s with
      closeFulfilled := previous.id :: s.closeFulfilled
      turn := .ending call (some s.runtime.authority) }
  else { s with turn := .ending call none }

/-- The end of the `finally` of `reloadOnce`. -/
def finish (s : Manager) (call : Pending) (answer : Option Authority) : Manager :=
  let s := { s with blocked := s.closing || s.closed, turn := .idle }
  if s.blocked then s.settle call answer else s.wakeUnblocked.settle call answer

def close (s : Manager) : Manager :=
  match s.closer with
  | .uncalled => { s with closing := true, blocked := true, closer := .awaiting }
  | _ => s

/-- The rest of `close`, once nothing is active. -/
def shutDown (s : Manager) : Manager :=
  { s.wakeUnblocked with
    closed := true
    closeCalled := s.runtime.id :: s.closeCalled
    closer := .retiring }

def drain (s : Manager) : Manager :=
  if s.active ≠ 0 then { s with closer := .draining } else s.shutDown

end Manager

inductive Event
  | calls (op : ℕ) (now : Int)
  | resumes (op : ℕ) (now : Int)
  | enters (op : ℕ)
  | returns (op : ℕ)
  | leaves (op : ℕ)
  | reloads
  | starts
  | drained
  | loads (candidate : Runtime) (now : Int)
  | fails
  | retires (fulfilled : Bool)
  | finishes
  | closes
  | proceeds
  | shutsDown
  | settles (fulfilled : Bool)

/-- A call from outside, or one continuation; those that are ready go on in any order. -/
inductive Step : Manager → Event → Manager → Prop
  | calls {s : Manager} {op : ℕ} {now : Int} : s.operations op = .uncalled →
      Step s (.calls op now) (s.acquireRuntime op now)
  | resumes {s : Manager} {op : ℕ} {now : Int} : s.operations op = .woken →
      Step s (.resumes op now) (s.acquireRuntime op now)
  | enters {s : Manager} {op : ℕ} {captured : Runtime} : s.operations op = .admitted captured →
      Step s (.enters op) (s.goes op (.entered captured))
  | returns {s : Manager} {op : ℕ} {captured : Runtime} : s.operations op = .entered captured →
      Step s (.returns op) (s.goes op (.returned captured))
  | leaves {s : Manager} {op : ℕ} {captured : Runtime} : s.operations op = .returned captured →
      Step s (.leaves op) (s.leave op captured)
  | reloads {s : Manager} : Step s .reloads s.reload
  | starts {s : Manager} {call : Pending} {rest : List Pending} : s.turn = .idle →
      s.queue = call :: rest → Step s .starts (s.reloadOnce call rest)
  | drained {s : Manager} {call : Pending} : s.turn = .drained call →
      Step s .drained { s with turn := .loading call }
  | loads {s : Manager} {call : Pending} {candidate : Runtime} {now : Int} :
      s.turn = .loading call → candidate.id = s.loaded →
      Step s (.loads candidate now) (s.install call candidate now)
  | fails {s : Manager} {call : Pending} : s.turn = .loading call →
      Step s .fails { s with turn := .ending call none }
  | retires {s : Manager} {call : Pending} {previous : Runtime} {fulfilled : Bool} :
      s.turn = .retiring call previous →
      Step s (.retires fulfilled) (s.retire call previous fulfilled)
  | finishes {s : Manager} {call : Pending} {answer : Option Authority} :
      s.turn = .ending call answer → Step s .finishes (s.finish call answer)
  | closes {s : Manager} : Step s .closes s.close
  | proceeds {s : Manager} : s.closer = .awaiting → s.turn = .idle → s.queue = [] →
      Step s .proceeds s.drain
  | shutsDown {s : Manager} : s.closer = .drained → Step s .shutsDown s.shutDown
  | settles {s : Manager} {fulfilled : Bool} : s.closer = .retiring →
      Step s (.settles fulfilled) { s with closer := .settled fulfilled }

/-- The manager of the first runtime, which the loader has returned. -/
def Manager.of (runtime : Runtime) : Manager where
  runtime := runtime
  active := 0
  blocked := false
  closing := false
  closed := false
  operations := fun _ => .uncalled
  turn := .idle
  queue := []
  closer := .uncalled
  installed := [runtime]
  loaded := runtime.id + 1
  closeCalled := []
  closeFulfilled := []
  settled := []

def manager : System Manager Event where
  initial s := ∃ runtime now, validateRuntimeAuthority runtime = true ∧
    assertLeaseUsable runtime.authority now = true ∧ s = .of runtime
  next := Step

/-- The grant is the next one, and names the one before it. -/
def Follows (newer older : Runtime) : Prop :=
  newer.authority.grantSeq = older.authority.grantSeq + 1 ∧
    newer.authority.prevGrantDigest = some older.authority.grantDigest

/-- The operations have drained. -/
def Turn.isQuiet : Turn → Bool
  | idle => false
  | draining _ => false
  | _ => true

def Turn.isIdle : Turn → Bool
  | idle => true
  | _ => false

def Closer.isCalled : Closer → Bool
  | uncalled => false
  | _ => true

/-- The reloads have ended. -/
def Closer.isAlone : Closer → Bool
  | uncalled => false
  | awaiting => false
  | _ => true

def Closer.isQuiet : Closer → Bool
  | drained => true
  | retiring => true
  | settled _ => true
  | _ => false

def Closer.isClosed : Closer → Bool
  | retiring => true
  | settled _ => true
  | _ => false

/-- The operations that are counted are those under way, and they use the runtime that is installed,
which is not closed before the manager is. Nothing is active while a runtime is replaced. -/
structure Sound (s : Manager) : Prop where
  counted : ∃ counting : Finset ℕ,
    (∀ op, op ∈ counting ↔ (s.operations op).isActive = true) ∧ s.active = counting.card
  captured : ∀ op captured, (s.operations op).isActive = true →
    (s.operations op).captured? = some captured → captured = s.runtime
  unclosed : s.closed = false → s.runtime.id ∉ s.closeCalled
  fresh : s.runtime.id < s.loaded ∧ ∀ id ∈ s.closeCalled, id < s.loaded
  quiet : s.turn.isQuiet = true → s.active = 0
  blocked : s.turn.isIdle = false ∨ s.closing = true → s.blocked = true
  closing : s.closing = s.closer.isCalled
  closed : s.closed = s.closer.isClosed
  alone : s.closer.isAlone = true → s.turn = .idle ∧ s.queue = []
  still : s.closer.isQuiet = true → s.active = 0
  chain : s.installed.IsChain Follows
  head : s.installed.head? = some s.runtime

section Sound

variable {s t : Manager}

theorem sound_of (runtime : Runtime) : Sound (.of runtime) where
  counted := ⟨∅, fun op => by simp [Manager.of, Operation.isActive], rfl⟩
  captured op captured isActive := by cases isActive
  unclosed _ := List.not_mem_nil
  fresh := ⟨Nat.lt_succ_self _, fun id member => absurd member List.not_mem_nil⟩
  quiet isQuiet := by cases isQuiet
  blocked isBlocked := by rcases isBlocked with isIdle | isClosing <;> contradiction
  closing := rfl
  closed := rfl
  alone isAlone := by cases isAlone
  still isQuiet := by cases isQuiet
  chain := List.isChain_singleton _
  head := rfl

theorem Sound.not_active (sound : Sound s) (none : s.active = 0) (op : ℕ) :
    (s.operations op).isActive = false := by
  obtain ⟨counting, isCounted, isCard⟩ := sound.counted
  have isEmpty := Finset.card_eq_zero.mp (isCard.symm.trans none)
  refine Bool.eq_false_iff.mpr fun isActive => ?_
  have member := (isCounted op).mpr isActive
  rw [isEmpty] at member
  exact Finset.notMem_empty op member

theorem Closer.isQuiet_of_isClosed {closer : Closer} (isClosed : closer.isClosed = true) :
    closer.isQuiet = true := by
  cases closer with
  | retiring => rfl
  | settled fulfilled => rfl
  | _ => cases isClosed

theorem Closer.isCalled_of_isQuiet {closer : Closer} (isQuiet : closer.isQuiet = true) :
    closer.isCalled = true := by
  cases closer with
  | uncalled => cases isQuiet
  | _ => rfl

theorem Closer.isAlone_of_isClosed {closer : Closer} (isClosed : closer.isClosed = true) :
    closer.isAlone = true := by
  cases closer with
  | retiring => rfl
  | settled fulfilled => rfl
  | _ => cases isClosed

theorem Sound.captured_open (sound : Sound s) {op : ℕ} {captured : Runtime}
    (isActive : (s.operations op).isActive = true)
    (isCaptured : (s.operations op).captured? = some captured) :
    captured.id ∉ s.closeCalled := by
  rw [sound.captured op captured isActive isCaptured]
  refine sound.unclosed (Bool.eq_false_iff.mpr fun isClosed => ?_)
  rw [sound.closed] at isClosed
  have none := sound.not_active (sound.still (Closer.isQuiet_of_isClosed isClosed)) op
  rw [isActive] at none
  cases none

/-- Operations that go on without being counted or given back. -/
theorem Sound.operations (sound : Sound s) {operations : ℕ → Operation}
    (active : ∀ op, (operations op).isActive = (s.operations op).isActive)
    (captured : ∀ op, (operations op).isActive = true →
      (operations op).captured? = (s.operations op).captured?) :
    Sound { s with operations := operations } :=
  { sound with
    counted := by
      obtain ⟨counting, isCounted, isCard⟩ := sound.counted
      refine ⟨counting, fun op => ?_, isCard⟩
      rw [isCounted, active]
    captured := fun op found isActive isCaptured => by
      refine sound.captured op found ((active op).symm.trans isActive) ?_
      rw [← captured op isActive]
      exact isCaptured }

theorem Sound.goes (sound : Sound s) {op : ℕ} {operation : Operation}
    (active : operation.isActive = (s.operations op).isActive)
    (captured : operation.isActive = true →
      operation.captured? = (s.operations op).captured?) : Sound (s.goes op operation) := by
  refine sound.operations (fun other => ?_) (fun other => ?_)
  · by_cases same : other = op
    · subst same
      rw [Function.update_self]
      exact active
    · rw [Function.update_of_ne same]
  · by_cases same : other = op
    · subst same
      rw [Function.update_self]
      exact captured
    · rw [Function.update_of_ne same]
      exact fun _ => rfl

theorem isActive_wake (operation : Operation) :
    operation.wake.isActive = operation.isActive := by
  cases operation <;> rfl

theorem captured_wake (operation : Operation) :
    operation.wake.captured? = operation.captured? := by
  cases operation <;> rfl

theorem Sound.wakeUnblocked (sound : Sound s) : Sound s.wakeUnblocked :=
  sound.operations (fun _ => isActive_wake _) (fun _ _ => captured_wake _)

/-- An operation is admitted: no reload is under way, and `close` has not been called. -/
theorem Sound.admit (sound : Sound s) {op : ℕ} (inactive : (s.operations op).isActive = false)
    (notClosing : s.closing = false) (notBlocked : s.blocked = false) :
    Sound ({ s with active := s.active + 1 }.goes op (.admitted s.runtime)) := by
  have isIdle : s.turn.isIdle = true := by
    refine Bool.eq_true_of_not_eq_false fun notIdle => ?_
    rw [sound.blocked (.inl notIdle)] at notBlocked
    cases notBlocked
  have uncalled : s.closer.isCalled = false := sound.closing.symm.trans notClosing
  obtain ⟨counting, isCounted, isCard⟩ := sound.counted
  have isNew : op ∉ counting := by
    rw [isCounted, inactive]
    exact Bool.false_ne_true
  exact
    { sound with
      counted := by
        refine ⟨insert op counting, fun other => ?_, ?_⟩
        · rw [Finset.mem_insert]
          change _ ↔ (Function.update s.operations op _ other).isActive = true
          by_cases same : other = op
          · subst same
            rw [Function.update_self]
            exact ⟨fun _ => rfl, fun _ => .inl rfl⟩
          · rw [Function.update_of_ne same, ← isCounted]
            exact or_iff_right same
        · rw [Finset.card_insert_of_notMem isNew, ← isCard]
          rfl
      captured := fun other found isActive isCaptured => by
        change (Function.update s.operations op _ other).isActive = true at isActive
        change (Function.update s.operations op _ other).captured? = some found at isCaptured
        by_cases same : other = op
        · subst same
          rw [Function.update_self] at isCaptured
          exact (Option.some.inj isCaptured).symm
        · rw [Function.update_of_ne same] at isActive isCaptured
          exact sound.captured other found isActive isCaptured
      quiet := fun isQuiet => by
        change s.turn.isQuiet = true at isQuiet
        cases isTurn : s.turn with
        | idle =>
            rw [isTurn] at isQuiet
            cases isQuiet
        | _ =>
            rw [isTurn] at isIdle
            cases isIdle
      still := fun isQuiet => by
        change s.closer.isQuiet = true at isQuiet
        rw [Closer.isCalled_of_isQuiet isQuiet] at uncalled
        cases uncalled }

theorem Sound.acquireRuntime (sound : Sound s) {op : ℕ} (now : Int)
    (inactive : (s.operations op).isActive = false) : Sound (s.acquireRuntime op now) := by
  unfold Manager.acquireRuntime
  split
  · exact sound.goes inactive.symm (fun isActive => by cases isActive)
  · next notClosed =>
      rw [Bool.or_eq_true, not_or, Bool.not_eq_true] at notClosed
      split
      · exact sound.goes inactive.symm (fun isActive => by cases isActive)
      · next notBlocked =>
          split
          · exact sound.admit inactive notClosed.1 (Bool.eq_false_iff.mpr notBlocked)
          · exact sound.goes inactive.symm (fun isActive => by cases isActive)

theorem Turn.isQuiet_wake (turn : Turn) : turn.wake.isQuiet = true →
    turn.isQuiet = true ∨ ∃ call, turn = .draining call := by
  intro isQuiet
  cases turn with
  | draining call => exact .inr ⟨call, rfl⟩
  | _ => exact .inl isQuiet

theorem Turn.isIdle_wake (turn : Turn) : turn.wake.isIdle = turn.isIdle := by
  cases turn <;> rfl

theorem Closer.wake_eq (closer : Closer) : closer.wake.isCalled = closer.isCalled ∧
    closer.wake.isClosed = closer.isClosed ∧ closer.wake.isAlone = closer.isAlone := by
  cases closer <;> exact ⟨rfl, rfl, rfl⟩

theorem Turn.wake_eq_idle {turn : Turn} (isIdle : turn = .idle) : turn.wake = .idle :=
  congrArg Turn.wake isIdle

theorem Sound.wakeDrained (sound : Sound s) : Sound s.wakeDrained := by
  unfold Manager.wakeDrained
  split
  · exact sound
  · next isZero =>
      obtain ⟨isCalled, isClosed, isAlone⟩ := s.closer.wake_eq
      exact
        { sound with
          quiet := fun _ => not_not.mp isZero
          blocked := fun holds => sound.blocked (by rwa [Turn.isIdle_wake] at holds)
          closing := sound.closing.trans isCalled.symm
          closed := sound.closed.trans isClosed.symm
          alone := fun holds => by
            obtain ⟨isIdle, isEmpty⟩ := sound.alone (isAlone.symm.trans holds)
            exact ⟨Turn.wake_eq_idle isIdle, isEmpty⟩
          still := fun _ => not_not.mp isZero }

theorem Sound.leave (sound : Sound s) {op : ℕ} {captured : Runtime}
    (isReturned : s.operations op = .returned captured) : Sound (s.leave op captured) := by
  refine Sound.wakeDrained ?_
  obtain ⟨counting, isCounted, isCard⟩ := sound.counted
  have member : op ∈ counting := by
    rw [isCounted, isReturned]
    rfl
  have busy : s.active ≠ 0 := by
    rw [isCard]
    exact Finset.card_ne_zero_of_mem member
  exact
    { sound with
      counted := by
        refine ⟨counting.erase op, fun other => ?_, ?_⟩
        · rw [Finset.mem_erase]
          change _ ↔ (Function.update s.operations op _ other).isActive = true
          by_cases same : other = op
          · subst same
            rw [Function.update_self]
            exact ⟨fun found => absurd rfl found.1, fun found => by cases found⟩
          · rw [Function.update_of_ne same, ← isCounted]
            exact and_iff_right same
        · rw [Finset.card_erase_of_mem member, ← isCard]
          rfl
      captured := fun other found isActive isCaptured => by
        change (Function.update s.operations op _ other).isActive = true at isActive
        change (Function.update s.operations op _ other).captured? = some found at isCaptured
        by_cases same : other = op
        · subst same
          rw [Function.update_self] at isActive
          cases isActive
        · rw [Function.update_of_ne same] at isActive isCaptured
          exact sound.captured other found isActive isCaptured
      quiet := fun isQuiet => absurd (sound.quiet isQuiet) busy
      still := fun isQuiet => absurd (sound.still isQuiet) busy }

theorem Sound.settle (sound : Sound s) (call : Pending) (answer : Option Authority) :
    Sound (s.settle call answer) :=
  { sound with }

theorem Sound.uncalled (sound : Sound s) (notClosing : s.closing = false) :
    s.closer.isAlone = false := by
  rw [sound.closing] at notClosing
  cases isCloser : s.closer with
  | uncalled => rfl
  | _ =>
      rw [isCloser] at notClosing
      cases notClosing

theorem Sound.reload (sound : Sound s) : Sound s.reload := by
  unfold Manager.reload
  split
  · exact sound.settle _ none
  · next notClosed =>
      rw [Bool.or_eq_true, not_or, Bool.not_eq_true] at notClosed
      exact
        { sound with
          alone := fun isAlone => by
            change s.closer.isAlone = true at isAlone
            rw [sound.uncalled notClosed.1] at isAlone
            cases isAlone }

/-- While a reload is pending, `close` waits for it. -/
theorem Sound.not_alone (sound : Sound s) (pending : s.turn ≠ .idle ∨ s.queue ≠ []) :
    s.closer.isAlone = false := by
  refine Bool.eq_false_iff.mpr fun isAlone => ?_
  obtain ⟨isIdle, isEmpty⟩ := sound.alone isAlone
  rcases pending with busy | waiting
  · exact busy isIdle
  · exact waiting isEmpty

theorem Sound.reloadOnce (sound : Sound s) {call : Pending} {rest : List Pending}
    (isQueue : s.queue = call :: rest) : Sound (s.reloadOnce call rest) := by
  have notAlone : s.closer.isAlone = false := by
    refine sound.not_alone (.inr ?_)
    rw [isQueue]
    exact List.cons_ne_nil call rest
  have alone : ∀ {turn : Turn} {queue : List Pending}, s.closer.isAlone = true →
      turn = .idle ∧ queue = [] := by
    intro turn queue isAlone
    rw [notAlone] at isAlone
    cases isAlone
  unfold Manager.reloadOnce
  split
  · have taken : Sound { s with queue := rest } := { sound with alone := alone }
    exact taken.settle call none
  · split
    · exact
        { sound with
          quiet := fun isQuiet => by cases isQuiet
          blocked := fun _ => rfl
          alone := alone }
    · next isZero =>
        exact
          { sound with
            quiet := fun _ => not_not.mp isZero
            blocked := fun _ => rfl
            alone := alone }

/-- A reload goes on with its turn. -/
theorem Sound.turns (sound : Sound s) {turn : Turn} (busy : s.turn.isQuiet = true) :
    Sound { s with turn := turn } := by
  have notIdle : s.turn.isIdle = false := by
    cases isTurn : s.turn with
    | idle =>
        rw [isTurn] at busy
        cases busy
    | _ => rfl
  exact
    { sound with
      quiet := fun _ => sound.quiet busy
      blocked := fun _ => sound.blocked (.inl notIdle)
      alone := fun isAlone => by
        obtain ⟨isIdle, -⟩ := sound.alone isAlone
        rw [isIdle] at busy
        cases busy }

theorem eq_of_mem_closeOf {id : ℕ} {runtime : Runtime} (member : id ∈ Manager.closeOf runtime) :
    id = runtime.id := by
  unfold Manager.closeOf at member
  split at member
  · exact List.mem_singleton.mp member
  · cases member

theorem Sound.install (sound : Sound s) {call : Pending} {candidate : Runtime} (now : Int)
    (isLoading : s.turn = .loading call) (isFresh : candidate.id = s.loaded) :
    Sound (s.install call candidate now) := by
  have busy : s.turn.isQuiet = true := by
    rw [isLoading]
    rfl
  have none := sound.quiet busy
  have isBlocked : s.blocked = true := sound.blocked (.inl (by rw [isLoading]; rfl))
  have notAlone : s.closer.isAlone = false := by
    refine sound.not_alone (.inl ?_)
    rw [isLoading]
    exact Turn.noConfusion
  have alone : ∀ {turn : Turn} {queue : List Pending}, s.closer.isAlone = true →
      turn = .idle ∧ queue = [] := by
    intro turn queue isAlone
    rw [notAlone] at isAlone
    cases isAlone
  obtain ⟨ownFresh, closedFresh⟩ := sound.fresh
  unfold Manager.install
  split
  · next accepted =>
      have follows : Follows candidate s.runtime := by
        simp only [Bool.and_eq_true] at accepted
        have newer := accepted.2
        unfold assertSameAuthorityAndNewer at newer
        simp only [Bool.and_eq_true, decide_eq_true_eq] at newer
        exact ⟨newer.1.1.1.2, newer.1.1.2⟩
      exact
        { sound with
          captured := fun op found isActive _ => by
            have inactive := sound.not_active none op
            rw [isActive] at inactive
            cases inactive
          unclosed := fun _ member => by
            change candidate.id ∈ s.runtime.id :: s.closeCalled at member
            rcases List.mem_cons.mp member with same | earlier
            · exact ownFresh.ne (same.symm.trans isFresh)
            · exact (closedFresh _ earlier).ne isFresh
          fresh := by
            refine ⟨isFresh ▸ Nat.lt_succ_self _,
              List.forall_mem_cons.mpr ⟨?_, fun id member => ?_⟩⟩
            · exact ownFresh.trans (Nat.lt_succ_self _)
            · exact (closedFresh id member).trans (Nat.lt_succ_self _)
          quiet := fun _ => none
          blocked := fun _ => isBlocked
          alone := alone
          chain := by
            refine sound.chain.cons fun older isOlder => ?_
            rw [sound.head] at isOlder
            cases isOlder
            exact follows
          head := rfl }
  · exact
      { sound with
        unclosed := fun isOpen member => by
          rcases List.mem_append.mp member with own | earlier
          · exact ownFresh.ne ((eq_of_mem_closeOf own).trans isFresh)
          · exact sound.unclosed isOpen earlier
        fresh := by
          refine ⟨ownFresh.trans (Nat.lt_succ_self _), fun id member => ?_⟩
          rcases List.mem_append.mp member with own | earlier
          · rw [eq_of_mem_closeOf own, isFresh]
            exact Nat.lt_succ_self _
          · exact (closedFresh id earlier).trans (Nat.lt_succ_self _)
        quiet := fun _ => none
        blocked := fun _ => isBlocked
        alone := alone }

theorem Sound.retire (sound : Sound s) {call : Pending} {previous : Runtime} {fulfilled : Bool}
    (isRetiring : s.turn = .retiring call previous) : Sound (s.retire call previous fulfilled) := by
  have busy : s.turn.isQuiet = true := by
    rw [isRetiring]
    rfl
  unfold Manager.retire
  split
  · exact { sound.turns busy with }
  · exact sound.turns busy

theorem Sound.finish (sound : Sound s) {call : Pending} {answer : Option Authority}
    (isEnding : s.turn = .ending call answer) : Sound (s.finish call answer) := by
  have notAlone : s.closer.isAlone = false := by
    refine sound.not_alone (.inl ?_)
    rw [isEnding]
    exact Turn.noConfusion
  have ended : Sound { s with blocked := s.closing || s.closed, turn := .idle } :=
    { sound with
      quiet := fun isQuiet => by cases isQuiet
      blocked := fun holds => by
        rcases holds with notIdle | isClosing
        · cases notIdle
        · change (s.closing || s.closed) = true
          rw [show s.closing = true from isClosing]
          rfl
      alone := fun isAlone => by
        change s.closer.isAlone = true at isAlone
        rw [notAlone] at isAlone
        cases isAlone }
  unfold Manager.finish
  dsimp only
  split
  · exact ended.settle call answer
  · exact ended.wakeUnblocked.settle call answer

theorem Sound.close (sound : Sound s) : Sound s.close := by
  unfold Manager.close
  split
  · next isUncalled =>
      have notClosed : s.closed = false := by
        rw [sound.closed, isUncalled]
        rfl
      exact
        { sound with
          blocked := fun _ => rfl
          closing := rfl
          closed := notClosed
          alone := fun isAlone => by cases isAlone
          still := fun isQuiet => by cases isQuiet }
  · exact sound

theorem Sound.shutDown (sound : Sound s) (called : s.closer.isCalled = true)
    (alone : s.turn = .idle ∧ s.queue = []) (none : s.active = 0) : Sound s.shutDown := by
  have isClosing : s.closing = true := sound.closing.trans called
  exact
    { sound.wakeUnblocked with
      unclosed := fun isOpen => by cases isOpen
      fresh := ⟨sound.fresh.1, List.forall_mem_cons.mpr ⟨sound.fresh.1, sound.fresh.2⟩⟩
      closing := isClosing
      closed := rfl
      alone := fun _ => alone
      still := fun _ => none }

theorem Sound.drain (sound : Sound s) (isAwaiting : s.closer = .awaiting)
    (alone : s.turn = .idle ∧ s.queue = []) : Sound s.drain := by
  have called : s.closer.isCalled = true := by
    rw [isAwaiting]
    rfl
  have notClosed : s.closed = false := by
    rw [sound.closed, isAwaiting]
    rfl
  unfold Manager.drain
  split
  · exact
      { sound with
        closing := sound.closing.trans called
        closed := notClosed
        alone := fun _ => alone
        still := fun isQuiet => by cases isQuiet }
  · next isZero => exact sound.shutDown called alone (not_not.mp isZero)

theorem sound_step {event : Event} (sound : Sound s) (step : Step s event t) : Sound t := by
  cases step with
  | calls isUncalled => exact sound.acquireRuntime _ (by rw [isUncalled]; rfl)
  | resumes isWoken => exact sound.acquireRuntime _ (by rw [isWoken]; rfl)
  | enters isAdmitted =>
      refine sound.goes ?_ fun _ => ?_
      · rw [isAdmitted]
        rfl
      · rw [isAdmitted]
        rfl
  | returns isEntered =>
      refine sound.goes ?_ fun _ => ?_
      · rw [isEntered]
        rfl
      · rw [isEntered]
        rfl
  | leaves isReturned => exact sound.leave isReturned
  | reloads => exact sound.reload
  | starts _ isQueue => exact sound.reloadOnce isQueue
  | drained isDrained => exact sound.turns (by rw [isDrained]; rfl)
  | loads isLoading isFresh => exact sound.install _ isLoading isFresh
  | fails isLoading => exact sound.turns (by rw [isLoading]; rfl)
  | retires isRetiring => exact sound.retire isRetiring
  | finishes isEnding => exact sound.finish isEnding
  | closes => exact sound.close
  | proceeds isAwaiting isIdle isEmpty => exact sound.drain isAwaiting ⟨isIdle, isEmpty⟩
  | shutsDown isDrained =>
      refine sound.shutDown ?_ (sound.alone ?_) (sound.still ?_)
      · rw [isDrained]
        rfl
      · rw [isDrained]
        rfl
      · rw [isDrained]
        rfl
  | settles isRetiring =>
      have alone := sound.alone (by rw [isRetiring]; rfl)
      have none := sound.still (by rw [isRetiring]; rfl)
      exact
        { sound with
          closing := sound.closing.trans (by rw [isRetiring]; rfl)
          closed := sound.closed.trans (by rw [isRetiring]; rfl)
          alone := fun _ => alone
          still := fun _ => none }

/-- What an operation has captured stays, and it captures a runtime only before `close`. -/
def Keeps (s t : Manager) : Prop :=
  (∀ op, (t.operations op).captured? = (s.operations op).captured? ∨
    (s.operations op).captured? = none ∧ s.closing = false) ∧
  (s.closing = true → t.closing = true)

theorem keeps_of_same (operations : t.operations = s.operations)
    (closing : s.closing = true → t.closing = true) : Keeps s t :=
  ⟨fun op => .inl (by rw [operations]), closing⟩

theorem keeps_of_goes {op : ℕ} {operation : Operation}
    (operations : t.operations = Function.update s.operations op operation)
    (closing : t.closing = s.closing)
    (kept : operation.captured? = (s.operations op).captured? ∨
      (s.operations op).captured? = none ∧ s.closing = false) : Keeps s t := by
  refine ⟨fun other => ?_, closing.trans⟩
  rw [operations]
  by_cases same : other = op
  · subst same
    rw [Function.update_self]
    exact kept
  · rw [Function.update_of_ne same]
    exact .inl rfl

theorem keeps_wakeUnblocked (operations : t.operations = s.wakeUnblocked.operations)
    (closing : s.closing = true → t.closing = true) : Keeps s t := by
  refine ⟨fun op => .inl ?_, closing⟩
  rw [operations]
  exact captured_wake _

theorem keeps_acquireRuntime {op : ℕ} {now : Int} (none : (s.operations op).captured? = none) :
    Keeps s (s.acquireRuntime op now) := by
  unfold Manager.acquireRuntime
  split
  · exact keeps_of_goes rfl rfl (.inl none.symm)
  · next notClosed =>
      rw [Bool.or_eq_true, not_or, Bool.not_eq_true] at notClosed
      split
      · exact keeps_of_goes rfl rfl (.inl none.symm)
      · split
        · exact keeps_of_goes rfl rfl (.inr ⟨none, notClosed.1⟩)
        · exact keeps_of_goes rfl rfl (.inl none.symm)

theorem keeps_leave {op : ℕ} {captured : Runtime}
    (isReturned : s.operations op = .returned captured) : Keeps s (s.leave op captured) := by
  have kept : (Operation.ended captured).captured? = (s.operations op).captured? := by
    rw [isReturned]
    rfl
  unfold Manager.leave Manager.wakeDrained
  split
  · exact keeps_of_goes rfl rfl (.inl kept)
  · exact keeps_of_goes rfl rfl (.inl kept)

theorem keeps_shutDown (s : Manager) : Keeps s s.shutDown :=
  keeps_wakeUnblocked rfl id

theorem keeps_step {event : Event} (step : Step s event t) : Keeps s t := by
  cases step with
  | calls isUncalled => exact keeps_acquireRuntime (by rw [isUncalled]; rfl)
  | resumes isWoken => exact keeps_acquireRuntime (by rw [isWoken]; rfl)
  | enters isAdmitted => exact keeps_of_goes rfl rfl (.inl (by rw [isAdmitted]; rfl))
  | returns isEntered => exact keeps_of_goes rfl rfl (.inl (by rw [isEntered]; rfl))
  | leaves isReturned => exact keeps_leave isReturned
  | reloads =>
      unfold Manager.reload
      split
      · exact keeps_of_same rfl id
      · exact keeps_of_same rfl id
  | starts _ _ =>
      unfold Manager.reloadOnce
      split
      · exact keeps_of_same rfl id
      · split
        · exact keeps_of_same rfl id
        · exact keeps_of_same rfl id
  | loads _ _ =>
      unfold Manager.install
      split
      · exact keeps_of_same rfl id
      · exact keeps_of_same rfl id
  | retires _ =>
      unfold Manager.retire
      split
      · exact keeps_of_same rfl id
      · exact keeps_of_same rfl id
  | finishes _ =>
      unfold Manager.finish
      dsimp only
      split
      · exact keeps_of_same rfl id
      · exact keeps_wakeUnblocked rfl id
  | closes =>
      unfold Manager.close
      split
      · exact keeps_of_same rfl fun _ => rfl
      · exact keeps_of_same rfl id
  | proceeds _ _ _ =>
      unfold Manager.drain
      split
      · exact keeps_of_same rfl id
      · exact keeps_shutDown s
  | shutsDown _ => exact keeps_shutDown s
  | drained _ => exact keeps_of_same rfl id
  | fails _ => exact keeps_of_same rfl id
  | settles _ => exact keeps_of_same rfl id

/-- What has been captured later, from one state on. -/
structure Kept (s t : Manager) : Prop where
  captured : ∀ op captured, (s.operations op).captured? = some captured →
    (t.operations op).captured? = some captured
  closing : s.closing = true → t.closing = true ∧
    ∀ op captured, (t.operations op).captured? = some captured →
      (s.operations op).captured? = some captured

theorem Kept.step {u : Manager} (kept : Kept s t) (keeps : Keeps t u) : Kept s u where
  captured op found isCaptured := by
    have isThen := kept.captured op found isCaptured
    rcases keeps.1 op with same | ⟨none, -⟩
    · exact same.trans isThen
    · cases none.symm.trans isThen
  closing isClosing := by
    obtain ⟨isClosing', back⟩ := kept.closing isClosing
    refine ⟨keeps.2 isClosing', fun op found isCaptured => back op found ?_⟩
    rcases keeps.1 op with same | ⟨-, notClosing⟩
    · exact same.symm.trans isCaptured
    · cases notClosing.symm.trans isClosing'

variable {events : List Event}

theorem sound_of_run (run : manager.Run events s) : Sound s := by
  induction run with
  | start initial =>
      obtain ⟨runtime, now, -, -, rfl⟩ := initial
      exact sound_of runtime
  | step _ next ih => exact sound_step ih next

/-- An operation has one runtime, which is not closed while it is under way; the runtimes that are
installed form a chain of grants; and nothing is admitted after `close`. -/
theorem served_of_run (run : manager.Run events s) :
    (∀ op captured, (s.operations op).isActive = true →
      (s.operations op).captured? = some captured → captured.id ∉ s.closeCalled) ∧
    s.installed.IsChain Follows ∧ s.installed.head? = some s.runtime ∧
    ∀ further later, (manager.since s).Run further later → Kept s later := by
  have sound := sound_of_run run
  refine ⟨fun op captured isActive => sound.captured_open isActive, sound.chain, sound.head, ?_⟩
  intro further later continued
  induction continued with
  | start isFirst =>
      cases isFirst
      exact ⟨fun _ _ => id, fun isClosing => ⟨isClosing, fun _ _ => id⟩⟩
  | step _ next ih => exact ih.step (keeps_step next)

end Sound

/-- Runtimes of grants that follow each other. -/
def sampleRuntime (id : ℕ) (grantDigest : String) (prevGrantDigest : Option Text) : Runtime where
  id := id
  isComplete := true
  hasClose := true
  authority := {
    commandId := text "promote-2"
    controlToASkewBoundMs := 10
    grantDigest := text grantDigest
    grantSeq := id + 1
    holderNodeId := text "site-b"
    leaseExpiresAtMs := 10000 + id
    leaseId := text "lease-b-2"
    prevGrantDigest := prevGrantDigest
    sourceEpoch := 2
    streamId := text "tsk:credential:b" }

def firstDigest : String := "66687aadf862bd776c8fc18b8e9f8e20089714856ee233b3902a591d0d5f2925"

def firstRuntime : Runtime := sampleRuntime 0 firstDigest none

def secondRuntime : Runtime :=
  sampleRuntime 1 "e526b7733cb569d86d018bfefd3e6536d7fdb46017ec4a96d73044bc8a229c77"
    (some (text firstDigest))

theorem starts_firstRuntime : manager.Run [] (.of firstRuntime) :=
  .start ⟨firstRuntime, 0, by decide, by decide, rfl⟩

theorem acquires_firstRuntime : (Manager.of firstRuntime).acquireRuntime 0 0 =
    { Manager.of firstRuntime with active := 1 }.goes 0 (.admitted firstRuntime) := by
  have usable : (validateRuntimeAuthority firstRuntime &&
      assertLeaseUsable firstRuntime.authority 0) = true := by decide
  have opened : ¬ ((Manager.of firstRuntime).closing || (Manager.of firstRuntime).closed) = true :=
    Bool.false_ne_true
  have free : ¬ (Manager.of firstRuntime).blocked = true := Bool.false_ne_true
  unfold Manager.acquireRuntime
  rw [if_neg opened, if_neg free]
  exact if_pos usable

/-- An operation is under way, and a reload waits for it. -/
theorem served_of_run_draining : ∃ s, manager.Run [.calls 0 0, .reloads, .starts] s ∧
    (s.operations 0).isActive = true ∧
    (s.operations 0).captured? = some firstRuntime ∧ firstRuntime.id ∉ s.closeCalled := by
  have called : manager.Run [.calls 0 0] ((Manager.of firstRuntime).acquireRuntime 0 0) :=
    starts_firstRuntime.step (Step.calls rfl)
  rw [acquires_firstRuntime] at called
  have reloaded : manager.Run [.calls 0 0, .reloads] _ := called.step Step.reloads
  have started : manager.Run [.calls 0 0, .reloads, .starts] _ :=
    reloaded.step (Step.starts rfl rfl)
  refine ⟨_, started, rfl, rfl, ?_⟩
  exact (served_of_run started).1 0 firstRuntime rfl rfl

end SelfConnect.Ultra.Reload
