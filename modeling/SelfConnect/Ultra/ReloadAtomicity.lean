import SelfConnect.Ultra.Reload

namespace SelfConnect.Ultra.Reload

open SelfConnect.Js SelfConnect.Library

/-! What a reload has done when its promise settles. -/

/-- A reload that is rejected has left the runtime that was active before it, which can be used; one
that is fulfilled has installed the grant it answers, and the runtime before it has been closed. -/
def Atomic (settled : Settled) : Prop :=
  match settled.answer with
  | none => settled.after = settled.call.before ∧ settled.usable = true
  | some authority => settled.after.authority = authority ∧ settled.retired = true

/-- The close of a runtime that is replaced is not rejected; `reload` is not called after `close`;
and a reload that is rejected has not waited while another installed a runtime, nor has `close`
been called by then. -/
def Orderly (s : Manager) : Event → Prop
  | .retires fulfilled => fulfilled = true
  | .reloads => s.closing = false
  | .finishes => ∀ call, s.turn = .ending call none →
      call.overtaken = false ∧ s.closing = false
  | _ => True

/-- The runtime before a call is the active one, or its close has been fulfilled. -/
structure Placed (runtime : Runtime) (closeFulfilled : List ℕ) (call : Pending) : Prop where
  active : call.overtaken = false → call.before = runtime
  retired : call.before = runtime ∨ call.before.id ∈ closeFulfilled

def Turn.Holds (runtime : Runtime) (closeFulfilled : List ℕ) : Turn → Prop
  | idle => True
  | draining call => Placed runtime closeFulfilled call
  | drained call => Placed runtime closeFulfilled call
  | loading call => Placed runtime closeFulfilled call
  | retiring call previous => call.before = previous ∨ call.before.id ∈ closeFulfilled
  | ending call none => call.overtaken = false → call.before = runtime
  | ending call (some authority) =>
      authority = runtime.authority ∧ call.before.id ∈ closeFulfilled

/-- A call that waits may also be one of the runtime that is being closed. -/
structure Waits (runtime : Runtime) (closeFulfilled : List ℕ) (turn : Turn) (call : Pending) :
    Prop where
  active : call.overtaken = false → call.before = runtime
  retired : (call.before = runtime ∨ call.before.id ∈ closeFulfilled) ∨
    ∃ other, turn = .retiring other call.before

structure Faithful (s : Manager) : Prop where
  queue : ∀ call ∈ s.queue, Waits s.runtime s.closeFulfilled s.turn call
  turn : s.turn.Holds s.runtime s.closeFulfilled
  settled : ∀ settled ∈ s.settled, Atomic settled

section Faithful

variable {s t : Manager}

theorem Waits.placed {runtime : Runtime} {closeFulfilled : List ℕ} {turn : Turn} {call : Pending}
    (waits : Waits runtime closeFulfilled turn call)
    (notRetiring : ∀ other previous, turn ≠ .retiring other previous) :
    Placed runtime closeFulfilled call where
  active := waits.active
  retired := by
    refine waits.retired.resolve_right ?_
    rintro ⟨other, isTurn⟩
    exact notRetiring other _ isTurn

theorem Placed.waits {runtime : Runtime} {closeFulfilled : List ℕ} {turn : Turn} {call : Pending}
    (placed : Placed runtime closeFulfilled call) : Waits runtime closeFulfilled turn call :=
  ⟨placed.active, .inl placed.retired⟩

theorem faithful_of (runtime : Runtime) : Faithful (.of runtime) where
  queue _ member := absurd member List.not_mem_nil
  turn := trivial
  settled _ member := absurd member List.not_mem_nil

/-- A step that reloads have nothing to do with. -/
theorem Faithful.same (faithful : Faithful s) (runtime : t.runtime = s.runtime)
    (closeFulfilled : t.closeFulfilled = s.closeFulfilled) (queue : t.queue = s.queue)
    (settled : t.settled = s.settled) (turn : t.turn = s.turn ∨ t.turn = s.turn.wake) :
    Faithful t := by
  have retiring : ∀ other previous, s.turn = .retiring other previous →
      t.turn = .retiring other previous := by
    intro other previous isTurn
    rw [isTurn] at turn
    exact turn.elim id id
  have wakes : s.turn.wake.Holds s.runtime s.closeFulfilled := by
    have holds := faithful.turn
    cases isTurn : s.turn with
    | draining call => rwa [isTurn] at holds
    | _ => rwa [isTurn] at holds
  constructor
  · intro call member
    rw [queue] at member
    obtain ⟨active, retired⟩ := faithful.queue call member
    refine ⟨fun isFirst => (active isFirst).trans runtime.symm, ?_⟩
    rw [runtime, closeFulfilled]
    refine retired.imp_right ?_
    rintro ⟨other, isTurn⟩
    exact ⟨other, retiring _ _ isTurn⟩
  · rw [runtime, closeFulfilled]
    rcases turn with same | woken
    · rw [same]
      exact faithful.turn
    · rw [woken]
      exact wakes
  · rw [settled]
    exact faithful.settled

theorem Faithful.acquireRuntime (faithful : Faithful s) (op : ℕ) (now : Int) :
    Faithful (s.acquireRuntime op now) := by
  unfold Manager.acquireRuntime
  split
  · exact faithful.same rfl rfl rfl rfl (.inl rfl)
  · split
    · exact faithful.same rfl rfl rfl rfl (.inl rfl)
    · split
      · exact faithful.same rfl rfl rfl rfl (.inl rfl)
      · exact faithful.same rfl rfl rfl rfl (.inl rfl)

theorem Faithful.leave (faithful : Faithful s) (op : ℕ) (captured : Runtime) :
    Faithful (s.leave op captured) := by
  unfold Manager.leave Manager.wakeDrained
  split
  · exact faithful.same rfl rfl rfl rfl (.inl rfl)
  · exact faithful.same rfl rfl rfl rfl (.inr rfl)

theorem Faithful.reload (faithful : Faithful s) (sound : Sound s) (notClosing : s.closing = false) :
    Faithful s.reload := by
  have notClosed : s.closed = false := by
    rw [sound.closed]
    refine Bool.eq_false_iff.mpr fun isClosed => ?_
    have isCalled := Closer.isCalled_of_isQuiet (Closer.isQuiet_of_isClosed isClosed)
    rw [← sound.closing, notClosing] at isCalled
    cases isCalled
  have isOpen : ¬ (s.closing || s.closed) = true := by
    rw [notClosing, notClosed]
    exact Bool.false_ne_true
  unfold Manager.reload
  rw [if_neg isOpen]
  refine ⟨fun call member => ?_, faithful.turn, faithful.settled⟩
  rcases List.mem_append.mp member with earlier | last
  · exact faithful.queue call earlier
  · cases List.mem_singleton.mp last
    exact ⟨fun _ => rfl, .inl (.inl rfl)⟩

theorem Faithful.reloadOnce (faithful : Faithful s) (sound : Sound s) {call : Pending}
    {rest : List Pending} (isIdle : s.turn = .idle) (isQueue : s.queue = call :: rest) :
    Faithful (s.reloadOnce call rest) := by
  have notAlone : s.closer.isAlone = false := by
    refine sound.not_alone (.inr ?_)
    rw [isQueue]
    exact List.cons_ne_nil call rest
  have notClosed : ¬ s.closed = true := by
    intro isClosed
    rw [sound.closed] at isClosed
    rw [Closer.isAlone_of_isClosed isClosed] at notAlone
    cases notAlone
  have placed : ∀ waiting ∈ call :: rest, Placed s.runtime s.closeFulfilled waiting := by
    intro waiting member
    rw [← isQueue] at member
    refine (faithful.queue waiting member).placed fun other previous isTurn => ?_
    cases isIdle.symm.trans isTurn
  obtain ⟨own, others⟩ := List.forall_mem_cons.mp placed
  unfold Manager.reloadOnce
  rw [if_neg notClosed]
  split
  · exact ⟨fun waiting member => (others waiting member).waits, own, faithful.settled⟩
  · exact ⟨fun waiting member => (others waiting member).waits, own, faithful.settled⟩

theorem Faithful.install (faithful : Faithful s) {call : Pending} {candidate : Runtime} (now : Int)
    (isLoading : s.turn = .loading call) : Faithful (s.install call candidate now) := by
  have own : Placed s.runtime s.closeFulfilled call := by
    have holds := faithful.turn
    rwa [isLoading] at holds
  have placed : ∀ waiting ∈ s.queue, Placed s.runtime s.closeFulfilled waiting := by
    intro waiting member
    refine (faithful.queue waiting member).placed fun other previous isTurn => ?_
    cases isLoading.symm.trans isTurn
  unfold Manager.install
  split
  · refine ⟨fun waiting member => ?_, own.retired, faithful.settled⟩
    obtain ⟨earlier, isEarlier, rfl⟩ := List.mem_map.mp member
    refine ⟨fun isFirst => Bool.noConfusion isFirst, ?_⟩
    rcases (placed earlier isEarlier).retired with isActive | isRetired
    · exact .inr ⟨call, congrArg (Turn.retiring call) isActive.symm⟩
    · exact .inl (.inr isRetired)
  · exact ⟨fun waiting member => (placed waiting member).waits, own.active, faithful.settled⟩

theorem Faithful.fail (faithful : Faithful s) {call : Pending}
    (isLoading : s.turn = .loading call) :
    Faithful { s with turn := .ending call none } := by
  have holds := faithful.turn
  rw [isLoading] at holds
  refine ⟨fun waiting member => ?_, holds.active, faithful.settled⟩
  refine ((faithful.queue waiting member).placed fun other previous isTurn => ?_).waits
  cases isLoading.symm.trans isTurn

theorem Faithful.retire (faithful : Faithful s) {call : Pending} {previous : Runtime}
    (isRetiring : s.turn = .retiring call previous) : Faithful (s.retire call previous true) := by
  have holds := faithful.turn
  rw [isRetiring] at holds
  refine ⟨fun waiting member => ?_, ⟨rfl, ?_⟩, faithful.settled⟩
  · obtain ⟨active, retired⟩ := faithful.queue waiting member
    refine ⟨active, .inl ?_⟩
    rcases retired with (isActive | isRetired) | ⟨other, isTurn⟩
    · exact .inl isActive
    · exact .inr (List.mem_cons_of_mem _ isRetired)
    · cases isRetiring.symm.trans isTurn
      exact .inr List.mem_cons_self
  · rcases holds with own | isRetired
    · exact own ▸ List.mem_cons_self
    · exact List.mem_cons_of_mem _ isRetired

/-- The promise of a reload settles. -/
theorem Faithful.finish (faithful : Faithful s) (sound : Sound s) {call : Pending}
    {answer : Option Authority} (isEnding : s.turn = .ending call answer)
    (orderly : answer = none → call.overtaken = false ∧ s.closing = false) :
    Faithful (s.finish call answer) := by
  have placed : ∀ waiting ∈ s.queue, Placed s.runtime s.closeFulfilled waiting := by
    intro waiting member
    refine (faithful.queue waiting member).placed fun other previous isTurn => ?_
    cases isEnding.symm.trans isTurn
  have holds := faithful.turn
  rw [isEnding] at holds
  have atomic : Atomic
      { call := call
        answer := answer
        after := s.runtime
        usable := !s.closing && !(s.closing || s.closed) && !s.closeCalled.contains s.runtime.id
        retired := s.closeFulfilled.contains call.before.id } := by
    cases answer with
    | none =>
        obtain ⟨isFirst, notClosing⟩ := orderly rfl
        have notClosed : s.closed = false := by
          refine Bool.eq_false_iff.mpr fun isClosed => ?_
          have isAlone := Closer.isAlone_of_isClosed (sound.closed.symm.trans isClosed)
          rw [sound.uncalled notClosing] at isAlone
          cases isAlone
        have isOpen : s.closeCalled.contains s.runtime.id = false := by
          rw [List.contains_eq_mem]
          exact decide_eq_false (sound.unclosed notClosed)
        refine ⟨(holds isFirst).symm, ?_⟩
        dsimp only
        rw [notClosing, notClosed, isOpen]
        rfl
    | some authority =>
        refine ⟨holds.1.symm, ?_⟩
        dsimp only
        rw [List.contains_eq_mem]
        exact decide_eq_true holds.2
  unfold Manager.finish
  dsimp only
  split
  · exact ⟨fun waiting member => (placed waiting member).waits, trivial,
      List.forall_mem_cons.mpr ⟨atomic, faithful.settled⟩⟩
  · exact ⟨fun waiting member => (placed waiting member).waits, trivial,
      List.forall_mem_cons.mpr ⟨atomic, faithful.settled⟩⟩

theorem Faithful.shutDown (faithful : Faithful s) : Faithful s.shutDown :=
  faithful.same rfl rfl rfl rfl (.inl rfl)

theorem faithful_step {event : Event} (faithful : Faithful s) (sound : Sound s)
    (orderly : Orderly s event) (step : Step s event t) : Faithful t := by
  cases step with
  | calls _ => exact faithful.acquireRuntime _ _
  | resumes _ => exact faithful.acquireRuntime _ _
  | enters _ => exact faithful.same rfl rfl rfl rfl (.inl rfl)
  | returns _ => exact faithful.same rfl rfl rfl rfl (.inl rfl)
  | leaves _ => exact faithful.leave _ _
  | reloads => exact faithful.reload sound orderly
  | starts isIdle isQueue => exact faithful.reloadOnce sound isIdle isQueue
  | drained isDrained =>
      have holds := faithful.turn
      rw [isDrained] at holds
      refine ⟨fun waiting member => ?_, holds, faithful.settled⟩
      refine ((faithful.queue waiting member).placed fun other previous isTurn => ?_).waits
      cases isDrained.symm.trans isTurn
  | loads isLoading _ => exact faithful.install _ isLoading
  | fails isLoading => exact faithful.fail isLoading
  | retires isRetiring =>
      cases orderly
      exact faithful.retire isRetiring
  | finishes isEnding =>
      refine faithful.finish sound isEnding ?_
      rintro rfl
      exact orderly _ isEnding
  | closes =>
      unfold Manager.close
      split
      · exact faithful.same rfl rfl rfl rfl (.inl rfl)
      · exact faithful
  | proceeds _ _ _ =>
      unfold Manager.drain
      split
      · exact faithful.same rfl rfl rfl rfl (.inl rfl)
      · exact faithful.shutDown
  | shutsDown _ => exact faithful.shutDown
  | settles _ => exact faithful.same rfl rfl rfl rfl (.inl rfl)

variable {events : List Event}

theorem faithful_of_run (run : (manager.under Orderly).Run events s) : Sound s ∧ Faithful s := by
  induction run with
  | start initial =>
      obtain ⟨runtime, now, -, -, rfl⟩ := initial
      exact ⟨sound_of runtime, faithful_of runtime⟩
  | step _ next ih =>
      obtain ⟨orderly, step⟩ := next
      exact ⟨sound_step ih.1 step, faithful_step ih.2 ih.1 orderly step⟩

/-- Every reload that has settled has changed nothing, or everything. -/
theorem atomic_of_run (run : (manager.under Orderly).Run events s) :
    ∀ settled ∈ s.settled, Atomic settled :=
  (faithful_of_run run).2.settled

end Faithful

/-- The manager while the loader has not returned the second runtime. -/
def loadingManager : Manager :=
  { Manager.of firstRuntime with
    blocked := true
    turn := .loading ⟨firstRuntime, false⟩ }

/-- The second runtime is installed, and the close of the first one is awaited. -/
def retiringManager : Manager :=
  { Manager.of firstRuntime with
    runtime := secondRuntime
    blocked := true
    turn := .retiring ⟨firstRuntime, false⟩ firstRuntime
    installed := [secondRuntime, firstRuntime]
    loaded := 2
    closeCalled := [0] }

theorem installs_secondRuntime :
    loadingManager.install ⟨firstRuntime, false⟩ secondRuntime 0 = retiringManager := by
  have accepted : (validateRuntimeAuthority loadingManager.runtime &&
      validateRuntimeAuthority secondRuntime && assertLeaseUsable secondRuntime.authority 0 &&
      assertSameAuthorityAndNewer loadingManager.runtime.authority secondRuntime.authority) =
        true := by decide
  unfold Manager.install
  rw [if_pos accepted]
  rfl

/-- The events up to the close of the runtime that is replaced. -/
def replacing : List Event := [.reloads, .starts, .loads secondRuntime 0]

theorem run_replacing : (manager.under Orderly).Run replacing retiringManager := by
  have first : (manager.under Orderly).Run [] (.of firstRuntime) :=
    .start ⟨firstRuntime, 0, by decide, by decide, rfl⟩
  have reloaded : (manager.under Orderly).Run [.reloads] _ := first.step ⟨rfl, Step.reloads⟩
  have started : (manager.under Orderly).Run [.reloads, .starts] loadingManager :=
    reloaded.step ⟨trivial, Step.starts rfl rfl⟩
  have loads : Step loadingManager (.loads secondRuntime 0)
      (loadingManager.install ⟨firstRuntime, false⟩ secondRuntime 0) := Step.loads rfl rfl
  rw [installs_secondRuntime] at loads
  exact started.step ⟨trivial, loads⟩

/-- The close of the first runtime is rejected: so is the reload, but the second one is active. -/
theorem not_forall_atomic_unretired : ¬ ∀ (events : List Event) (s : Manager),
    manager.Run events s → ∀ settled ∈ s.settled, Atomic settled := by
  intro every
  have run : manager.Run replacing retiringManager := run_replacing.of_under
  have retired : manager.Run (replacing ++ [.retires false]) _ := run.step (Step.retires rfl)
  have finished : manager.Run (replacing ++ [.retires false] ++ [.finishes]) _ :=
    retired.step (Step.finishes rfl)
  obtain ⟨same, -⟩ := every _ _ finished _ List.mem_cons_self
  exact absurd (congrArg Runtime.id same) (by decide)

/-- The close of the first runtime is fulfilled, and so is the reload. -/
theorem atomic_of_run_retired : ∃ settled : Settled,
    settled.answer = some secondRuntime.authority ∧ Atomic settled := by
  have retired : (manager.under Orderly).Run (replacing ++ [.retires true]) _ :=
    run_replacing.step ⟨rfl, Step.retires rfl⟩
  have finished : (manager.under Orderly).Run (replacing ++ [.retires true] ++ [.finishes]) _ :=
    retired.step ⟨fun call isEnding => (by cases isEnding), Step.finishes rfl⟩
  exact ⟨_, rfl, atomic_of_run finished _ List.mem_cons_self⟩

end SelfConnect.Ultra.Reload
