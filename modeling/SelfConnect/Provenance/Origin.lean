import SelfConnect.Provenance.Session

namespace SelfConnect.Provenance

open SelfConnect.Python SelfConnect.Python.Json SelfConnect.Library

/-! Where an attempted line comes from: a turn of the surroundings, the
configuration of the recorder, and what a caller handed over. -/

structure Premises where
  turn : Turn → Prop
  config : Config → Prop
  given : Members → Option Members → Prop

def Attempt.From (premises : Premises) (attempt : Attempt) : Prop :=
  ∃ turn config, premises.turn turn ∧ premises.config config ∧
    match attempt.line with
    | .record draft recorderSig =>
        premises.given draft.payload draft.osCorroboration ∧
          recorderSig = (signRecord config.identity turn.signFails
            (canonicalBytes draft.unsigned)).signature? ∧
          (attempt.signerRaised = config.identity.map fun _ => turn.signFails) ∧
          attempt.write = turn.write
    | .ack _ => attempt.write = turn.ackWrite

structure Origin (premises : Premises) (w : World) : Prop where
  config : premises.config w.recorder.config
  attempts : ∀ attempt ∈ w.attempts, attempt.From premises

/-- What a call hands over, and what a restart configures, is as presumed. -/
def Call.Presumed (premises : Premises) : Call → Prop
  | .record _ payload _ _ osCorroboration => premises.given (payload.getD []) osCorroboration
  | .close summary _ => premises.given (summary.getD []) none
  | .restart config => premises.config config
  | _ => True

section

variable {turns : Nat → Turn} {premises : Premises}

theorem origin_attempt {w w' : World} {attempt : Attempt} (origin : Origin premises w)
    (sameConfig : w'.recorder.config = w.recorder.config)
    (attempts : w'.attempts = w.attempts ++ [attempt]) (comesFrom : attempt.From premises) :
    Origin premises w' := by
  constructor
  · rw [sameConfig]
    exact origin.config
  · intro other member
    rw [attempts] at member
    rcases List.mem_append.mp member with before | last
    · exact origin.attempts other before
    · rw [List.mem_singleton.mp last]
      exact comesFrom

theorem origin_same {w w' : World} (origin : Origin premises w)
    (sameConfig : w'.recorder.config = w.recorder.config)
    (attempts : w'.attempts = w.attempts) : Origin premises w' := by
  constructor
  · rw [sameConfig]
    exact origin.config
  · rw [attempts]
    exact origin.attempts

theorem origin_replicate {turn : Turn} (isTurn : premises.turn turn) (record : Value) :
    (replicate turn record).Keeps (Origin premises) := by
  refine Program.Keeps.bind (Program.Keeps.modify fun _ origin => origin_same origin rfl rfl)
    fun _ => ?_
  intro w origin
  rw [Program.wp_bind, Program.wp_get, Program.andThen_ok]
  cases turn.push with
  | receipt receipt =>
      dsimp only
      rw [Program.wp_ite]
      refine ⟨fun _ => origin, fun _ => ?_⟩
      simp only [writeLine, Program.wp_bind, Program.wp_modify, Program.andThen_ok,
        Program.wp_pure, Program.wp_require]
      generalize reached : World.append _ _ _ = after
      let line := Line.ack ⟨w.recorder.seq, turn.ackNow, w.recorder.config.sessionId, receipt,
        w.recorder.prevHash⟩
      have comesFrom : Attempt.From premises
          ⟨line, w.recorder.auditMode, none, turn.ackWrite⟩ :=
        ⟨turn, _, isTurn, origin.config, rfl⟩
      have acked : Origin premises after := by
        refine origin_attempt origin ?_ ?_ comesFrom
        · rw [← reached, append_recorder]
          rfl
        · rw [← reached, append_attempts]
          rfl
      exact ⟨fun _ => acked, fun _ => acked⟩
  | notImplemented =>
      simp only [Program.wp_bind, Program.wp_require, Program.andThen_ok, Program.andThen_error,
        Program.wp_pure]
      exact ⟨fun _ => origin, fun _ => origin⟩
  | replicationError message =>
      simp only [Program.wp_ite, Program.wp_bind, Program.wp_require, Program.andThen_ok,
        Program.andThen_error, Program.wp_pure]
      exact ⟨fun _ => ⟨fun _ => origin, fun _ => origin⟩,
        fun _ => ⟨fun _ => origin, fun _ => origin⟩⟩
  | raised => exact origin

theorem origin_update {w : World} {f : Recorder → Recorder} (origin : Origin premises w)
    (sameConfig : ∀ r, (f r).config = r.config) : Origin premises (w.update f) :=
  origin_same origin (sameConfig _) rfl

private theorem origin_appendDraft {turn : Turn} (isTurn : premises.turn turn) {draft : Draft}
    (given : premises.given draft.payload draft.osCorroboration) {w : World}
    (origin : Origin premises w) :
    Program.wp (appendDraft turn w.recorder draft) (fun _ => Origin premises) w := by
  unfold appendDraft
  rw [Program.wp_bind, Program.wp_modify, Program.andThen_ok]
  generalize reached : World.attempt _ _ = attempted
  have after : Origin premises attempted := by
    rw [← reached]
    exact origin_attempt origin rfl rfl ⟨turn, _, isTurn, origin.config, given, rfl, rfl, rfl⟩
  refine Program.Keeps.bind (Program.Keeps.require _ _) (fun _ => ?_) attempted after
  refine Program.Keeps.bind (Program.Keeps.ofExcept _) fun hash => ?_
  refine Program.Keeps.bind
    (Program.Keeps.modify fun _ origin => origin_update origin fun _ => rfl) fun _ => ?_
  have writes : (writeLine turn.write
      (Line.record draft (signRecord w.recorder.config.identity turn.signFails
        (canonicalBytes draft.unsigned)).signature?).text).Keeps (Origin premises) :=
    Program.Keeps.bind (Program.Keeps.modify fun _ origin =>
      origin_same origin (by rw [append_recorder]) (append_attempts _ _ _))
      fun _ => Program.Keeps.pure _
  refine Program.Keeps.bind writes fun written => ?_
  refine Program.Keeps.ite (fun _ => ?_) fun _ => ?_
  · refine Program.Keeps.bind (Program.Keeps.ite (fun _ => origin_replicate isTurn _)
      fun _ => Program.Keeps.pure _) fun _ => ?_
    exact Program.Keeps.bind
      (Program.Keeps.modify fun _ origin => origin_update origin fun _ => rfl)
      fun _ => Program.Keeps.pure _
  · exact Program.Keeps.bind (Program.Keeps.require _ _) fun _ => Program.Keeps.pure _

theorem keeps_origin_appendOne (isTurn : ∀ n, premises.turn (turns n)) {payload : Members}
    {osCorroboration : Option Members} (given : premises.given payload osCorroboration)
    (eventType : SessionEventType) (agentId : Str) (signature : Option Bytes) :
    (appendOne turns eventType payload agentId signature osCorroboration).Keeps
      (Origin premises) := by
  intro w origin
  unfold appendOne takeTurn
  simp only [Program.wp_bind, Program.wp_get, Program.wp_modify, Program.andThen_ok,
    Program.wp_pure]
  exact origin_appendDraft (isTurn _) given (origin_update (origin_same origin rfl rfl)
    fun _ => rfl)

theorem origin_maintained (isTurn : ∀ n, premises.turn (turns n))
    (display : ∀ fields, Flat fields → premises.given (Members.of fields) none)
    (closing : ∀ summary total state, premises.given summary none →
      premises.given (Members.of [("summary", .dict summary), ("total_events", .int total),
        ("session_state", .str state)]) none) :
    Maintained turns premises.given (Origin premises) where
  turn _ origin := origin_same origin rfl rfl
  update _ _ same origin := origin_update origin fun r => (same r).2.2
  append _ _ _ _ _ given := keeps_origin_appendOne isTurn given _ _ _
  display := display
  closing := closing

private theorem keeps_origin_start (kept : Maintained turns premises.given (Origin premises))
    (unavailable resume : Bool) : (start turns unavailable resume).Keeps (Origin premises) := by
  refine Program.Keeps.bind Program.Keeps.get fun w => ?_
  refine Program.Keeps.ite (fun _ => Program.Keeps.pure _) fun _ => ?_
  refine Program.Keeps.ite (fun _ => Program.Keeps.raise _) fun _ => ?_
  refine Program.Keeps.ite (fun _ => Program.Keeps.require _ _) fun _ => ?_
  refine Program.Keeps.bind (Program.Keeps.modify fun _ origin => origin_same origin rfl rfl)
    fun _ => ?_
  have loads : loadChainState.Keeps (Origin premises) := by
    refine Program.Keeps.bind Program.Keeps.get fun w => ?_
    refine Program.Keeps.bind (Program.Keeps.ofExcept _) fun found => ?_
    cases found with
    | none => exact Program.Keeps.pure _
    | some tail => exact Program.Keeps.modify fun _ origin => origin_update origin fun _ => rfl
  refine Program.Keeps.bind loads fun _ => ?_
  refine Program.Keeps.bind (Program.Keeps.require _ _) fun _ => ?_
  refine Program.Keeps.bind
    (Program.Keeps.modify fun _ origin => origin_update origin fun _ => rfl) fun _ => ?_
  refine Program.Keeps.bind (kept.appendDisplay ?_ _ _) fun _ => Program.Keeps.pure _
  simp [Flat, isAtom, Value.lit]

theorem keeps_origin_ensureReplicated (isTurn : ∀ n, premises.turn (turns n)) (record : Value) :
    (ensureReplicated turns record).Keeps (Origin premises) := by
  intro w origin
  unfold ensureReplicated takeTurn
  simp only [Program.wp_bind, Program.wp_get, Program.wp_modify, Program.andThen_ok,
    Program.wp_pure, Program.wp_ite, Program.wp_require, Program.andThen_error]
  have taken : Origin premises { w with turns := w.turns + 1 } := origin_same origin rfl rfl
  exact ⟨fun _ => origin_replicate (isTurn _) record _ taken,
    fun _ => ⟨fun _ => taken, fun _ => taken⟩⟩

theorem origin_run (isTurn : ∀ n, premises.turn (turns n))
    (kept : Maintained turns premises.given (Origin premises)) {w : World}
    {call : Call} (origin : Origin premises w) (presumed : call.Presumed premises) :
    Origin premises (call.run turns w) := by
  cases call with
  | start unavailable resume => exact keeps_origin_start kept unavailable resume w origin
  | record eventType payload agentId signature osCorroboration =>
      exact kept.record presumed _ _ _ w origin
  | heartbeat => exact kept.heartbeat w origin
  | merkleSeal final => exact kept.writeMerkleSeal final w origin
  | changeAuditMode newMode token reason =>
      exact kept.changeAuditMode newMode token reason w origin
  | interrupt reason sinkCloseRaises => exact kept.interrupt reason sinkCloseRaises w origin
  | close summary token => exact kept.close presumed token w origin
  | registerAgent agentId publicKey => exact origin_same origin rfl rfl
  | ensureReplicated record => exact keeps_origin_ensureReplicated isTurn record w origin
  | restart config => exact ⟨presumed, origin.attempts⟩

/-- Every attempt of a session comes from its premises. -/
theorem origin_of_run (isTurn : ∀ n, premises.turn (turns n))
    (kept : Maintained turns premises.given (Origin premises))
    {config : Config} (presumed : premises.config config)
    {calls : List Call} {w : World}
    (run : (sessionSystem turns config).Run calls w)
    (callsPresumed : ∀ call ∈ calls, call.Presumed premises) : Origin premises w := by
  refine run.invariant_of ?_ ?_ callsPresumed
  · rintro w rfl
    exact ⟨presumed, by simp [newWorld]⟩
  · rintro w call t origin callPresumed ⟨-, rfl⟩
    exact origin_run isTurn kept origin callPresumed

end

end SelfConnect.Provenance
