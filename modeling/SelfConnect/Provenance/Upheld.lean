import SelfConnect.Provenance.Session

namespace SelfConnect.Provenance

open SelfConnect.Python SelfConnect.Python.Json SelfConnect.Library

/-! Rules for invariants that depend on which records are appended. `allowed` says
which events with which payloads a recorder may append. -/

/-- A change of attributes that no append reads. -/
def Bookkeeping (f : Recorder → Recorder) : Prop :=
  ∀ r, (f r).config = r.config ∧ (f r).seq = r.seq ∧ (f r).prevHash = r.prevHash ∧
    (f r).segmentNo = r.segmentNo ∧ (f r).eventCountSinceSeal = r.eventCountSinceSeal

abbrev Allowed := Recorder → SessionEventType → Members → Prop

/-- The events a recorder composes itself, with the keys of their payloads; its
heartbeats and seals are apart. -/
def ownEvents : List (SessionEventType × List String) :=
  [(.sessionOpen, ["audit_mode", "agent_id", "session_state"]),
    (.sessionReconstructed, ["audit_mode", "agent_id", "session_state"]),
    (.sessionInterrupt, ["reason", "session_state"]),
    (.sessionClose, ["summary", "total_events", "session_state"]),
    (.auditModeChange, ["from", "to", "is_downgrade", "reason"]),
    (.policyViolation, ["violation", "event_type", "submitter", "required_supervisor"]),
    (.policyViolation, ["violation", "submitter"]),
    (.policyViolation, ["violation", "from", "to"])]

def Permits (allowed : Allowed) (eventType : SessionEventType) : Prop :=
  ∀ r fields, (eventType, fields.map Prod.fst) ∈ ownEvents →
    allowed r eventType (Members.of fields)

structure Upheld (turns : Nat → Turn) (allowed : Allowed) (inv : World → Prop) : Prop where
  update : ∀ w f, Bookkeeping f → inv w → inv (w.update f)
  append : ∀ w eventType payload agentId signature osCorroboration,
    allowed w.recorder eventType payload → inv w →
      Program.wp (appendOne turns eventType payload agentId signature osCorroboration)
        (fun _ => inv) w
  merkleSeal : ∀ final, (writeMerkleSeal turns final).Keeps inv

namespace Upheld

variable {turns : Nat → Turn} {allowed : Allowed} {inv : World → Prop}

theorem modify (upheld : Upheld turns allowed inv) {f : Recorder → Recorder}
    (bookkeeping : Bookkeeping f) :
    (Program.modify fun w => w.update f : Session Unit).Keeps inv :=
  Program.Keeps.modify fun w => upheld.update w f bookkeeping

theorem appendRecord (upheld : Upheld turns allowed inv) {w : World}
    {eventType : SessionEventType} {payload : Members}
    (isAllowed : allowed w.recorder eventType payload) (holds : inv w) (agentId : Str)
    (signature : Option Bytes) (osCorroboration : Option Members) :
    Program.wp (appendRecord turns eventType payload agentId signature osCorroboration)
      (fun _ => inv) w := by
  unfold Provenance.appendRecord
  rw [Program.wp_bind]
  refine Program.wp_mono (upheld.append w _ _ _ _ _ isAllowed holds) ?_
  intro outcome after kept
  cases outcome with
  | error raised => exact kept
  | ok written =>
      refine Program.Keeps.bind Program.Keeps.get (fun reached => ?_) after kept
      refine Program.Keeps.ite (fun _ => ?_) fun _ => Program.Keeps.pure _
      exact Program.Keeps.bind (upheld.merkleSeal false) fun _ => Program.Keeps.pure _

/-- An append whose outcome does not matter to what follows. -/
private theorem append_then {α : Type} (upheld : Upheld turns allowed inv) {w : World}
    {eventType : SessionEventType} {payload : Members}
    (isAllowed : allowed w.recorder eventType payload) (holds : inv w) {agentId : Str}
    {rest : Option Value → Session α} (keeps : ∀ written, (rest written).Keeps inv) :
    Program.wp (Provenance.appendRecord turns eventType payload agentId none none >>= rest)
      (fun _ => inv) w := by
  rw [Program.wp_bind]
  refine Program.wp_mono (upheld.appendRecord isAllowed holds _ _ _) ?_
  intro outcome after kept
  cases outcome with
  | error raised => exact kept
  | ok written => exact keeps written after kept

/-- A submission that passes the authority check leaves the recorder as it was. -/
theorem checkEventAuthority (upheld : Upheld turns allowed inv)
    (violation : Permits allowed .policyViolation) {w : World} (holds : inv w)
    (eventType : SessionEventType) (submitter : Str) :
    Program.wp (checkEventAuthority turns eventType submitter)
      (fun outcome after => inv after ∧ (outcome = .ok () → after = w)) w := by
  unfold Provenance.checkEventAuthority
  rw [Program.wp_bind, Program.wp_get, Program.andThen_ok, Program.wp_ite]
  refine ⟨fun _ => ⟨holds, fun _ => rfl⟩, fun _ => ?_⟩
  cases w.recorder.config.supervisorId with
  | none =>
      rw [Program.wp_require]
      exact ⟨fun _ => ⟨holds, fun _ => rfl⟩, fun _ => ⟨holds, fun _ => rfl⟩⟩
  | some supervisor =>
      dsimp only
      rw [Program.wp_ite]
      refine ⟨fun _ => ⟨holds, fun _ => rfl⟩, fun _ => ?_⟩
      rw [Program.wp_bind]
      refine Program.wp_mono (upheld.appendRecord (violation _ _ (by simp [ownEvents])) holds
        _ _ _) ?_
      intro outcome after kept
      cases outcome with
      | error raised => exact ⟨kept, fun isOk => by cases isOk⟩
      | ok written => exact ⟨kept, fun isOk => by cases isOk⟩

theorem record (upheld : Upheld turns allowed inv)
    (violation : Permits allowed .policyViolation) {w : World} {eventType : SessionEventType}
    {payload : Option Members} (isAllowed : allowed w.recorder eventType (payload.getD []))
    (holds : inv w) (agentId : Str) (signature : Option Bytes)
    (osCorroboration : Option Members) :
    Program.wp (record turns eventType payload agentId signature osCorroboration)
      (fun _ => inv) w := by
  unfold Provenance.record
  simp only [Program.wp_bind, Program.wp_get, Program.andThen_ok, Program.wp_ite,
    Program.wp_require, Program.andThen_error, Program.wp_pure, raiseRecorder, Program.wp_raise]
  refine ⟨fun _ => holds, fun _ => ⟨fun _ => ⟨fun _ => holds, fun _ => holds⟩, fun _ => ?_⟩⟩
  refine Program.wp_mono (upheld.checkEventAuthority violation holds _ _) ?_
  intro checked after passed
  cases checked with
  | error raised => exact passed.1
  | ok done =>
      rw [Program.andThen_ok, Program.wp_bind, passed.2 rfl]
      have unchanged : Program.wp (checkSignature w.recorder eventType
          (if agentId.isEmpty then w.recorder.config.agentId else agentId) (payload.getD [])
          signature) (fun _ reached => reached = w) w :=
        keeps_checkSignature _ _ _ _ _ w rfl
      refine Program.wp_mono unchanged ?_
      rintro (raised | verified) reached rfl
      · exact holds
      · exact upheld.appendRecord isAllowed holds _ _ _

theorem heartbeat (upheld : Upheld turns allowed inv)
    (beat : ∀ (r : Recorder) (state : Value), allowed r .heartbeat
      (Members.of [("seq_at_heartbeat", .int r.seq), ("session_state", state)])) :
    (heartbeat turns).Keeps inv := by
  intro w holds
  unfold Provenance.heartbeat
  simp only [Program.wp_bind, Program.wp_get, Program.andThen_ok, Program.wp_ite,
    Program.wp_pure, Program.wp_attempt]
  exact ⟨fun _ => holds, fun _ => upheld.appendRecord (beat _ _) holds _ _ _⟩

theorem close (upheld : Upheld turns allowed inv)
    (violation : Permits allowed .policyViolation) (closing : Permits allowed .sessionClose)
    (summary : Option Members) (token : Option Str) : (close turns summary token).Keeps inv := by
  intro w holds
  unfold Provenance.close
  rw [Program.wp_bind, Program.wp_get, Program.andThen_ok, Program.wp_ite]
  refine ⟨fun _ => holds, fun _ => ?_⟩
  rw [Program.wp_ite]
  refine ⟨fun _ => ?_, fun _ => ?_⟩
  · exact upheld.append_then (violation _ _ (by simp [ownEvents])) holds
      fun _ => Program.Keeps.raise _
  · refine Program.Keeps.bind (Program.Keeps.when _ ?_) (fun _ => ?_) w holds
    · refine Program.Keeps.bind (upheld.modify fun _ => ⟨rfl, rfl, rfl, rfl, rfl⟩) fun _ => ?_
      intro after kept
      exact upheld.append_then (closing _ _ (by simp [ownEvents])) kept
        fun _ => upheld.merkleSeal true
    · exact upheld.modify fun _ => ⟨rfl, rfl, rfl, rfl, rfl⟩

theorem interrupt (upheld : Upheld turns allowed inv)
    (interrupting : Permits allowed .sessionInterrupt) (reason : Str) (sinkCloseRaises : Bool) :
    (interrupt turns reason sinkCloseRaises).Keeps inv := by
  refine Program.Keeps.bind Program.Keeps.get fun w => ?_
  refine Program.Keeps.ite (fun _ => Program.Keeps.pure _) fun _ => ?_
  refine Program.Keeps.bind (Program.Keeps.when _ ?_) fun _ => ?_
  · refine Program.Keeps.bind (upheld.modify fun _ => ⟨rfl, rfl, rfl, rfl, rfl⟩) fun _ => ?_
    intro after kept
    exact upheld.append_then (interrupting _ _ (by simp [ownEvents])) kept
      fun _ => upheld.merkleSeal false
  · exact Program.Keeps.bind (upheld.modify fun _ => ⟨rfl, rfl, rfl, rfl, rfl⟩)
      fun _ => Program.Keeps.require _ _

theorem changeAuditMode (upheld : Upheld turns allowed inv)
    (violation : Permits allowed .policyViolation) (changing : Permits allowed .auditModeChange)
    (newMode : AuditMode) (token : Option Str) (reason : Str) :
    (changeAuditMode turns newMode token reason).Keeps inv := by
  intro w holds
  unfold Provenance.changeAuditMode
  rw [Program.wp_bind, Program.wp_get, Program.andThen_ok, Program.wp_ite]
  refine ⟨fun _ => ?_, fun _ => ?_⟩
  · exact upheld.append_then (violation _ _ (by simp [ownEvents])) holds
      fun _ => Program.Keeps.raise _
  · rw [Program.wp_bind, Program.wp_modify, Program.andThen_ok]
    have changed := upheld.update w (fun r => { r with auditMode := newMode })
      (fun _ => ⟨rfl, rfl, rfl, rfl, rfl⟩) holds
    exact upheld.append_then (changing _ _ (by simp [ownEvents])) changed
      fun _ => Program.Keeps.pure _

/-- Starting touches the log and reads the chain state back before it appends. -/
theorem start (upheld : Upheld turns allowed inv) (opening : Permits allowed .sessionOpen)
    (resuming : Permits allowed .sessionReconstructed) {w : World} (holds : inv w)
    (loads : Program.wp loadChainState (fun _ => inv) { w with log := some (w.log.getD []) })
    (unavailable resume : Bool) :
    Program.wp (start turns unavailable resume) (fun _ => inv) w := by
  unfold Provenance.start
  simp only [Program.wp_bind, Program.wp_get, Program.andThen_ok, Program.wp_ite,
    Program.wp_pure, Program.wp_modify, Program.wp_require, raiseRecorder, Program.wp_raise]
  refine ⟨fun _ => holds, fun _ => ⟨fun _ => holds, fun _ => ⟨fun _ => ⟨fun _ => holds,
    fun _ => holds⟩, fun _ => ?_⟩⟩⟩
  refine Program.wp_mono loads ?_
  intro loaded after kept
  cases loaded with
  | error raised => exact kept
  | ok done =>
      simp only [Program.andThen_ok, Program.wp_bind, Program.wp_require, Program.andThen_error,
        Program.wp_modify]
      refine ⟨fun _ => ?_, fun _ => kept⟩
      have started := upheld.update after (fun r => { r with
        started := true
        sessionState := if resume then .reconstructed else r.sessionState })
        (fun _ => ⟨rfl, rfl, rfl, rfl, rfl⟩) kept
      rw [← Program.wp_bind]
      refine upheld.append_then ?_ started fun _ => Program.Keeps.pure _
      cases resume with
      | false => exact opening _ _ (by simp [ownEvents])
      | true => exact resuming _ _ (by simp [ownEvents])

end Upheld

end SelfConnect.Provenance
