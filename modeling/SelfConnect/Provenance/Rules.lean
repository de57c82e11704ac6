import SelfConnect.Provenance.Recorder

namespace SelfConnect.Provenance

open SelfConnect.Python SelfConnect.Python.Json SelfConnect.Library

/-! An invariant that taking a turn, changing a bookkeeping attribute and appending
one record keep is kept by every program of the recorder. `given` is what the
invariant asks of the payload and corroboration of an append. -/

def isAtom : Value → Bool
  | .list _ | .dict _ => false
  | _ => true

/-- The fields of a payload the recorder composes itself. -/
def Flat (fields : List (String × Value)) : Prop :=
  (fields.map Prod.fst).Nodup ∧ ∀ field ∈ fields, isAtom field.2 = true

structure Maintained (turns : Nat → Turn) (given : Members → Option Members → Prop)
    (inv : World → Prop) : Prop where
  turn : ∀ w, inv w → inv { w with turns := w.turns + 1 }
  update : ∀ w f, (∀ r : Recorder, (f r).seq = r.seq ∧ (f r).prevHash = r.prevHash ∧
    (f r).config = r.config) → inv w → inv (w.update f)
  append : ∀ eventType payload agentId signature osCorroboration,
    given payload osCorroboration →
      (appendOne turns eventType payload agentId signature osCorroboration).Keeps inv
  display : ∀ fields, Flat fields → given (Members.of fields) none
  closing : ∀ summary total state, given summary none →
    given (Members.of [("summary", .dict summary), ("total_events", .int total),
      ("session_state", .str state)]) none

namespace Maintained

variable {turns : Nat → Turn} {given : Members → Option Members → Prop} {inv : World → Prop}

theorem modify (kept : Maintained turns given inv) {f : Recorder → Recorder}
    (same : ∀ r : Recorder, (f r).seq = r.seq ∧ (f r).prevHash = r.prevHash ∧
      (f r).config = r.config) :
    (Program.modify fun w => w.update f : Session Unit).Keeps inv :=
  Program.Keeps.modify fun w => kept.update w f same

theorem takeTurn (kept : Maintained turns given inv) : (takeTurn turns).Keeps inv :=
  Program.Keeps.bind Program.Keeps.get fun _ =>
    Program.Keeps.bind (Program.Keeps.modify kept.turn) fun _ => Program.Keeps.pure _

theorem writeMerkleSeal (kept : Maintained turns given inv) (final : Bool) :
    (writeMerkleSeal turns final).Keeps inv := by
  refine Program.Keeps.bind kept.takeTurn fun turn => ?_
  refine Program.Keeps.bind Program.Keeps.get fun w => ?_
  refine Program.Keeps.ite (fun _ => Program.Keeps.require _ _) fun _ => ?_
  refine Program.Keeps.bind (kept.modify fun _ => ⟨rfl, rfl, rfl⟩) fun _ => ?_
  refine Program.Keeps.bind (kept.append _ _ _ _ _ (kept.display _ ?_))
    fun _ => Program.Keeps.pure _
  simp [Flat, isAtom]

theorem appendRecord (kept : Maintained turns given inv) {payload : Members}
    {osCorroboration : Option Members} (isGiven : given payload osCorroboration)
    (eventType : SessionEventType) (agentId : Str) (signature : Option Bytes) :
    (appendRecord turns eventType payload agentId signature osCorroboration).Keeps inv := by
  refine Program.Keeps.bind (kept.append _ _ _ _ _ isGiven) fun written => ?_
  refine Program.Keeps.bind Program.Keeps.get fun w => ?_
  refine Program.Keeps.ite (fun _ => ?_) fun _ => Program.Keeps.pure _
  exact Program.Keeps.bind (kept.writeMerkleSeal false) fun _ => Program.Keeps.pure _

/-- The recorder's own events have flat payloads. -/
theorem appendDisplay (kept : Maintained turns given inv) {fields : List (String × Value)}
    (flat : Flat fields) (eventType : SessionEventType)
    (agentId : Str) :
    (Provenance.appendRecord turns eventType (Members.of fields) agentId none none).Keeps inv :=
  kept.appendRecord (kept.display fields flat) _ _ _

theorem checkEventAuthority (kept : Maintained turns given inv) (eventType : SessionEventType)
    (submitter : Str) : (checkEventAuthority turns eventType submitter).Keeps inv := by
  refine Program.Keeps.bind Program.Keeps.get fun w => ?_
  refine Program.Keeps.ite (fun _ => Program.Keeps.pure _) fun _ => ?_
  cases w.recorder.config.supervisorId with
  | none => exact Program.Keeps.require _ _
  | some supervisor =>
      refine Program.Keeps.ite (fun _ => Program.Keeps.pure _) fun _ => ?_
      refine Program.Keeps.bind (kept.appendDisplay ?_ _ _) fun _ => Program.Keeps.raise _
      simp [Flat, isAtom, Value.lit]

end Maintained

theorem keeps_checkSignature {inv : World → Prop} (r : Recorder) (eventType : SessionEventType)
    (submitter : Str) (payload : Members) (signature : Option Bytes) :
    (checkSignature r eventType submitter payload signature).Keeps inv := by
  unfold checkSignature
  split
  · exact Program.Keeps.pure _
  · exact Program.Keeps.pure _
  · split
    · exact Program.Keeps.require _ _
    · split
      · exact Program.Keeps.require _ _
      · exact Program.Keeps.raise _

namespace Maintained

variable {turns : Nat → Turn} {given : Members → Option Members → Prop} {inv : World → Prop}

theorem record (kept : Maintained turns given inv) {payload : Option Members}
    {osCorroboration : Option Members} (isGiven : given (payload.getD []) osCorroboration)
    (eventType : SessionEventType) (agentId : Str) (signature : Option Bytes) :
    (record turns eventType payload agentId signature osCorroboration).Keeps inv := by
  refine Program.Keeps.bind Program.Keeps.get fun w => ?_
  refine Program.Keeps.ite (fun _ => Program.Keeps.raise _) fun _ => ?_
  refine Program.Keeps.ite (fun _ => ?_) fun _ => ?_
  · exact Program.Keeps.bind (Program.Keeps.require _ _) fun _ => Program.Keeps.pure _
  · refine Program.Keeps.bind (kept.checkEventAuthority _ _) fun _ => ?_
    refine Program.Keeps.bind (keeps_checkSignature _ _ _ _ _) fun _ => ?_
    exact kept.appendRecord isGiven _ _ _

theorem heartbeat (kept : Maintained turns given inv) : (heartbeat turns).Keeps inv := by
  refine Program.Keeps.bind Program.Keeps.get fun w => ?_
  refine Program.Keeps.ite (fun _ => Program.Keeps.pure _) fun _ => ?_
  refine Program.Keeps.bind (Program.Keeps.attempt (kept.appendDisplay ?_ _ _))
    fun _ => Program.Keeps.pure _
  simp [Flat, isAtom, Value.lit]

theorem close (kept : Maintained turns given inv) {summary : Option Members}
    (isGiven : given (summary.getD []) none) (token : Option Str) :
    (close turns summary token).Keeps inv := by
  refine Program.Keeps.bind Program.Keeps.get fun w => ?_
  refine Program.Keeps.ite (fun _ => Program.Keeps.pure _) fun _ => ?_
  refine Program.Keeps.ite (fun _ => ?_) fun _ => ?_
  · refine Program.Keeps.bind (kept.appendDisplay ?_ _ _) fun _ => Program.Keeps.raise _
    simp [Flat, isAtom, Value.lit]
  · refine Program.Keeps.bind (Program.Keeps.when _ ?_) fun _ =>
      kept.modify fun _ => ⟨rfl, rfl, rfl⟩
    refine Program.Keeps.bind (kept.modify fun _ => ⟨rfl, rfl, rfl⟩) fun _ => ?_
    exact Program.Keeps.bind (kept.appendRecord (kept.closing _ _ _ isGiven) _ _ _)
      fun _ => kept.writeMerkleSeal true

theorem interrupt (kept : Maintained turns given inv) (reason : Str) (sinkCloseRaises : Bool) :
    (interrupt turns reason sinkCloseRaises).Keeps inv := by
  refine Program.Keeps.bind Program.Keeps.get fun w => ?_
  refine Program.Keeps.ite (fun _ => Program.Keeps.pure _) fun _ => ?_
  refine Program.Keeps.bind (Program.Keeps.when _ ?_) fun _ => ?_
  · refine Program.Keeps.bind (kept.modify fun _ => ⟨rfl, rfl, rfl⟩) fun _ => ?_
    refine Program.Keeps.bind (kept.appendDisplay ?_ _ _) fun _ => kept.writeMerkleSeal false
    simp [Flat, isAtom, Value.lit]
  · exact Program.Keeps.bind (kept.modify fun _ => ⟨rfl, rfl, rfl⟩)
      fun _ => Program.Keeps.require _ _

theorem changeAuditMode (kept : Maintained turns given inv) (newMode : AuditMode)
    (token : Option Str) (reason : Str) :
    (changeAuditMode turns newMode token reason).Keeps inv := by
  refine Program.Keeps.bind Program.Keeps.get fun w => ?_
  refine Program.Keeps.ite (fun _ => ?_) fun _ => ?_
  · refine Program.Keeps.bind (kept.appendDisplay ?_ _ _) fun _ => Program.Keeps.raise _
    simp [Flat, isAtom, Value.lit]
  · refine Program.Keeps.bind (kept.modify fun _ => ⟨rfl, rfl, rfl⟩) fun _ => ?_
    refine Program.Keeps.bind (kept.appendDisplay ?_ _ _) fun _ => Program.Keeps.pure _
    simp [Flat, isAtom, Value.lit]

end Maintained

/-! A recorder that was not started leaves the log alone. -/

section Unstarted

variable {turns : Nat → Turn} {w : World}

theorem record_unstarted (unstarted : w.recorder.started = false) (eventType : SessionEventType)
    (payload : Option Members) (agentId : Str) (signature : Option Bytes)
    (osCorroboration : Option Members) :
    (record turns eventType payload agentId signature osCorroboration w).2 = w := by
  change Program.wp (record turns eventType payload agentId signature osCorroboration)
    (fun _ t => t = w) w
  unfold record
  simp only [Program.wp_bind, Program.wp_get, Program.andThen_ok, Program.wp_ite, unstarted,
    Program.wp_require, Program.andThen_error, Program.wp_pure, raiseRecorder, Program.wp_raise]
  simp

theorem heartbeat_unstarted (unstarted : w.recorder.started = false) :
    (heartbeat turns w).2 = w := by
  change Program.wp (heartbeat turns) (fun _ t => t = w) w
  unfold heartbeat
  simp only [Program.wp_bind, Program.wp_get, Program.andThen_ok, Program.wp_ite, unstarted,
    Program.wp_pure]
  simp

theorem interrupt_unstarted (unstarted : w.recorder.started = false) (reason : Str)
    (sinkCloseRaises : Bool) :
    (interrupt turns reason sinkCloseRaises w).2 = w ∨
      (interrupt turns reason sinkCloseRaises w).2 = w.update fun r => { r with closed := true } := by
  change Program.wp (interrupt turns reason sinkCloseRaises)
    (fun _ t => t = w ∨ t = w.update fun r => { r with closed := true }) w
  unfold interrupt
  simp only [Program.wp_bind, Program.wp_get, Program.andThen_ok, Program.wp_ite, unstarted,
    Program.wp_pure, Program.wp_when, Program.wp_modify, Program.wp_require]
  simp

end Unstarted

end SelfConnect.Provenance
