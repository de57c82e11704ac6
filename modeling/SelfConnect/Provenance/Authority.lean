import SelfConnect.Provenance.Upheld
import SelfConnect.Provenance.Agreement

namespace SelfConnect.Provenance

open SelfConnect.Python SelfConnect.Python.Json SelfConnect.Library

/-! Which calls present the authority that the recorder was configured with. -/

def Call.Authorised (r : Recorder) : Call → Prop
  | .record _ _ agentId _ _ =>
      r.config.supervisorId = some (if agentId.isEmpty then r.config.agentId else agentId)
  | .close _ token => token.isSome ∧ token = r.config.orchestratorToken
  | .changeAuditMode newMode token _ =>
      r.auditMode.allowsDowngradeTo newMode = true ∨
        token.isSome ∧ token = r.config.orchestratorToken
  | _ => False

/-- A recorder that fails closed lets a call append privileged events only when the
call presents the configured authority. -/
def Call.KeepsAuthority (turns : Nat → Turn) (w : World) (call : Call) : Prop :=
  w.recorder.auditMode.failsClosed = true →
    ∀ attempt ∈ (call.run turns w).attempts.drop w.attempts.length,
      ∀ draft, attempt.line.draft? = some draft → draft.eventType.privileged = true →
        call.Authorised w.recorder

/-- Both authorities are configured. -/
def Config.Governed (config : Config) : Prop :=
  config.supervisorId.isSome = true ∧ config.orchestratorToken.isSome = true

instance (config : Config) : Decidable config.Governed :=
  inferInstanceAs (Decidable (_ ∧ _))

section

variable {turns : Nat → Turn} {front : Nat} {authorised : Prop}

/-- Privileged events attempted after the first `front` attempts were authorised. -/
structure Within (front : Nat) (authorised : Prop) (w : World) : Prop where
  longer : front ≤ w.attempts.length
  privileged : ∀ attempt ∈ w.attempts.drop front, ∀ draft,
    attempt.line.draft? = some draft → draft.eventType.privileged = true → authorised

theorem within_same {w w' : World} (within : Within front authorised w)
    (attempts : w'.attempts = w.attempts) : Within front authorised w' := by
  constructor
  · rw [attempts]
    exact within.longer
  · rw [attempts]
    exact within.privileged

theorem within_attempt {w w' : World} {attempt : Attempt} (within : Within front authorised w)
    (attempts : w'.attempts = w.attempts ++ [attempt])
    (permitted : ∀ draft, attempt.line.draft? = some draft →
      draft.eventType.privileged = true → authorised) : Within front authorised w' := by
  constructor
  · rw [attempts, List.length_append]
    exact le_trans within.longer (Nat.le_add_right _ _)
  · rw [attempts, List.drop_append_of_le_length within.longer]
    intro other member
    rcases List.mem_append.mp member with before | last
    · exact within.privileged other before
    · rw [List.mem_singleton.mp last]
      exact permitted

private theorem within_writeLine (write : Write) (line : Text) :
    (writeLine write line).Keeps (Within front authorised) :=
  Program.Keeps.bind
    (Program.Keeps.modify fun _ within => within_same within (append_attempts _ _ _))
    fun _ => Program.Keeps.pure _

private theorem within_update (f : Recorder → Recorder) :
    (Program.modify fun w => w.update f : Session Unit).Keeps (Within front authorised) :=
  Program.Keeps.modify fun _ within => within_same within rfl

private theorem within_takeTurn : (takeTurn turns).Keeps (Within front authorised) :=
  Program.Keeps.bind Program.Keeps.get fun _ =>
    Program.Keeps.bind (Program.Keeps.modify fun _ within => within_same within rfl)
      fun _ => Program.Keeps.pure _

theorem within_replicate (turn : Turn) (record : Value) :
    (replicate turn record).Keeps (Within front authorised) := by
  refine Program.Keeps.bind (Program.Keeps.modify fun _ within => within_same within rfl)
    fun _ => ?_
  refine Program.Keeps.bind Program.Keeps.get fun w => ?_
  cases turn.push with
  | receipt receipt =>
      refine Program.Keeps.ite (fun _ => Program.Keeps.pure _) fun _ => ?_
      refine Program.Keeps.bind (Program.Keeps.modify fun _ within => ?_) fun _ => ?_
      · refine within_attempt within rfl ?_
        intro draft isDraft
        cases isDraft
      · refine Program.Keeps.bind (within_writeLine _ _) fun _ => ?_
        exact Program.Keeps.bind (Program.Keeps.require _ _) fun _ => Program.Keeps.pure _
  | notImplemented =>
      exact Program.Keeps.bind (Program.Keeps.require _ _) fun _ => Program.Keeps.pure _
  | replicationError message =>
      refine Program.Keeps.ite (fun _ => ?_) fun _ => ?_
      · exact Program.Keeps.bind (Program.Keeps.require _ _) fun _ => Program.Keeps.pure _
      · exact Program.Keeps.bind (Program.Keeps.require _ _) fun _ => Program.Keeps.pure _
  | raised => exact Program.Keeps.raise _

theorem within_appendOne (eventType : SessionEventType)
    (permitted : eventType.privileged = true → authorised) (payload : Members) (agentId : Str)
    (signature : Option Bytes) (osCorroboration : Option Members) :
    (appendOne turns eventType payload agentId signature osCorroboration).Keeps
      (Within front authorised) := by
  refine Program.Keeps.bind within_takeTurn fun turn => ?_
  refine Program.Keeps.bind (within_update _) fun _ => ?_
  refine Program.Keeps.bind Program.Keeps.get fun w => ?_
  refine Program.Keeps.bind (Program.Keeps.modify fun _ within => ?_) fun _ => ?_
  · refine within_attempt within rfl ?_
    rintro draft ⟨⟩ privileged
    exact permitted privileged
  refine Program.Keeps.bind (Program.Keeps.require _ _) fun _ => ?_
  refine Program.Keeps.bind (Program.Keeps.ofExcept _) fun hash => ?_
  refine Program.Keeps.bind (within_update _) fun _ => ?_
  refine Program.Keeps.bind (within_writeLine _ _) fun written => ?_
  refine Program.Keeps.ite (fun _ => ?_) fun _ => ?_
  · refine Program.Keeps.bind ?_ fun _ =>
      Program.Keeps.bind (within_update _) fun _ => Program.Keeps.pure _
    exact Program.Keeps.ite (fun _ => within_replicate turn _) fun _ => Program.Keeps.pure _
  · exact Program.Keeps.bind (Program.Keeps.require _ _) fun _ => Program.Keeps.pure _

theorem within_upheld : Upheld turns (fun _ eventType _ => eventType.privileged = true →
    authorised) (Within front authorised) where
  update _ _ _ within := within_same within rfl
  append w eventType payload agentId signature osCorroboration permitted within :=
    within_appendOne eventType permitted payload agentId signature osCorroboration w within
  merkleSeal final := by
    refine Program.Keeps.bind within_takeTurn fun turn => ?_
    refine Program.Keeps.bind Program.Keeps.get fun w => ?_
    refine Program.Keeps.ite (fun _ => Program.Keeps.require _ _) fun _ => ?_
    refine Program.Keeps.bind (within_update _) fun _ => ?_
    refine Program.Keeps.bind (within_appendOne _ ?_ _ _ _ _) fun _ => Program.Keeps.pure _
    intro privileged
    cases privileged

private theorem permits_unprivileged {eventType : SessionEventType}
    (unprivileged : eventType.privileged = false) :
    Permits (fun _ eventType _ => eventType.privileged = true → authorised) eventType := by
  intro r fields _ privileged
  rw [unprivileged] at privileged
  cases privileged

private theorem permits_authorised (holds : authorised) (eventType : SessionEventType) :
    Permits (fun _ eventType _ => eventType.privileged = true → authorised) eventType :=
  fun _ _ _ _ => holds

private theorem loadChainState_within :
    loadChainState.Keeps (Within front authorised) := by
  refine Program.Keeps.bind Program.Keeps.get fun w => ?_
  refine Program.Keeps.bind (Program.Keeps.ofExcept _) fun found => ?_
  cases found with
  | none => exact Program.Keeps.pure _
  | some tail => exact within_update _

/-- A violation is recorded in the name of the recorder, and nothing else. -/
private theorem within_refusal {α : Type} {fields : List (String × Value)} {agentId : Str}
    {error : RecorderError} :
    (appendRecord turns .policyViolation (Members.of fields) agentId none none >>= fun _ =>
      (raiseRecorder error : Session α)).Keeps (Within front authorised) := by
  refine Program.Keeps.bind ?_ fun _ => Program.Keeps.raise _
  intro w within
  exact within_upheld.appendRecord (fun privileged => by cases privileged) within _ _ _

/-- A submitter other than the configured supervisor gets no privileged event past
the authority check. -/
private theorem checkEventAuthority_refuses {w : World} {eventType : SessionEventType}
    {submitter supervisor : Str} (failsClosed : w.recorder.auditMode.failsClosed = true)
    (configured : w.recorder.config.supervisorId = some supervisor)
    (other : submitter ≠ supervisor) (privileged : eventType.privileged = true)
    (within : Within front authorised w) :
    Program.wp (checkEventAuthority turns eventType submitter)
      (fun outcome after => outcome ≠ .ok () ∧ Within front authorised after) w := by
  have notConsumer : w.recorder.auditMode ≠ .consumer := by
    intro consumer
    rw [consumer] at failsClosed
    cases failsClosed
  unfold checkEventAuthority
  rw [Program.wp_bind, Program.wp_get, Program.andThen_ok, Program.wp_ite, configured]
  refine ⟨fun passes => ?_, fun _ => ?_⟩
  · simp [privileged, notConsumer] at passes
  · dsimp only
    rw [if_neg other]
    have refused : ∀ after, Program.wp (raiseRecorder (.notSupervisor eventType supervisor
        submitter) : Session Unit) (fun outcome _ => outcome ≠ .ok ()) after := by
      intro after isOk
      cases isOk
    rw [Program.wp_bind]
    refine Program.wp_mono (within_upheld.appendRecord
      (fun privileged => by cases privileged) within _ _ _) ?_
    intro outcome after kept
    cases outcome with
    | error raised => exact ⟨nofun, kept⟩
    | ok written => exact ⟨refused after, kept⟩

/-- With both authorities configured, no call appends a privileged event without
presenting the one it needs. -/
theorem keepsAuthority_of_governed {w : World} (governed : w.recorder.config.Governed)
    (call : Call) : call.KeepsAuthority turns w := by
  intro failsClosed
  obtain ⟨supervised, orchestrated⟩ := governed
  obtain ⟨supervisor, isSupervisor⟩ := Option.isSome_iff_exists.mp supervised
  obtain ⟨orchestrator, isOrchestrator⟩ := Option.isSome_iff_exists.mp orchestrated
  have nothingYet : Within w.attempts.length (call.Authorised w.recorder) w := by
    refine ⟨le_refl _, ?_⟩
    rw [List.drop_length]
    intro attempt member
    cases member
  suffices kept : Within w.attempts.length (call.Authorised w.recorder) (call.run turns w) from
    kept.privileged
  have unprivileged := @permits_unprivileged (call.Authorised w.recorder)
  cases call with
  | start unavailable resume =>
      exact within_upheld.start (unprivileged rfl) (unprivileged rfl) nothingYet
        (loadChainState_within _ (within_same nothingYet rfl)) _ _
  | record eventType payload agentId signature osCorroboration =>
      by_cases authorised : (Call.record eventType payload agentId signature
        osCorroboration).Authorised w.recorder
      · exact within_upheld.record (unprivileged rfl) (fun _ => authorised) nothingYet _ _ _
      cases privileged : eventType.privileged with
      | false =>
          refine within_upheld.record (unprivileged rfl) (fun isPrivileged => ?_) nothingYet _ _ _
          rw [privileged] at isPrivileged
          cases isPrivileged
      | true =>
          rw [Call.Authorised, isSupervisor, Option.some.injEq, eq_comm] at authorised
          change Program.wp (Provenance.record _ _ _ _ _ _) (fun _ => Within _ _) w
          unfold Provenance.record
          simp only [Program.wp_bind, Program.wp_get, Program.andThen_ok, Program.wp_ite,
            Program.wp_require, Program.andThen_error, Program.wp_pure, raiseRecorder,
            Program.wp_raise]
          refine ⟨fun _ => nothingYet, fun _ => ⟨fun _ => ⟨fun _ => nothingYet,
            fun _ => nothingYet⟩, fun _ => ?_⟩⟩
          refine Program.wp_mono (checkEventAuthority_refuses failsClosed isSupervisor authorised
            privileged nothingYet) ?_
          intro outcome after refused
          cases outcome with
          | error raised => exact refused.2
          | ok passed => exact absurd rfl refused.1
  | heartbeat =>
      refine within_upheld.heartbeat (fun r state privileged => ?_) w nothingYet
      cases privileged
  | merkleSeal final => exact within_upheld.merkleSeal final w nothingYet
  | changeAuditMode newMode token reason =>
      by_cases authorised : (Call.changeAuditMode newMode token reason).Authorised w.recorder
      · exact within_upheld.changeAuditMode (unprivileged rfl)
          (permits_authorised authorised _) _ _ _ w nothingYet
      · rw [Call.Authorised, isOrchestrator, not_or] at authorised
        change Program.wp (Provenance.changeAuditMode _ _ _ _) (fun _ => Within _ _) w
        unfold Provenance.changeAuditMode
        rw [Program.wp_bind, Program.wp_get, Program.andThen_ok, Program.wp_ite, isOrchestrator]
        refine ⟨fun _ => within_refusal w nothingYet, fun passes => absurd ?_ passes⟩
        have other : token ≠ some orchestrator := by
          rintro rfl
          exact authorised.2 ⟨rfl, rfl⟩
        simp [authorised.1, other]
  | interrupt reason sinkCloseRaises =>
      exact within_upheld.interrupt (unprivileged rfl) _ _ w nothingYet
  | close summary token =>
      by_cases authorised : (Call.close summary token).Authorised w.recorder
      · exact within_upheld.close (unprivileged rfl) (permits_authorised authorised _) _ _ w
          nothingYet
      · rw [Call.Authorised, isOrchestrator] at authorised
        change Program.wp (Provenance.close _ _ _) (fun _ => Within _ _) w
        unfold Provenance.close
        rw [Program.wp_bind, Program.wp_get, Program.andThen_ok, Program.wp_ite]
        refine ⟨fun _ => nothingYet, fun _ => ?_⟩
        rw [Program.wp_ite, isOrchestrator]
        refine ⟨fun _ => within_refusal w nothingYet, fun passes => absurd ?_ passes⟩
        have other : token ≠ some orchestrator := by
          rintro rfl
          exact authorised ⟨rfl, rfl⟩
        simp [failsClosed, other]
  | registerAgent agentId publicKey => exact within_same nothingYet rfl
  | ensureReplicated record =>
      refine Program.Keeps.bind within_takeTurn (fun turn => ?_) w nothingYet
      refine Program.Keeps.bind Program.Keeps.get fun w => ?_
      refine Program.Keeps.ite (fun _ => within_replicate turn record) fun _ => ?_
      exact Program.Keeps.bind (Program.Keeps.require _ _) fun _ => Program.Keeps.pure _
  | restart config => exact within_same nothingYet rfl

end

def governedPremises : Premises where
  turn _ := True
  config := Config.Governed
  given _ _ := True

/-- Whatever is called in whatever order, in whatever mode the recorder is by then:
with both authorities configured, privileged events need them. -/
theorem keepsAuthority_of_run {turns : Nat → Turn} {config : Config} (governed : config.Governed)
    {calls : List Call} (restarts : ∀ other, Call.restart other ∈ calls → other.Governed)
    {w : World} (run : (sessionSystem turns config).Run calls w) (call : Call) :
    call.KeepsAuthority turns w := by
  have presumed : ∀ call ∈ calls, call.Presumed governedPremises := by
    intro call member
    cases call with
    | restart other => exact restarts other member
    | _ => trivial
  have origin : Origin governedPremises w :=
    origin_of_run (fun _ => trivial) (origin_maintained (fun _ => trivial) (fun _ _ => trivial)
      (fun _ _ _ _ => trivial)) governed run presumed
  exact keepsAuthority_of_governed origin.config call

/-! An enterprise recorder, with and without the authorities configured. -/

def unattendedConfig : Config :=
  { consumerConfig with auditMode := .enterprise }

def attendedConfig : Config :=
  { unattendedConfig with
    supervisorId := some (Str.lit "supervisor")
    orchestratorToken := some (Str.lit "token") }

def loadPolicy : Call :=
  .record .policyLoaded none (Str.lit "agent") none none

theorem keepsAuthority_of_run_loadPolicy :
    loadPolicy.KeepsAuthority (fun _ => quietTurn)
      ((newWorld attendedConfig).runAll (fun _ => quietTurn) [.start false false]) :=
  keepsAuthority_of_run (by decide) (by simp) (run_new (by decide)) loadPolicy

theorem unattended_loadPolicy_appended :
    ∃ w, (sessionSystem (fun _ => quietTurn) unattendedConfig).Run [.start false false] w ∧
      ¬ loadPolicy.KeepsAuthority (fun _ => quietTurn) w ∧
      (readRecords (loadPolicy.run (fun _ => quietTurn) w).log).map
          (List.map fun record => isText (record.get? "event_type") "policy_loaded") =
        some [false, true] := by
  refine ⟨_, run_new (by decide), ?_, by decide +kernel⟩
  generalize started : (newWorld unattendedConfig).runAll _ _ = w
  have appended : ((loadPolicy.run (fun _ => quietTurn) w).attempts.drop
      w.attempts.length).any (fun attempt =>
        (attempt.line.draft?.map fun draft => draft.eventType.privileged).getD false) = true := by
    rw [← started]
    decide +kernel
  intro respected
  obtain ⟨attempt, member, found⟩ := List.any_eq_true.mp appended
  cases isDraft : attempt.line.draft? with
  | none => simp [isDraft] at found
  | some draft =>
      rw [isDraft, Option.map_some, Option.getD_some] at found
      have authorised := respected (by rw [← started]; decide +kernel) attempt member draft
        isDraft found
      rw [loadPolicy, Call.Authorised, ← started] at authorised
      revert authorised
      decide +kernel

end SelfConnect.Provenance
