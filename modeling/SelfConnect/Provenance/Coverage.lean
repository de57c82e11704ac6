import SelfConnect.Provenance.Seals
import SelfConnect.Provenance.Upheld

namespace SelfConnect.Provenance

open SelfConnect.Python SelfConnect.Python.Json SelfConnect.Library

/-! The seals of a session cover its records as long as every line of the log is one
that the recorder counted. -/

/-- A record that was written as a whole, or not at all and was no seal; an
acknowledgement that was not written and not missed. -/
def Attempt.Settled (attempt : Attempt) : Prop :=
  match attempt.line with
  | .record draft _ =>
      (attempt.write.isDurable = true ∨
        draft.eventType ≠ .merkleSeal ∧ attempt.write.kept attempt.line.text = []) ∧
      (draft.eventType = .merkleSeal → attempt.signerRaised = some true →
        attempt.mode.failsClosed = false)
  | .ack _ => attempt.write.kept attempt.line.text = [] ∧ attempt.mode ≠ .military

/-- A push that did not raise. -/
def Pushed.Silent (pushed : Pushed) : Prop :=
  match pushed.answer with
  | .receipt _ => True
  | .notImplemented => pushed.mode ≠ .military
  | .replicationError message =>
      (Str.lit "fork_detected" <:+: message → pushed.mode.failsClosed = false) ∧
        (¬ Str.lit "fork_detected" <:+: message → pushed.mode ≠ .military)
  | .raised => False

instance : (attempt : Attempt) → Decidable attempt.Settled
  | ⟨.record _ _, _, _, _⟩ => inferInstanceAs (Decidable (_ ∧ _))
  | ⟨.ack _, _, _, _⟩ => inferInstanceAs (Decidable (_ ∧ _))

instance : (pushed : Pushed) → Decidable pushed.Silent
  | ⟨_, _, _, _, _, .receipt _⟩ => inferInstanceAs (Decidable True)
  | ⟨_, _, _, _, _, .notImplemented⟩ => inferInstanceAs (Decidable (_ ≠ _))
  | ⟨_, _, _, _, _, .replicationError _⟩ => inferInstanceAs (Decidable (_ ∧ _))
  | ⟨_, _, _, _, _, .raised⟩ => inferInstanceAs (Decidable False)

/-- Nothing has failed that the count of a recorder does not allow for, and no
acknowledgement is in the log. -/
structure World.Undisturbed (w : World) : Prop where
  settled : ∀ attempt ∈ w.attempts, attempt.Settled
  silent : ∀ pushed ∈ w.pushes, pushed.Silent

/-- The log is tiled by its seals, and the recorder counts the lines since the last. -/
def Counted (w : World) : Prop :=
  w.Undisturbed → ∃ lines since, w.log.getD [] = logText lines ∧ Tiled lines since ∧
    w.recorder.eventCountSinceSeal = since

/-- Nothing is ever taken back from what was attempted and pushed. -/
structure Extends (w w' : World) : Prop where
  attempts : w.attempts <+: w'.attempts
  pushes : w.pushes <+: w'.pushes

theorem Extends.trans {w w' w'' : World} (first : Extends w w') (second : Extends w' w'') :
    Extends w w'' :=
  ⟨first.attempts.trans second.attempts, first.pushes.trans second.pushes⟩

theorem Extends.undisturbed {w w' : World} (grown : Extends w w') (undisturbed : w'.Undisturbed) :
    w.Undisturbed :=
  ⟨fun attempt member => undisturbed.settled attempt (grown.attempts.subset member),
    fun pushed member => undisturbed.silent pushed (grown.pushes.subset member)⟩

variable {turns : Nat → Turn}

/-- A silent sink leaves nothing but the push. -/
private theorem replicate_silent (turn : Turn) (record : Value) (w : World) :
    Program.wp (replicate turn record) (fun outcome after => Extends w after ∧
      (after.Undisturbed → (∃ pushed, outcome = .ok pushed) ∧
        after.log.getD [] = w.log.getD [] ∧ after.recorder = w.recorder)) w := by
  have grown : Extends w (w.push record turn.push) := ⟨List.prefix_rfl, List.prefix_append _ _⟩
  -- the push stays on record, whatever follows it
  have silent : ∀ after : World, after.pushes = (w.push record turn.push).pushes →
      after.Undisturbed → Pushed.Silent ⟨w.recorder.config.sessionId, w.recorder.segmentNo,
        record, w.generation, w.recorder.auditMode, turn.push⟩ := by
    intro after same undisturbed
    refine undisturbed.silent _ ?_
    rw [same]
    exact List.mem_append_right _ (List.mem_singleton_self _)
  unfold replicate
  rw [Program.wp_bind, Program.wp_modify, Program.andThen_ok, Program.wp_bind, Program.wp_get,
    Program.andThen_ok]
  cases answer : turn.push with
  | receipt receipt =>
      rw [answer] at grown silent
      dsimp only
      rw [Program.wp_ite]
      refine ⟨fun _ => ⟨grown, fun _ => ⟨⟨_, rfl⟩, rfl, rfl⟩⟩, fun filled => ?_⟩
      simp only [writeLine, Program.wp_bind, Program.wp_modify, Program.andThen_ok,
        Program.wp_pure, Program.wp_require, Program.andThen_error]
      generalize attempted : (⟨Line.ack _, _, none, turn.ackWrite⟩ : Attempt) = attempt
      generalize reached : World.append _ _ _ = after
      have attempts : after.attempts = w.attempts ++ [attempt] := by
        rw [← reached, append_attempts]
        rfl
      have pushes : after.pushes = (w.push record (.receipt receipt)).pushes := by
        rw [← reached]
        cases turn.ackWrite <;> rfl
      have extends_ : Extends w after :=
        ⟨by rw [attempts]; exact List.prefix_append _ _, by rw [pushes]; exact grown.pushes⟩
      have settled : after.Undisturbed → turn.ackWrite.kept attempt.line.text = [] ∧
          w.recorder.auditMode ≠ .military := by
        intro quiet
        have holds := quiet.settled attempt (by
          rw [attempts]
          exact List.mem_append_right _ (List.mem_singleton_self _))
        rw [← attempted] at holds ⊢
        exact holds
      have log : after.Undisturbed → after.log.getD [] = w.log.getD [] := by
        intro quiet
        have nothing := (settled quiet).1
        rw [← attempted] at nothing
        rw [← reached, append_log, nothing, List.append_nil]
        rfl
      have recorder : after.recorder = w.recorder := by
        rw [← reached, append_recorder]
        rfl
      refine ⟨fun _ => ⟨extends_, fun quiet => ⟨⟨_, rfl⟩, log quiet, recorder⟩⟩,
        fun fails => ⟨extends_, fun quiet => ?_⟩⟩
      have missed := of_decide_eq_false (Bool.or_eq_false_iff.mp fails).2
      exact absurd (settled quiet).2 missed
  | notImplemented =>
      rw [answer] at grown silent
      simp only [Program.wp_bind, Program.wp_require, Program.andThen_ok, Program.andThen_error,
        Program.wp_pure]
      refine ⟨fun _ => ⟨grown, fun _ => ⟨⟨_, rfl⟩, rfl, rfl⟩⟩, fun fails => ⟨grown, fun quiet => ?_⟩⟩
      exact absurd (silent _ rfl quiet) (of_decide_eq_false fails)
  | replicationError message =>
      rw [answer] at grown silent
      simp only [Program.wp_ite, Program.wp_bind, Program.wp_require, Program.andThen_ok,
        Program.andThen_error, Program.wp_pure]
      refine ⟨fun fork => ⟨fun _ => ⟨grown, fun _ => ⟨⟨_, rfl⟩, rfl, rfl⟩⟩,
        fun fails => ⟨grown, fun quiet => ?_⟩⟩, fun other => ⟨fun _ => ⟨grown,
        fun _ => ⟨⟨_, rfl⟩, rfl, rfl⟩⟩, fun fails => ⟨grown, fun quiet => ?_⟩⟩⟩
      · have open_ : w.recorder.auditMode.failsClosed = false := (silent _ rfl quiet).1 fork
        have closed : w.recorder.auditMode.failsClosed = true := by simpa [World.push] using fails
        rw [open_] at closed
        cases closed
      · exact absurd ((silent _ rfl quiet).2 other) (of_decide_eq_false fails)
  | raised =>
      rw [answer] at grown silent
      exact ⟨grown, fun quiet => (silent _ rfl quiet).elim⟩

/-- The log that an append leaves, with the count of the recorder. -/
def Appended (w : World) (lines : List Line) (draft : Draft) (after : World) : Prop :=
  (∃ recorderSig, after.log.getD [] = logText (lines ++ [.record draft recorderSig]) ∧
      after.recorder.eventCountSinceSeal = w.recorder.eventCountSinceSeal + 1) ∨
    draft.eventType ≠ .merkleSeal ∧ after.log.getD [] = logText lines ∧
      after.recorder.eventCountSinceSeal = w.recorder.eventCountSinceSeal

private theorem appendDraft_settled {turn : Turn} {draft : Draft} {w : World}
    {lines : List Line} (log : w.Undisturbed → w.log.getD [] = logText lines)
    (sortableSeal : draft.eventType = .merkleSeal → ∀ v ∈ draft.given, sortable v = true) :
    Program.wp (appendDraft turn w.recorder draft) (fun _ after => Extends w after ∧
      (after.Undisturbed → Appended w lines draft after)) w := by
  have dumped : draft.eventType = .merkleSeal → ∀ recorderSig,
      canonicalBytes (draft.record recorderSig) =
        some (render .compact (sortKeys draft.unsigned)) := by
    intro isSeal recorderSig
    rw [draft.canonicalBytes_record, dumpsSorted,
      if_pos (draft.sortable_unsigned_iff.mpr (sortableSeal isSeal))]
  unfold appendDraft
  simp only [Program.wp_bind, Program.wp_modify, Program.andThen_ok, Program.wp_require,
    Program.andThen_error, Program.wp_ofExcept]
  generalize equal : (signRecord w.recorder.config.identity turn.signFails
    (canonicalBytes draft.unsigned)) = signing
  generalize attempted : (⟨Line.record draft signing.signature?, w.recorder.auditMode,
    w.recorder.config.identity.map fun _ => turn.signFails, turn.write⟩ : Attempt) = attempt
  have grown : Extends w (w.attempt attempt) := ⟨List.prefix_append _ _, List.prefix_rfl⟩
  have settled : ∀ after : World, Extends (w.attempt attempt) after → after.Undisturbed →
      (turn.write.isDurable = true ∨ draft.eventType ≠ .merkleSeal ∧
        turn.write.kept (Line.record draft signing.signature?).text = []) ∧
      (draft.eventType = .merkleSeal →
        (w.recorder.config.identity.map fun _ => turn.signFails) = some true →
          w.recorder.auditMode.failsClosed = false) := by
    intro after extends_ quiet
    have member : attempt ∈ (w.attempt attempt).attempts :=
      List.mem_append_right _ (List.mem_singleton_self _)
    have holds := (extends_.undisturbed quiet).settled attempt member
    rw [← attempted] at holds
    exact holds
  refine ⟨fun _ => ?_, fun failed => ⟨grown, fun quiet =>
    Or.inr ⟨fun isSeal => ?_, log (grown.undisturbed quiet), rfl⟩⟩⟩
  · cases hashed : canonicalHash (Line.record draft signing.signature?).value with
    | none =>
        refine ⟨grown, fun quiet =>
          Or.inr ⟨fun isSeal => ?_, log (grown.undisturbed quiet), rfl⟩⟩
        have hash : canonicalHash (draft.record signing.signature?) = none := hashed
        rw [canonicalHash, dumped isSeal] at hash
        cases hash
    | some hash =>
        simp only [Option.elim_some, Program.andThen_ok, Program.wp_bind, Program.wp_modify,
          writeLine, Program.wp_pure]
        -- the state after the write, whether it raised or not
        generalize reached : World.append _ _ _ = after
        have written : w.Undisturbed → after.log.getD [] = logText lines ++
            turn.write.kept (Line.record draft signing.signature?).text := by
          intro calm
          rw [← reached, append_log, ← log calm]
          rfl
        have count : after.recorder.eventCountSinceSeal = w.recorder.eventCountSinceSeal := by
          rw [← reached, append_recorder]
          rfl
        have extends_ : Extends (w.attempt attempt) after := by
          rw [← reached]
          exact ⟨by rw [append_attempts]; exact List.prefix_rfl, by
            cases turn.write <;> exact List.prefix_rfl⟩
        cases durable : turn.write.isDurable with
        | false =>
            have nothing : after.Undisturbed → Appended w lines draft after := by
              intro quiet
              rcases (settled after extends_ quiet).1 with isDurable | ⟨isEvent, empty⟩
              · rw [durable] at isDurable
                cases isDurable
              · have unchanged := written ((grown.trans extends_).undisturbed quiet)
                rw [empty, List.append_nil] at unchanged
                exact Or.inr ⟨isEvent, unchanged, count⟩
            simp only [Bool.false_eq_true, if_false, Program.wp_bind, handleSinkFailure,
              Program.wp_require, Program.andThen_ok, Program.andThen_error, Program.wp_pure]
            exact ⟨fun _ => ⟨grown.trans extends_, nothing⟩,
              fun _ => ⟨grown.trans extends_, nothing⟩⟩
        | true =>
            have whole : w.Undisturbed → after.log.getD [] =
                logText (lines ++ [.record draft signing.signature?]) := by
              intro calm
              rw [written calm, logText_snoc]
              cases isWrite : turn.write with
              | durable => rfl
              | refused | raised =>
                  rw [isWrite] at durable
                  cases durable
            simp only [if_true]
            rw [Program.wp_bind]
            have pushed : Program.wp (if w.recorder.config.replicated then
                replicate turn (Line.record draft signing.signature?).value else pure false)
                (fun outcome last => Extends after last ∧ (last.Undisturbed →
                  (∃ result, outcome = .ok result) ∧ last.log.getD [] = after.log.getD [] ∧
                    last.recorder = after.recorder)) after := by
              rw [Program.wp_ite]
              refine ⟨fun _ => replicate_silent _ _ _, fun _ => ?_⟩
              exact ⟨⟨List.prefix_rfl, List.prefix_rfl⟩, fun _ => ⟨⟨_, rfl⟩, rfl, rfl⟩⟩
            refine Program.wp_mono pushed ?_
            intro outcome last ended
            obtain ⟨further, quietly⟩ := ended
            have total : Extends w last := (grown.trans extends_).trans further
            cases outcome with
            | error raised =>
                refine ⟨total, fun quiet => ?_⟩
                obtain ⟨⟨result, isOk⟩, -⟩ := quietly quiet
                cases isOk
            | ok result =>
                rw [Program.andThen_ok, Program.wp_bind, Program.wp_modify, Program.andThen_ok]
                refine ⟨⟨total.attempts, total.pushes⟩, fun quiet => ?_⟩
                obtain ⟨-, sameLog, sameRecorder⟩ := quietly ⟨quiet.settled, quiet.silent⟩
                refine Or.inl ⟨signing.signature?, ?_, ?_⟩
                · change last.log.getD [] = _
                  rw [sameLog, whole (total.undisturbed ⟨quiet.settled, quiet.silent⟩)]
                · change last.recorder.eventCountSinceSeal + 1 = _
                  rw [sameRecorder, count]
  · have signer := (settled _ ⟨List.prefix_rfl, List.prefix_rfl⟩ quiet).2 isSeal
    have unsigned := dumped isSeal none
    rw [Draft.record, Option.map_none, Option.toList_none, List.append_nil] at unsigned
    change canonicalBytes draft.unsigned = _ at unsigned
    rw [unsigned] at equal
    cases identity : w.recorder.config.identity with
    | none =>
        rw [identity] at equal
        rw [← equal] at failed
        cases failed
    | some signingKey =>
        rw [identity] at equal signer
        cases fails : turn.signFails with
        | true => simp [signer (by rw [Option.map_some, fails])] at failed
        | false =>
            rw [fails] at equal
            rw [← equal] at failed
            cases failed

private theorem appendOne_settled {w : World} {lines : List Line}
    (log : w.Undisturbed → w.log.getD [] = logText lines)
    {eventType : SessionEventType} {payload : Members}
    {agentId : Str} {signature : Option Bytes} {osCorroboration : Option Members}
    (sortableSeal : eventType = .merkleSeal →
      sortable (.dict payload) = true ∧ osCorroboration = none) :
    Program.wp (appendOne turns eventType payload agentId signature osCorroboration)
      (fun _ after => Extends w after ∧ (after.Undisturbed → ∃ draft : Draft,
        draft.eventType = eventType ∧ draft.payload = payload ∧ Appended w lines draft after))
      w := by
  unfold appendOne takeTurn
  simp only [Program.wp_bind, Program.wp_get, Program.wp_modify, Program.andThen_ok,
    Program.wp_pure]
  generalize drafted : (⟨_, _, _, _, _, _, _, _, _⟩ : Draft) = draft
  have isEventType : draft.eventType = eventType := by rw [← drafted]
  have isPayload : draft.payload = payload := by rw [← drafted]
  have sortableGiven : draft.eventType = .merkleSeal → ∀ v ∈ draft.given, sortable v = true := by
    intro isMerkleSeal
    obtain ⟨sorts, noCorroboration⟩ := sortableSeal (isEventType ▸ isMerkleSeal)
    rw [Draft.given, isPayload, ← drafted, noCorroboration]
    simpa using sorts
  refine Program.wp_mono (@appendDraft_settled (turns w.turns) draft _ lines ?_ sortableGiven) ?_
  · exact fun calm => log ⟨calm.settled, calm.silent⟩
  · intro outcome after ended
    obtain ⟨grown, appended⟩ := ended
    exact ⟨⟨grown.attempts, grown.pushes⟩,
      fun quiet => ⟨draft, isEventType, isPayload, appended quiet⟩⟩

/-- A state that has only been extended by bookkeeping. -/
private theorem counted_same {w w' : World} (counted : Counted w)
    (attempts : w'.attempts = w.attempts) (pushes : w'.pushes = w.pushes)
    (log : w'.log.getD [] = w.log.getD [])
    (count : w'.recorder.eventCountSinceSeal = w.recorder.eventCountSinceSeal) : Counted w' := by
  intro quiet
  rw [log, count]
  exact counted ⟨attempts ▸ quiet.settled, pushes ▸ quiet.silent⟩

/-- The lines of a log that is counted, and nothing of any other. -/
private theorem Counted.tiled {w : World} (counted : Counted w) :
    ∃ lines since, w.Undisturbed → w.log.getD [] = logText lines ∧ Tiled lines since ∧
      w.recorder.eventCountSinceSeal = since := by
  by_cases calm : w.Undisturbed
  · obtain ⟨lines, since, facts⟩ := counted calm
    exact ⟨lines, since, fun _ => facts⟩
  · exact ⟨[], 0, fun quiet => absurd quiet calm⟩

private theorem counted_append {w : World} {eventType : SessionEventType}
    (isEvent : eventType ≠ .merkleSeal) (counted : Counted w) (payload : Members) (agentId : Str)
    (signature : Option Bytes) (osCorroboration : Option Members) :
    Program.wp (appendOne turns eventType payload agentId signature osCorroboration)
      (fun _ => Counted) w := by
  obtain ⟨lines, since, facts⟩ := counted.tiled
  refine Program.wp_mono (appendOne_settled (fun calm => (facts calm).1)
    fun isSeal => absurd isSeal isEvent) ?_
  intro outcome after ended quiet
  obtain ⟨grown, settled⟩ := ended
  obtain ⟨draft, isEventType, -, appended⟩ := settled quiet
  obtain ⟨-, tiled, count⟩ := facts (grown.undisturbed quiet)
  rcases appended with ⟨recorderSig, written, one⟩ | ⟨-, unchanged, same⟩
  · refine ⟨_, _, written, tiled.event (isEventType ▸ isEvent), ?_⟩
    rw [one, count]
    rfl
  · exact ⟨lines, since, unchanged, tiled, same.trans count⟩

/-- The seal speaks of exactly the lines that were counted. -/
private theorem counted_writeMerkleSeal (final : Bool) :
    (writeMerkleSeal turns final).Keeps Counted := by
  intro w counted
  obtain ⟨lines, since, facts⟩ := counted.tiled
  unfold writeMerkleSeal takeTurn
  simp only [Program.wp_bind, Program.wp_get, Program.wp_modify, Program.andThen_ok,
    Program.wp_pure, Program.wp_ite, Program.wp_require]
  have turned : Counted { w with turns := w.turns + 1 } := counted_same counted rfl rfl rfl rfl
  refine ⟨fun _ => ⟨fun _ => turned, fun _ => turned⟩, fun _ => ?_⟩
  generalize chunked : List.drop _ _ = chunk
  have sorts : sortable (.dict (sealPayload (merkleRoot (chunk.map sha384Hex)) chunk.length
      (w.recorder.segmentNo + 1) final)) = true := by
    change sortable (Value.object _) = true
    simp [sortable_object_iff, sortable]
  refine Program.wp_mono (@appendOne_settled turns _ lines ?_ _ _ _ _ _ fun _ =>
    ⟨sorts, rfl⟩) ?_
  · exact fun calm => (facts ⟨calm.settled, calm.silent⟩).1
  intro outcome after ended
  obtain ⟨grown, settled⟩ := ended
  have total : Extends w after := ⟨grown.attempts, grown.pushes⟩
  have kept : Counted after := by
    intro quiet
    obtain ⟨log, tiled, count⟩ := facts (total.undisturbed quiet)
    obtain ⟨draft, isMerkleSeal, payload, appended⟩ := settled quiet
    rcases appended with ⟨recorderSig, written, one⟩ | ⟨isEvent, -⟩
    · have bound := tiled.since_le
      have chunkIs : (textOf lines).drop (lines.length - since) = chunk := by
        rw [← chunked, log, filledLines_logText lines boundary_isNewline, count]
        change _ = List.drop (((textOf lines).length : Int) - since).toNat (textOf lines)
        rw [length_textOf]
        congr 1
        omega
      have size : chunk.length = since := by
        rw [← chunkIs, List.length_drop, length_textOf]
        omega
      rw [size, ← chunkIs] at payload
      exact ⟨_, 1, written, tiled.merkleSeal isMerkleSeal payload, one⟩
    · exact absurd isMerkleSeal isEvent
  cases outcome with
  | error raised => exact kept
  | ok written => exact kept

private theorem counted_upheld :
    Upheld turns (fun _ eventType _ => eventType ≠ .merkleSeal) Counted where
  update _ _ bookkeeping counted :=
    counted_same counted rfl rfl rfl (bookkeeping _).2.2.2.2
  append _ _ _ _ _ _ isEvent counted := counted_append isEvent counted _ _ _ _
  merkleSeal := counted_writeMerkleSeal

private theorem permits_own (eventType : SessionEventType) :
    Permits (fun _ eventType _ => eventType ≠ .merkleSeal) eventType := by
  intro r fields own isMerkleSeal
  rw [isMerkleSeal] at own
  simp [ownEvents] at own

private theorem counted_loadChainState : loadChainState.Keeps Counted := by
  refine Program.Keeps.bind Program.Keeps.get fun w => ?_
  refine Program.Keeps.bind (Program.Keeps.ofExcept _) fun found => ?_
  cases found with
  | none => exact Program.Keeps.pure _
  | some tail => exact Program.Keeps.modify fun _ counted => counted_same counted rfl rfl rfl rfl

private theorem counted_ensureReplicated (record : Value) :
    (ensureReplicated turns record).Keeps Counted := by
  refine Program.Keeps.bind ?_ fun turn => Program.Keeps.bind Program.Keeps.get fun reached => ?_
  · exact Program.Keeps.bind Program.Keeps.get fun _ =>
      Program.Keeps.bind (Program.Keeps.modify fun _ counted =>
        counted_same counted rfl rfl rfl rfl) fun _ => Program.Keeps.pure _
  · refine Program.Keeps.ite (fun _ => ?_) fun _ =>
      Program.Keeps.bind (Program.Keeps.require _ _) fun _ => Program.Keeps.pure _
    intro w counted
    refine Program.wp_mono (replicate_silent turn record w) ?_
    intro outcome after ended quiet
    obtain ⟨grown, quietly⟩ := ended
    obtain ⟨-, log, recorder⟩ := quietly quiet
    rw [log, recorder]
    exact counted (grown.undisturbed quiet)

/-- Nobody submits a seal of their own, and a recorder is replaced only before
anything was written: the count does not survive it. -/
def Call.Covering (w : World) : Call → Prop
  | .record eventType _ _ _ _ => eventType ≠ .merkleSeal
  | .restart _ => w.log.getD [] = []
  | _ => True

theorem counted_run {w : World} {call : Call} (counted : Counted w)
    (covering : call.Covering w) : Counted (call.run turns w) := by
  have upheld : Upheld turns (fun _ eventType _ => eventType ≠ .merkleSeal) Counted :=
    counted_upheld
  cases call with
  | start unavailable resume =>
      exact upheld.start (permits_own _) (permits_own _) counted
        (counted_loadChainState _ (counted_same counted rfl rfl rfl rfl)) _ _
  | record eventType payload agentId signature osCorroboration =>
      exact upheld.record (permits_own _) covering counted _ _ _
  | heartbeat => exact upheld.heartbeat (fun _ _ => nofun) w counted
  | merkleSeal final => exact upheld.merkleSeal final w counted
  | changeAuditMode newMode token reason =>
      exact upheld.changeAuditMode (permits_own _) (permits_own _) _ _ _ w counted
  | interrupt reason sinkCloseRaises => exact upheld.interrupt (permits_own _) _ _ w counted
  | close summary token => exact upheld.close (permits_own _) (permits_own _) _ _ w counted
  | registerAgent agentId publicKey => exact counted_same counted rfl rfl rfl rfl
  | ensureReplicated record => exact counted_ensureReplicated record w counted
  | restart config =>
      intro quiet
      obtain ⟨lines, since, log, tiled, count⟩ := counted ⟨quiet.settled, quiet.silent⟩
      refine ⟨[], 0, covering, .nil, rfl⟩

/-- While the sink is silent, nothing that counts is lost and no recorder takes over
what another has written, every record before a seal is a leaf of exactly one. -/
theorem covered_of_run {config : Config} {calls : List Call} {w : World}
    (run : (sessionSystem turns config).Run calls w)
    (covering : (sessionSystem turns config).Guarded (fun w call => call.Covering w) calls)
    (undisturbed : w.Undisturbed) :
    Covered (filledLines isNewline isSpace (w.log.getD [])) := by
  have counted : Counted w := by
    refine run.invariant_guarded ?_ ?_ covering
    · intro w first _
      cases first
      exact ⟨[], 0, rfl, .nil, rfl⟩
    · intro w call after counted isCovering step
      obtain ⟨_, next⟩ := step
      rw [next]
      exact counted_run counted isCovering
  obtain ⟨lines, since, log, tiled, -⟩ := counted undisturbed
  rw [log, filledLines_logText lines boundary_isNewline]
  exact tiled.covered

/-! A consumer session that is opened and closed, without a sink and with one that
acknowledges every record. -/

def openedAndClosed : List Call :=
  [.start false false, .close none none]

theorem covered_of_run_openedAndClosed :
    Covered (filledLines isNewline isSpace
      (((newWorld consumerConfig).runAll (fun _ => quietTurn) openedAndClosed).log.getD [])) := by
  refine covered_of_run (run_new (by decide)) (System.Guarded.of_forall ?_) ⟨?_, ?_⟩
  · intro w call member
    fin_cases member <;> trivial
  · decide +kernel
  · decide +kernel

def acknowledgingTurn : Turn :=
  { quietTurn with push := .receipt (Str.lit "receipt") }

def replicatedConfig : Config :=
  { consumerConfig with replicated := true }

def acknowledgedSession : World :=
  (newWorld replicatedConfig).runAll (fun _ => acknowledgingTurn) openedAndClosed

def acknowledgedLines : List Text :=
  filledLines isNewline isSpace (acknowledgedSession.log.getD [])

/-- The acknowledgements stand in the window of the seal, and the first record falls
out of it. -/
theorem acknowledged_session_open_uncovered :
    (sessionSystem (fun _ => acknowledgingTurn) replicatedConfig).Run openedAndClosed
        acknowledgedSession ∧
      ¬ Covered acknowledgedLines := by
  refine ⟨run_new (by decide), fun covered => ?_⟩
  have facts : isSealLine acknowledgedLines 4 = true ∧ isChainedLine acknowledgedLines 0 = true ∧
      ∀ sealLine < acknowledgedLines.length, leafOf acknowledgedLines sealLine 0 = false := by
    decide +kernel
  obtain ⟨sealed, chained, uncovered⟩ := facts
  obtain ⟨sealLine, found, -⟩ := covered 4 sealed 0 (by decide) chained
  rw [uncovered sealLine (lt_length_of_leafOf found)] at found
  cases found

end SelfConnect.Provenance
