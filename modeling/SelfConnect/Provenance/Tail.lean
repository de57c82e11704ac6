import SelfConnect.Provenance.Acceptance
import SelfConnect.Provenance.Rules

namespace SelfConnect.Provenance

open SelfConnect.Python SelfConnect.Python.Json SelfConnect.Library

/-! Where the recorder stands against its log. Every attempted line that meets
`Clean` is in the log in full, or is an acknowledgement that is not there at all. -/

def Attempt.Complete (attempt : Attempt) : Prop :=
  attempt.write.kept attempt.line.text = attempt.line.text

instance (attempt : Attempt) : Decidable attempt.Complete :=
  inferInstanceAs (Decidable (_ = _))

def Attempt.Clean (attempt : Attempt) : Prop :=
  match attempt.line with
  | .record draft _ =>
      (attempt.signerRaised = some true → attempt.mode.failsClosed = false) ∧
        attempt.Complete ∧ draft.Stable
  | .ack _ => attempt.Complete ∨ attempt.write.kept attempt.line.text = []

instance (draft : Draft) : Decidable draft.Stable :=
  List.decidableBAll _ draft.given

instance : (attempt : Attempt) → Decidable attempt.Clean
  | ⟨.record _ _, _, _, _⟩ => inferInstanceAs (Decidable (_ ∧ _ ∧ _))
  | ⟨.ack _, _, _, _⟩ => inferInstanceAs (Decidable (_ ∨ _))

def Attempt.stored? (attempt : Attempt) : Option Line :=
  if attempt.Complete then some attempt.line else none

def AllClean (attempts : List Attempt) : Prop :=
  ∀ attempt ∈ attempts, attempt.Clean

instance (attempts : List Attempt) : Decidable (AllClean attempts) :=
  List.decidableBAll _ attempts

theorem allClean_snoc {attempts : List Attempt} {attempt : Attempt} :
    AllClean (attempts ++ [attempt]) ↔ AllClean attempts ∧ attempt.Clean := by
  simp [AllClean, or_imp, forall_and]

/-- The lines that were stored in full. -/
def storedLines (attempts : List Attempt) : List Line :=
  attempts.filterMap Attempt.stored?

theorem storedLines_snoc (attempts : List Attempt) (attempt : Attempt) :
    storedLines (attempts ++ [attempt]) =
      storedLines attempts ++ attempt.stored?.toList := by
  rw [storedLines, List.filterMap_append]
  cases stored : attempt.stored? <;> simp [storedLines, stored]

def World.lines (w : World) : List Line :=
  storedLines w.attempts

section

variable (turns : Nat → Turn)

/-- The log holds the stored lines, chained, numbered and not younger than the
clock. -/
structure Intact (w : World) : Prop where
  text : w.log.getD [] = logText w.lines
  chained : Chained w.lines
  numbered : (drafts w.lines).map Draft.seq = numbering (drafts w.lines).length
  past : ∀ draft ∈ drafts w.lines, draft.now ≤ (turns w.turns).now

/-- The recorder continues the log where it ends. -/
structure AtTail (w : World) : Prop where
  seq : w.recorder.seq = (drafts w.lines).length
  prevHash : w.recorder.prevHash = tip w.lines

/-- The invariant of a started recorder. -/
def Ready (w : World) : Prop :=
  AllClean w.attempts → Intact turns w ∧ AtTail w

end

variable {turns : Nat → Turn}

theorem lines_of_complete {w w' : World} {attempt : Attempt}
    (attempts : w'.attempts = w.attempts ++ [attempt]) (complete : attempt.Complete) :
    w'.lines = w.lines ++ [attempt.line] := by
  rw [World.lines, attempts, storedLines_snoc, Attempt.stored?, if_pos complete]
  rfl

theorem logText_snoc (lines : List Line) (line : Line) :
    logText (lines ++ [line]) = logText lines ++ line.text := by
  rw [logText, List.map_append, List.map_singleton, fileText_snoc]
  rfl

/-- A clean record that follows the tail extends the log. -/
theorem Intact.record {w w' : World} {attempt : Attempt} {draft : Draft}
    {recorderSig : Option Bytes} (intact : Intact turns w)
    (isRecord : attempt.line = .record draft recorderSig) (clean : attempt.Clean)
    (attempts : w'.attempts = w.attempts ++ [attempt])
    (log : w'.log.getD [] = w.log.getD [] ++ attempt.write.kept attempt.line.text)
    (seq : draft.seq = (drafts w.lines).length + 1) (prevHash : draft.prevHash = tip w.lines)
    (later : ∀ earlier ∈ drafts w.lines, earlier.now ≤ draft.now)
    (past : draft.now ≤ (turns w'.turns).now) :
    Intact turns w' ∧ w'.lines = w.lines ++ [.record draft recorderSig] := by
  have complete : attempt.Complete := by
    rw [Attempt.Clean, isRecord] at clean
    exact clean.2.1
  have lines : w'.lines = w.lines ++ [.record draft recorderSig] := by
    rw [lines_of_complete attempts complete, isRecord]
  refine ⟨⟨?_, ?_, ?_, ?_⟩, lines⟩
  · rw [log, complete, intact.text, lines, logText_snoc, isRecord]
  · rw [lines]
    exact chained_snoc_record.mpr ⟨intact.chained, prevHash, later⟩
  · rw [lines, drafts_append, drafts_record, List.map_append, List.length_append,
      List.length_singleton, numbering_succ, intact.numbered, List.map_singleton, seq]
  · intro earlier member
    rw [lines, drafts_append, drafts_record] at member
    rcases List.mem_append.mp member with before | last
    · exact le_trans (later earlier before) past
    · rw [List.mem_singleton.mp last]
      exact past

theorem atTail_of_record {w : World} {lines : List Line} {draft : Draft}
    {recorderSig : Option Bytes} (extended : w.lines = lines ++ [.record draft recorderSig])
    (seq : w.recorder.seq = (drafts lines).length + 1)
    (prevHash : w.recorder.prevHash = draft.hash) : AtTail w := by
  constructor
  · rw [seq, extended, drafts_append, drafts_record, List.length_append, List.length_singleton]
    push_cast
    rfl
  · rw [prevHash, tip, extended, drafts_append, drafts_record, sessionChain.tipAfter_snoc,
      sessionChain]

/-- A clean acknowledgement leaves the chain as it is. -/
theorem Intact.ack {w w' : World} {attempt : Attempt} {receipt : Ack} (intact : Intact turns w)
    (isAck : attempt.line = .ack receipt) (clean : attempt.Clean)
    (attempts : w'.attempts = w.attempts ++ [attempt])
    (log : w'.log.getD [] = w.log.getD [] ++ attempt.write.kept attempt.line.text)
    (sameTurn : w'.turns = w.turns) :
    Intact turns w' ∧ drafts w'.lines = drafts w.lines := by
  by_cases complete : attempt.Complete
  · have lines : w'.lines = w.lines ++ [.ack receipt] := by
      rw [lines_of_complete attempts complete, isAck]
    have same : drafts w'.lines = drafts w.lines := by
      rw [lines, drafts_append, drafts_ack, List.append_nil]
    refine ⟨⟨?_, ?_, ?_, ?_⟩, same⟩
    · rw [log, complete, intact.text, lines, logText_snoc, isAck]
    · rw [lines]
      exact chained_snoc_ack.mpr intact.chained
    · rw [same]
      exact intact.numbered
    · rw [same, sameTurn]
      exact intact.past
  · have nothing : attempt.write.kept attempt.line.text = [] := by
      rw [Attempt.Clean, isAck] at clean
      rw [isAck]
      exact clean.resolve_left complete
    have lines : w'.lines = w.lines := by
      rw [World.lines, attempts, storedLines_snoc, Attempt.stored?, if_neg complete]
      exact List.append_nil _
    refine ⟨⟨?_, ?_, ?_, ?_⟩, by rw [lines]⟩
    · rw [log, nothing, List.append_nil, lines, intact.text]
    · rw [lines]
      exact intact.chained
    · rw [lines]
      exact intact.numbered
    · rw [lines, sameTurn]
      exact intact.past

/-! What the writing programs do to the invariant. -/

theorem append_log (w : World) (write : Write) (text : Text) :
    (w.append write text).log.getD [] = w.log.getD [] ++ write.kept text := by
  cases write <;> simp [World.append, Write.kept]

@[simp] theorem append_attempts (w : World) (write : Write) (text : Text) :
    (w.append write text).attempts = w.attempts := by
  cases write <;> rfl

@[simp] theorem append_turns (w : World) (write : Write) (text : Text) :
    (w.append write text).turns = w.turns := by
  cases write <;> rfl

@[simp] theorem append_recorder (w : World) (write : Write) (text : Text) :
    (w.append write text).recorder = w.recorder := by
  cases write <;> rfl

/-- Other attributes of the recorder may change. -/
theorem ready_update {w : World} {f : Recorder → Recorder}
    (same : ∀ r, (f r).seq = r.seq ∧ (f r).prevHash = r.prevHash ∧ (f r).config = r.config)
    (ready : Ready turns w) : Ready turns (w.update f) := by
  intro clean
  obtain ⟨intact, atTail⟩ := ready clean
  refine ⟨⟨intact.text, intact.chained, intact.numbered, intact.past⟩, ?_, ?_⟩
  · exact (same w.recorder).1.trans atTail.seq
  · exact (same w.recorder).2.1.trans atTail.prevHash

private theorem ready_ack {w : World} (ready : Ready turns w) (mode : AuditMode)
    (receipt : Ack) (write : Write) :
    Ready turns ((w.attempt ⟨.ack receipt, mode, none, write⟩).append write
      (Line.ack receipt).text) := by
  intro clean
  rw [append_attempts] at clean
  obtain ⟨before, last⟩ := allClean_snoc.mp clean
  obtain ⟨intact, atTail⟩ := ready before
  have attempts : ((w.attempt ⟨.ack receipt, mode, none, write⟩).append write
      (Line.ack receipt).text).attempts = w.attempts ++ [⟨.ack receipt, mode, none, write⟩] :=
    append_attempts _ _ _
  obtain ⟨after, same⟩ := intact.ack rfl last attempts (append_log _ _ _) (append_turns _ _ _)
  refine ⟨after, ?_, ?_⟩
  · rw [same, append_recorder]
    exact atTail.seq
  · rw [tip, same, append_recorder]
    exact atTail.prevHash

/-- What was pushed is not the invariant's concern. -/
theorem ready_push {w : World} (record : Value) (answer : Push) (ready : Ready turns w) :
    Ready turns (w.push record answer) := by
  intro clean
  obtain ⟨intact, atTail⟩ := ready clean
  exact ⟨⟨intact.text, intact.chained, intact.numbered, intact.past⟩,
    ⟨atTail.seq, atTail.prevHash⟩⟩

theorem keeps_replicate (turn : Turn) (record : Value) :
    (replicate turn record).Keeps (Ready turns) := by
  refine Program.Keeps.bind (Program.Keeps.modify fun _ => ready_push record _) fun _ => ?_
  intro w ready
  rw [Program.wp_bind, Program.wp_get, Program.andThen_ok]
  cases turn.push with
  | receipt receipt =>
      dsimp only
      rw [Program.wp_ite]
      refine ⟨fun _ => ready, fun _ => ?_⟩
      have acked := ready_ack ready w.recorder.auditMode ⟨w.recorder.seq, turn.ackNow,
        w.recorder.config.sessionId, receipt, w.recorder.prevHash⟩ turn.ackWrite
      simp only [writeLine, Program.wp_bind, Program.wp_modify, Program.andThen_ok,
        Program.wp_pure, Program.wp_require]
      exact ⟨fun _ => acked, fun _ => acked⟩
  | notImplemented =>
      simp only [Program.wp_bind, Program.wp_require, Program.andThen_ok, Program.andThen_error,
        Program.wp_pure]
      exact ⟨fun _ => ready, fun _ => ready⟩
  | replicationError message =>
      simp only [Program.wp_ite, Program.wp_bind, Program.wp_require, Program.andThen_ok,
        Program.andThen_error, Program.wp_pure]
      exact ⟨fun _ => ⟨fun _ => ready, fun _ => ready⟩, fun _ => ⟨fun _ => ready, fun _ => ready⟩⟩
  | raised => exact ready

theorem canonicalHash_line {draft : Draft} (stable : draft.Stable) (recorderSig : Option Bytes) :
    canonicalHash (Line.record draft recorderSig).value = some draft.hash :=
  canonicalHash_of_stable stable recorderSig

/-- A clean draft gets past the signer, unless signing was not asked for. -/
private theorem signing_passes {identity : Option Identity} {fails : Bool} {draft : Draft}
    {mode : AuditMode} (stable : draft.Stable)
    (signed : (identity.map fun _ => fails) = some true → mode.failsClosed = false) :
    ((signRecord identity fails (canonicalBytes draft.unsigned)).isFailed &&
      mode.failsClosed) = false := by
  cases identity with
  | none => rfl
  | some identity =>
      rw [canonicalBytes_unsigned_of_stable stable, signRecord]
      cases fails with
      | false => rfl
      | true => simpa [Signing.isFailed] using signed rfl

/-- One append keeps the invariant whatever happens during it, as long as what it
attempted was clean. -/
private theorem appendDraft_spec {turn : Turn} {draft : Draft} {w : World}
    (pending : AllClean w.attempts → Intact turns w ∧
      draft.seq = (drafts w.lines).length + 1 ∧ draft.prevHash = tip w.lines ∧
      ∀ earlier ∈ drafts w.lines, earlier.now ≤ draft.now)
    (sameSeq : w.recorder.seq = draft.seq) (past : draft.now ≤ (turns w.turns).now) :
    Program.wp (appendDraft turn w.recorder draft) (fun _ => Ready turns) w := by
  unfold appendDraft
  simp only [Program.wp_bind, Program.wp_modify, Program.andThen_ok, Program.wp_require,
    Program.andThen_error, Program.wp_ofExcept]
  generalize equal : (signRecord w.recorder.config.identity turn.signFails
    (canonicalBytes draft.unsigned)) = signing
  generalize attempted : (⟨Line.record draft signing.signature?, w.recorder.auditMode,
    w.recorder.config.identity.map fun _ => turn.signFails, turn.write⟩ : Attempt) = attempt
  have isRecord : attempt.line = .record draft signing.signature? := by rw [← attempted]
  have facts : attempt.Clean → draft.Stable ∧ (signing.isFailed &&
      w.recorder.auditMode.failsClosed) = false := by
    intro clean
    rw [Attempt.Clean, isRecord] at clean
    refine ⟨clean.2.2, ?_⟩
    rw [← equal]
    refine signing_passes clean.2.2 ?_
    have signer := clean.1
    rw [← attempted] at signer
    exact signer
  refine ⟨fun _ => ?_, fun failed clean => ?_⟩
  · cases hashed : canonicalHash (Line.record draft signing.signature?).value with
    | none =>
        intro clean
        have stable := (facts (allClean_snoc.mp clean).2).1
        rw [canonicalHash_line stable] at hashed
        cases hashed
    | some hash =>
        simp only [Option.elim_some, Program.andThen_ok, Program.wp_bind, Program.wp_modify,
          writeLine, Program.wp_pure]
        -- the state after the write, whether it raised or not
        generalize reached : World.append _ _ _ = after
        have ready : Ready turns after := by
          intro clean
          have attempts : after.attempts = w.attempts ++ [attempt] := by
            rw [← reached, append_attempts]
            rfl
          rw [attempts] at clean
          obtain ⟨before, last⟩ := allClean_snoc.mp clean
          obtain ⟨intact, seq, prevHash, later⟩ := pending before
          rw [canonicalHash_line (facts last).1, Option.some.injEq] at hashed
          have log : after.log.getD [] =
              w.log.getD [] ++ attempt.write.kept attempt.line.text := by
            rw [← reached, append_log, isRecord, ← attempted]
            rfl
          have sameTurns : after.turns = w.turns := by
            rw [← reached, append_turns]
            rfl
          have newSeq : after.recorder.seq = w.recorder.seq := by
            rw [← reached, append_recorder]
            rfl
          have newHash : after.recorder.prevHash = hash := by
            rw [← reached, append_recorder]
            rfl
          obtain ⟨extended, lines⟩ := intact.record isRecord last attempts log seq prevHash later
            (by rw [sameTurns]; exact past)
          exact ⟨extended, atTail_of_record lines (by rw [newSeq, sameSeq, seq])
            (newHash.trans hashed.symm)⟩
        cases turn.write.isDurable with
        | false =>
            simp only [Bool.false_eq_true, if_false, Program.wp_bind, handleSinkFailure,
              Program.wp_require, Program.andThen_ok, Program.andThen_error, Program.wp_pure]
            exact ⟨fun _ => ready, fun _ => ready⟩
        | true =>
            simp only [if_true]
            refine Program.Keeps.bind ?_ (fun _ => Program.Keeps.bind ?_
              fun _ => Program.Keeps.pure _) after ready
            · exact Program.Keeps.ite (fun _ => keeps_replicate turn _)
                fun _ => Program.Keeps.pure _
            · exact Program.Keeps.modify fun _ => ready_update fun _ => ⟨rfl, rfl, rfl⟩
  · have passes := (facts (allClean_snoc.mp clean).2).2
    rw [passes] at failed
    cases failed

/-- The clock never runs backwards from one turn to the next. -/
def Forward (turns : Nat → Turn) : Prop :=
  ∀ n, (turns n).now ≤ (turns (n + 1)).now

theorem ready_takeTurn (forward : Forward turns) {w : World} (ready : Ready turns w) :
    Ready turns { w with turns := w.turns + 1 } := by
  intro clean
  obtain ⟨intact, atTail⟩ := ready clean
  exact ⟨⟨intact.text, intact.chained, intact.numbered, fun draft member =>
    le_trans (intact.past draft member) (forward w.turns)⟩, ⟨atTail.seq, atTail.prevHash⟩⟩

theorem keeps_appendOne (forward : Forward turns) (eventType : SessionEventType)
    (payload : Members) (agentId : Str) (signature : Option Bytes)
    (osCorroboration : Option Members) :
    (appendOne turns eventType payload agentId signature osCorroboration).Keeps
      (Ready turns) := by
  intro w ready
  unfold appendOne takeTurn
  simp only [Program.wp_bind, Program.wp_get, Program.wp_modify, Program.andThen_ok,
    Program.wp_pure]
  refine appendDraft_spec ?_ rfl (forward w.turns)
  intro clean
  obtain ⟨intact, atTail⟩ := ready clean
  refine ⟨⟨intact.text, intact.chained, intact.numbered, ?_⟩, ?_, atTail.prevHash,
    intact.past⟩
  · intro draft member
    exact le_trans (intact.past draft member) (forward w.turns)
  · exact congrArg (· + 1) atTail.seq

theorem keeps_ensureReplicated (forward : Forward turns) (record : Value) :
    (ensureReplicated turns record).Keeps (Ready turns) := by
  refine Program.Keeps.bind ?_ fun turn => Program.Keeps.bind Program.Keeps.get fun w => ?_
  · exact Program.Keeps.bind Program.Keeps.get fun _ =>
      Program.Keeps.bind (Program.Keeps.modify fun _ => ready_takeTurn forward)
        fun _ => Program.Keeps.pure _
  · refine Program.Keeps.ite (fun _ => keeps_replicate turn record) fun _ => ?_
    exact Program.Keeps.bind (Program.Keeps.require _ _) fun _ => Program.Keeps.pure _

theorem ready_maintained (forward : Forward turns) :
    Maintained turns (fun _ _ => True) (Ready turns) where
  turn _ ready := ready_takeTurn forward ready
  update _ _ same ready := ready_update same ready
  append _ _ _ _ _ _ := keeps_appendOne forward _ _ _ _ _
  display _ _ := trivial
  closing _ _ _ _ := trivial

end SelfConnect.Provenance
