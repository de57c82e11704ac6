import SelfConnect.Provenance.Tail
import SelfConnect.Library.System

namespace SelfConnect.Provenance

open SelfConnect.Python SelfConnect.Python.Json SelfConnect.Library

/-! What a restarted recorder finds in an intact log. -/

def records (lines : List Line) : List (Draft × Option Bytes) :=
  lines.filterMap fun line =>
    match line with
    | .record draft recorderSig => some (draft, recorderSig)
    | .ack _ => none

theorem map_fst_records (lines : List Line) : (records lines).map Prod.fst = drafts lines := by
  rw [records, drafts, List.map_filterMap]
  congr 1
  funext line
  cases line <;> rfl

theorem chainRecords_loaded (lines : List Line) :
    chainRecords (lines.map Line.loaded) =
      (records lines).map fun entry => (Line.record entry.1 entry.2).loaded := by
  induction lines with
  | nil => rfl
  | cons line rest ih =>
      unfold chainRecords records at ih ⊢
      cases line with
      | record draft recorderSig =>
          have isInt : (((Line.record draft recorderSig).loaded.get? "seq").map
              Value.isInt).getD false = true := by
            rw [draft.get?_seq]
            rfl
          rw [List.map_cons, List.filter_cons, isInt, if_pos rfl, ih]
          rfl
      | ack receipt =>
          have isInt : (((Line.ack receipt).loaded.get? "seq").map Value.isInt).getD false =
              false := by
            rw [receipt.get?_seq]
            rfl
          rw [List.map_cons, List.filter_cons, isInt, if_neg Bool.false_ne_true, ih]
          rfl

theorem filledLines_logText (lines : List Line) {boundary : Char → Bool}
    (isBoundary : Boundary boundary) :
    filledLines boundary isSpace (logText lines) =
      (lines.map Line.value).map (render .compact) := by
  refine filledLines_fileText rfl isBoundary rfl rfl ?_
  intro v member
  obtain ⟨line, -, rfl⟩ := List.mem_map.mp member
  exact line.value_isDict

theorem parseLines_logText (lines : List Line) :
    parseLines ((lines.map Line.value).map (render .compact)) =
      some (lines.map Line.loaded) := by
  unfold parseLines
  induction lines with
  | nil => rfl
  | cons line rest ih =>
      rw [List.map_cons, List.map_cons, List.mapM_cons, loads_text, ih]
      rfl

/-- The tail of the chain as the recorder reads it back. -/
def tailOf (lines : List Line) : Option ChainTail :=
  match (drafts lines).head?, (drafts lines).getLast? with
  | some first, some last => some ⟨last.seq, last.hash, some first.hash⟩
  | _, _ => none

theorem readChainState_logText {lines : List Line}
    (stable : ∀ draft ∈ drafts lines, draft.Stable) :
    readChainState (some (logText lines)) =
      if lines = [] then .ok none
      else
        match tailOf lines with
        | some tail => .ok (some tail)
        | none => .error (.recorder .noIntegerSequence) := by
  have dicts : (lines.map Line.loaded).all Value.isDict = true := by
    rw [List.all_eq_true]
    intro v member
    obtain ⟨line, -, rfl⟩ := List.mem_map.mp member
    exact line.loaded_isDict
  unfold readChainState
  simp only [filledLines_logText lines boundary_isLineBoundary]
  cases lines with
  | nil => rfl
  | cons line rest =>
      rw [if_neg (List.cons_ne_nil _ _)]
      simp only [List.map_cons]
      have parsed := parseLines_logText (line :: rest)
      simp only [List.map_cons] at parsed
      rw [parsed]
      simp only [List.map_cons] at dicts
      simp only [dicts, Bool.not_true, Bool.false_eq_true, if_false]
      have chain := chainRecords_loaded (line :: rest)
      rw [List.map_cons] at chain
      rw [chain, tailOf, ← map_fst_records, List.head?_map, List.getLast?_map, List.head?_map,
        List.getLast?_map]
      cases first : (records (line :: rest)).head? with
      | none => rfl
      | some firstEntry =>
          cases last : (records (line :: rest)).getLast? with
          | none => rfl
          | some lastEntry =>
              have memDrafts : ∀ entry ∈ records (line :: rest),
                  entry.1 ∈ drafts (line :: rest) := by
                intro entry member
                rw [← map_fst_records]
                exact List.mem_map.mpr ⟨entry, member, rfl⟩
              have firstStable := stable _ (memDrafts _ (List.mem_of_mem_head? first))
              have lastStable := stable _ (memDrafts _ (List.mem_of_getLast? last))
              simp only [Option.map_some, Draft.get?_seq, Option.bind_some, Value.toInt?,
                canonicalHash_loaded_of_stable firstStable,
                canonicalHash_loaded_of_stable lastStable]

/-! Runs of a session: calls on the recorder, and restarts that put a new recorder
on the same log. -/

inductive Call
  | start (unavailable resume : Bool)
  | record (eventType : SessionEventType) (payload : Option Members) (agentId : Str)
      (signature : Option Bytes) (osCorroboration : Option Members)
  | heartbeat
  | merkleSeal (final : Bool)
  | changeAuditMode (newMode : AuditMode) (token : Option Str) (reason : Str)
  | interrupt (reason : Str) (sinkCloseRaises : Bool)
  | close (summary : Option Members) (token : Option Str)
  | registerAgent (agentId : Str) (publicKey : Option PublicKey)
  | ensureReplicated (record : Value)
  | restart (config : Config)

section Calls

variable (turns : Nat → Turn)

/-- The state after a call, whether it returned or raised. -/
def Call.run (w : World) : Call → World
  | .start unavailable resume => (Provenance.start turns unavailable resume w).2
  | .record eventType payload agentId signature osCorroboration =>
      (Provenance.record turns eventType payload agentId signature osCorroboration w).2
  | .heartbeat => (Provenance.heartbeat turns w).2
  | .merkleSeal final => (writeMerkleSeal turns final w).2
  | .changeAuditMode newMode token reason =>
      (Provenance.changeAuditMode turns newMode token reason w).2
  | .interrupt reason sinkCloseRaises => (Provenance.interrupt turns reason sinkCloseRaises w).2
  | .close summary token => (Provenance.close turns summary token w).2
  | .registerAgent agentId publicKey => (Provenance.registerAgent agentId publicKey w).2
  | .ensureReplicated value => (Provenance.ensureReplicated turns value w).2
  | .restart config =>
      { w with recorder := Recorder.create config, generation := w.generation + 1 }

/-- The calls that write without asking whether the recorder was started come
after `start`. -/
def Call.Legal (w : World) : Call → Prop
  | .merkleSeal _ | .changeAuditMode _ _ _ | .close _ _ | .ensureReplicated _ =>
      w.recorder.started = true
  | _ => True

def newWorld (config : Config) : World :=
  ⟨Recorder.create config, none, 0, [], [], 0⟩

/-- A session begins with a new recorder and no log file. -/
def sessionSystem (config : Config) : System World Call where
  initial w := w = newWorld config
  next w call w' := call.Legal w ∧ w' = call.run turns w

/-- The state after a list of calls. -/
def World.runAll (w : World) (calls : List Call) : World :=
  calls.foldl (Call.run turns) w

def AllLegal : World → List Call → Prop
  | _, [] => True
  | w, call :: rest => call.Legal w ∧ AllLegal (call.run turns w) rest

instance (w : World) : (call : Call) → Decidable (call.Legal w)
  | .merkleSeal _ | .changeAuditMode _ _ _ | .close _ _ | .ensureReplicated _ =>
      inferInstanceAs (Decidable (w.recorder.started = true))
  | .start _ _ | .record _ _ _ _ _ | .heartbeat | .interrupt _ _ | .registerAgent _ _
  | .restart _ => inferInstanceAs (Decidable True)

instance decidableAllLegal : (w : World) → (calls : List Call) → Decidable (AllLegal turns w calls)
  | _, [] => inferInstanceAs (Decidable True)
  | w, call :: rest =>
      have := decidableAllLegal (call.run turns w) rest
      inferInstanceAs (Decidable (_ ∧ _))

def Recorder.Fresh (r : Recorder) : Prop :=
  r.started = false ∧ r.seq = 0 ∧ r.prevHash = genesisHash

/-- The invariant of a session: before `start` the recorder is as new. -/
def Coherent (w : World) : Prop :=
  AllClean w.attempts → Intact turns w ∧ (AtTail w ∨ w.recorder.Fresh)

end Calls

section Invariant

variable {turns : Nat → Turn}

theorem run_runAll {config : Config} {before calls : List Call} {w : World}
    (run : (sessionSystem turns config).Run before w) (legal : AllLegal turns w calls) :
    (sessionSystem turns config).Run (before ++ calls) (w.runAll turns calls) := by
  induction calls generalizing before w with
  | nil =>
      rw [List.append_nil]
      exact run
  | cons call rest ih =>
      have longer := ih (run.step ⟨legal.1, rfl⟩) legal.2
      rwa [List.append_assoc] at longer

theorem run_new {config : Config} {calls : List Call}
    (legal : AllLegal turns (newWorld config) calls) :
    (sessionSystem turns config).Run calls ((newWorld config).runAll turns calls) :=
  run_runAll (.start rfl) legal

theorem coherent_of_ready {w : World} (ready : Ready turns w) : Coherent turns w :=
  fun clean => ⟨(ready clean).1, Or.inl (ready clean).2⟩

theorem ready_of_coherent {w : World} (coherent : Coherent turns w)
    (started : w.recorder.started = true) : Ready turns w := by
  intro clean
  obtain ⟨intact, atTail | fresh⟩ := coherent clean
  · exact ⟨intact, atTail⟩
  · rw [fresh.1] at started
    cases started

theorem drafts_stable {attempts : List Attempt} (clean : AllClean attempts) :
    ∀ draft ∈ drafts (storedLines attempts), draft.Stable := by
  intro draft member
  obtain ⟨recorderSig, stored⟩ := mem_drafts.mp member
  obtain ⟨attempt, found, isStored⟩ := List.mem_filterMap.mp stored
  have attemptClean := clean attempt found
  rw [Attempt.stored?] at isStored
  split at isStored
  · rw [Attempt.Clean, Option.some.inj isStored] at attemptClean
    exact attemptClean.2.2
  · cases isStored

theorem tailOf_intact {w : World} (intact : Intact turns w) {tail : ChainTail}
    (found : tailOf w.lines = some tail) :
    tail.seq = (drafts w.lines).length ∧ tail.prevHash = tip w.lines := by
  have numbered := intact.numbered
  rw [tip]
  unfold tailOf at found
  generalize drafts w.lines = all at found numbered ⊢
  cases all using List.reverseRecOn with
  | nil => cases found
  | append_singleton front last =>
      rw [List.getLast?_concat] at found
      cases first : (front ++ [last]).head? with
      | none => simp [first] at found
      | some draft =>
          rw [first, Option.some.injEq] at found
          rw [← found, sessionChain.tipAfter_snoc]
          rw [List.map_append, List.length_append, List.length_singleton, numbering_succ,
            List.map_singleton] at numbered
          have lasts := congrArg List.getLast? numbered
          rw [List.getLast?_concat, List.getLast?_concat, Option.some.injEq] at lasts
          refine ⟨?_, rfl⟩
          rw [List.length_append, List.length_singleton]
          push_cast
          exact lasts

/-- Reading the chain state back puts the recorder at the tail of an intact log. -/
theorem loadChainState_spec {w : World} (coherent : Coherent turns w) :
    Program.wp loadChainState (fun r t =>
      (r = .ok () → Ready turns t) ∧ Coherent turns t) { w with log := some (w.log.getD []) } := by
  unfold loadChainState
  simp only [Program.wp_bind, Program.wp_get, Program.andThen_ok, Program.wp_ofExcept]
  have touched : Coherent turns { w with log := some (w.log.getD []) } := by
    intro clean
    obtain ⟨intact, place⟩ := coherent clean
    exact ⟨⟨intact.text, intact.chained, intact.numbered, intact.past⟩,
      place.imp (fun atTail => ⟨atTail.seq, atTail.prevHash⟩) id⟩
  have found : AllClean w.attempts → readChainState (some (w.log.getD [])) =
      if w.lines = [] then .ok none
      else
        match tailOf w.lines with
        | some tail => .ok (some tail)
        | none => .error (.recorder .noIntegerSequence) := by
    intro clean
    rw [(coherent clean).1.text]
    exact readChainState_logText (drafts_stable clean)
  cases read : readChainState (some (w.log.getD [])) with
  | error e =>
      refine ⟨?_, touched⟩
      intro isOk
      cases isOk
  | ok result =>
      cases result with
      | none =>
          refine ⟨fun _ clean => ?_, touched⟩
          obtain ⟨intact, place⟩ := touched clean
          refine ⟨intact, ?_⟩
          rcases place with atTail | fresh
          · exact atTail
          · rw [found clean] at read
            split at read
            · next empty =>
                have none : drafts w.lines = [] := by rw [empty]; rfl
                constructor
                · change w.recorder.seq = (drafts w.lines).length
                  rw [fresh.2.1, none]
                  rfl
                · change w.recorder.prevHash = tip w.lines
                  rw [fresh.2.2, tip, none]
                  rfl
            · split at read <;> cases read
      | some tail =>
          have ready : Ready turns ({ w with log := some (w.log.getD []) }.update fun r =>
              { r with
                seq := tail.seq
                prevHash := tail.prevHash
                firstEventHash := tail.firstEventHash }) := by
            intro clean
            obtain ⟨intact, -⟩ := touched clean
            refine ⟨⟨intact.text, intact.chained, intact.numbered, intact.past⟩, ?_⟩
            rw [found clean] at read
            split at read
            · cases read
            · split at read
              · next other isTail =>
                  cases read
                  obtain ⟨seq, prevHash⟩ := tailOf_intact (coherent clean).1 isTail
                  exact ⟨seq, prevHash⟩
              · cases read
          exact ⟨fun _ => ready, coherent_of_ready ready⟩

theorem coherent_start (forward : Forward turns) (unavailable resume : Bool) {w : World}
    (coherent : Coherent turns w) :
    Program.wp (Provenance.start turns unavailable resume) (fun _ => Coherent turns) w := by
  unfold Provenance.start
  simp only [Program.wp_bind, Program.wp_get, Program.andThen_ok, Program.wp_ite,
    Program.wp_pure, Program.wp_modify, Program.wp_require, raiseRecorder, Program.wp_raise]
  refine ⟨fun _ => coherent, fun _ => ⟨fun _ => coherent, fun _ => ⟨fun _ => ⟨fun _ => coherent,
    fun _ => coherent⟩, fun _ => ?_⟩⟩⟩
  refine Program.wp_mono (loadChainState_spec coherent) ?_
  rintro (error | loaded) t ⟨ready, after⟩
  · exact after
  · simp only [Program.andThen_ok, Program.wp_bind, Program.wp_require, Program.andThen_error,
      Program.wp_modify]
    refine ⟨fun _ => ?_, fun _ => after⟩
    refine Program.wp_mono ((ready_maintained forward).appendRecord trivial _ _ _ _
      (ready_update (fun _ => ⟨rfl, rfl, rfl⟩) (ready rfl))) ?_
    intro r t done
    cases r <;> exact coherent_of_ready done

private theorem coherent_close_attribute {w : World} (coherent : Coherent turns w) :
    Coherent turns (w.update fun r => { r with closed := true }) := by
  intro clean
  obtain ⟨intact, place⟩ := coherent clean
  exact ⟨⟨intact.text, intact.chained, intact.numbered, intact.past⟩,
    place.imp (fun atTail => ⟨atTail.seq, atTail.prevHash⟩) id⟩

/-- No call, and no restart, breaks the invariant. -/
theorem coherent_run (forward : Forward turns) {w : World} {call : Call}
    (coherent : Coherent turns w) (legal : call.Legal w) : Coherent turns (call.run turns w) := by
  have kept := ready_maintained forward
  have ready : w.recorder.started = true → Ready turns w := ready_of_coherent coherent
  cases call with
  | start unavailable resume => exact coherent_start forward unavailable resume coherent
  | record eventType payload agentId signature osCorroboration =>
      cases started : w.recorder.started with
      | true => exact coherent_of_ready (kept.record trivial _ _ _ w (ready started))
      | false =>
          rw [Call.run, record_unstarted started]
          exact coherent
  | heartbeat =>
      cases started : w.recorder.started with
      | true => exact coherent_of_ready (kept.heartbeat w (ready started))
      | false =>
          rw [Call.run, heartbeat_unstarted started]
          exact coherent
  | merkleSeal final => exact coherent_of_ready (kept.writeMerkleSeal final w (ready legal))
  | changeAuditMode newMode token reason =>
      exact coherent_of_ready (kept.changeAuditMode newMode token reason w (ready legal))
  | interrupt reason sinkCloseRaises =>
      cases started : w.recorder.started with
      | true => exact coherent_of_ready (kept.interrupt reason sinkCloseRaises w (ready started))
      | false =>
          rw [Call.run]
          rcases interrupt_unstarted started reason sinkCloseRaises with same | closed
          · rw [same]
            exact coherent
          · rw [closed]
            exact coherent_close_attribute coherent
  | close summary token => exact coherent_of_ready (kept.close trivial token w (ready legal))
  | registerAgent agentId publicKey =>
      intro clean
      obtain ⟨intact, place⟩ := coherent clean
      exact ⟨⟨intact.text, intact.chained, intact.numbered, intact.past⟩,
        place.imp (fun atTail => ⟨atTail.seq, atTail.prevHash⟩) id⟩
  | ensureReplicated record =>
      exact coherent_of_ready (keeps_ensureReplicated forward record w (ready legal))
  | restart config =>
      intro clean
      obtain ⟨intact, -⟩ := coherent clean
      exact ⟨⟨intact.text, intact.chained, intact.numbered, intact.past⟩,
        Or.inr ⟨rfl, rfl, rfl⟩⟩

/-- Every state of every session satisfies the invariant. -/
theorem coherent_of_run (forward : Forward turns) {config : Config} {calls : List Call}
    {w : World} (run : (sessionSystem turns config).Run calls w) : Coherent turns w := by
  refine run.invariant ?_ ?_
  · rintro w rfl -
    exact ⟨⟨rfl, chained_nil, rfl, by simp [World.lines, storedLines, newWorld]⟩,
      Or.inr ⟨rfl, rfl, rfl⟩⟩
  · rintro w call t coherent ⟨legal, rfl⟩
    exact coherent_run forward coherent legal

end Invariant

end SelfConnect.Provenance
