import SelfConnect.Library.Window
import SelfConnect.Policy.Composition
import SelfConnect.Python.Arithmetic

namespace SelfConnect.Policy

open SelfConnect.Python SelfConnect.Library

/-! Padding a sequence of calls. The clock readings are the numbers that the floats stand
for, so that they are ordered. -/

/-- A call that is observed. -/
structure Observation where
  agentId : Str
  action : Str
  now : Number

/-- The windows by agent; an agent that was not seen has an empty one. -/
abbrev Windows : Type := Str → List (Number × Str)

namespace CompositionMonitor

variable (monitor : CompositionMonitor)

/-- An entry lies before the horizon of a later one. -/
def expired (now entry : Number × Str) : Bool :=
  entry.1.lt (now.1.minus (Number.ofFloat monitor.windowSeconds))

/-- `observe`, for the window of an agent. -/
def watchWindow (window : List (Number × Str)) (action : Str) (now : Number) :
    CompositionVerdict × List (Number × Str) :=
  let entry := (now, monitor.effectOf action)
  let fresh := (window ++ [entry]).dropWhile (monitor.expired entry)
  if monitor.maxWindowLen < 0 then
    (⟨false, Str.lit "composition monitor internal error: " ++
      Str.lit "IndexError('pop from an empty deque')", some (Str.lit "internal_error"), []⟩, [])
  else
    let capped := fresh.rtake monitor.maxWindowLen.toNat
    (monitor.judge (capped.map Prod.snd), capped)

def watch (windows : Windows) (call : Observation) : CompositionVerdict × Windows :=
  let watched := monitor.watchWindow (windows call.agentId) call.action call.now
  (watched.1, Function.update windows call.agentId watched.2)

/-- The verdict on the last call of a sequence, from the first call of a monitor on. -/
def verdict (earlier : List Observation) (last : Observation) : CompositionVerdict :=
  (monitor.watch (earlier.foldl (fun windows call => (monitor.watch windows call).2) fun _ => [])
    last).1

/-- What the monitor puts into the window of an agent, without ever taking anything out. -/
def entriesOf (agentId : Str) (calls : List Observation) : List (Number × Str) :=
  (calls.filter fun call => call.agentId = agentId).map fun call =>
    (call.now, monitor.effectOf call.action)

/-- The entries of the last `window_seconds`, up to the last call. -/
def recent (earlier : List Observation) (last : Observation) : List (Number × Str) :=
  (monitor.entriesOf last.agentId (earlier ++ [last])).filter fun entry =>
    !monitor.expired (last.now, monitor.effectOf last.action) entry

/-- With exact differences it is the monitor's own step. -/
theorem watchWindow_of_observeWindow {window : List (PyFloat × Str)} {action : Str}
    {now : PyFloat}
    (exact : Number.ofFloat (now.minus monitor.windowSeconds) =
      (Number.ofFloat now).minus (Number.ofFloat monitor.windowSeconds)) :
    let numbered := List.map fun entry : PyFloat × Str => (Number.ofFloat entry.1, entry.2)
    let observed := monitor.observeWindow window action now
    monitor.watchWindow (numbered window) action (Number.ofFloat now) =
      (observed.1, numbered observed.2) := by
  intro numbered observed
  have isFresh : (numbered window ++ [(Number.ofFloat now, monitor.effectOf action)]).dropWhile
      (monitor.expired (Number.ofFloat now, monitor.effectOf action)) =
        numbered (monitor.current (window ++ [(now, monitor.effectOf action)]) now) := by
    have isSnoc : numbered window ++ [(Number.ofFloat now, monitor.effectOf action)] =
        numbered (window ++ [(now, monitor.effectOf action)]) := by simp [numbered]
    unfold current
    rw [isSnoc, exact]
    exact List.dropWhile_map ..
  unfold watchWindow
  dsimp only
  rw [isFresh]
  unfold observed observeWindow
  split
  · rfl
  · simp [numbered, List.rtake, Function.comp_def]

/-- Entries expire in the order of their readings, and stay expired. -/
theorem aging : Aging (fun first second => first.1.le second.1 = true) monitor.expired where
  older := Number.lt_of_le_of_lt
  later isLater gone := Number.lt_minus gone isLater

theorem watchWindow_eq (accepts : 0 ≤ monitor.maxWindowLen) (window : List (Number × Str))
    (action : Str) (now : Number) :
    monitor.watchWindow window action now =
      let capped := slide monitor.expired monitor.maxWindowLen.toNat window
        (now, monitor.effectOf action)
      (monitor.judge (capped.map Prod.snd), capped) := by
  unfold watchWindow
  exact if_neg (not_lt.mpr accepts)

/-- The window of an agent holds the calls of that agent and no other. -/
theorem foldl_watch (accepts : 0 ≤ monitor.maxWindowLen) (agentId : Str)
    (calls : List Observation) (windows : Windows) :
    calls.foldl (fun windows call => (monitor.watch windows call).2) windows agentId =
      (monitor.entriesOf agentId calls).foldl
        (slide monitor.expired monitor.maxWindowLen.toNat) (windows agentId) := by
  induction calls generalizing windows with
  | nil => rfl
  | cons call rest ih =>
      rw [List.foldl_cons, ih]
      unfold entriesOf watch
      by_cases own : call.agentId = agentId
      · subst own
        dsimp only
        rw [Function.update_self, List.filter_cons_of_pos (by simp), List.map_cons,
          List.foldl_cons, monitor.watchWindow_eq accepts]
      · dsimp only
        rw [Function.update_of_ne (Ne.symm own), List.filter_cons_of_neg (by simp [own])]

theorem appearIn_iff_sublist {wanted stream : List Str} :
    appearIn wanted stream = true ↔ wanted.Sublist stream := by
  induction stream generalizing wanted with
  | nil =>
      cases wanted with
      | nil => exact iff_of_true rfl (List.Sublist.refl [])
      | cons want rest => simp [appearIn]
  | cons effect rest ih =>
      cases wanted with
      | nil => exact iff_of_true rfl (List.nil_sublist _)
      | cons want others =>
          unfold appearIn
          by_cases isWant : effect = want
          · subst isWant
            rw [List.dropWhile_cons_of_neg (by simp), List.cons_sublist_cons]
            exact ih
          · rw [List.dropWhile_cons_of_pos (by simp [isWant])]
            have skipped : (want :: others).Sublist (effect :: rest) ↔
                (want :: others).Sublist rest := by
              simp [List.sublist_cons_iff, Ne.symm isWant]
            exact (@ih (want :: others)).trans skipped.symm

section Verdict

variable {monitor} {earlier padded : List Observation} {last : Observation}

/-- The verdict is that on the last effects of the time window, up to the cap. -/
theorem verdict_eq_judge (accepts : 0 ≤ monitor.maxWindowLen)
    (sorted : (monitor.entriesOf last.agentId (earlier ++ [last])).Pairwise fun first second =>
      first.1.le second.1 = true) :
    monitor.verdict earlier last = monitor.judge
      (((monitor.recent earlier last).rtake monitor.maxWindowLen.toNat).map Prod.snd) := by
  have isSnoc : monitor.entriesOf last.agentId (earlier ++ [last]) =
      monitor.entriesOf last.agentId earlier ++ [(last.now, monitor.effectOf last.action)] := by
    unfold entriesOf
    rw [List.filter_append, List.map_append, List.filter_cons_of_pos (by simp)]
    rfl
  have isWindow : (_ ++ [(last.now, monitor.effectOf last.action)]).foldl
      (slide monitor.expired monitor.maxWindowLen.toNat) [] = _ :=
    foldl_slide monitor.aging (isSnoc ▸ sorted)
  rw [List.foldl_append] at isWindow
  unfold recent
  rw [isSnoc, ← isWindow]
  change (monitor.watchWindow _ last.action last.now).1 = _
  rw [monitor.watchWindow_eq accepts, monitor.foldl_watch accepts]
  rfl

theorem allowed_of_broken (broken : monitor.maxWindowLen < 0) :
    (monitor.verdict earlier last).allowed = false := by
  change (monitor.watchWindow _ last.action last.now).1.allowed = false
  unfold watchWindow
  dsimp only
  rw [if_pos broken]

theorem denied_iff {stream : List Str} : (monitor.judge stream).allowed = false ↔
    monitor.maxElevatedRate < stream.countP elevatedEffects.contains ∨
      ∃ signature ∈ monitor.signatures, signature.orderedEffects.Sublist stream := by
  unfold judge
  dsimp only
  split
  · next tooMany => exact iff_of_true rfl (.inl tooMany)
  · next notTooMany =>
      split
      · next signature found =>
          refine iff_of_true rfl (.inr ⟨signature, List.mem_of_find?_eq_some found, ?_⟩)
          have isMatch := List.find?_some found
          exact appearIn_iff_sublist.mp isMatch
      · next none =>
          refine iff_of_false (fun absurdly => by cases absurdly) ?_
          rintro (tooMany | ⟨signature, member, within⟩)
          · exact notTooMany tooMany
          · exact List.find?_eq_none.mp none signature member (appearIn_iff_sublist.mpr within)

/-- More effects are denied as well. -/
theorem denied_of_sublist {stream longer : List Str} (within : stream.Sublist longer)
    (denied : (monitor.judge stream).allowed = false) :
    (monitor.judge longer).allowed = false := by
  rcases denied_iff.mp denied with tooMany | ⟨signature, member, appears⟩
  · refine denied_iff.mpr (.inl (tooMany.trans_le ?_))
    exact_mod_cast within.countP_le
  · exact denied_iff.mpr (.inr ⟨signature, member, appears.trans within⟩)

/-- Calls put in between keep a denial while the cap leaves the time window whole. -/
theorem denied_of_padded
    (sorted : (monitor.entriesOf last.agentId (padded ++ [last])).Pairwise fun first second =>
      first.1.le second.1 = true) :
    (0 ≤ monitor.maxWindowLen → monitor.verdict padded last = monitor.judge
      (((monitor.recent padded last).rtake monitor.maxWindowLen.toNat).map Prod.snd)) ∧
    ∀ earlier : List Observation, earlier.Sublist padded →
      (monitor.verdict earlier last).allowed = false →
      ((monitor.recent padded last).length ≤ monitor.maxWindowLen ∨ monitor.maxWindowLen < 0) →
      (monitor.verdict padded last).allowed = false := by
  refine ⟨fun accepts => verdict_eq_judge accepts sorted, ?_⟩
  intro earlier inserted denied fits
  rcases lt_or_ge monitor.maxWindowLen 0 with broken | accepts
  · exact allowed_of_broken broken
  have within : (monitor.recent earlier last).Sublist (monitor.recent padded last) :=
    ((((inserted.append_right [last]).filter _).map _).filter _)
  have whole : (monitor.recent padded last).length ≤ monitor.maxWindowLen.toNat := by omega
  have earlierSorted := sorted.sublist (((inserted.append_right [last]).filter _).map _)
  rw [verdict_eq_judge accepts sorted, rtake_eq_self whole]
  rw [verdict_eq_judge accepts earlierSorted, rtake_eq_self (within.length_le.trans whole)]
    at denied
  exact denied_of_sublist (within.map _) denied

end Verdict

end CompositionMonitor

/-! An agent looks around, gets in and ships it out, with harmless calls in between. -/

def sampleCalls (padding : Nat) : List Observation :=
  [⟨Str.lit "agent", Str.lit "read_text", .finite 0⟩,
    ⟨Str.lit "agent", Str.lit "read_file", .finite 1⟩] ++
  List.replicate padding ⟨Str.lit "agent", Str.lit "assign_task", .finite 1⟩

def sampleEgress : Observation := ⟨Str.lit "agent", Str.lit "http_request", .finite 2⟩

theorem sorted_sampleCalls (padding : Nat) :
    (defaultMonitor.entriesOf sampleEgress.agentId (sampleCalls padding ++ [sampleEgress])).Pairwise
      fun first second => first.1.le second.1 = true := by
  have inOrder : (sampleCalls padding ++ [sampleEgress]).Pairwise fun first second =>
      first.now.le second.now = true := by
    have zero : Number.le (.finite 0) (.finite 1) = true := by decide
    have zero' : Number.le (.finite 0) (.finite 2) = true := by decide
    have one : Number.le (.finite 1) (.finite 1) = true := by decide
    have one' : Number.le (.finite 1) (.finite 2) = true := by decide
    simp +contextual [sampleCalls, sampleEgress, List.pairwise_append, List.pairwise_replicate,
      List.mem_replicate, or_imp, zero, zero', one, one']
  exact (inOrder.sublist List.filter_sublist).map _ fun _ _ ordered => ordered

theorem sampleCalls_sublist (padding : Nat) : (sampleCalls 0).Sublist (sampleCalls padding) :=
  List.sublist_append_left ..

theorem denied_sampleCalls :
    (defaultMonitor.verdict (sampleCalls 0) sampleEgress).allowed = false := by
  decide +kernel

/-- Enough harmless calls push what came before them out of the window. -/
theorem not_forall_denied_padded :
    ¬ ∀ (monitor : CompositionMonitor) (earlier padded : List Observation) (last : Observation),
      earlier.Sublist padded →
      (monitor.entriesOf last.agentId (padded ++ [last])).Pairwise
        (fun first second => first.1.le second.1 = true) →
      (monitor.verdict earlier last).allowed = false →
      (monitor.verdict padded last).allowed = false := by
  intro resists
  have allowed : (defaultMonitor.verdict (sampleCalls 255) sampleEgress).allowed = true := by
    decide +kernel
  have denied := resists defaultMonitor (sampleCalls 0) (sampleCalls 255) sampleEgress
    (sampleCalls_sublist 255) (sorted_sampleCalls 255) denied_sampleCalls
  exact Bool.noConfusion (denied.symm.trans allowed)

theorem denied_of_padded_sampleCalls :
    (defaultMonitor.verdict (sampleCalls 1) sampleEgress).allowed = false := by
  have fits : ((defaultMonitor.recent (sampleCalls 1) sampleEgress).length : Int) ≤
      defaultMonitor.maxWindowLen := by decide +kernel
  exact (CompositionMonitor.denied_of_padded (sorted_sampleCalls 1)).2 (sampleCalls 0)
    (sampleCalls_sublist 1) denied_sampleCalls (.inl fits)

end SelfConnect.Policy
