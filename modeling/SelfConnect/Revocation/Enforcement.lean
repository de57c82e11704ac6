import SelfConnect.Revocation.Watcher

namespace SelfConnect.Revocation

open SelfConnect.Python SelfConnect.Library

namespace RevocationDb

variable {db : RevocationDb}

theorem valid_revoke (valid : db.Valid) (targetType : TargetType)
    (targetId operatorId reason : Str) (revokedAt : PyFloat) :
    (db.revoke targetType targetId operatorId reason revokedAt).Valid ∧
      db.rows <+: (db.revoke targetType targetId operatorId reason revokedAt).rows := by
  have unchanged : db.Valid ∧ db.rows <+: db.rows := ⟨valid, db.rows.prefix_refl⟩
  unfold revoke
  split
  · split
    · next epoch bumped isBumped =>
        obtain ⟨isEpoch, isCopy⟩ := RegistryQuery.exec_bumpEpoch isBumped
        split
        · next done inserted isInserted =>
            obtain ⟨isRows, counts, fresh⟩ := RegistryQuery.exec_insertRevocation isInserted
            rw [isCopy] at isRows counts fresh
            refine ⟨valid.insert isRows isEpoch ?_ fresh, ?_⟩
            · rw [counts, ← isEpoch]
              rfl
            · rw [isRows]
              exact List.prefix_append _ _
        · exact unchanged
    · exact unchanged
    · exact unchanged
  · exact unchanged
  · exact unchanged

theorem epoch_of_readEpoch (valid : db.Valid) {epoch : Int} (read : db.readEpoch = some epoch) :
    epoch = db.rows.length := by
  obtain ⟨answer, executed, isEpoch⟩ := Option.bind_eq_some_iff.mp read
  obtain ⟨row, isMeta, isAnswer⟩ := Option.map_eq_some_iff.mp executed
  cases isAnswer
  dsimp only at isEpoch
  rw [← valid.counted, RevocationDb.epoch, isMeta, isEpoch]
  rfl

theorem rows_of_readRows {rows : List (TargetType × Str)} (read : db.readRows = some rows) :
    rows = db.rows.map RevocationRow.target := by
  obtain ⟨answer, executed, isRows⟩ := Option.map_eq_some_iff.mp read
  obtain ⟨found, isTable, isAnswer⟩ := Option.map_eq_some_iff.mp executed
  cases isAnswer
  rw [RevocationDb.rows, isTable]
  exact isRows.symm

end RevocationDb

/-- A snapshot read in two statements covers the rows, whatever was revoked in between. -/
theorem covers_acpSnapshot {db : RevocationDb} {epoch : Int} (early : epoch ≤ db.rows.length)
    {snapshot : RevocationSnapshot}
    (read : db.readRows.bind (acpSnapshot epoch) = some snapshot) :
    snapshot.Covers db ∧
      snapshot.revokedAgentKeyIds = idsOf .agent (db.rows.map RevocationRow.target) := by
  obtain ⟨rows, isRead, isSnapshot⟩ := Option.bind_eq_some_iff.mp read
  rw [RevocationDb.rows_of_readRows isRead] at isSnapshot
  unfold acpSnapshot at isSnapshot
  split at isSnapshot
  · cases isSnapshot
    exact ⟨⟨db.rows, db.rows.prefix_refl, early, rfl, rfl⟩, rfl⟩
  · cases isSnapshot

theorem RevocationState.Covers.mono {state : RevocationState} {s t : RevocationDb}
    (grows : s.rows <+: t.rows) (covers : state.Covers s) : state.Covers t := by
  obtain ⟨front, isFront, bounds⟩ := covers
  exact ⟨front, isFront.trans grows, bounds⟩

theorem idsOf_subset {targetType : TargetType} {first second : List RevocationRow}
    (grows : first <+: second) : idsOf targetType (first.map RevocationRow.target) ⊆
      idsOf targetType (second.map RevocationRow.target) := by
  intro targetId member
  rw [idsOf, List.mem_toFinset] at member ⊢
  exact (((grows.map _).sublist.filter _).map _).subset member

theorem RevocationState.Covers.agents_subset {state : RevocationState} {db : RevocationDb}
    (covers : state.Covers db) :
    state.revokedAgentKeyIds ⊆ idsOf .agent (db.rows.map RevocationRow.target) := by
  obtain ⟨front, isFront, -, isAgents, -⟩ := covers
  rw [isAgents]
  exact idsOf_subset isFront

/-- What a poll has in hand. -/
def PollStage.Fits (w : ShimWorld) : PollStage → Prop
  | .reading _ none => True
  | .reading _ (some epoch) => epoch ≤ w.registry.rows.length
  | .comparing snapshot | .applying _ snapshot => snapshot.Covers w.registry
  | .finishing snapshot => snapshot ∈ w.applied

/-- A snapshot holds what was applied before it was read. -/
def Holds (w : ShimWorld) (snapshot : RevocationSnapshot) (since : Nat) : Prop :=
  since ≤ w.applied.length ∧ ∀ earlier ∈ w.applied.take since,
    earlier.revokedAgentKeyIds ⊆ snapshot.revokedAgentKeyIds

/-- What a prompt has in hand. -/
def PromptStage.Fits (w : ShimWorld) : PromptStage → Prop
  | .reading _ _ none => True
  | .reading _ _ (some epoch) => epoch ≤ w.registry.rows.length
  | .verifying _ _ snapshot since => Holds w snapshot since
  | .calling _ agentId snapshot since =>
      Holds w snapshot since ∧ agentId ∉ snapshot.revokedAgentKeyIds

structure Watched (w : ShimWorld) : Prop where
  valid : w.registry.Valid
  covers : ∀ snapshot ∈ w.applied, snapshot.Covers w.registry
  clear : ∀ snapshot ∈ w.applied, ∀ sessionId agentIds,
    w.sessions.get? sessionId = some agentIds →
      ∀ agentId ∈ agentIds, agentId ∉ snapshot.revokedAgentKeyIds
  observed : ∀ epoch ∈ w.observed, ∃ snapshot ∈ w.applied, snapshot.epoch = epoch
  last : w.lastEpoch = -1 ∨ ∃ snapshot ∈ w.applied, snapshot.epoch = w.lastEpoch
  polls : ∀ poll stage, w.polls poll = some stage → stage.Fits w
  prompts : ∀ prompt stage, w.prompts prompt = some stage → stage.Fits w

/-- Where every snapshot applied is clear of the sessions, no observed epoch reaches them. -/
theorem Watched.enforced {w : ShimWorld} (watched : Watched w) : Enforced w := by
  intro epoch isObserved sessionId agentIds held agentId bound row member isTarget
  obtain ⟨snapshot, isApplied, isEpoch⟩ := watched.observed epoch isObserved
  by_contra reaches
  have early : row.epoch ≤ snapshot.epoch := by
    rw [isEpoch]
    exact not_lt.mp reaches
  have named := (watched.covers snapshot isApplied).mem watched.valid member early
  have isAgent : row.targetType = .agent := congrArg Prod.fst isTarget
  have isId : row.targetId = agentId := congrArg Prod.snd isTarget
  rw [isAgent, isId] at named
  exact watched.clear snapshot isApplied sessionId agentIds held agentId bound named

/-! Each step keeps the shim watched. -/

/-- A registry that has grown and a shim that has applied more. -/
structure Later (w t : ShimWorld) : Prop where
  rows : w.registry.rows <+: t.registry.rows
  applied : w.applied <+: t.applied

theorem Holds.mono {w t : ShimWorld} (later : Later w t) {snapshot : RevocationSnapshot}
    {since : Nat} (holds : Holds w snapshot since) : Holds t snapshot since := by
  obtain ⟨more, isMore⟩ := later.applied
  refine ⟨holds.1.trans later.applied.length_le, ?_⟩
  rw [← isMore, List.take_append_of_le_length holds.1]
  exact holds.2

theorem PollStage.Fits.mono {w t : ShimWorld} (later : Later w t) {stage : PollStage}
    (fits : stage.Fits w) : stage.Fits t := by
  cases stage with
  | reading watched epoch =>
      cases epoch with
      | none => trivial
      | some epoch => exact le_trans fits (Int.ofNat_le.mpr later.rows.length_le)
  | comparing snapshot => exact RevocationState.Covers.mono later.rows fits
  | applying watched snapshot => exact RevocationState.Covers.mono later.rows fits
  | finishing snapshot => exact later.applied.subset fits

theorem PromptStage.Fits.mono {w t : ShimWorld} (later : Later w t) {stage : PromptStage}
    (fits : stage.Fits w) : stage.Fits t := by
  cases stage with
  | reading sessionId agentId epoch =>
      cases epoch with
      | none => trivial
      | some epoch => exact le_trans fits (Int.ofNat_le.mpr later.rows.length_le)
  | verifying sessionId agentId snapshot since => exact Holds.mono later fits
  | calling sessionId agentId snapshot since => exact ⟨Holds.mono later fits.1, fits.2⟩

namespace Watched

variable {w : ShimWorld}

theorem setPoll (watched : Watched w) (poll : Nat) {stage : Option PollStage}
    (fits : ∀ next, stage = some next → next.Fits w) : Watched (w.setPoll poll stage) := by
  refine ⟨watched.valid, watched.covers, watched.clear, watched.observed, watched.last, ?_,
    watched.prompts⟩
  intro other next isStage
  change Function.update w.polls poll stage other = some next at isStage
  have same : next.Fits w := by
    by_cases isIt : other = poll
    · rw [isIt, Function.update_self] at isStage
      exact fits next isStage
    · rw [Function.update_of_ne isIt] at isStage
      exact watched.polls other next isStage
  exact same.mono ⟨List.prefix_refl _, List.prefix_refl _⟩

theorem setPrompt (watched : Watched w) (prompt : Nat) {stage : Option PromptStage}
    (fits : ∀ next, stage = some next → next.Fits w) : Watched (w.setPrompt prompt stage) := by
  refine ⟨watched.valid, watched.covers, watched.clear, watched.observed, watched.last,
    watched.polls, ?_⟩
  intro other next isStage
  change Function.update w.prompts prompt stage other = some next at isStage
  have same : next.Fits w := by
    by_cases isIt : other = prompt
    · rw [isIt, Function.update_self] at isStage
      exact fits next isStage
    · rw [Function.update_of_ne isIt] at isStage
      exact watched.prompts other next isStage
  exact same.mono ⟨List.prefix_refl _, List.prefix_refl _⟩

theorem observe (watched : Watched w) {snapshot : RevocationSnapshot}
    (isApplied : snapshot ∈ w.applied) {epoch lastEpoch : Int} (isEpoch : snapshot.epoch = epoch)
    (isLast : lastEpoch = w.lastEpoch ∨ lastEpoch = epoch) :
    Watched { w with lastEpoch, observed := w.observed ++ [epoch] } := by
  refine ⟨watched.valid, watched.covers, watched.clear, ?_, ?_, ?_, ?_⟩
  · intro other member
    rcases List.mem_append.mp member with before | now
    · exact watched.observed other before
    · rw [List.mem_singleton.mp now]
      exact ⟨snapshot, isApplied, isEpoch⟩
  · rcases isLast with same | isNow
    · dsimp only
      rw [same]
      exact watched.last
    · exact .inr ⟨snapshot, isApplied, isEpoch.trans isNow.symm⟩
  · exact fun poll stage isStage =>
      (watched.polls poll stage isStage).mono ⟨List.prefix_refl _, List.prefix_refl _⟩
  · exact fun prompt stage isStage =>
      (watched.prompts prompt stage isStage).mono ⟨List.prefix_refl _, List.prefix_refl _⟩

/-- Sessions may go, and those that stay or come may be bound to agents that no snapshot
applied names. -/
theorem setSessions (watched : Watched w) {sessions : Dict Str (Finset Str)}
    (clear : ∀ sessionId agentIds, sessions.get? sessionId = some agentIds →
      ∀ agentId ∈ agentIds, (∃ before, w.sessions.get? sessionId = some before ∧
        agentId ∈ before) ∨ ∀ snapshot ∈ w.applied, agentId ∉ snapshot.revokedAgentKeyIds) :
    Watched { w with sessions } := by
  refine ⟨watched.valid, watched.covers, ?_, watched.observed, watched.last, ?_, ?_⟩
  · intro snapshot isApplied sessionId agentIds held agentId bound
    rcases clear sessionId agentIds held agentId bound with ⟨before, wasHeld, wasBound⟩ | unnamed
    · exact watched.clear snapshot isApplied sessionId before wasHeld agentId wasBound
    · exact unnamed snapshot isApplied
  · exact fun poll stage isStage =>
      (watched.polls poll stage isStage).mono ⟨List.prefix_refl _, List.prefix_refl _⟩
  · exact fun prompt stage isStage =>
      (watched.prompts prompt stage isStage).mono ⟨List.prefix_refl _, List.prefix_refl _⟩

theorem pop (watched : Watched w) (sessionId : Str) : Watched (w.pop sessionId) := by
  apply watched.setSessions
  intro other agentIds held agentId bound
  rw [Dict.get?_filter] at held
  exact .inl ⟨agentIds, (Option.filter_eq_some_iff.mp held).1, bound⟩

theorem newSession (watched : Watched w) (sessionId : Str) :
    Watched { w with sessions := w.sessions.set sessionId ∅ } := by
  apply watched.setSessions
  intro other agentIds held agentId bound
  rw [Dict.get?_set] at held
  split at held
  · cases held
    simp at bound
  · exact .inl ⟨agentIds, held, bound⟩

theorem bindAgent (watched : Watched w) {sessionId agentId : Str}
    (unnamed : ∀ snapshot ∈ w.applied, agentId ∉ snapshot.revokedAgentKeyIds) :
    Watched (w.bindAgent sessionId agentId) := by
  unfold ShimWorld.bindAgent
  split
  · next before wasHeld =>
      apply watched.setSessions
      intro other agentIds held bound isBound
      rw [Dict.get?_set] at held
      split at held
      · next same =>
          cases held
          rcases Finset.mem_insert.mp isBound with isNew | already
          · rw [isNew]
            exact .inr unnamed
          · rw [same]
            exact .inl ⟨before, wasHeld, already⟩
      · exact .inl ⟨agentIds, held, isBound⟩
  · exact watched

theorem applyRevocations (watched : Watched w) {snapshot : RevocationSnapshot}
    (covers : snapshot.Covers w.registry) : Watched (w.applyRevocations snapshot) := by
  have later : Later w (w.applyRevocations snapshot) :=
    ⟨List.prefix_refl _, List.prefix_append _ _⟩
  refine ⟨watched.valid, ?_, ?_, ?_, ?_, ?_, ?_⟩
  · intro other isApplied
    rcases List.mem_append.mp isApplied with before | now
    · exact watched.covers other before
    · rw [List.mem_singleton.mp now]
      exact covers
  · intro other isApplied sessionId agentIds held agentId bound
    have heldHere : w.sessions.get? sessionId = some agentIds ∧
        agentIds ∩ snapshot.revokedAgentKeyIds = ∅ := by
      unfold ShimWorld.applyRevocations at held
      rw [Dict.get?_filter] at held
      obtain ⟨wasHeld, apart⟩ := Option.filter_eq_some_iff.mp held
      exact ⟨wasHeld, of_decide_eq_true apart⟩
    rcases List.mem_append.mp isApplied with before | now
    · exact watched.clear other before sessionId agentIds heldHere.1 agentId bound
    · rw [List.mem_singleton.mp now]
      intro named
      have shared := Finset.mem_inter.mpr ⟨bound, named⟩
      rw [heldHere.2] at shared
      simp at shared
  · intro epoch isObserved
    obtain ⟨other, isApplied, isEpoch⟩ := watched.observed epoch isObserved
    exact ⟨other, later.applied.subset isApplied, isEpoch⟩
  · rcases watched.last with unpolled | ⟨other, isApplied, isEpoch⟩
    · exact .inl unpolled
    · exact .inr ⟨other, later.applied.subset isApplied, isEpoch⟩
  · exact fun poll stage isStage => (watched.polls poll stage isStage).mono later
  · exact fun prompt stage isStage => (watched.prompts prompt stage isStage).mono later

theorem revoke (watched : Watched w) {registry : RevocationDb} (valid : registry.Valid)
    (grows : w.registry.rows <+: registry.rows) : Watched { w with registry } := by
  have later : Later w { w with registry } := ⟨grows, List.prefix_refl _⟩
  refine ⟨valid, ?_, watched.clear, watched.observed, watched.last, ?_, ?_⟩
  · exact fun snapshot isApplied => (watched.covers snapshot isApplied).mono grows
  · exact fun poll stage isStage => (watched.polls poll stage isStage).mono later
  · exact fun prompt stage isStage => (watched.prompts prompt stage isStage).mono later

theorem stepPoll (watched : Watched w) (poll : Nat) {stage : PollStage} (fits : stage.Fits w) :
    Watched (w.stepPoll poll stage) := by
  cases stage with
  | reading isWatched epoch =>
      cases epoch with
      | none =>
          apply watched.setPoll
          intro next isNext
          obtain ⟨epoch, isRead, isStage⟩ := Option.map_eq_some_iff.mp isNext
          rw [← isStage]
          exact (RevocationDb.epoch_of_readEpoch watched.valid isRead).le
      | some epoch =>
          apply watched.setPoll
          intro next isNext
          obtain ⟨snapshot, isRead, isStage⟩ := Option.map_eq_some_iff.mp isNext
          have covers := (covers_acpSnapshot fits isRead).1
          rw [← isStage]
          cases isWatched with
          | true => exact covers
          | false => exact covers
  | comparing snapshot =>
      unfold ShimWorld.stepPoll
      dsimp only
      split
      · next same =>
          have ended : Watched (w.setPoll poll none) :=
            watched.setPoll poll fun next absent => by cases absent
          rcases watched.last with unpolled | ⟨other, isApplied, isEpoch⟩
          · have nonneg := snapshot.nonneg
            omega
          · exact ended.observe isApplied (isEpoch.trans same.symm) (.inl rfl)
      · apply watched.setPoll
        intro next isNext
        cases isNext
        exact fits
  | applying isWatched snapshot =>
      have applied := watched.applyRevocations fits
      apply applied.setPoll
      intro next isNext
      cases isWatched with
      | true =>
          cases isNext
          exact List.mem_append_right _ (List.mem_singleton_self _)
      | false => cases isNext
  | finishing snapshot =>
      have ended : Watched (w.setPoll poll none) :=
        watched.setPoll poll fun next absent => by cases absent
      exact ended.observe fits rfl (.inr rfl)

theorem stepPrompt (watched : Watched w) (prompt : Nat) (passes : Bool) {stage : PromptStage}
    (fits : stage.Fits w) (timely : ∀ sessionId agentId snapshot since,
      stage = .calling sessionId agentId snapshot since →
        ∀ later ∈ w.applied.drop since, agentId ∉ later.revokedAgentKeyIds) :
    Watched (w.stepPrompt prompt passes stage) := by
  cases stage with
  | reading sessionId agentId epoch =>
      cases epoch with
      | none =>
          apply watched.setPrompt
          intro next isNext
          obtain ⟨epoch, isRead, isStage⟩ := Option.map_eq_some_iff.mp isNext
          rw [← isStage]
          exact (RevocationDb.epoch_of_readEpoch watched.valid isRead).le
      | some epoch =>
          apply watched.setPrompt
          intro next isNext
          obtain ⟨snapshot, isRead, isStage⟩ := Option.map_eq_some_iff.mp isNext
          rw [← isStage]
          refine ⟨Nat.le_refl _, ?_⟩
          intro earlier isApplied
          rw [List.take_length] at isApplied
          rw [(covers_acpSnapshot fits isRead).2]
          exact (watched.covers earlier isApplied).agents_subset
  | verifying sessionId agentId snapshot since =>
      unfold ShimWorld.stepPrompt
      dsimp only
      split
      · exact (watched.pop sessionId).setPrompt prompt fun next absent => by cases absent
      · next unnamed =>
          apply watched.setPrompt
          intro next isNext
          split at isNext
          · cases isNext
            exact ⟨fits, unnamed⟩
          · cases isNext
  | calling sessionId agentId snapshot since =>
      have unnamed : ∀ applied ∈ w.applied, agentId ∉ applied.revokedAgentKeyIds := by
        intro applied isApplied
        rw [← List.take_append_drop since w.applied] at isApplied
        rcases List.mem_append.mp isApplied with before | later
        · exact fun named => fits.2 (fits.1.2 applied before named)
        · exact timely sessionId agentId snapshot since rfl applied later
      exact (watched.bindAgent unnamed).setPrompt prompt fun next absent => by cases absent

theorem step (watched : Watched w) {label : ShimLabel} (timely : Timely w label) {t : ShimWorld}
    (next : w.step label = some t) : Watched t := by
  cases label with
  | revoke targetType targetId operatorId reason revokedAt =>
      cases next
      obtain ⟨valid, grows⟩ :=
        RevocationDb.valid_revoke watched.valid targetType targetId operatorId reason revokedAt
      exact watched.revoke valid grows
  | newSession sessionId =>
      unfold ShimWorld.step at next
      dsimp only at next
      split at next
      · cases next
        exact watched.newSession sessionId
      · cases next
  | endSession sessionId =>
      cases next
      exact watched.pop sessionId
  | startPoll poll isWatched =>
      unfold ShimWorld.step at next
      dsimp only at next
      split at next
      · cases next
        apply watched.setPoll
        intro stage isStage
        cases isStage
        trivial
      · cases next
  | poll poll =>
      obtain ⟨stage, isStage, isNext⟩ := Option.map_eq_some_iff.mp next
      rw [← isNext]
      exact watched.stepPoll poll (watched.polls poll stage isStage)
  | failPoll poll =>
      cases next
      exact watched.setPoll poll fun stage absent => by cases absent
  | startPrompt prompt sessionId agentId =>
      unfold ShimWorld.step at next
      dsimp only at next
      split at next
      · cases next
        apply watched.setPrompt
        intro stage isStage
        cases isStage
        trivial
      · cases next
  | prompt prompt passes =>
      obtain ⟨stage, isStage, isNext⟩ := Option.map_eq_some_iff.mp next
      rw [← isNext]
      apply watched.stepPrompt prompt passes (watched.prompts prompt stage isStage)
      intro sessionId agentId snapshot since isCalling
      rw [isCalling] at isStage
      exact timely sessionId agentId snapshot since isStage
  | failPrompt prompt =>
      cases next
      exact watched.setPrompt prompt fun stage absent => by cases absent

end Watched

theorem watched_of_fresh {w : ShimWorld} (fresh : w.Fresh) : Watched w := by
  obtain ⟨valid, noSessions, unpolled, noPolls, noPrompts, unapplied, unobserved⟩ := fresh
  refine ⟨valid, ?_, ?_, ?_, .inl unpolled, ?_, ?_⟩
  · intro snapshot isApplied
    rw [unapplied] at isApplied
    cases isApplied
  · intro snapshot isApplied
    rw [unapplied] at isApplied
    cases isApplied
  · intro epoch isObserved
    rw [unobserved] at isObserved
    cases isObserved
  · intro poll stage isStage
    rw [noPolls] at isStage
    cases isStage
  · intro prompt stage isStage
    rw [noPrompts] at isStage
    cases isStage

/-- In every run whose prompts bind in time, what a poll has observed is enforced. -/
theorem enforced_of_run {labels : List ShimLabel} {w : ShimWorld}
    (run : shimSystem.Run labels w) (timely : shimSystem.Guarded Timely labels) : Enforced w := by
  have watched : Watched w :=
    @System.Run.invariant_guarded _ _ _ Watched Timely (fun _ => watched_of_fresh)
      (fun _ _ _ holds guarded next => holds.step guarded next) _ _ run timely
  exact watched.enforced

/-! Samples: a prompt of an agent that is revoked after it bound, and before. -/

theorem unapplied_of_run {labels : List ShimLabel} {w : ShimWorld}
    (run : shimSystem.Run labels w) (unpolled : ∀ label ∈ labels, ∀ poll, label ≠ .poll poll) :
    w.applied = [] := by
  apply @System.Run.invariant_of _ _ _ (fun w : ShimWorld => w.applied = [])
    (fun label => ∀ poll, label ≠ .poll poll) _ _ _ _ run unpolled
  · exact fun w fresh => fresh.2.2.2.2.2.1
  · intro w label t unapplied wanted next
    cases label with
    | poll poll => exact absurd rfl (wanted poll)
    | revoke | endSession | failPoll | failPrompt =>
        cases next
        exact unapplied
    | newSession | startPoll | startPrompt =>
        change ShimWorld.step w _ = some t at next
        unfold ShimWorld.step at next
        dsimp only at next
        split at next
        · cases next
          exact unapplied
        · cases next
    | prompt prompt passes =>
        obtain ⟨stage, -, isNext⟩ := Option.map_eq_some_iff.mp next
        rw [← isNext]
        unfold ShimWorld.stepPrompt ShimWorld.bindAgent
        split
        · exact unapplied
        · exact unapplied
        · split
          · exact unapplied
          · exact unapplied
        · split
          · exact unapplied
          · exact unapplied

def sampleShim : ShimWorld where
  registry := ⟨some (some 0), some []⟩
  sessions := .empty
  lastEpoch := -1
  polls _ := none
  prompts _ := none
  applied := []
  observed := []

theorem fresh_sampleShim : sampleShim.Fresh :=
  ⟨⟨rfl, List.nodup_nil, rfl⟩, rfl, rfl, fun _ => rfl, fun _ => rfl, rfl, rfl⟩

def samplePrompt : List ShimLabel :=
  [.newSession (Str.lit "session"), .startPrompt 0 (Str.lit "session") (Str.lit "agent"),
    .prompt 0 true, .prompt 0 true, .prompt 0 true]

def samplePoll : List ShimLabel :=
  [.revoke .agent (Str.lit "agent") (Str.lit "operator") (Str.lit "reason") (.finite .zero),
    .startPoll 0 true, .poll 0, .poll 0, .poll 0, .poll 0, .poll 0]

/-- The prompt binds its agent before the revocation. -/
def sampleBound : List ShimLabel := samplePrompt ++ [.prompt 0 true] ++ samplePoll

/-- The prompt binds its agent after the poll. -/
def sampleLate : List ShimLabel := samplePrompt ++ samplePoll ++ [.prompt 0 true]

/-- A run of the sample shim, as far as it goes. -/
def sampleRun (labels : List ShimLabel) : Option ShimWorld :=
  labels.foldlM ShimWorld.step sampleShim

theorem run_of_sampleRun {labels : List ShimLabel} {w : ShimWorld}
    (found : sampleRun labels = some w) : shimSystem.Run labels w :=
  System.Run.fold (fun _ _ _ next => next) (.start fresh_sampleShim) found

theorem enforced_of_run_boundBefore :
    ∃ w, shimSystem.Run sampleBound w ∧ w.observed = [1] ∧ Enforced w := by
  have ends : (sampleRun sampleBound).map ShimWorld.observed = some [1] := by
    decide +kernel
  obtain ⟨w, found, isObserved⟩ := Option.map_eq_some_iff.mp ends
  refine ⟨w, run_of_sampleRun found, isObserved, enforced_of_run (run_of_sampleRun found) ?_⟩
  have ordered : sampleBound.Pairwise fun before after =>
      (∃ passes, after = .prompt 0 passes) → ∀ poll, before ≠ .poll poll := by
    simp [sampleBound, samplePrompt, samplePoll]
  intro front label rest reached split run
  rw [split] at ordered
  have earlier := (List.pairwise_append.mp ordered).2.2
  cases label with
  | prompt prompt passes =>
      have isFirst : prompt = 0 := by
        have member : ShimLabel.prompt prompt passes ∈ sampleBound := by
          rw [split]
          simp
        simp only [sampleBound, samplePrompt, samplePoll, List.mem_append, List.mem_cons,
          List.not_mem_nil,
          ShimLabel.prompt.injEq, reduceCtorEq, or_false, false_or] at member
        omega
      have unapplied := unapplied_of_run run fun before member =>
        earlier before member _ List.mem_cons_self ⟨passes, by rw [isFirst]⟩
      intro sessionId agentId snapshot since _ later isApplied
      rw [unapplied, List.drop_nil] at isApplied
      cases isApplied
  | revoke | newSession | endSession | startPoll | poll | failPoll | startPrompt | failPrompt =>
      trivial

/-- A prompt that binds its agent after the poll leaves it bound. -/
theorem bound_after_poll_not_enforced :
    ¬ ∀ labels w, shimSystem.Run labels w → Enforced w := by
  intro enforced
  have ends : (sampleRun sampleLate).any (fun w =>
      decide (1 ∈ w.observed) &&
        (w.sessions.get? (Str.lit "session")).any (fun ids => decide (Str.lit "agent" ∈ ids)) &&
        w.registry.rows.any fun row => decide (row.target = (.agent, Str.lit "agent") ∧
          row.epoch = 1)) = true := by
    decide +kernel
  obtain ⟨w, found, holds⟩ := (Option.any_eq_true _ _).mp ends
  obtain ⟨isBound, hasRow⟩ := Bool.and_eq_true_iff.mp holds
  obtain ⟨isObserved, bound⟩ := Bool.and_eq_true_iff.mp isBound
  obtain ⟨agentIds, held, isAgent⟩ := (Option.any_eq_true _ _).mp bound
  obtain ⟨row, member, isRow⟩ := List.any_eq_true.mp hasRow
  obtain ⟨isTarget, isEpoch⟩ := of_decide_eq_true isRow
  have later := enforced _ w (run_of_sampleRun found) 1 (of_decide_eq_true isObserved) _ agentIds
    held _ (of_decide_eq_true isAgent) row member isTarget
  rw [isEpoch] at later
  exact absurd later (lt_irrefl 1)

end SelfConnect.Revocation
