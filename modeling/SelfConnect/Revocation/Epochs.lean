import SelfConnect.Revocation.Registry
import SelfConnect.Library.HashChain

namespace SelfConnect.Revocation

open SelfConnect.Python SelfConnect.Library

/-! What is committed: one row for each revoked target, numbered in the order of the
revocations, and their count. -/

namespace RevocationRow

def target (row : RevocationRow) : TargetType × Str := (row.targetType, row.targetId)

end RevocationRow

namespace RevocationDb

structure Valid (db : RevocationDb) : Prop where
  epochs : db.rows.map RevocationRow.epoch = numbering db.rows.length
  distinct : (db.rows.map RevocationRow.target).Nodup
  counted : db.epoch = db.rows.length

theorem valid_empty : empty.Valid := ⟨rfl, List.nodup_nil, rfl⟩

/-- A target has been revoked with an epoch. -/
def Revoked (db : RevocationDb) (target : TargetType × Str) (epoch : Int) : Prop :=
  ∃ row ∈ db.rows, row.target = target ∧ row.epoch = epoch

theorem Revoked.mono {s t : RevocationDb} (grows : s.rows <+: t.rows)
    {target : TargetType × Str} {epoch : Int} (revoked : s.Revoked target epoch) :
    t.Revoked target epoch := by
  obtain ⟨row, member, isTarget, isEpoch⟩ := revoked
  exact ⟨row, grows.subset member, isTarget, isEpoch⟩

theorem Revoked.unique {db : RevocationDb} (valid : db.Valid) {target : TargetType × Str}
    {first second : Int} (revoked : db.Revoked target first)
    (again : db.Revoked target second) : first = second := by
  obtain ⟨row, member, isTarget, isEpoch⟩ := revoked
  obtain ⟨other, otherMember, isOther, isSecond⟩ := again
  have same := List.inj_on_of_nodup_map valid.distinct member otherMember
    (isTarget.trans isOther.symm)
  rw [← isEpoch, same, isSecond]

/-- The rows that a front of the table holds are those of the first epochs. -/
theorem Valid.mem_front {db : RevocationDb} (valid : db.Valid) {front : List RevocationRow}
    (isFront : front <+: db.rows) {row : RevocationRow} (member : row ∈ db.rows)
    (early : row.epoch ≤ front.length) : row ∈ front := by
  obtain ⟨rest, isRows⟩ := isFront
  obtain ⟨i, bound, isRow⟩ := List.getElem_of_mem member
  have isEpoch : row.epoch = (i : Int) + 1 := by
    have atIndex : (db.rows.map RevocationRow.epoch)[i]? = some row.epoch := by
      simp [isRow, bound]
    rw [valid.epochs, numbering] at atIndex
    simpa [bound, eq_comm] using atIndex
  have inFront : i < front.length := by omega
  have isElement : front[i] = row := by
    rw [← isRow]
    simp only [← isRows]
    exact (List.getElem_append_left inFront).symm
  rw [← isElement]
  exact List.getElem_mem inFront

end RevocationDb

/-- The identifiers of one type in a snapshot. -/
def RevocationState.ids (state : RevocationState) : TargetType → Finset Str
  | .agent => state.revokedAgentKeyIds
  | .grant => state.revokedGrantIds

/-- What a snapshot says of the rows: it holds those of a front as long as its epoch. -/
def RevocationState.Covers (state : RevocationState) (db : RevocationDb) : Prop :=
  ∃ front, front <+: db.rows ∧ state.epoch ≤ front.length ∧
    state.revokedAgentKeyIds = idsOf .agent (front.map RevocationRow.target) ∧
    state.revokedGrantIds = idsOf .grant (front.map RevocationRow.target)

/-- The target a call revokes. -/
def RegistryCall.target : RegistryCall → Option (TargetType × Value)
  | .revokeAgent canonicalAgentId _ _ _ => some (.agent, canonicalAgentId)
  | .revokeGrant grantId _ _ _ => some (.grant, grantId)
  | .connect | .snapshot => none

/-- What a call that has ended reported, of the rows as they are. -/
def Reported (call : RegistryCall) (outcome : Except RevocationError RegistryReply)
    (db : RevocationDb) : Prop :=
  (∀ targetType targetId epoch, call.target = some (targetType, .str targetId) →
      outcome = .ok (.epoch epoch) → db.Revoked (targetType, targetId) epoch) ∧
    ∀ state, outcome = .ok (.state state) → state.Covers db

theorem reported_mono {call : RegistryCall} {outcome : Except RevocationError RegistryReply}
    {s t : RevocationDb} (grows : s.rows <+: t.rows) (reported : Reported call outcome s) :
    Reported call outcome t := by
  obtain ⟨revoked, covers⟩ := reported
  constructor
  · exact fun targetType targetId epoch isTarget isEpoch =>
      (revoked targetType targetId epoch isTarget isEpoch).mono grows
  · intro state isState
    obtain ⟨front, isFront, bounds⟩ := covers state isState
    exact ⟨front, isFront.trans grows, bounds⟩

def registryDiscipline (Instance : Type) : Discipline Instance RevocationDb where
  inv := RevocationDb.Valid
  guarantee _ s t := s.rows <+: t.rows
  rely _ s t := s.rows <+: t.rows
  rely_refl _ s := s.rows.prefix_refl
  rely_trans _ _ _ _ first second := first.trans second
  rely_of_guarantee _ _ _ _ _ grows := grows

/-! What the statements of a revocation find and do. -/

namespace RegistryQuery

variable {s t : RevocationDb} {targetType : TargetType} {targetId : Str} {epoch : Int}

theorem revoked_of_selectExisting
    (executed : (selectExisting targetType targetId).exec s = some (some epoch, t)) :
    s.Revoked (targetType, targetId) epoch := by
  obtain ⟨rows, isRows, isAnswer⟩ := Option.map_eq_some_iff.mp executed
  obtain ⟨row, found, isEpoch⟩ := Option.map_eq_some_iff.mp (congrArg Prod.fst isAnswer)
  have isTarget : row.targetType = targetType ∧ row.targetId = targetId := by
    simpa using List.find?_some found
  refine ⟨row, ?_, Prod.ext isTarget.1 isTarget.2, isEpoch⟩
  rw [RevocationDb.rows, isRows]
  exact List.mem_of_find?_eq_some found

/-- Tables and rows that are there stay as they are when they are created again. -/
theorem same_of_setup {query : RegistryQuery} {result : query.Result}
    (setup : query ∈ [createMeta, insertMeta, createRevocation])
    (executed : query.exec s = some (result, t)) : t.rows = s.rows ∧ t.epoch = s.epoch := by
  simp only [List.mem_cons, List.not_mem_nil, or_false] at setup
  rcases setup with isQuery | isQuery | isQuery
  · cases isQuery
    cases executed
    refine ⟨rfl, ?_⟩
    unfold RevocationDb.epoch
    cases s.revocationMeta <;> rfl
  · cases isQuery
    obtain ⟨row, isMeta, isAnswer⟩ := Option.map_eq_some_iff.mp executed
    cases isAnswer
    refine ⟨rfl, ?_⟩
    unfold RevocationDb.epoch
    rw [isMeta]
    cases row <;> rfl
  · cases isQuery
    cases executed
    exact ⟨rfl, rfl⟩

theorem exec_bumpEpoch (executed : bumpEpoch.exec s = some (some epoch, t)) :
    epoch = s.epoch + 1 ∧ t = { s with revocationMeta := some (some epoch) } := by
  unfold exec at executed
  dsimp only at executed
  split at executed
  · next stored isMeta =>
      split at executed
      · cases executed
        rw [RevocationDb.epoch, isMeta]
        exact ⟨rfl, rfl⟩
      · cases executed
  · next isMeta =>
      cases executed
  · cases executed

theorem exec_insertRevocation {row : RevocationRow} {inserted : Unit}
    (executed : (insertRevocation row).exec s = some (inserted, t)) :
    t.rows = s.rows ++ [row] ∧ t.epoch = s.epoch ∧
      row.target ∉ s.rows.map RevocationRow.target := by
  obtain ⟨rows, isRows, inserts⟩ := Option.bind_eq_some_iff.mp executed
  have stored : s.rows = rows := by
    rw [RevocationDb.rows, isRows]
    rfl
  split at inserts
  · cases inserts
  · next fresh =>
      cases inserts
      refine ⟨by rw [stored]; rfl, rfl, ?_⟩
      rw [stored]
      intro present
      obtain ⟨other, member, same⟩ := List.mem_map.mp present
      apply fresh
      apply List.any_eq_true.mpr
      exact ⟨other, member, decide_eq_true ⟨congrArg Prod.fst same, congrArg Prod.snd same⟩⟩

end RegistryQuery

theorem RevocationDb.Valid.of_same {s t : RevocationDb} (valid : s.Valid)
    (sameRows : t.rows = s.rows) (sameEpoch : t.epoch = s.epoch) : t.Valid := by
  constructor
  · rw [sameRows]
    exact valid.epochs
  · rw [sameRows]
    exact valid.distinct
  · rw [sameRows, sameEpoch]
    exact valid.counted

/-- A new target takes the next epoch. -/
theorem RevocationDb.Valid.insert {s t : RevocationDb} (valid : s.Valid) {row : RevocationRow}
    (isRows : t.rows = s.rows ++ [row]) (isEpoch : row.epoch = s.epoch + 1)
    (counts : t.epoch = s.epoch + 1) (fresh : row.target ∉ s.rows.map RevocationRow.target) :
    t.Valid := by
  constructor
  · rw [isRows, List.map_append, valid.epochs, List.length_append, List.length_singleton,
      numbering_succ, List.map_singleton, isEpoch, valid.counted]
  · rw [isRows, List.map_append, List.map_singleton]
    apply List.nodup_append.mpr
    refine ⟨valid.distinct, List.nodup_singleton _, ?_⟩
    intro first firstMember second secondMember same
    rw [List.mem_singleton.mp secondMember] at same
    rw [same] at firstMember
    exact fresh firstMember
  · rw [counts, valid.counted, isRows, List.length_append, List.length_singleton]
    push_cast
    rfl

/-! Each call keeps to the discipline, whatever its statements do. -/

section Calls

variable {Instance : Type} {client : Instance} {s : RevocationDb}

abbrev Safely (client : Instance) {α : Type}
    (post : Except RevocationError α → View RevocationDb → Prop) (p : Registering α)
    (view : View RevocationDb) : Prop :=
  (registryDiscipline Instance).Safe registrySchema client post p.run view

/-- A program outside of any transaction may raise. -/
private theorem safely_throw {α : Type}
    {post : Except RevocationError α → View RevocationDb → Prop} (raised : RevocationError)
    (admits : ∀ t, post (.error raised) ⟨t, none⟩) :
    Safely client post (throw raised) ⟨s, none⟩ :=
  Discipline.Safe.done fun t _ _ => admits t

private theorem safely_rejectLegacyAgentRows :
    Safely client (fun _ view => view.working = none) rejectLegacyAgentRows ⟨s, none⟩ := by
  apply Discipline.Safe.read rfl
  · exact fun t _ _ => safely_throw _ fun _ => rfl
  · intro t result holds grows executed
    change Safely client _ (unless result.all fun targetId => isAgentPrincipal (.str targetId) do
      throw .legacy) ⟨t, none⟩
    split
    · exact Discipline.Safe.done fun _ _ _ => rfl
    · exact safely_throw _ fun _ => rfl

/-- What the transaction of a revocation leaves when it returns. -/
private def Committed (target : TargetType × Str) (outcome : Except RevocationError Int)
    (view : View RevocationDb) : Prop :=
  ∀ epoch, outcome = .ok epoch →
    view.working = none ∧ view.committed.Revoked target epoch

private theorem safely_raised {target : TargetType × Str} {raised : RevocationError}
    {view : View RevocationDb} :
    Safely client (Committed target) (throw raised) view := by
  intro t _ epoch absent
  cases absent

private theorem safely_commit {target : TargetType × Str} {epoch : Int} {copy : RevocationDb}
    (kept : copy = s ∨ copy.Valid ∧ s.rows <+: copy.rows) (revoked : copy.Revoked target epoch) :
    Safely client (Committed target) (execute .commit >>= fun _ => return epoch)
      ⟨s, some copy⟩ := by
  apply Discipline.Safe.commit kept
  · exact safely_raised
  · exact safely_raised
  · apply Discipline.Safe.done
    intro t _ grows other isEpoch
    cases isEpoch
    exact ⟨rfl, revoked.mono grows⟩

private theorem safely_revokeRow (valid : s.Valid) (targetType : TargetType)
    (targetId operatorId reason : Str) (revokedAt : PyFloat) :
    Safely client (Committed (targetType, targetId))
      (revokeRow targetType targetId operatorId reason revokedAt) ⟨s, some s⟩ := by
  apply Discipline.Safe.work
  · exact safely_raised
  · exact safely_raised
  · intro existing changed selected
    have unchanged : changed = s := registrySchema.exec_reads rfl selected
    rw [unchanged] at selected ⊢
    cases existing with
    | some epoch =>
        exact safely_commit (.inl rfl) (RegistryQuery.revoked_of_selectExisting selected)
    | none =>
        apply Discipline.Safe.work
        · exact safely_raised
        · exact safely_raised
        · intro stored bumped isBumped
          cases stored with
          | none => exact safely_raised
          | some epoch =>
              obtain ⟨isEpoch, isCopy⟩ := RegistryQuery.exec_bumpEpoch isBumped
              apply Discipline.Safe.work
              · exact safely_raised
              · exact safely_raised
              · intro done inserted isInserted
                obtain ⟨isRows, counts, fresh⟩ := RegistryQuery.exec_insertRevocation isInserted
                rw [isCopy] at isRows counts fresh
                have grows : s.rows <+: inserted.rows := by
                  rw [isRows]
                  exact List.prefix_append _ _
                apply safely_commit (.inr ⟨valid.insert isRows isEpoch ?_ fresh, grows⟩)
                · refine ⟨⟨targetType, targetId, operatorId, reason, revokedAt, epoch⟩, ?_, rfl, rfl⟩
                  rw [isRows]
                  exact List.mem_append_right _ (List.mem_singleton_self _)
                · rw [counts, ← isEpoch]
                  rfl

/-- What a revocation of a target leaves, whatever it reports. -/
private def Leaves (targetType : TargetType) (target : Value)
    (outcome : Except RevocationError Int) (view : View RevocationDb) : Prop :=
  view.working = none ∧ ∀ targetId epoch, target = .str targetId → outcome = .ok epoch →
    view.committed.Revoked (targetType, targetId) epoch

private theorem leaves_error {targetType : TargetType} {target : Value} (raised : RevocationError)
    (t : RevocationDb) : Leaves targetType target (.error raised) ⟨t, none⟩ := by
  refine ⟨rfl, ?_⟩
  intro targetId epoch _ absent
  cases absent

private theorem eq_str_of_boundedText {name : String} {value : Value} {text : Str}
    (bounded : boundedText name value = .ok text) : value = .str text := by
  unfold boundedText at bounded
  split at bounded
  · split at bounded
    · cases bounded
    · cases bounded
      rfl
  · cases bounded

private theorem safely_revoke (targetType : TargetType)
    (target operatorId reason revokedAt : Value) :
    Safely client (Leaves targetType target)
      (revoke targetType target operatorId reason revokedAt) ⟨s, none⟩ := by
  unfold revoke
  cases isTarget : boundedText "target_id" target with
  | error raised => exact safely_throw raised (leaves_error raised)
  | ok targetId =>
      have target_eq := eq_str_of_boundedText isTarget
      cases boundedText "operator_id" operatorId with
      | error raised => exact safely_throw raised (leaves_error raised)
      | ok operatorId =>
          cases boundedText "reason" reason with
          | error raised => exact safely_throw raised (leaves_error raised)
          | ok reason =>
              cases finiteTime revokedAt with
              | error raised => exact safely_throw raised (leaves_error raised)
              | ok revokedAt =>
                  apply Discipline.Safe.begin
                  · exact fun t _ _ => safely_throw _ (leaves_error _)
                  · intro t valid _
                    apply Discipline.Safe.bind valid
                      (safely_revokeRow valid targetType targetId operatorId reason revokedAt)
                    intro outcome view holds committed
                    cases outcome with
                    | ok epoch =>
                        obtain ⟨ended, revoked⟩ := committed epoch rfl
                        obtain ⟨now, own⟩ := view
                        cases ended
                        apply Discipline.Safe.done
                        intro u _ grows
                        refine ⟨rfl, ?_⟩
                        intro other again isOther isEpoch
                        rw [target_eq] at isOther
                        cases isOther
                        cases isEpoch
                        exact revoked.mono grows
                    | error raised =>
                        apply Discipline.Safe.rollback
                        intro answer u _
                        cases answer with
                        | none => exact safely_throw _ (leaves_error _)
                        | some rolledBack => exact safely_throw _ (leaves_error _)

private theorem safely_revokeAgent (canonicalAgentId operatorId reason revokedAt : Value) :
    Safely client (Leaves .agent canonicalAgentId)
      (revokeAgent canonicalAgentId operatorId reason revokedAt) ⟨s, none⟩ := by
  unfold revokeAgent
  split
  · exact safely_revoke .agent canonicalAgentId operatorId reason revokedAt
  · exact safely_throw _ (leaves_error _)

private theorem safely_setup {query : RegistryQuery} {β : Type} {next : Registering β}
    {post : Except RevocationError β → View RevocationDb → Prop}
    (setup : query ∈ [.createMeta, .insertMeta, .createRevocation])
    (admits : ∀ raised t, post (.error raised) ⟨t, none⟩)
    (continues : ∀ t, Safely client post next ⟨t, none⟩) :
    Safely client post (execute (.query query) >>= fun _ => next) ⟨s, none⟩ := by
  apply Discipline.Safe.query
  · exact fun t _ _ => safely_throw _ (admits _)
  · intro t result u valid _ executed
    obtain ⟨sameRows, sameEpoch⟩ := RegistryQuery.same_of_setup setup executed
    refine ⟨.inr ⟨valid.of_same sameRows sameEpoch, ?_⟩, continues u⟩
    change t.rows <+: u.rows
    rw [sameRows]

private theorem safely_connect :
    Safely client (fun _ view => view.working = none) connect ⟨s, none⟩ := by
  apply safely_setup (by simp) fun _ _ => rfl
  intro t
  apply safely_setup (by simp) fun _ _ => rfl
  intro t
  apply safely_setup (by simp) fun _ _ => rfl
  exact fun t => safely_rejectLegacyAgentRows

/-- What a snapshot leaves, whatever it reports. -/
private def Snapped (outcome : Except RevocationError RevocationState)
    (view : View RevocationDb) : Prop :=
  view.working = none ∧ ∀ state, outcome = .ok state → state.Covers view.committed

private theorem safely_snapshot (valid : s.Valid) :
    Safely client Snapped snapshot ⟨s, none⟩ := by
  have raises : ∀ raised t, Snapped (.error raised) ⟨t, none⟩ := by
    intro raised t
    refine ⟨rfl, ?_⟩
    intro state absent
    cases absent
  apply Discipline.Safe.bindExcept valid safely_rejectLegacyAgentRows
  · intro raised view _ ended
    obtain ⟨t, own⟩ := view
    cases ended
    exact safely_throw raised (raises raised)
  · intro checked view holds ended
    obtain ⟨t, own⟩ := view
    cases ended
    apply Discipline.Safe.read rfl
    · exact fun u _ _ => safely_throw _ (raises _)
    · intro u stored valid _ selected
      cases stored with
      | none => exact safely_throw _ (raises _)
      | some epoch =>
          have counted : epoch = u.rows.length := by
            obtain ⟨row, isMeta, isAnswer⟩ := Option.map_eq_some_iff.mp selected
            cases isAnswer
            rw [← valid.counted, RevocationDb.epoch, isMeta]
            rfl
          apply Discipline.Safe.read rfl
          · exact fun v _ _ => safely_throw _ (raises _)
          · intro v rows _ grown read
            have isRows : rows = v.rows.map RevocationRow.target := by
              obtain ⟨found, isTable, isAnswer⟩ := Option.map_eq_some_iff.mp read
              rw [RevocationDb.rows, isTable]
              exact (congrArg Prod.fst isAnswer).symm
            apply Discipline.Safe.done
            intro w _ grows
            refine ⟨rfl, ?_⟩
            intro state isState
            cases isState
            have bound : epoch ≤ v.rows.length := by
              have longer := grown.length_le
              omega
            refine ⟨v.rows, grows, bound, ?_, ?_⟩
            · rw [isRows]
            · rw [isRows]

end Calls

/-! Whole runs. -/

section Runs

variable {Instance : Type}

private theorem safely_map {α : Type} {client : Instance} {call : RegistryCall} {s : RevocationDb}
    {p : Registering α} {reply : α → RegistryReply}
    {mid : Except RevocationError α → View RevocationDb → Prop} (valid : s.Valid)
    (safely : Safely client mid p ⟨s, none⟩)
    (reports : ∀ outcome view, mid outcome view →
      Kept Reported call (outcome.map reply) view) :
    Safely client (Kept Reported call) (reply <$> p) ⟨s, none⟩ := by
  have same : (reply <$> p).run = p.run >>= fun outcome => .done (outcome.map reply) := by
    change Script.bind p.run _ = Script.bind p.run _
    congr
    funext outcome
    cases outcome <;> rfl
  rw [Safely, same]
  apply Discipline.Safe.bind valid safely
  intro outcome view holds ended
  have reported := reports outcome view ended
  obtain ⟨t, own⟩ := view
  cases reported.1
  exact Discipline.Safe.done fun u _ grows => ⟨rfl, reported_mono grows reported.2⟩

private theorem reported_revocation {call : RegistryCall} {targetType : TargetType}
    {target : Value} (isTarget : call.target = some (targetType, target))
    {outcome : Except RevocationError Int} {view : View RevocationDb}
    (leaves : Leaves targetType target outcome view) :
    Kept Reported call (outcome.map .epoch) view := by
  refine ⟨leaves.1, ?_, ?_⟩
  · intro otherType targetId epoch isOther isEpoch
    cases isTarget.symm.trans isOther
    cases outcome with
    | error raised => cases isEpoch
    | ok reported =>
        cases isEpoch
        exact leaves.2 targetId epoch rfl rfl
  · intro state absent
    cases outcome <;> cases absent

private theorem safely_call (client : Instance) (call : RegistryCall) {s : RevocationDb}
    (valid : s.Valid) : Safely client (Kept Reported call) call.program ⟨s, none⟩ := by
  cases call with
  | connect =>
      apply safely_map valid safely_connect
      intro outcome view ended
      refine ⟨ended, ?_, ?_⟩
      · intro targetType targetId epoch absent
        cases absent
      · intro state absent
        cases outcome <;> cases absent
  | revokeAgent canonicalAgentId operatorId reason revokedAt =>
      apply safely_map valid
        (safely_revokeAgent canonicalAgentId operatorId reason revokedAt)
      exact fun outcome view leaves => reported_revocation rfl leaves
  | revokeGrant grantId operatorId reason revokedAt =>
      apply safely_map valid (safely_revoke .grant grantId operatorId reason revokedAt)
      exact fun outcome view leaves => reported_revocation rfl leaves
  | snapshot =>
      apply safely_map valid (safely_snapshot valid)
      intro outcome view snapped
      refine ⟨snapped.1, ?_, ?_⟩
      · intro targetType targetId epoch absent
        cases absent
      · intro state isState
        cases outcome with
        | error raised => cases isState
        | ok taken =>
            cases isState
            exact snapped.2 state rfl

theorem RevocationState.Covers.mem {state : RevocationState} {db : RevocationDb}
    (covers : state.Covers db) (valid : db.Valid) {row : RevocationRow} (member : row ∈ db.rows)
    (early : row.epoch ≤ state.epoch) : row.targetId ∈ state.ids row.targetType := by
  obtain ⟨front, isFront, bound, agents, grants⟩ := covers
  have inFront := valid.mem_front isFront member (early.trans bound)
  have ids : state.ids row.targetType =
      idsOf row.targetType (front.map RevocationRow.target) := by
    cases row.targetType with
    | agent => exact agents
    | grant => exact grants
  rw [ids, idsOf, List.mem_toFinset]
  apply List.mem_map.mpr
  refine ⟨row.target, ?_, rfl⟩
  apply List.mem_filter.mpr
  exact ⟨List.mem_map_of_mem inFront, decide_eq_true rfl⟩

variable [DecidableEq Instance]

/-- What the registries of one database have committed and reported. -/
structure Sound (world : RegistryWorld Instance) : Prop where
  distinct : (world.store.committed.rows.map RevocationRow.target).Nodup
  epochs : world.store.committed.rows.map RevocationRow.epoch =
    numbering world.store.committed.rows.length
  stored : world.store.committed.epoch = world.store.committed.rows.length
  lasting : ∀ events t, ((registries Instance).since world).Run events t →
    world.store.committed.rows <+: t.store.committed.rows ∧
      world.store.committed.epoch ≤ t.store.committed.epoch
  reported : ∀ call targetType targetId epoch, call.target = some (targetType, .str targetId) →
    (call, .ok (.epoch epoch)) ∈ world.finished →
      world.store.committed.Revoked (targetType, targetId) epoch
  again : ∀ call other targetType targetId epoch second,
    call.target = some (targetType, .str targetId) →
    other.target = some (targetType, .str targetId) →
    (call, .ok (.epoch epoch)) ∈ world.finished → (other, .ok (.epoch second)) ∈ world.finished →
      epoch = second
  contained : ∀ call state, (call, .ok (.state state)) ∈ world.finished →
    ∀ row ∈ world.store.committed.rows, row.epoch ≤ state.epoch →
      row.targetId ∈ state.ids row.targetType

/-- Every run of any number of registries on one database is sound. -/
theorem registry_sound_of_run {events : List (Event Instance RegistryCall)}
    {world : RegistryWorld Instance}
    (run : (registries Instance).Run events world) : Sound world := by
  have stable : ∀ (client : Instance) (call : RegistryCall) outcome s t,
      (registryDiscipline Instance).inv s → (registryDiscipline Instance).inv t →
      (registryDiscipline Instance).guarantee client s t → Reported call outcome s →
      Reported call outcome t := fun _ _ _ _ _ _ _ grows => reported_mono grows
  have safe : ∀ (client : Instance) (call : RegistryCall) s,
      (registryDiscipline Instance).inv s →
      Safely client (Kept Reported call) call.program ⟨s, none⟩ :=
    fun client call _ valid => safely_call client call valid
  have begins : ∀ s : RevocationDb, s = .empty → (registryDiscipline Instance).inv s := by
    intro s isEmpty
    rw [isEmpty]
    exact RevocationDb.valid_empty
  have upheld := upheld_of_run stable safe begins run
  have valid : world.store.committed.Valid := upheld.holds
  have reported : ∀ call targetType targetId epoch,
      call.target = some (targetType, .str targetId) →
      (call, .ok (.epoch epoch)) ∈ world.finished →
      world.store.committed.Revoked (targetType, targetId) epoch :=
    fun call targetType targetId epoch isTarget ended =>
      (upheld.lasting call _ ended).1 targetType targetId epoch isTarget rfl
  refine ⟨valid.distinct, valid.epochs, valid.counted, ?_, reported, ?_, ?_⟩
  · intro later t onward
    obtain ⟨still, grown⟩ := upheld.grows stable safe (fun s => s.rows.prefix_refl)
      (fun _ _ _ first second => first.trans second) (fun _ _ _ grows => grows) onward
    have validNow : t.store.committed.Valid := still.holds
    refine ⟨grown, ?_⟩
    rw [valid.counted, validNow.counted]
    exact Int.ofNat_le.mpr grown.length_le
  · intro call other targetType targetId epoch second isTarget isOther ended endedAgain
    exact (reported call targetType targetId epoch isTarget ended).unique valid
      (reported other targetType targetId second isOther endedAgain)
  · intro call state ended row member early
    exact ((upheld.lasting call _ ended).2 state rfl).mem valid member early

/-! A sample: a snapshot while another instance revokes, and two revocations of one grant. -/

def sampleRevocation : RegistryCall :=
  .revokeGrant (.lit "grant") (.lit "operator") (.lit "reason") (.float (.finite .zero))

def sampleEvents : List (Event ℕ RegistryCall) :=
  let works client count := List.replicate count (Event.serve client .works)
  [.start 0 .connect] ++ works 0 4 ++ [.finish 0, .start 1 sampleRevocation] ++ works 1 4 ++
    [.start 0 .snapshot] ++ works 0 2 ++ works 1 1 ++ [.finish 1] ++ works 0 1 ++
    [.finish 0, .start 2 sampleRevocation] ++ works 2 3 ++ [.finish 2]

theorem registry_sound_of_run_racing : ∃ world : RegistryWorld ℕ,
    (registries ℕ).Run sampleEvents world ∧ world.finished.length = 4 ∧ Sound world := by
  let first : RegistryWorld ℕ := ⟨⟨.empty, none⟩, fun _ => none, []⟩
  let find : RegistryWorld ℕ → Event ℕ RegistryCall → Option (RegistryWorld ℕ) :=
    World.step registrySchema fun call => call.program.run
  have start : (registries ℕ).Run [] first := .start ⟨rfl, rfl, fun _ => rfl, rfl⟩
  have ends : ((sampleEvents.foldlM find first).map fun world => world.finished.length) =
      some 4 := by
    decide +kernel
  obtain ⟨world, found, count⟩ := Option.map_eq_some_iff.mp ends
  have run := start.fold (fun _ _ _ next => next) found
  exact ⟨world, run, count, registry_sound_of_run run⟩

end Runs

end SelfConnect.Revocation
