import SelfConnect.Delegation.Custody

namespace SelfConnect.Delegation

open SelfConnect.Python SelfConnect.Library

/-! How far the call that claimed an action has come, and what each of its requests does. -/

variable {Ticket : Type} [DecidableEq Ticket] {callOf : Ticket → Option DelegationCall}
  {ticket : Ticket} {tuple : ActionTuple} {α β : Type}

/-- What the programs of the calls must keep to. -/
abbrev Safely (callOf : Ticket → Option DelegationCall) (ticket : Ticket)
    (post : Except Str α → ReplayDb Ticket → Prop) (p : Delegating α) (db : ReplayDb Ticket) :
    Prop :=
  (custody callOf).Safe ReplayDb.serve ticket post p.run db

/-- Nothing has been claimed or entered under the ticket. -/
structure Idle (ticket : Ticket) (db : ReplayDb Ticket) : Prop where
  unclaimed : ∀ other, .claimed other ∉ db.own ticket
  unentered : ∀ entry, .entered entry ∉ db.own ticket

/-- The action is claimed and not finalised: whether it has been begun, whether a body has
been entered, and whether a statement has raised. -/
structure Stage (ticket : Ticket) (tuple : ActionTuple) (begun entered troubled : Bool)
    (db : ReplayDb Ticket) : Prop where
  claimed : .claimed tuple ∈ db.own ticket
  only : ∀ other, .claimed other ∈ db.own ticket → other = tuple
  row : ∃ row, db.rows.get? tuple.actionId = some row ∧ row.tuple = tuple ∧
    row.outcome = .admitted ∧ row.actuatorStarted = begun
  unentered : entered = false → ∀ entry, .entered entry ∉ db.own ticket
  troubled : troubled = true ↔ .unanswered ∈ db.own ticket

/-- The action is finalised with a row. -/
structure Settled (ticket : Ticket) (tuple : ActionTuple) (row : ReplayRow) (troubled : Bool)
    (db : ReplayDb Ticket) : Prop where
  claimed : .claimed tuple ∈ db.own ticket
  only : ∀ other, .claimed other ∈ db.own ticket → other = tuple
  found : db.rows.get? tuple.actionId = some row
  troubled : troubled = true ↔ .unanswered ∈ db.own ticket

variable {s t : ReplayDb Ticket} {begun entered troubled : Bool}

theorem Idle.later (idle : Idle ticket s) (undisturbed : Undisturbed ticket s t) :
    Idle ticket t := by
  constructor
  · rw [undisturbed.own]
    exact idle.unclaimed
  · rw [undisturbed.own]
    exact idle.unentered

theorem Idle.record (idle : Idle ticket s) : Idle ticket (s.record ticket .unanswered) := by
  constructor
  · intro other member
    rw [ReplayDb.own_record] at member
    exact idle.unclaimed other (by simpa using member)
  · intro entry member
    rw [ReplayDb.own_record] at member
    exact idle.unentered entry (by simpa using member)

theorem Stage.later (stage : Stage ticket tuple begun entered troubled s)
    (undisturbed : Undisturbed ticket s t) : Stage ticket tuple begun entered troubled t := by
  refine ⟨?_, ?_, ?_, ?_, ?_⟩
  · rw [undisturbed.own]
    exact stage.claimed
  · rw [undisturbed.own]
    exact stage.only
  · rw [undisturbed.rows tuple stage.claimed]
    exact stage.row
  · rw [undisturbed.own]
    exact stage.unentered
  · rw [undisturbed.own]
    exact stage.troubled

theorem Settled.later {row : ReplayRow} (settled : Settled ticket tuple row troubled s)
    (undisturbed : Undisturbed ticket s t) : Settled ticket tuple row troubled t := by
  refine ⟨?_, ?_, ?_, ?_⟩
  · rw [undisturbed.own]
    exact settled.claimed
  · rw [undisturbed.own]
    exact settled.only
  · rw [undisturbed.rows tuple settled.claimed]
    exact settled.found
  · rw [undisturbed.own]
    exact settled.troubled

/-- A statement that raises is noted. -/
theorem Stage.trouble (stage : Stage ticket tuple begun entered troubled s) :
    Stage ticket tuple begun entered true (s.record ticket .unanswered) := by
  refine ⟨?_, ?_, stage.row, ?_, ?_⟩
  · rw [ReplayDb.own_record]
    exact List.mem_append_left _ stage.claimed
  · intro other member
    rw [ReplayDb.own_record] at member
    exact stage.only other (by simpa using member)
  · intro none entry member
    rw [ReplayDb.own_record] at member
    exact stage.unentered none entry (by simpa using member)
  · rw [ReplayDb.own_record]
    simp

theorem Stage.start (stage : Stage ticket tuple false entered troubled s) {row : ReplayRow}
    (found : s.rows.get? tuple.actionId = some row) :
    Stage ticket tuple true entered troubled
      ((s.put tuple.actionId { row with actuatorStarted := true }).record ticket
        (.begun tuple)) := by
  obtain ⟨there, isThere, isTuple, isAdmitted, -⟩ := stage.row
  rw [found] at isThere
  cases isThere
  refine ⟨?_, ?_, ⟨{ row with actuatorStarted := true }, ?_, isTuple, isAdmitted, rfl⟩, ?_, ?_⟩
  · rw [ReplayDb.own_record, ReplayDb.own_put]
    exact List.mem_append_left _ stage.claimed
  · intro other member
    rw [ReplayDb.own_record, ReplayDb.own_put] at member
    exact stage.only other (by simpa using member)
  · rw [ReplayDb.rows_record, ReplayDb.row_put, if_pos rfl]
  · intro none entry member
    rw [ReplayDb.own_record, ReplayDb.own_put] at member
    exact stage.unentered none entry (by simpa using member)
  · rw [stage.troubled, ReplayDb.own_record, ReplayDb.own_put]
    simp

theorem Stage.enter (stage : Stage ticket tuple begun entered troubled s) (entry : Entry) :
    Stage ticket tuple begun true troubled (s.record ticket (.entered entry)) := by
  refine ⟨?_, ?_, stage.row, ?_, ?_⟩
  · rw [ReplayDb.own_record]
    exact List.mem_append_left _ stage.claimed
  · intro other member
    rw [ReplayDb.own_record] at member
    exact stage.only other (by simpa using member)
  · exact fun absurdly => by cases absurdly
  · rw [stage.troubled, ReplayDb.own_record]
    simp

/-- A call that has claimed nothing claims an action. -/
theorem Idle.claim (idle : Idle ticket s) {row : ReplayRow} (isAdmitted : row.outcome = .admitted) :
    ∃ troubled, Stage ticket row.tuple row.actuatorStarted false troubled
      ((s.put row.tuple.actionId row).record ticket (.claimed row.tuple)) := by
  have known : ∃ troubled, (troubled = true ↔ Happening.unanswered ∈ s.own ticket) := by
    by_cases raised : Happening.unanswered ∈ s.own ticket
    · exact ⟨true, iff_of_true rfl raised⟩
    · exact ⟨false, iff_of_false Bool.false_ne_true raised⟩
  obtain ⟨troubled, isTroubled⟩ := known
  refine ⟨troubled, ?_, ?_, ⟨row, ?_, rfl, isAdmitted, rfl⟩, ?_, ?_⟩
  · rw [ReplayDb.own_record]
    exact List.mem_append_right _ List.mem_cons_self
  · intro other member
    rw [ReplayDb.own_record, ReplayDb.own_put] at member
    rcases List.mem_append.mp member with before | last
    · exact absurd before (idle.unclaimed other)
    · cases List.mem_singleton.mp last
      rfl
  · rw [ReplayDb.rows_record, ReplayDb.row_put, if_pos rfl]
  · intro _ entry member
    rw [ReplayDb.own_record, ReplayDb.own_put] at member
    exact idle.unentered entry (by simpa using member)
  · rw [isTroubled, ReplayDb.own_record, ReplayDb.own_put]
    simp

/-- The row of a claimed action is finalised. -/
theorem Stage.finish (stage : Stage ticket tuple begun entered troubled s)
    (finished : ReplayRow) :
    Settled ticket tuple finished troubled
      ((s.put tuple.actionId finished).record ticket (.finalised tuple.actionId)) := by
  refine ⟨?_, ?_, ?_, ?_⟩
  · rw [ReplayDb.own_record, ReplayDb.own_put]
    exact List.mem_append_left _ stage.claimed
  · intro other member
    rw [ReplayDb.own_record, ReplayDb.own_put] at member
    exact stage.only other (by simpa using member)
  · rw [ReplayDb.rows_record, ReplayDb.row_put, if_pos rfl]
  · rw [stage.troubled, ReplayDb.own_record, ReplayDb.own_put]
    simp

/-! What each statement does. -/

omit [DecidableEq Ticket] in
theorem claim_cases (db : ReplayDb Ticket) (ticket : Ticket) (tuple : ActionTuple)
    (consumedAt : PyFloat) : db.claim ticket tuple consumedAt = (false, db) ∨
      ∃ row, row.tuple = tuple ∧ row.outcome = .admitted ∧ row.actuatorStarted = false ∧
        db.rows.get? row.tuple.actionId = none ∧ db.claim ticket tuple consumedAt =
          (true, (db.put row.tuple.actionId row).record ticket (.claimed row.tuple)) := by
  unfold ReplayDb.claim
  cases found : db.rows.get? tuple.actionId with
  | some row => exact .inl rfl
  | none =>
      exact .inr ⟨⟨tuple, consumedAt, .admitted, none, none, none, false⟩, rfl, rfl, rfl, found,
        rfl⟩

omit [DecidableEq Ticket] in
theorem begin_of_row {db : ReplayDb Ticket} {row : ReplayRow}
    (found : db.rows.get? row.tuple.actionId = some row) (isAdmitted : row.outcome = .admitted) :
    db.begin ticket row.tuple =
      if row.actuatorStarted then (false, db)
      else (true, (db.put row.tuple.actionId { row with actuatorStarted := true }).record ticket
        (.begun row.tuple)) := by
  unfold ReplayDb.begin
  rw [found]
  dsimp only
  cases row.actuatorStarted with
  | true => exact if_neg fun wanted => by cases wanted.2.2
  | false => exact if_pos ⟨rfl, isAdmitted, rfl⟩

omit [DecidableEq Ticket] in
theorem finish_of_row {db : ReplayDb Ticket} {row : ReplayRow}
    (found : db.rows.get? row.tuple.actionId = some row) (isAdmitted : row.outcome = .admitted)
    (outcome : Outcome) (receiptJson : Option Text) (ledgerHead : Option Str)
    (resultJson : Option Text) :
    db.finish ticket row.tuple.actionId outcome receiptJson ledgerHead resultJson =
      if row.actuatorStarted then
        (true, (db.put row.tuple.actionId
          { row with outcome := outcome, receiptJson := receiptJson, ledgerHead := ledgerHead,
                     resultJson := resultJson }).record ticket (.finalised row.tuple.actionId))
      else (false, db) := by
  unfold ReplayDb.finish
  rw [found]
  dsimp only
  cases row.actuatorStarted with
  | true => exact if_pos ⟨isAdmitted, rfl⟩
  | false => exact if_neg fun wanted => by cases wanted.2

/-! One rule for each request. -/

theorem safely_done {post : Except Str α → ReplayDb Ticket → Prop} {outcome : Except Str α}
    (wanted : ∀ t, Consistent callOf t → Undisturbed ticket s t → post outcome t) :
    (custody callOf).Safe ReplayDb.serve ticket post (.done outcome) s :=
  wanted

/-- A step that asks nothing of the store. -/
theorem safely_lift {post : Except Str β → ReplayDb Ticket → Prop} {e : Except Str α}
    {f : α → Delegating β}
    (raises : ∀ raised, e = .error raised →
      (custody callOf).Safe ReplayDb.serve ticket post (.done (.error raised)) s)
    (next : ∀ a, e = .ok a → Safely callOf ticket post (f a) s) :
    Safely callOf ticket post (liftM e >>= f) s := by
  cases e with
  | error raised => exact raises raised rfl
  | ok a => exact next a rfl

theorem safely_execute {request : ReplayRequest}
    {post : Except Str request.Result → ReplayDb Ticket → Prop}
    (served : ∀ t works, Consistent callOf t → Undisturbed ticket s t →
      Consistent callOf (ReplayDb.serve works ticket t request).2 ∧
        Acts ticket t (ReplayDb.serve works ticket t request).2 ∧
        ∀ u, Undisturbed ticket (ReplayDb.serve works ticket t request).2 u →
          post (orRaise (ReplayDb.serve works ticket t request).1 "database is locked") u) :
    Safely callOf ticket post (execute request) s := by
  intro t works holds undisturbed
  obtain ⟨kept, acts, ended⟩ := served t works holds undisturbed
  exact ⟨kept, acts, fun u _ further => ended u further⟩

omit [DecidableEq Ticket] in
private theorem consistent_trouble (holds : Consistent callOf s) :
    Consistent callOf (s.record ticket .unanswered) :=
  holds.record (fun _ => by simp) fun _ => by simp

theorem safely_get {actionId : Str} {post : Except Str (Option ReplayRow) → ReplayDb Ticket → Prop}
    (idle : Idle ticket s)
    (wanted : ∀ outcome t, Idle ticket t → post outcome t) :
    Safely callOf ticket post (SQLiteActionReplayStore.get actionId) s := by
  apply safely_execute
  intro t works holds undisturbed
  have still := idle.later undisturbed
  cases works with
  | false =>
      exact ⟨consistent_trouble holds, Acts.record _,
        fun u further => wanted _ u (still.record.later further)⟩
  | true => exact ⟨holds, Acts.refl _ _, fun u further => wanted _ u (still.later further)⟩

/-- A call claims an action that no call has claimed, or does not claim it. -/
theorem safely_claim {consumedAt : PyFloat} {post : Except Str Bool → ReplayDb Ticket → Prop}
    (idle : Idle ticket s)
    (refused : ∀ outcome t, outcome ≠ .ok true → Idle ticket t → post outcome t)
    (claimed : ∀ t troubled, Stage ticket tuple false false troubled t → post (.ok true) t) :
    Safely callOf ticket post (SQLiteActionReplayStore.claim tuple consumedAt) s := by
  have idly : ∀ raised,
      (custody callOf).Safe ReplayDb.serve ticket post (.done (.error raised)) s :=
    fun raised => safely_done fun t _ undisturbed =>
      refused _ t (fun same => by cases same) (idle.later undisturbed)
  unfold SQLiteActionReplayStore.claim
  apply safely_lift
  · exact fun raised _ => idly raised
  intro _ _
  apply safely_lift
  · exact fun raised _ => idly raised
  intro _ _
  apply safely_execute
  intro t works holds undisturbed
  have still := idle.later undisturbed
  cases works with
  | false =>
      refine ⟨consistent_trouble holds, Acts.record _, fun u further => ?_⟩
      exact refused _ u (fun same => by cases same) (still.record.later further)
  | true =>
      rw [ReplayDb.serve_claim]
      rcases claim_cases t ticket tuple consumedAt with present |
        ⟨row, isTuple, isAdmitted, notStarted, absent, changed⟩
      · rw [present]
        refine ⟨holds, Acts.refl _ _, fun u further => ?_⟩
        exact refused _ u (fun same => by cases same) (still.later further)
      · rw [changed]
        refine ⟨holds.claim absent, Acts.put _ _ (by simp), fun u further => ?_⟩
        obtain ⟨troubled, stage⟩ := still.claim isAdmitted
        rw [isTuple, notStarted] at stage
        rw [isTuple] at further
        exact claimed u troubled (stage.later further)

/-- An action that is claimed is begun once. -/
theorem safely_begin {post : Except Str Bool → ReplayDb Ticket → Prop}
    (stage : Stage ticket tuple begun entered troubled s)
    (raises : ∀ t, Stage ticket tuple begun entered true t →
      post (.error (Str.lit "database is locked")) t)
    (begins : ∀ t, begun = false → Stage ticket tuple true entered troubled t → post (.ok true) t)
    (refused : ∀ t, begun = true → Stage ticket tuple true entered troubled t →
      post (.ok false) t) :
    Safely callOf ticket post (SQLiteActionReplayStore.begin tuple) s := by
  apply safely_execute
  intro t works holds undisturbed
  have still := stage.later undisturbed
  cases works with
  | false =>
      exact ⟨consistent_trouble holds, Acts.record _,
        fun u further => raises u (still.trouble.later further)⟩
  | true =>
      obtain ⟨row, found, isTuple, isAdmitted, isStarted⟩ := still.row
      cases isTuple
      rw [ReplayDb.serve_begin, begin_of_row found isAdmitted, isStarted]
      cases begun with
      | true =>
          rw [if_pos rfl]
          exact ⟨holds, Acts.refl _ _, fun u further => refused u rfl (still.later further)⟩
      | false =>
          rw [if_neg Bool.false_ne_true]
          refine ⟨?_, ?_, fun u further => begins u rfl ((still.start found).later further)⟩
          · apply holds.change found
            · rfl
            · exact fun _ absurdly => by cases absurdly
            · exact fun _ absurdly => by cases absurdly
          · exact Acts.put _ _ (List.mem_append_left _ (ReplayDb.mem_own.mp still.claimed))

/-- A body is entered by a call that has entered none. -/
theorem safely_enter {post : Except Str Unit → ReplayDb Ticket → Prop} {call : DelegationCall}
    {entry : Entry} {authorization : VerifiedDelegatedCall} (isCall : callOf ticket = some call)
    (isAuthorized : entry.authorization = some authorization)
    (stage : Stage ticket tuple begun false troubled s)
    (rightful : Rightful call (fun other => other = tuple) entry authorization)
    (enters : ∀ t, Stage ticket tuple begun true troubled t → post (.ok ()) t) :
    Safely callOf ticket post (execute (.enter entry)) s := by
  apply safely_execute
  intro t works holds undisturbed
  have still := stage.later undisturbed
  refine ⟨holds.enter isCall ?_ ?_, Acts.record _,
    fun u further => enters u ((still.enter entry).later further)⟩
  · intro other isOther
    cases isAuthorized.symm.trans isOther
    obtain ⟨dispatcher, surroundings, request, claimed, delegated, isTuple, same, rest⟩ := rightful
    refine ⟨⟨dispatcher, surroundings, request, claimed, delegated, isTuple, ?_, rest⟩, ?_⟩
    · rw [same]
      exact ReplayDb.mem_own.mp still.claimed
    · exact fun known member => still.unentered rfl known (ReplayDb.mem_own.mpr member)
  · intro absent
    rw [isAuthorized] at absent
    cases absent

/-- What can be written as JSON, if given. -/
def Dumpable (value : Option Value) : Prop :=
  ∀ given, value = some given → ∃ text, Json.dumpsSorted .compactUnicode given = some text

theorem dumped_eq_ok {value : Option Value} {text : Option Text}
    (isText : SQLiteActionReplayStore.dumped value = .ok text) :
    Dumpable value ∧ text = value.bind (Json.dumpsSorted .compactUnicode) := by
  cases value with
  | none =>
      cases isText
      refine ⟨?_, rfl⟩
      intro given absurdly
      cases absurdly
  | some given =>
      rw [SQLiteActionReplayStore.dumped] at isText
      cases found : Json.dumpsSorted .compactUnicode given with
      | none => simp [found] at isText
      | some text' =>
          rw [found] at isText
          cases isText
          refine ⟨?_, found.symm⟩
          intro given' same
          cases same
          exact ⟨text', found⟩

theorem not_dumpable {value : Option Value} {raised : Str}
    (isRaised : SQLiteActionReplayStore.dumped value = .error raised) : ¬ Dumpable value := by
  intro dumpable
  cases value with
  | none => cases isRaised
  | some given =>
      obtain ⟨text, found⟩ := dumpable given rfl
      rw [SQLiteActionReplayStore.dumped, found] at isRaised
      cases isRaised

/-- An action that has been begun is finalised; one that has not been stays as it is. -/
theorem safely_finish {succeeded : Bool} {receipt result : Option Value} {ledgerHead : Str}
    {post : Except Str Unit → ReplayDb Ticket → Prop} (holds : Consistent callOf s)
    (stage : Stage ticket tuple begun entered troubled s)
    (refused : ∀ raised t after, (troubled = true → after = true) →
      (Dumpable receipt → Dumpable result → begun = true → after = true) →
      Stage ticket tuple begun entered after t → post (.error raised) t)
    (finishes : ∀ t row, begun = true → Dumpable receipt → Dumpable result → row.tuple = tuple →
      row.outcome = (if succeeded then .succeeded else .failed) →
      row.receiptJson = receipt.bind (Json.dumpsSorted .compactUnicode) →
      row.resultJson = result.bind (Json.dumpsSorted .compactUnicode) →
      Settled ticket tuple row troubled t → post (.ok ()) t) :
    Safely callOf ticket post
      (SQLiteActionReplayStore.finish tuple.actionId succeeded receipt ledgerHead result) s := by
  unfold SQLiteActionReplayStore.finish
  apply safely_lift
  · intro raised isRaised
    apply safely_done
    intro t _ undisturbed
    exact refused raised t troubled id
      (fun dumpable => absurd dumpable (not_dumpable isRaised)) (stage.later undisturbed)
  intro receiptJson isReceipt
  apply safely_lift
  · intro raised isRaised
    apply safely_done
    intro t _ undisturbed
    exact refused raised t troubled id
      (fun _ dumpable => absurd dumpable (not_dumpable isRaised)) (stage.later undisturbed)
  intro resultJson isResult
  obtain ⟨receiptDumps, isReceiptJson⟩ := dumped_eq_ok isReceipt
  obtain ⟨resultDumps, isResultJson⟩ := dumped_eq_ok isResult
  have asked : Safely callOf ticket (fun outcome t =>
      (outcome ≠ .ok true ∧ ∃ after, (troubled = true → after = true) ∧
        (begun = true → after = true) ∧ Stage ticket tuple begun entered after t) ∨
      outcome = .ok true ∧ begun = true ∧ ∃ row : ReplayRow, row.tuple = tuple ∧
        row.outcome = (if succeeded then .succeeded else .failed) ∧
        row.receiptJson = receiptJson ∧ row.resultJson = resultJson ∧
        Settled ticket tuple row troubled t)
      (execute (.finish tuple.actionId (if succeeded then .succeeded else .failed) receiptJson
        (if ledgerHead.isEmpty then none else some ledgerHead) resultJson)) s := by
    apply safely_execute
    intro t works holds undisturbed
    have still := stage.later undisturbed
    cases works with
    | false =>
        refine ⟨consistent_trouble holds, Acts.record _, fun u further => .inl ⟨?_, true, ?_⟩⟩
        · exact fun same => by cases same
        · exact ⟨fun _ => rfl, fun _ => rfl, still.trouble.later further⟩
    | true =>
        obtain ⟨row, found, isTuple, isAdmitted, isStarted⟩ := still.row
        cases isTuple
        rw [ReplayDb.serve_finish, finish_of_row found isAdmitted, isStarted]
        cases begun with
        | false =>
            rw [if_neg Bool.false_ne_true]
            refine ⟨holds, Acts.refl _ _, fun u further => .inl ⟨?_, troubled, id, ?_, ?_⟩⟩
            · exact fun same => by cases same
            · exact fun absurdly => by cases absurdly
            · exact still.later further
        | true =>
            rw [if_pos rfl]
            refine ⟨?_, ?_, fun u further => .inr ⟨rfl, rfl, ?_⟩⟩
            · apply holds.change found
              · rfl
              · exact fun _ absurdly => by cases absurdly
              · exact fun _ absurdly => by cases absurdly
            · exact Acts.put _ _ (List.mem_append_left _ (ReplayDb.mem_own.mp still.claimed))
            · let finished : ReplayRow := { row with
                outcome := if succeeded then .succeeded else .failed
                receiptJson := receiptJson
                ledgerHead := if ledgerHead.isEmpty then none else some ledgerHead
                resultJson := resultJson
                actuatorStarted := true }
              exact ⟨finished, rfl, rfl, rfl, rfl, (still.finish finished).later further⟩
  apply Calls.Contract.Safe.bindExcept holds asked
  · intro raised t _ ended
    rcases ended with ⟨-, after, grows, troubles, stage⟩ | ⟨absurdly, -⟩
    · exact safely_done fun u _ undisturbed =>
        refused raised u after grows (fun _ _ => troubles) (stage.later undisturbed)
    · cases absurdly
  · intro updated t _ ended
    rcases ended with ⟨differs, after, grows, troubles, stage⟩ |
      ⟨isUpdated, isBegun, row, isTuple, isOutcome, isReceipt, isResult, settled⟩
    · have isRefused : updated = false := by
        cases updated with
        | false => rfl
        | true => exact absurd rfl differs
      rw [isRefused]
      exact safely_done fun u _ undisturbed =>
        refused _ u after grows (fun _ _ => troubles) (stage.later undisturbed)
    · cases isUpdated
      exact safely_done fun u _ undisturbed =>
        finishes u row isBegun receiptDumps resultDumps isTuple isOutcome
          (isReceipt.trans isReceiptJson) (isResult.trans isResultJson) (settled.later undisturbed)

end SelfConnect.Delegation
