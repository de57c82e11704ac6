import SelfConnect.Delegation.Reach

namespace SelfConnect.Delegation

open SelfConnect.Python SelfConnect.Library

/-! What a delegated call does with the action it has claimed. -/

variable {Ticket : Type} [DecidableEq Ticket] {callOf : Ticket → Option DelegationCall}
  {ticket : Ticket} {tuple : ActionTuple} {α β : Type} {s : ReplayDb Ticket}
  {begun entered troubled : Bool} {dispatcher : Dispatcher} {surroundings : Surroundings}
  {authorization : VerifiedDelegatedCall} {name : Str} {arguments : Members}

/-- A call that has claimed an action and executes its tool. -/
structure Acting (callOf : Ticket → Option DelegationCall) (ticket : Ticket)
    (dispatcher : Dispatcher) (surroundings : Surroundings) (name : Str)
    (authorization : VerifiedDelegatedCall) (tuple : ActionTuple) : Prop where
  call : ∃ call request, callOf ticket = some call ∧
    call.delegated? = some (dispatcher, surroundings, request) ∧
    Vetted dispatcher surroundings request authorization ∧ name = request.name
  isTuple : authorization.tuple = some tuple
  isProtected : isProtected name = true

/-- A last step that asks nothing of the store. -/
theorem safely_return {post : Except Str α → ReplayDb Ticket → Prop} {e : Except Str α}
    (wanted : ∀ t, Undisturbed ticket s t → post e t) :
    Safely callOf ticket post (liftM e) s := by
  cases e with
  | error raised => exact safely_done fun t _ undisturbed => wanted t undisturbed
  | ok a => exact safely_done fun t _ undisturbed => wanted t undisturbed

/-- A body is entered, and ends. -/
theorem safely_body {post : Except Str Members → ReplayDb Ticket → Prop} {count : Nat}
    {args : Members}
    (acting : Acting callOf ticket dispatcher surroundings name authorization tuple)
    (holds : Consistent callOf s) (stage : Stage ticket tuple begun false troubled s)
    (rechecked : dispatcher.profile.governed = true →
      Rechecked dispatcher (surroundings.attempts count) ⟨name, args, some authorization⟩
        authorization)
    (ends : ∀ t, Stage ticket tuple begun true troubled t →
      post ((surroundings.attempts count).body args) t) :
    Safely callOf ticket post (do
      let _ : Unit ← execute (.enter ⟨name, args, some authorization⟩)
      liftM ((surroundings.attempts count).body args)) s := by
  obtain ⟨call, request, isCall, delegated, vetted, isName⟩ := acting.call
  have enters : Safely callOf ticket (fun outcome t =>
      outcome = .ok () ∧ Stage ticket tuple begun true troubled t)
      (execute (.enter ⟨name, args, some authorization⟩)) s := by
    apply safely_enter isCall rfl stage
    · exact ⟨dispatcher, surroundings, request, tuple, delegated, acting.isTuple, rfl, vetted,
        isName, fun governed => ⟨count, rechecked governed⟩⟩
    · exact fun t entered => ⟨rfl, entered⟩
  apply Calls.Contract.Safe.bindExcept holds enters
  · intro raised t _ absurdly
    cases absurdly.1
  · intro _ t _ entered
    exact safely_return fun u undisturbed => ends u (entered.2.later undisturbed)

private theorem carried_isolate {raised : Str} (isRaised : isolate arguments = .error raised) :
    Json.encodable raised = true := by
  unfold isolate at isRaised
  split at isRaised
  · cases isRaised
  · cases isRaised
    exact Json.encodable_lit _
  · cases isRaised
    exact Json.encodable_lit _

/-- How far a handler or a control of a governed profile brings the action, which it begins
if wanted. -/
def Advanced (ticket : Ticket) (tuple : ActionTuple) (begun troubled wanted : Bool)
    (db : ReplayDb Ticket) : Prop :=
  ∃ after entered troubled', Stage ticket tuple after entered troubled' db ∧
    (after = false → entered = false) ∧ (troubled = true → troubled' = true) ∧
    (troubled' = false → after = (begun || wanted))

theorem Advanced.unmoved (stage : Stage ticket tuple begun entered troubled s)
    (before : begun = false → entered = false) : Advanced ticket tuple begun troubled false s :=
  ⟨begun, entered, troubled, stage, before, id, fun _ => (Bool.or_false begun).symm⟩

theorem Advanced.of_begun (stage : Stage ticket tuple true entered troubled s) :
    Advanced ticket tuple begun troubled true s := by
  refine ⟨true, entered, troubled, stage, ?_, id, fun _ => (Bool.or_true begun).symm⟩
  intro absurdly
  cases absurdly

theorem Advanced.of_troubled {wanted : Bool} (stage : Stage ticket tuple begun entered true s)
    (before : begun = false → entered = false) :
    Advanced ticket tuple begun troubled wanted s := by
  refine ⟨begun, entered, true, stage, before, fun _ => rfl, ?_⟩
  intro absurdly
  cases absurdly

theorem Advanced.later {wanted : Bool} {t : ReplayDb Ticket}
    (advanced : Advanced ticket tuple begun troubled wanted s)
    (undisturbed : Undisturbed ticket s t) : Advanced ticket tuple begun troubled wanted t := by
  obtain ⟨after, entered, troubled', stage, rest⟩ := advanced
  exact ⟨after, entered, troubled', stage.later undisturbed, rest⟩

/-- The verification of a governed handler begins the action when its checks pass, unless
it was begun before, and does nothing when they do not. -/
theorem safely_require {count : Nat} {post : Except Str Members → ReplayDb Ticket → Prop}
    (governed : dispatcher.profile.governed = true) (isTuple : authorization.tuple = some tuple)
    (holds : Consistent callOf s) (stage : Stage ticket tuple begun entered troubled s)
    (before : begun = false → entered = false)
    (refused : ∀ raised t,
      dispatcher.checkAt surroundings name authorization count arguments = .error raised →
      Stage ticket tuple begun entered troubled t → post (.error raised) t)
    (fails : ∀ raised t,
      (dispatcher.checkAt surroundings name authorization count arguments).isOk = true →
      Advanced ticket tuple begun troubled true t → Json.encodable raised = true →
      post (.error raised) t)
    (passes : ∀ args t,
      dispatcher.checkAt surroundings name authorization count arguments = .ok tuple →
      isolate arguments = .ok args → Stage ticket tuple true false troubled t →
      post (.ok args) t) :
    Safely callOf ticket post (dispatcher.requireVerifiedDelegatedCall
      (surroundings.attempts count) name arguments (some authorization)) s := by
  unfold Dispatcher.requireVerifiedDelegatedCall
  rw [if_pos governed]
  apply safely_lift
  · intro raised isRefused
    exact safely_done fun t _ undisturbed => refused raised t isRefused (stage.later undisturbed)
  intro found isChecked
  have same : found = tuple := Option.some.inj ((tuple_of_checked isChecked).symm.trans isTuple)
  rw [same] at isChecked ⊢
  have isOk : (dispatcher.checkAt surroundings name authorization count arguments).isOk = true := by
    rw [Dispatcher.checkAt, isChecked]
    rfl
  have begins : Safely callOf ticket (fun outcome t =>
      (outcome = .error (Str.lit "database is locked") ∧
        Stage ticket tuple begun entered true t) ∨
      (outcome = .ok false ∧ begun = true ∧ Stage ticket tuple true entered troubled t) ∨
      outcome = .ok true ∧ begun = false ∧ Stage ticket tuple true entered troubled t)
      (SQLiteActionReplayStore.begin tuple) s := by
    apply safely_begin stage
    · exact fun t raised => .inl ⟨rfl, raised⟩
    · exact fun t isNew started => .inr (.inr ⟨rfl, isNew, started⟩)
    · exact fun t isBegun started => .inr (.inl ⟨rfl, isBegun, started⟩)
  apply Calls.Contract.Safe.bindExcept holds begins
  · intro raised t _ ended
    rcases ended with ⟨isRaised, stuck⟩ | ⟨absurdly, -⟩ | ⟨absurdly, -⟩
    · cases isRaised
      apply safely_done
      intro u _ undisturbed
      exact fails _ u isOk (.of_troubled (stuck.later undisturbed) before) (Json.encodable_lit _)
    · cases absurdly
    · cases absurdly
  intro admitted t _ ended
  apply safely_lift
  · intro raised isRaised
    apply safely_done
    intro u _ undisturbed
    rcases ended with ⟨absurdly, -⟩ | ⟨isAdmitted, -, started⟩ | ⟨isAdmitted, -⟩
    · cases absurdly
    · cases isAdmitted
      rw [demand, if_neg Bool.false_ne_true] at isRaised
      cases isRaised
      exact fails _ u isOk (.of_begun (started.later undisturbed)) (Json.encodable_lit _)
    · cases isAdmitted
      rw [demand, if_pos rfl] at isRaised
      cases isRaised
  intro _ isAdmitted
  have passed : admitted = true := demand_eq_ok.mp isAdmitted
  rcases ended with ⟨absurdly, -⟩ | ⟨isRefused, -⟩ | ⟨-, isNew, started⟩
  · cases absurdly
  · cases passed.symm.trans (Except.ok.inj isRefused)
  apply safely_return
  intro u undisturbed
  cases isIsolated : isolate arguments with
  | error raised =>
      exact fails raised u isOk (.of_begun (started.later undisturbed)) (carried_isolate isIsolated)
  | ok args =>
      rw [before isNew] at started
      exact passes args u isChecked isIsolated (started.later undisturbed)

/-- A governed handler enters its body once its action is begun. -/
theorem safely_handle {count : Nat} {post : Except Str Members → ReplayDb Ticket → Prop}
    (governed : dispatcher.profile.governed = true)
    (acting : Acting callOf ticket dispatcher surroundings name authorization tuple)
    (holds : Consistent callOf s) (stage : Stage ticket tuple begun entered troubled s)
    (before : begun = false → entered = false)
    (refused : ∀ raised t,
      dispatcher.checkAt surroundings name authorization count arguments = .error raised →
      Stage ticket tuple begun entered troubled t → post (.error raised) t)
    (passes : ∀ outcome t,
      (dispatcher.checkAt surroundings name authorization count arguments).isOk = true →
      Advanced ticket tuple begun troubled true t →
      (WellBehaved dispatcher surroundings name authorization → Carried outcome) → post outcome t) :
    Safely callOf ticket post
      (dispatcher.handle (surroundings.attempts count) name arguments (some authorization)) s := by
  unfold Dispatcher.handle
  rw [if_pos acting.isProtected]
  have requires : Safely callOf ticket (fun outcome t =>
      (∃ raised, outcome = .error raised ∧
        ∀ u, Undisturbed ticket t u → post (.error raised) u) ∨
      ∃ args, outcome = .ok args ∧
        dispatcher.checkAt surroundings name authorization count arguments = .ok tuple ∧
        isolate arguments = .ok args ∧ Stage ticket tuple true false troubled t)
      (dispatcher.requireVerifiedDelegatedCall (surroundings.attempts count) name arguments
        (some authorization)) s := by
    apply safely_require governed acting.isTuple holds stage before
    · exact fun raised t isRefused stage => .inl ⟨raised, rfl,
        fun u undisturbed => refused raised u isRefused (stage.later undisturbed)⟩
    · exact fun raised t isOk advanced carried => .inl ⟨raised, rfl,
        fun u undisturbed => passes _ u isOk (advanced.later undisturbed) fun _ => carried⟩
    · exact fun args t isChecked isIsolated started =>
        .inr ⟨args, rfl, isChecked, isIsolated, started⟩
  apply Calls.Contract.Safe.bindExcept holds requires
  · intro raised t _ ended
    rcases ended with ⟨raised', same, wanted⟩ | ⟨args, absurdly, -⟩
    · cases same
      exact safely_done fun u _ undisturbed => wanted u undisturbed
    · cases absurdly
  · intro args t kept ended
    rcases ended with ⟨raised, absurdly, -⟩ | ⟨args', same, isChecked, isIsolated, started⟩
    · cases absurdly
    cases same
    apply safely_body acting kept started
    · exact fun _ => rechecked_of_checked isChecked isIsolated
    · intro u entered
      apply passes _ u _ (.of_begun entered) fun wellBehaved => wellBehaved.body count args
      rw [isChecked]
      rfl

/-- What raises is handed on as a value. -/
theorem safely_attempt {post : Except Str (Except Str α) → ReplayDb Ticket → Prop}
    {p : Delegating α} (safe : Safely callOf ticket (fun outcome t => post (.ok outcome) t) p s) :
    Safely callOf ticket post (attempt p) s :=
  Calls.Contract.Safe.map safe

/-- A run of the control that begins the action brings it on, whatever follows. -/
theorem Advanced.trans {after troubled' wanted : Bool}
    (advanced : Advanced ticket tuple after troubled' wanted s)
    (grows : troubled = true → troubled' = true)
    (begins : troubled' = false → after = (begun || true)) :
    Advanced ticket tuple begun troubled true s := by
  obtain ⟨final, entered, troubled'', stage, before, growing, isFinal⟩ := advanced
  refine ⟨final, entered, troubled'', stage, before,
    fun isTroubled => growing (grows isTroubled), ?_⟩
  intro untroubled
  have earlier : troubled' = false := by
    cases isTroubled : troubled' with
    | false => rfl
    | true => rw [growing isTroubled] at untroubled; cases untroubled
  rw [isFinal untroubled, begins earlier, Bool.or_true, Bool.true_or]

/-- A governed call begins its action in the first run of the handler that its checks
admit. The induction is on what is left of the control. -/
theorem safely_runTool (governed : dispatcher.profile.governed = true)
    (acting : Acting callOf ticket dispatcher surroundings name authorization tuple)
    (control : ControlScript) {count : Nat} {executed : Option Members}
    {post : Except Str (Members × Members) → ReplayDb Ticket → Prop}
    (holds : Consistent callOf s) (stage : Stage ticket tuple begun entered troubled s)
    (before : begun = false → entered = false)
    (ends : ∀ outcome t, Advanced ticket tuple begun troubled
        (reaches (dispatcher.checkAt surroundings name authorization) control count) t →
      (WellBehaved dispatcher surroundings name authorization → HandsOn control →
        Carried (outcome.map Prod.fst)) → post outcome t) :
    Safely callOf ticket post
      (runTool (fun count effective => dispatcher.handle (surroundings.attempts count) name
        effective (some authorization)) control count executed) s := by
  induction control generalizing count executed s begun entered troubled post with
  | done ended =>
      rw [runTool_done]
      apply safely_return
      intro t undisturbed
      apply ends _ t (.unmoved (stage.later undisturbed) before)
      exact fun _ handsOn => carried_handed handsOn executed
  | ask request next ih =>
      cases isDict : request.isDict with
      | false =>
          rw [runTool_other isDict]
          apply ih (.error notObject) holds stage before
          intro outcome t advanced carried
          rw [← reaches_other isDict] at advanced
          exact ends outcome t advanced fun wellBehaved handsOn =>
            carried wellBehaved (handsOn _ (carried_lit _))
      | true =>
          obtain ⟨effective, isEffective⟩ := dict_of_isDict isDict
          rw [isEffective] at ends ⊢
          have handled : Safely callOf ticket (fun attempted t =>
              ∃ outcome, attempted = .ok outcome ∧
                ((∃ raised, outcome = .error raised ∧
                  dispatcher.checkAt surroundings name authorization count effective =
                    .error raised ∧ Stage ticket tuple begun entered troubled t) ∨
                (dispatcher.checkAt surroundings name authorization count effective).isOk = true ∧
                  Advanced ticket tuple begun troubled true t ∧
                  (WellBehaved dispatcher surroundings name authorization → Carried outcome)))
              (attempt (dispatcher.handle (surroundings.attempts count) name effective
                (some authorization))) s := by
            apply safely_attempt
            apply safely_handle governed acting holds stage before
            · exact fun raised t isRefused stage => ⟨_, rfl, .inl ⟨raised, rfl, isRefused, stage⟩⟩
            · exact fun outcome t isOk advanced carried =>
                ⟨outcome, rfl, .inr ⟨isOk, advanced, carried⟩⟩
          apply Calls.Contract.Safe.bindExcept holds handled
          · intro raised t _ absurdly
            obtain ⟨_, absurdly, -⟩ := absurdly
            cases absurdly
          intro outcome t kept ended
          obtain ⟨outcome', same, ended⟩ := ended
          cases same
          rcases ended with ⟨raised, isOutcome, isRefused, unmoved⟩ | ⟨isOk, advanced, carried⟩
          · have unfolded :
                reaches (dispatcher.checkAt surroundings name authorization)
                  (.ask (.dict effective) next) count =
                reaches (dispatcher.checkAt surroundings name authorization)
                  (next (.error raised)) (count + 1) := by
              rw [reaches, isRefused]
            rw [isOutcome]
            apply ih (.error raised) kept unmoved before
            intro final u advanced carried
            rw [← unfolded] at advanced
            exact ends final u advanced fun wellBehaved handsOn => carried wellBehaved
              (handsOn _ (wellBehaved.refusal count _ raised isRefused))
          · have unfolded :
                reaches (dispatcher.checkAt surroundings name authorization)
                  (.ask (.dict effective) next) count = true := by
              rw [reaches]
              cases isChecked :
                  dispatcher.checkAt surroundings name authorization count effective with
              | error raised => rw [isChecked] at isOk; cases isOk
              | ok found => rfl
            obtain ⟨after, entered', troubled', stage', before', grows, begins⟩ := advanced
            apply ih outcome kept stage' before'
            intro final u advanced carried'
            rw [unfolded] at ends
            exact ends final u (advanced.trans grows begins) fun wellBehaved handsOn =>
              carried' wellBehaved (handsOn _ (carried wellBehaved))

/-- Outside of the governed profiles the body is entered without more ado. -/
theorem safely_handle_normal {count : Nat} {post : Except Str Members → ReplayDb Ticket → Prop}
    (normal : dispatcher.profile.governed = false)
    (acting : Acting callOf ticket dispatcher surroundings name authorization tuple)
    (holds : Consistent callOf s) (stage : Stage ticket tuple begun false troubled s)
    (ends : ∀ outcome t entered, Stage ticket tuple begun entered troubled t → post outcome t) :
    Safely callOf ticket post
      (dispatcher.handle (surroundings.attempts count) name arguments (some authorization)) s := by
  unfold Dispatcher.handle
  rw [if_pos acting.isProtected]
  unfold Dispatcher.requireVerifiedDelegatedCall
  rw [normal, if_neg Bool.false_ne_true]
  apply safely_lift
  · intro raised _
    exact safely_done fun t _ undisturbed => ends _ t false (stage.later undisturbed)
  intro args _
  apply safely_body acting holds stage
  · intro governed
    rw [normal] at governed
    cases governed
  · exact fun t entered => ends _ t true entered

/-- A control that has the tool executed at most once enters its body at most once. -/
theorem safely_runTool_normal (normal : dispatcher.profile.governed = false)
    (acting : Acting callOf ticket dispatcher surroundings name authorization tuple)
    {control : ControlScript} (once : AtMostOnce control) {count : Nat}
    {executed : Option Members} {post : Except Str (Members × Members) → ReplayDb Ticket → Prop}
    (holds : Consistent callOf s) (stage : Stage ticket tuple begun false troubled s)
    (ends : ∀ outcome t entered, Stage ticket tuple begun entered troubled t → post outcome t) :
    Safely callOf ticket post
      (runTool (fun count effective => dispatcher.handle (surroundings.attempts count) name
        effective (some authorization)) control count executed) s := by
  have handing : ∀ {ended count executed entered} {t : ReplayDb Ticket},
      Stage ticket tuple begun entered troubled t → Safely callOf ticket post
        (runTool (fun count effective => dispatcher.handle (surroundings.attempts count) name
          effective (some authorization)) (.done ended) count executed) t := by
    intro ended count executed entered t still
    rw [runTool_done]
    exact safely_return fun u undisturbed => ends _ u entered (still.later undisturbed)
  cases control with
  | done ended => exact handing stage
  | ask request next =>
      cases isDict : request.isDict with
      | false =>
          rw [runTool_other isDict]
          obtain ⟨ended, isEnded⟩ := once (.error notObject)
          rw [isEnded]
          exact handing stage
      | true =>
          obtain ⟨effective, isEffective⟩ := dict_of_isDict isDict
          rw [isEffective]
          have handled : Safely callOf ticket (fun _ t =>
              ∃ entered, Stage ticket tuple begun entered troubled t)
              (attempt (dispatcher.handle (surroundings.attempts count) name effective
                (some authorization))) s := by
            apply safely_attempt
            apply safely_handle_normal normal acting holds stage
            exact fun _ t entered still => ⟨entered, still⟩
          apply Calls.Contract.Safe.bindExcept holds handled
          · intro raised t _ ended
            obtain ⟨entered, still⟩ := ended
            exact safely_done fun u _ undisturbed => ends _ u entered (still.later undisturbed)
          · intro outcome t kept ended
            obtain ⟨entered, still⟩ := ended
            obtain ⟨ended, isEnded⟩ := once outcome
            rw [isEnded]
            exact handing still

/-- The action before it is finalised: unless a statement raised, it is begun just when it
is reached. -/
def Pending (ticket : Ticket) (tuple : ActionTuple) (reached : Bool) (db : ReplayDb Ticket) :
    Prop :=
  ∃ begun entered troubled, Stage ticket tuple begun entered troubled db ∧
    (troubled = false → begun = reached)

theorem Pending.later {reached : Bool} {t : ReplayDb Ticket}
    (pending : Pending ticket tuple reached s) (undisturbed : Undisturbed ticket s t) :
    Pending ticket tuple reached t := by
  obtain ⟨begun, entered, troubled, stage, isBegun⟩ := pending
  exact ⟨begun, entered, troubled, stage.later undisturbed, isBegun⟩

/-- A control may have the tool executed more than once only where each entry is admitted
by the store. -/
def Dispatcher.Restrained (dispatcher : Dispatcher) : Prop :=
  dispatcher.profile.governed = false → ∀ control name args,
    dispatcher.agtControl = some control → AtMostOnce (control name args)

theorem safely_dispatch
    (acting : Acting callOf ticket dispatcher surroundings name authorization tuple)
    (restrained : dispatcher.Restrained)
    {post : Except Str (Members × Members) → ReplayDb Ticket → Prop}
    (holds : Consistent callOf s) (stage : Stage ticket tuple false false troubled s)
    (ends : ∀ outcome t,
      Pending ticket tuple (dispatcher.reaches surroundings name arguments authorization) t →
      (WellBehaved dispatcher surroundings name authorization →
        dispatcher.reaches surroundings name arguments authorization = true →
        Carried (outcome.map Prod.fst)) → post outcome t) :
    Safely callOf ticket post
      (dispatcher.dispatch surroundings name arguments (some authorization)) s := by
  have idly : ∀ raised t, Undisturbed ticket s t →
      dispatcher.reaches surroundings name arguments authorization = false →
      post (.error raised) t := by
    intro raised t undisturbed unreached
    apply ends
    · exact ⟨false, false, troubled, stage.later undisturbed, fun _ => unreached.symm⟩
    · intro _ reached
      rw [unreached] at reached
      cases reached
  unfold Dispatcher.dispatch
  rw [if_neg (by simp)]
  apply safely_lift
  · intro raised isRaised
    apply safely_done
    intro t _ undisturbed
    apply idly raised t undisturbed
    simp [Dispatcher.reaches, isRaised]
  intro validated isValid
  have normally : dispatcher.profile.governed = false →
      dispatcher.reaches surroundings name arguments authorization = false := by
    intro normal
    rw [Dispatcher.reaches, normal, Bool.false_and]
  cases isControl : dispatcher.agtControl with
  | none =>
      have handled : Safely callOf ticket (fun outcome t =>
          Pending ticket tuple (dispatcher.reaches surroundings name arguments authorization) t ∧
            (WellBehaved dispatcher surroundings name authorization →
              dispatcher.reaches surroundings name arguments authorization = true →
              Carried outcome))
          (dispatcher.handle (surroundings.attempts 0) name validated (some authorization)) s := by
        cases isGoverned : dispatcher.profile.governed with
        | false =>
            apply safely_handle_normal isGoverned acting holds stage
            intro outcome t entered still
            refine ⟨⟨false, entered, troubled, still, fun _ => (normally isGoverned).symm⟩, ?_⟩
            intro _ reached
            rw [normally isGoverned] at reached
            cases reached
        | true =>
            have isReached : dispatcher.reaches surroundings name arguments authorization =
                (dispatcher.checkAt surroundings name authorization 0 validated).isOk := by
              rw [Dispatcher.reaches, isGoverned, isValid, isControl]
              exact Bool.true_and _
            apply safely_handle isGoverned acting holds stage fun _ => rfl
            · intro raised t isRefused still
              rw [isReached, isRefused]
              refine ⟨⟨false, false, troubled, still, fun _ => rfl⟩, ?_⟩
              intro _ absurdly
              cases absurdly
            · intro outcome t isOk advanced carried
              rw [isReached, isOk]
              obtain ⟨begun, entered, troubled', still, -, -, isBegun⟩ := advanced
              exact ⟨⟨begun, entered, troubled', still, isBegun⟩,
                fun wellBehaved _ => carried wellBehaved⟩
      apply Calls.Contract.Safe.bindExcept holds handled
      · intro raised t _ ended
        exact safely_done fun u _ undisturbed =>
          ends _ u (ended.1.later undisturbed) ended.2
      · intro result t _ ended
        exact safely_done fun u _ undisturbed =>
          ends _ u (ended.1.later undisturbed) ended.2
  | some control =>
      dsimp only
      split
      · next inLoop =>
          apply safely_done
          intro t _ undisturbed
          apply idly _ t undisturbed
          simp [Dispatcher.reaches, isValid, isControl, inLoop]
      · next notInLoop =>
          cases isGoverned : dispatcher.profile.governed with
          | false =>
              apply safely_runTool_normal isGoverned acting
                (restrained isGoverned control name validated isControl) holds stage
              intro outcome t entered still
              apply ends
              · exact ⟨false, entered, troubled, still, fun _ => (normally isGoverned).symm⟩
              · intro _ reached
                rw [normally isGoverned] at reached
                cases reached
          | true =>
              have isReached : dispatcher.reaches surroundings name arguments authorization =
                  reaches (dispatcher.checkAt surroundings name authorization)
                    (control name validated) 0 := by
                rw [Dispatcher.reaches, isGoverned, isValid, isControl]
                simp [notInLoop]
              apply safely_runTool isGoverned acting _ holds stage fun _ => rfl
              intro outcome t advanced carried
              rw [← isReached] at advanced
              obtain ⟨begun, entered, troubled', still, -, -, isBegun⟩ := advanced
              apply ends
              · exact ⟨begun, entered, troubled', still, isBegun⟩
              · exact fun wellBehaved _ =>
                  carried wellBehaved (wellBehaved.control control validated isControl)

end SelfConnect.Delegation
