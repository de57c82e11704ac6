import SelfConnect.Ultra.Lifecycle

namespace SelfConnect.Ultra.BindIdentity

open SelfConnect.Js SelfConnect.Library SelfConnect.Library.Calls SelfConnect.Ultra.Lifecycle
open SelfConnect.Library.Script (Asks)

/-! What a reply ok of `/bind-identity` says of the bindings, whatever the other routes do. -/

section Contract

variable {Ticket Row Key : Type} (backend : Backend Ticket Row Key)

/-- The pair that the call names has been bound to its client and agent. -/
def Bound (s : Shared Ticket Row Key) (ticket : Ticket) (call : Call) : Prop :=
  ∃ pairId clientId, call.body.get? "pairId" = some pairId ∧
    call.body.get? "tskClientId" = some (.str clientId) ∧
    (backend.row ticket pairId, bindingOf call.agent clientId) ∈ s.bound

/-- A completed key has the response of a call whose pair has been bound. -/
structure Sound (callOf : Ticket → Option Call) (s : Shared Ticket Row Key) : Prop where
  bound : ∀ row binding, s.bindings row = some binding → (row, binding) ∈ s.bound
  complete : ∀ key entry response, s.entries key = some entry → entry.operation = bindOperation →
    entry.response = some response → response = okBody ∧
      ∃ other call, s.completer key = some other ∧ callOf other = some call ∧
        call.agent.canonicalId = entry.agentId ∧ Bound backend s other call

/-- What lasts of a state. -/
structure Grows (s t : Shared Ticket Row Key) : Prop where
  bound : ∀ entry ∈ s.bound, entry ∈ t.bound
  owner : ∀ key entry, s.entries key = some entry →
    ∃ later, t.entries key = some later ∧ later.operation = entry.operation ∧
      later.agentId = entry.agentId
  reused : ∀ pair ∈ s.reused, pair ∈ t.reused

theorem Grows.refl (s : Shared Ticket Row Key) : Grows s s where
  bound _ member := member
  owner _ entry found := ⟨entry, found, rfl, rfl⟩
  reused _ member := member

theorem Grows.trans (s t u : Shared Ticket Row Key) (first : Grows s t) (second : Grows t u) :
    Grows s u where
  bound entry member := second.bound entry (first.bound entry member)
  owner key entry found := by
    obtain ⟨later, isLater, sameOperation, sameAgent⟩ := first.owner key entry found
    obtain ⟨last, isLast, sameOperation', sameAgent'⟩ := second.owner key later isLater
    exact ⟨last, isLast, sameOperation'.trans sameOperation, sameAgent'.trans sameAgent⟩
  reused pair member := second.reused pair (first.reused pair member)

theorem Bound.grow {s t : Shared Ticket Row Key} {ticket : Ticket} {call : Call}
    (bound : Bound backend s ticket call) (grown : Grows s t) : Bound backend t ticket call := by
  obtain ⟨pairId, clientId, isPair, isClient, member⟩ := bound
  exact ⟨pairId, clientId, isPair, isClient, grown.bound _ member⟩

def contract (callOf : Ticket → Option Call) : Contract Ticket (Shared Ticket Row Key) where
  inv := Sound backend callOf
  fresh _ _ := True
  guarantee _ := Grows
  rely _ := Grows
  rely_refl _ := Grows.refl
  rely_trans _ := Grows.trans
  rely_of_guarantee _ _ _ _ _ _ _ grown := grown
  fresh_of_rely _ _ _ _ _ := trivial

variable {backend} [DecidableEq Row] [DecidableEq Key] {callOf : Ticket → Option Call}
  {ticket : Ticket} {s : Shared Ticket Row Key}

/-- The rest of the route is safe if it is safe after every answer. -/
theorem safe_asked {α : Type} {request : Request} {next : Answer request → Route α}
    {post : Except Reply α → Shared Ticket Row Key → Prop}
    (raises : ∀ t, post (.error .raised) t)
    (step : ∀ t choice, Sound backend callOf t → Grows s t →
      let served := serve backend choice ticket t request
      Sound backend callOf served.2 ∧ Grows t served.2 ∧
        ∀ answer, served.1 = some answer →
          (contract backend callOf).Safe (serve backend) ticket post (next answer).run served.2) :
    (contract backend callOf).Safe (serve backend) ticket post (ask request >>= next).run s := by
  intro t choice holds grown
  obtain ⟨kept, further, safely⟩ := step t choice holds grown
  refine ⟨kept, further, ?_⟩
  cases served : (serve backend choice ticket t request).1 with
  | none => exact fun u _ _ => raises u
  | some answer => exact safely answer served

theorem answer_of_perform {α σ : Type} {choice : Choice} {s done : σ} {answer found : α}
    (isFound : (perform choice s answer done).1 = some found) :
    answer = found ∧ (perform choice s answer done).2 = done := by
  unfold perform at isFound ⊢
  split at isFound
  · cases isFound
  · next notFailed =>
      rw [if_neg notFailed]
      split at isFound
      · cases isFound
      · next notLost =>
          rw [if_neg notLost]
          exact ⟨Option.some.inj isFound, rfl⟩

theorem perform_snd {α σ : Type} (choice : Choice) (s done : σ) (answer : α) :
    (perform choice s answer done).2 = s ∨ (perform choice s answer done).2 = done := by
  unfold perform
  split
  · exact .inl rfl
  · split <;> exact .inr rfl

/-- After the answer of a query that is done. -/
theorem safe_ask {α : Type} {request : Request} {next : Answer request → Route α}
    {post : Except Reply α → Shared Ticket Row Key → Prop}
    {answer : Choice → Shared Ticket Row Key → Answer request}
    {done : Choice → Shared Ticket Row Key → Shared Ticket Row Key}
    (serves : ∀ choice t, serve backend choice ticket t request =
      perform choice t (answer choice t) (done choice t))
    (raises : ∀ t, post (.error .raised) t)
    (step : ∀ t choice, Sound backend callOf t → Grows s t →
      Sound backend callOf (done choice t) ∧ Grows t (done choice t) ∧
        (contract backend callOf).Safe (serve backend) ticket post (next (answer choice t)).run
          (done choice t)) :
    (contract backend callOf).Safe (serve backend) ticket post (ask request >>= next).run s := by
  refine safe_asked raises fun t choice holds grown => ?_
  obtain ⟨kept, further, safely⟩ := step t choice holds grown
  rw [serves]
  refine ⟨?_, ?_, ?_⟩
  · rcases perform_snd choice t (done choice t) (answer choice t) with same | same
    · rw [same]
      exact holds
    · rw [same]
      exact kept
  · rcases perform_snd choice t (done choice t) (answer choice t) with same | same
    · rw [same]
      exact Grows.refl t
    · rw [same]
      exact further
  · intro found isFound
    obtain ⟨isAnswer, isDone⟩ := answer_of_perform isFound
    rw [isDone, ← isAnswer]
    exact safely

/-- A query that changes nothing. -/
theorem safe_read {α : Type} {request : Request} {next : Answer request → Route α}
    {post : Except Reply α → Shared Ticket Row Key → Prop}
    {answer : Choice → Shared Ticket Row Key → Answer request}
    (serves : ∀ choice t, serve backend choice ticket t request =
      perform choice t (answer choice t) t)
    (raises : ∀ t, post (.error .raised) t)
    (step : ∀ t choice, Sound backend callOf t → Grows s t →
      (contract backend callOf).Safe (serve backend) ticket post (next (answer choice t)).run t) :
    (contract backend callOf).Safe (serve backend) ticket post (ask request >>= next).run s :=
  safe_ask serves raises fun t choice holds grown =>
    ⟨holds, Grows.refl t, step t choice holds grown⟩

omit [DecidableEq Row] in
theorem update_eq_some {α : Type} {table : Key → Option α} {key other : Key} {value : Option α}
    {found : α} (isFound : Function.update table key value other = some found) :
    (other = key ∧ value = some found) ∨ (other ≠ key ∧ table other = some found) := by
  by_cases same : other = key
  · rw [same, Function.update_self] at isFound
    exact .inl ⟨same, isFound⟩
  · rw [Function.update_of_ne same] at isFound
    exact .inr ⟨same, isFound⟩

omit [DecidableEq Row] in
theorem sound_insertEntry (holds : Sound backend callOf s) (key : Key)
    (operation agentId : Text) : Sound backend callOf (s.insertEntry key operation agentId).2 ∧
      Grows s (s.insertEntry key operation agentId).2 := by
  unfold Shared.insertEntry
  split
  · exact ⟨holds, Grows.refl s⟩
  · next absent =>
      constructor
      · refine ⟨holds.bound, fun other entry response found => ?_⟩
        rcases update_eq_some found with ⟨_, isNew⟩ | ⟨_, found⟩
        · cases isNew
          exact fun _ isComplete => by cases isComplete
        · exact holds.complete other entry response found
      · refine ⟨fun _ member => member, fun other entry found => ?_, fun _ member => member⟩
        by_cases same : other = key
        · rw [same, absent] at found
          cases found
        · exact ⟨entry, (Function.update_of_ne same ..).trans found, rfl, rfl⟩

omit [DecidableEq Key] in
theorem sound_bind (holds : Sound backend callOf s) (row : Row) (binding : Binding) :
    Sound backend callOf (s.bind row binding) ∧ Grows s (s.bind row binding) := by
  have grown : Grows s (s.bind row binding) :=
    ⟨fun _ => List.mem_cons_of_mem _, fun _ entry found => ⟨entry, found, rfl, rfl⟩,
      fun _ member => member⟩
  refine ⟨⟨fun other current found => ?_, fun key entry response found isOurs isComplete => ?_⟩,
    grown⟩
  · rcases update_eq_some found with ⟨same, isNew⟩ | ⟨_, found⟩
    · cases isNew
      rw [same]
      exact List.mem_cons_self
    · exact List.mem_cons_of_mem _ (holds.bound other current found)
  · obtain ⟨isOk, other, call, isCompleter, isCall, sameAgent, bound⟩ :=
      holds.complete key entry response found isOurs isComplete
    exact ⟨isOk, other, call, isCompleter, isCall, sameAgent, bound.grow backend grown⟩

omit [DecidableEq Key] in
theorem sound_setBinding (holds : Sound backend callOf s) (row : Row) (binding : Binding) :
    Sound backend callOf (s.setBinding row binding).2 ∧ Grows s (s.setBinding row binding).2 := by
  unfold Shared.setBinding
  split
  · exact ⟨holds, Grows.refl s⟩
  · exact sound_bind holds row binding

omit [DecidableEq Key] in
theorem sound_swapBinding (holds : Sound backend callOf s) (row : Row) (expected : Option Text)
    (binding : Binding) : Sound backend callOf (s.swapBinding row expected binding).2 ∧
      Grows s (s.swapBinding row expected binding).2 := by
  unfold Shared.swapBinding
  split
  · split
    · exact sound_bind holds row binding
    · exact ⟨holds, Grows.refl s⟩
  · exact ⟨holds, Grows.refl s⟩

omit [DecidableEq Row] [DecidableEq Key] in
/-- Nothing here depends on the keys. -/
theorem sound_keys (holds : Sound backend callOf s) (keys : Text → Option TskMap) :
    Sound backend callOf { s with keys := keys } ∧ Grows s { s with keys := keys } :=
  ⟨⟨holds.bound, holds.complete⟩, ⟨fun _ member => member,
    fun _ entry found => ⟨entry, found, rfl, rfl⟩, fun _ member => member⟩⟩

omit [DecidableEq Row] [DecidableEq Key] in
theorem sound_provision (holds : Sound backend callOf s) (label : Text)
    (provisioned : Except (Option Text) TskMap) :
    Sound backend callOf (s.provision label provisioned).2 ∧
      Grows s (s.provision label provisioned).2 := by
  unfold Shared.provision
  split
  · exact ⟨holds, Grows.refl s⟩
  · split
    · exact ⟨holds, Grows.refl s⟩
    · exact sound_keys holds _

omit [DecidableEq Row] [DecidableEq Key] in
theorem sound_updateKey (holds : Sound backend callOf s) (clientId : Option Text)
    (update : KeyUpdate) : Sound backend callOf (s.updateKey clientId update).2 ∧
      Grows s (s.updateKey clientId update).2 := by
  unfold Shared.updateKey
  split
  · exact ⟨holds, Grows.refl s⟩
  · exact ⟨holds, Grows.refl s⟩
  · exact sound_keys holds _
  · exact sound_keys holds _

omit [DecidableEq Key] in
theorem bound_of_setBinding (holds : Sound backend callOf s) {row : Row} {binding : Binding}
    (isSet : (s.setBinding row binding).1 = true) :
    (row, binding) ∈ (s.setBinding row binding).2.bound := by
  unfold Shared.setBinding at isSet ⊢
  split
  · next current found =>
      rw [found] at isSet
      rw [← of_decide_eq_true isSet]
      exact holds.bound row current found
  · exact List.mem_cons_self

omit [DecidableEq Row] [DecidableEq Key] in
theorem sound_reuse (holds : Sound backend callOf s) (key : Key) :
    Sound backend callOf (s.reuse ticket key) ∧ Grows s (s.reuse ticket key) := by
  unfold Shared.reuse
  split
  · exact ⟨⟨holds.bound, holds.complete⟩, ⟨fun _ member => member,
      fun _ entry found => ⟨entry, found, rfl, rfl⟩, fun _ => List.mem_cons_of_mem _⟩⟩
  · exact ⟨holds, Grows.refl s⟩

omit [DecidableEq Row] in
/-- A key of the route is completed only for a pair that has been bound. -/
theorem sound_completeEntry (holds : Sound backend callOf s) {key : Key} {response : Json}
    (justified : ∀ entry, s.entries key = some entry → entry.operation = bindOperation →
      response = okBody ∧ ∃ call, callOf ticket = some call ∧
        call.agent.canonicalId = entry.agentId ∧ Bound backend s ticket call) :
    Sound backend callOf (s.completeEntry ticket key response).2 ∧
      Grows s (s.completeEntry ticket key response).2 := by
  unfold Shared.completeEntry
  split
  · next ours agentId processing =>
      constructor
      · refine ⟨holds.bound, fun other entry response' found isOurs isComplete => ?_⟩
        rcases update_eq_some found with ⟨same, isNew⟩ | ⟨differs, found⟩
        · cases isNew
          cases isComplete
          obtain ⟨isOk, call, isCall, sameAgent, bound⟩ := justified _ processing isOurs
          refine ⟨isOk, ticket, call, ?_, isCall, sameAgent, bound⟩
          rw [same]
          exact Function.update_self ..
        · obtain ⟨isOk, completer, call', isCompleter, rest⟩ :=
            holds.complete other entry response' found isOurs isComplete
          exact ⟨isOk, completer, call', (Function.update_of_ne differs ..).trans isCompleter, rest⟩
      · refine ⟨fun _ member => member, fun other entry found => ?_, fun _ member => member⟩
        by_cases same : other = key
        · rw [same, processing] at found
          cases found
          refine ⟨⟨ours, agentId, some response⟩, ?_, rfl, rfl⟩
          rw [same]
          exact Function.update_self ..
        · exact ⟨entry, (Function.update_of_ne same ..).trans found, rfl, rfl⟩
  · exact ⟨holds, Grows.refl s⟩

/-- Requests other than a completion need no justification. -/
def Request.Incomplete : Request → Prop
  | .completeEntry _ _ => False
  | _ => True

theorem sound_serve (holds : Sound backend callOf s) (choice : Choice) {request : Request}
    (incomplete : Request.Incomplete request) :
    Sound backend callOf (serve backend choice ticket s request).2 ∧
      Grows s (serve backend choice ticket s request).2 := by
  have performed {α : Type} {answer : α} {done : Shared Ticket Row Key}
      (kept : Sound backend callOf done ∧ Grows s done) :
      Sound backend callOf (perform choice s answer done).2 ∧
        Grows s (perform choice s answer done).2 := by
    rcases perform_snd choice s done answer with same | same
    · rw [same]
      exact ⟨holds, Grows.refl s⟩
    · rw [same]
      exact kept
  cases request with
  | insertEntry key operation agentId => exact performed (sound_insertEntry holds _ _ _)
  | claimedEntry key => exact performed (sound_reuse holds _)
  | setBinding pairId binding => exact performed (sound_setBinding holds _ _)
  | swapBinding pairId expected binding => exact performed (sound_swapBinding holds _ _ _)
  | provision label => exact performed (sound_provision holds _ _)
  | updateKey clientId requestorId reason => exact sound_updateKey holds _ _
  | completeEntry key response => exact incomplete.elim
  | _ => exact performed ⟨holds, Grows.refl s⟩

/-- A route without a completion is safe. -/
theorem safe_of_incomplete {α : Type} {p : Script Response α}
    (asks : Asks Request.Incomplete p) :
    (contract backend callOf).Safe (serve backend) ticket (fun _ _ => True) p s := by
  induction p generalizing s with
  | done a => exact fun _ _ _ => trivial
  | ask request next ih =>
      intro t choice holds grown
      obtain ⟨kept, further⟩ := sound_serve holds choice asks.1
      exact ⟨kept, further, ih _ (asks.2 _)⟩

variable (backend) in
/-- The key is this agent's, for the operation. -/
def Owned (s : Shared Ticket Row Key) (call : Call) (operation : Text) : Prop :=
  ∃ entry, s.entries (backend.key call.headerKey) = some entry ∧ entry.operation = operation ∧
    entry.agentId = call.agent.canonicalId

omit [DecidableEq Row] [DecidableEq Key] in
theorem Owned.grow {t : Shared Ticket Row Key} {call : Call} {operation : Text}
    (owned : Owned backend s call operation) (grown : Grows s t) :
    Owned backend t call operation := by
  obtain ⟨entry, found, sameOperation, sameAgent⟩ := owned
  obtain ⟨later, isLater, sameOperation', sameAgent'⟩ := grown.owner _ entry found
  exact ⟨later, isLater, sameOperation'.trans sameOperation, sameAgent'.trans sameAgent⟩

/-- The response is kept, or is the one that was. -/
theorem safe_finishIdempotent {key : Text} {response : Json}
    {post : Except Reply Reply → Shared Ticket Row Key → Prop}
    (raises : ∀ t, post (.error .raised) t)
    (ends : ∀ t, Grows s t → post (.ok (.json 200 response)) t)
    (justified : ∀ t, Grows s t → ∀ entry, t.entries (backend.key key) = some entry →
      entry.operation = bindOperation → response = okBody ∧ ∃ call, callOf ticket = some call ∧
        call.agent.canonicalId = entry.agentId ∧ Bound backend t ticket call)
    (stringify : Json → Text) :
    (contract backend callOf).Safe (serve backend) ticket post
      (finishIdempotent stringify key response).run s := by
  apply safe_ask (fun choice t => rfl) raises
  intro t choice holds grown
  obtain ⟨kept, further⟩ := sound_completeEntry holds (justified t grown)
  refine ⟨kept, further, ?_⟩
  have reached := Grows.trans _ _ _ grown further
  split
  · exact fun u _ later => ends u (Grows.trans _ _ _ reached later)
  · apply safe_read (fun choice t => rfl) raises
    intro u choice _ later
    have last := Grows.trans _ _ _ reached later
    split
    · split
      · exact fun v _ after => ends v (Grows.trans _ _ _ last after)
      · exact fun v _ _ => raises v
    · exact fun v _ _ => raises v

variable (backend callOf ticket) in
/-- The key is the agent's once it is claimed, and a response that the route has cached is that
of a call whose pair has been bound. -/
def Claimed (call : Call) (operation : Text) :
    Except Reply (Option Json) → Shared Ticket Row Key → Prop
  | .error reply, _ => reply ≠ .json 200 okBody
  | .ok cached, s => Owned backend s call operation ∧ (operation = bindOperation →
      ∀ response, truthy cached = some response →
        response = okBody ∧ ∃ other call', (ticket, other) ∈ s.reused ∧
          callOf other = some call' ∧ call'.agent.canonicalId = call.agent.canonicalId ∧
          Bound backend s other call')

omit [DecidableEq Row] [DecidableEq Key] in
theorem Claimed.grow {call : Call} {operation : Text} {cached : Option Json}
    {t : Shared Ticket Row Key}
    (claimed : Claimed backend callOf ticket call operation (.ok cached) s) (grown : Grows s t) :
    Claimed backend callOf ticket call operation (.ok cached) t := by
  refine ⟨claimed.1.grow grown, fun isOurs response isTruthy => ?_⟩
  obtain ⟨isOk, other, call', member, isCall, sameAgent, bound⟩ :=
    claimed.2 isOurs response isTruthy
  exact ⟨isOk, other, call', grown.reused _ member, isCall, sameAgent, bound.grow backend grown⟩

omit [DecidableEq Row] in
theorem owned_of_insertEntry {call : Call} {operation : Text}
    (inserted : (s.insertEntry (backend.key call.headerKey) operation
      call.agent.canonicalId).1 = true) :
    Owned backend (s.insertEntry (backend.key call.headerKey) operation
      call.agent.canonicalId).2 call operation := by
  unfold Shared.insertEntry at inserted ⊢
  split
  · next found =>
      rw [found] at inserted
      cases inserted
  · exact ⟨_, Function.update_self .., rfl, rfl⟩

omit [DecidableEq Row] [DecidableEq Key] in
theorem entries_reuse (key : Key) : (s.reuse ticket key).entries = s.entries := by
  unfold Shared.reuse
  split <;> rfl

omit [DecidableEq Row] [DecidableEq Key] in
theorem reused_of_reuse {key : Key} {other : Ticket} (isCompleter : s.completer key = some other) :
    (ticket, other) ∈ (s.reuse ticket key).reused := by
  unfold Shared.reuse
  rw [isCompleter]
  exact List.mem_cons_self

omit [DecidableEq Row] [DecidableEq Key] in
/-- The row that a claim found is the agent's, complete or not. -/
theorem claimed_of_found {call : Call} {operation : Text} {entry : Entry}
    (holds : Sound backend callOf s)
    (found : s.entries (backend.key call.headerKey) = some entry)
    (isFor : Entry.isFor entry operation call.agent = true) :
    Claimed backend callOf ticket call operation (.ok entry.response)
      (s.reuse ticket (backend.key call.headerKey)) := by
  simp only [Entry.isFor, Bool.and_eq_true, decide_eq_true_eq] at isFor
  obtain ⟨sameOperation, sameAgent⟩ := isFor
  refine ⟨⟨entry, ?_, sameOperation, sameAgent⟩, fun isOurs response isTruthy => ?_⟩
  · rw [entries_reuse]
    exact found
  · obtain ⟨isOk, other, call', isCompleter, isCall, isAgent, bound⟩ :=
      holds.complete _ entry response found (sameOperation.trans isOurs) (eq_of_truthy isTruthy)
    have grown : Grows s (s.reuse ticket (backend.key call.headerKey)) :=
      (sound_reuse holds _).2
    exact ⟨isOk, other, call', reused_of_reuse isCompleter, isCall, isAgent.trans sameAgent,
      bound.grow backend grown⟩

theorem raised_ne_ok : Reply.raised ≠ .json 200 okBody := fun same => by cases same

theorem refusal_ne_ok {status : Nat} {error : String} (refused : status ≠ 200) :
    refusal status error ≠ .json 200 okBody := by
  intro same
  injection same with isStatus
  exact refused isStatus

theorem safe_claimIdempotency {call : Call} {operation : Text} :
    (contract backend callOf).Safe (serve backend) ticket
      (Claimed backend callOf ticket call operation) (claimIdempotency call operation).run s := by
  have refused {status : Nat} {error : String} (isRefusal : status ≠ 200)
      (t : Shared Ticket Row Key) : (contract backend callOf).Safe (serve backend) ticket
        (Claimed backend callOf ticket call operation)
        (.done (.error (refusal status error))) t :=
    fun u _ _ => refusal_ne_ok isRefusal
  unfold claimIdempotency
  split
  · apply safe_ask (fun choice t => rfl) fun t => raised_ne_ok
    intro t choice holds grown
    obtain ⟨kept, further⟩ := sound_insertEntry holds (backend.key call.headerKey) operation
      call.agent.canonicalId
    refine ⟨kept, further, ?_⟩
    split
    · next inserted =>
        have owned := owned_of_insertEntry inserted
        exact fun u _ later => ⟨owned.grow later, fun _ response isTruthy => by cases isTruthy⟩
    · apply safe_ask (fun choice t => rfl) fun t => raised_ne_ok
      intro u choice' holds _
      obtain ⟨kept, further⟩ := sound_reuse holds (backend.key call.headerKey)
      refine ⟨kept, further, ?_⟩
      split
      · next entry found =>
          split
          · next isFor =>
              exact fun v _ later => (claimed_of_found holds found isFor).grow later
          · exact refused (by decide) _
      · exact refused (by decide) _
  · exact refused (by decide) _

variable (backend callOf ticket) in
/-- A call that replied ok has bound its pair, or was answered from a call that bound its own. -/
def Replies (call : Call) (reply : Reply) (s : Shared Ticket Row Key) : Prop :=
  reply = .json 200 okBody → Bound backend s ticket call ∨
    ∃ other call', (ticket, other) ∈ s.reused ∧ callOf other = some call' ∧
      call'.agent.canonicalId = call.agent.canonicalId ∧ Bound backend s other call'

theorem safe_throw {call : Call} {reply : Reply} (refused : reply ≠ .json 200 okBody) :
    (contract backend callOf).Safe (serve backend) ticket
      (fun outcome => Replies backend callOf ticket call (replied outcome))
      (throw reply : Route Reply).run s :=
  fun _ _ _ isOk => absurd isOk refused

omit [DecidableEq Row] [DecidableEq Key] in
theorem eq_bindingOf {binding : Binding} {agent : Agent}
    (owned : bindingOwnedBy binding agent = true) :
    binding = bindingOf agent binding.tskClientId := by
  simp only [bindingOwnedBy, Bool.and_eq_true, decide_eq_true_eq] at owned
  obtain ⟨⟨sameAgent, sameCanonical⟩, sameKey⟩ := owned
  rw [bindingOf, ← sameAgent, ← sameCanonical, ← sameKey]

theorem safe_finishBound {call : Call} (isCall : callOf ticket = some call)
    (bound : Bound backend s ticket call) (owned : Owned backend s call bindOperation)
    (stringify : Json → Text) :
    (contract backend callOf).Safe (serve backend) ticket
      (fun outcome => Replies backend callOf ticket call (replied outcome))
      (finishIdempotent stringify call.headerKey okBody).run s := by
  apply safe_finishIdempotent (fun t isOk => absurd isOk raised_ne_ok)
  · exact fun t grown _ => .inl (bound.grow backend grown)
  · intro t grown entry found _
    obtain ⟨own, isOwn, _, sameAgent⟩ := owned.grow grown
    rw [found] at isOwn
    cases isOwn
    exact ⟨rfl, call, isCall, sameAgent.symm, bound.grow backend grown⟩

theorem safe_bindPair {call : Call} (isCall : callOf ticket = some call) {pairId tskClientId : Json}
    (isPair : call.body.get? "pairId" = some pairId)
    (isClient : call.body.get? "tskClientId" = some tskClientId)
    (owned : Owned backend s call bindOperation) :
    (contract backend callOf).Safe (serve backend) ticket
      (fun outcome => Replies backend callOf ticket call (replied outcome))
      (bindPair backend call pairId tskClientId).run s := by
  have raises (t : Shared Ticket Row Key) :
      Replies backend callOf ticket call (replied (.error .raised)) t :=
    fun isOk => absurd isOk raised_ne_ok
  apply safe_read (fun choice t => rfl) raises
  intro t choice _ grown
  have owned := owned.grow grown
  apply safe_read (fun choice t => rfl) raises
  intro u choice' _ grown
  have owned := owned.grow grown
  dsimp only
  split
  · apply safe_read (fun choice t => rfl) raises
    intro v choice'' holds grown
    have owned := owned.grow grown
    split
    · next existing found =>
        split
        · next same =>
            apply safe_finishBound isCall _ owned
            refine ⟨pairId, existing.tskClientId, isPair, ?_, ?_⟩
            · rw [isClient, Json.eq_str same.1]
            · rw [← eq_bindingOf same.2]
              exact holds.bound _ _ found
        · exact safe_throw (refusal_ne_ok (by decide))
    · split
      · next binding valid =>
          obtain ⟨clientId, isText, isValid⟩ := Option.bind_eq_some_iff.mp valid
          apply safe_ask (fun choice t => rfl) raises
          intro w choice''' holds grown
          have owned := owned.grow grown
          obtain ⟨kept, further⟩ := sound_setBinding holds (backend.row ticket pairId) binding
          refine ⟨kept, further, ?_⟩
          split
          · next isSet =>
              apply safe_finishBound isCall _ (owned.grow further)
              refine ⟨pairId, clientId, isPair, ?_, ?_⟩
              · rw [isClient, Json.eq_str isText]
              · rw [← eq_of_validateIdentityBinding isValid]
                exact bound_of_setBinding holds isSet
          · exact safe_throw raised_ne_ok
      · exact safe_throw raised_ne_ok
  · exact safe_throw (refusal_ne_ok (by decide))

theorem safe_bindIdentity {call : Call} (isCall : callOf ticket = some call)
    (holds : Sound backend callOf s) :
    (contract backend callOf).Safe (serve backend) ticket
      (fun outcome => Replies backend callOf ticket call (replied outcome))
      (bindIdentity backend call).run s := by
  unfold bindIdentity
  split
  · next pairId tskClientId isPair isClient =>
      split
      · refine Contract.Safe.bindExcept holds safe_claimIdempotency ?_ ?_
        · exact fun reply t _ refused u _ _ isOk => absurd isOk refused
        · intro cached t kept claimed
          split
          · next response isCached =>
              intro u _ grown _
              exact .inr ((claimed.grow grown).2 rfl response isCached).2
          · exact safe_bindPair isCall (eq_of_truthy isPair) (eq_of_truthy isClient) claimed.1
      · exact safe_throw (refusal_ne_ok (by decide))
  · refine safe_throw fun same => ?_
    injection same with isStatus
    cases isStatus

/-- A key of the other operation may be completed. -/
theorem safe_finishPrepared {call : Call} (owned : Owned backend s call prepareOperation)
    (stringify : Json → Text) (response : Json) :
    (contract backend callOf).Safe (serve backend) ticket (fun _ _ => True)
      (finishIdempotent stringify call.headerKey response).run s := by
  apply safe_finishIdempotent (fun _ => trivial) fun _ _ => trivial
  intro t grown entry found isOurs
  obtain ⟨own, isOwn, isPrepare, _⟩ := owned.grow grown
  rw [found] at isOwn
  cases isOwn
  exact absurd (isPrepare.symm.trans isOurs) (by decide)

theorem safe_prepareCandidate {call : Call} {label : Text}
    (owned : Owned backend s call prepareOperation) :
    (contract backend callOf).Safe (serve backend) ticket (fun _ _ => True)
      (prepareCandidate backend call label).run s := by
  have refused {reply : Reply} {t : Shared Ticket Row Key} : (contract backend callOf).Safe
      (serve backend) ticket (fun _ _ => True) (throw reply : Route Reply).run t :=
    fun _ _ _ => trivial
  apply safe_read (fun choice t => rfl) fun _ => trivial
  intro t choice _ grown
  have owned := owned.grow grown
  split
  · apply safe_ask (fun choice t => rfl) fun _ => trivial
    intro u choice' holds grown
    obtain ⟨kept, further⟩ := sound_provision holds label choice'.provisioned
    refine ⟨kept, further, ?_⟩
    split
    · exact safe_finishPrepared ((owned.grow grown).grow further) _ _
    · exact refused
  · split
    · exact safe_finishPrepared owned _ _
    · exact refused
  · exact refused

theorem asks_ask {allowed : Request → Prop} {α : Type} {request : Request}
    {next : Answer request → Route α} (isAllowed : allowed request)
    (further : ∀ answer, Asks allowed (next answer).run) :
    Asks allowed (ask request >>= next).run := by
  refine ⟨isAllowed, fun response => ?_⟩
  cases response with
  | none => trivial
  | some answer => exact further answer

theorem asks_bind {allowed : Request → Prop} {α β : Type} {p : Route α} {f : α → Route β}
    (first : Asks allowed p.run) (further : ∀ a, Asks allowed (f a).run) :
    Asks allowed (p >>= f).run := by
  refine Asks.bind first fun outcome => ?_
  cases outcome with
  | error reply => trivial
  | ok a => exact further a

omit [DecidableEq Row] [DecidableEq Key] in
theorem incomplete_prepareCached (label : Text) (response : Json) :
    Asks Request.Incomplete (prepareCached backend label response).run := by
  refine asks_ask trivial fun cachedMap => ?_
  split <;> trivial

theorem safe_rotatePrepare {call : Call} :
    (contract backend callOf).Safe (serve backend) ticket (fun _ _ => True)
      (rotatePrepare backend call).run s := by
  have refused {reply : Reply} {t : Shared Ticket Row Key} : (contract backend callOf).Safe
      (serve backend) ticket (fun _ _ => True) (throw reply : Route Reply).run t :=
    fun _ _ _ => trivial
  unfold rotatePrepare
  split
  · split
    · apply safe_read (fun choice t => rfl) fun _ => trivial
      intro t choice _ _
      apply safe_read (fun choice t => rfl) fun _ => trivial
      intro u choice' holds _
      split
      · refine Contract.Safe.bindExcept holds safe_claimIdempotency ?_ ?_
        · exact fun _ _ _ _ => refused
        · intro cached v _ claimed
          split
          · exact safe_of_incomplete (incomplete_prepareCached _ _)
          · exact safe_prepareCandidate claimed.1
      · exact refused
    · exact refused
  · exact refused

omit [DecidableEq Row] [DecidableEq Key] in
theorem incomplete_compareAndSwap (call : Call) (pairId oldClientId newClientId : Json) :
    Asks Request.Incomplete (compareAndSwap backend call pairId oldClientId newClientId).run := by
  unfold compareAndSwap
  split
  · refine asks_ask trivial fun updated => ?_
    split
    · trivial
    · exact asks_ask trivial fun _ => trivial
  · trivial

theorem incomplete_revokeOld (call : Call) (oldClientId : Json) (oldMap : Option TskMap) :
    Asks Request.Incomplete (revokeOld call oldClientId oldMap).run := by
  unfold revokeOld
  split
  · trivial
  · exact ⟨trivial, fun response => by cases response <;> trivial⟩

omit [DecidableEq Row] [DecidableEq Key] in
theorem incomplete_rotateCommit (call : Call) :
    Asks Request.Incomplete (rotateCommit backend call).run := by
  unfold rotateCommit
  split
  · split
    · trivial
    · refine asks_ask trivial fun pair => asks_ask trivial fun binding => ?_
      refine asks_ask trivial fun oldMap => asks_ask trivial fun newMap => ?_
      split
      · refine asks_bind (incomplete_compareAndSwap _ _ _ _) fun swap => ?_
        split
        · trivial
        · refine asks_bind (incomplete_revokeOld _ _ _) fun revoked => ?_
          split <;> trivial
      · trivial
  · trivial

end Contract

section Runs

variable {Ticket Row Key : Type} [DecidableEq Ticket] [DecidableEq Row] [DecidableEq Key]

/-- At the start the bindings are on record, and no key has been used for the route. -/
structure Begins (start : Shared Ticket Row Key) : Prop where
  bound : ∀ row binding, start.bindings row = some binding ↔ (row, binding) ∈ start.bound
  unused : ∀ key entry, start.entries key = some entry → entry.operation ≠ bindOperation

abbrev requests (backend : Backend Ticket Row Key) (start : Shared Ticket Row Key) :
    System (World Ticket Call (Shared Ticket Row Key) Reply Response)
      (Event Ticket Call Choice) :=
  callsFrom (serve backend) (program backend) start

variable {backend : Backend Ticket Row Key} {start : Shared Ticket Row Key}
  {events : List (Event Ticket Call Choice)}
  {world : World Ticket Call (Shared Ticket Row Key) Reply Response}

omit [DecidableEq Ticket] [DecidableEq Key] in
theorem bindings_of_bind {s : Shared Ticket Row Key} {row row' : Row}
    {binding binding' : Binding} (member : (row, binding) ∈ (s.bind row' binding').bound) :
    (row, binding) ∈ s.bound ∨ (s.bind row' binding').bindings row = some binding := by
  rcases List.mem_cons.mp member with same | earlier
  · cases same
    exact .inr (Function.update_self ..)
  · exact .inl earlier

omit [DecidableEq Ticket] [DecidableEq Key] in
theorem bindings_of_setBinding {s : Shared Ticket Row Key} {row row' : Row}
    {binding binding' : Binding} (member : (row, binding) ∈ (s.setBinding row' binding').2.bound) :
    (row, binding) ∈ s.bound ∨ (s.setBinding row' binding').2.bindings row = some binding := by
  unfold Shared.setBinding at member ⊢
  split
  · next found =>
      rw [found] at member
      exact .inl member
  · next absent =>
      rw [absent] at member
      exact bindings_of_bind member

omit [DecidableEq Ticket] [DecidableEq Key] in
theorem bindings_of_swapBinding {s : Shared Ticket Row Key} {row row' : Row}
    {expected : Option Text} {binding binding' : Binding}
    (member : (row, binding) ∈ (s.swapBinding row' expected binding').2.bound) :
    (row, binding) ∈ s.bound ∨
      (s.swapBinding row' expected binding').2.bindings row = some binding := by
  unfold Shared.swapBinding at member ⊢
  split
  · next current found =>
      rw [found] at member
      dsimp only at member
      split
      · next fits =>
          rw [if_pos fits] at member
          exact bindings_of_bind member
      · next differs =>
          rw [if_neg differs] at member
          exact .inl member
  · next absent =>
      rw [absent] at member
      exact .inl member

omit [DecidableEq Ticket] in
/-- A step puts on record what it binds. -/
theorem bound_of_serve {choice : Choice} {ticket : Ticket} {s : Shared Ticket Row Key}
    {request : Request} {row : Row} {binding : Binding}
    (member : (row, binding) ∈ (serve backend choice ticket s request).2.bound) :
    (row, binding) ∈ s.bound ∨
      (serve backend choice ticket s request).2.bindings row = some binding := by
  have performed {α : Type} {answer : α} {done : Shared Ticket Row Key}
      (onRecord : (row, binding) ∈ done.bound →
        (row, binding) ∈ s.bound ∨ done.bindings row = some binding)
      (member : (row, binding) ∈ (perform choice s answer done).2.bound) :
      (row, binding) ∈ s.bound ∨ (perform choice s answer done).2.bindings row = some binding := by
    rcases perform_snd choice s done answer with same | same
    · rw [same] at member
      exact .inl member
    · rw [same] at member ⊢
      exact onRecord member
  have still {done : Shared Ticket Row Key} (same : done.bound = s.bound)
      (member : (row, binding) ∈ done.bound) :
      (row, binding) ∈ s.bound ∨ done.bindings row = some binding := .inl (same ▸ member)
  cases request with
  | insertEntry key operation agentId =>
      refine performed (still ?_) member
      unfold Shared.insertEntry
      split <;> rfl
  | claimedEntry key =>
      refine performed (still ?_) member
      unfold Shared.reuse
      split <;> rfl
  | completeEntry key response =>
      refine performed (still ?_) member
      unfold Shared.completeEntry
      split <;> rfl
  | provision label =>
      refine performed (still ?_) member
      unfold Shared.provision
      split
      · rfl
      · split <;> rfl
  | updateKey clientId requestorId reason =>
      refine still ?_ member
      unfold serve Shared.updateKey
      dsimp only
      split <;> rfl
  | setBinding pairId binding' => exact performed bindings_of_setBinding member
  | swapBinding pairId expected binding' => exact performed bindings_of_swapBinding member
  | _ => exact performed (still rfl) member

/-- What is on record has been bound at some moment. -/
theorem was_bound_of_run (begins : Begins start)
    (run : (requests backend start).Run events world) {row : Row} {binding : Binding}
    (member : (row, binding) ∈ world.shared.bound) :
    ∃ k before, k ≤ events.length ∧ (requests backend start).Run (events.take k) before ∧
      before.shared.bindings row = some binding := by
  induction run with
  | @start world first =>
      refine ⟨0, world, Nat.le_refl _, .start first, ?_⟩
      rw [first.1] at member ⊢
      exact (begins.bound row binding).mpr member
  | @step events world t event before next ih =>
      have earlier (isEarlier : (row, binding) ∈ world.shared.bound) :
          ∃ k before, k ≤ (events ++ [event]).length ∧
            (requests backend start).Run ((events ++ [event]).take k) before ∧
            before.shared.bindings row = some binding := by
        obtain ⟨k, moment, inside, run, isBound⟩ := ih isEarlier
        refine ⟨k, moment, Nat.le_trans inside (by simp), ?_, isBound⟩
        rw [List.take_append_of_le_length inside]
        exact run
      rcases shared_of_step next with same | ⟨choice, ticket, request, isServed⟩
      · exact earlier (same ▸ member)
      · rw [isServed] at member
        rcases bound_of_serve member with isEarlier | isBound
        · exact earlier isEarlier
        · refine ⟨_, t, Nat.le_refl _, ?_, isServed ▸ isBound⟩
          rw [List.take_length]
          exact before.step next

omit [DecidableEq Ticket] [DecidableEq Key] in
theorem unbound_bind {s : Shared Ticket Row Key} (row : Row) (binding : Binding) :
    s.Unbound (s.bind row binding) := by
  intro other unbound
  by_cases same : other = row
  · rw [same] at unbound
    cases (Function.update_self ..).symm.trans unbound
  · exact (Function.update_of_ne same ..).symm.trans unbound

omit [DecidableEq Ticket] in
/-- A pair that is unbound has been so before. -/
theorem unbound_serve (choice : Choice) (ticket : Ticket) (s : Shared Ticket Row Key)
    (request : Request) : s.Unbound (serve backend choice ticket s request).2 := by
  have refl : s.Unbound s := fun _ unbound => unbound
  have performed {α : Type} {answer : α} {done : Shared Ticket Row Key} (kept : s.Unbound done) :
      s.Unbound (perform choice s answer done).2 := by
    rcases perform_snd choice s done answer with same | same
    · rw [same]
      exact refl
    · rw [same]
      exact kept
  have still {done : Shared Ticket Row Key} (same : done.bindings = s.bindings) :
      s.Unbound done := fun row unbound => same ▸ unbound
  cases request with
  | insertEntry key operation agentId =>
      refine performed (still ?_)
      unfold Shared.insertEntry
      split <;> rfl
  | claimedEntry key =>
      refine performed (still ?_)
      unfold Shared.reuse
      split <;> rfl
  | completeEntry key response =>
      refine performed (still ?_)
      unfold Shared.completeEntry
      split <;> rfl
  | provision label =>
      refine performed (still ?_)
      unfold Shared.provision
      split
      · rfl
      · split <;> rfl
  | updateKey clientId requestorId reason =>
      refine still ?_
      unfold serve Shared.updateKey
      dsimp only
      split <;> rfl
  | setBinding pairId binding =>
      refine performed ?_
      unfold Shared.setBinding
      split
      · exact refl
      · exact unbound_bind _ _
  | swapBinding pairId expected binding =>
      refine performed ?_
      unfold Shared.swapBinding
      split
      · split
        · exact unbound_bind _ _
        · exact refl
      · exact refl
  | _ => exact performed refl

theorem unbound_of_run (run : (requests backend start).Run events world) {k : Nat}
    {before : World Ticket Call (Shared Ticket Row Key) Reply Response}
    (early : (requests backend start).Run (events.take k) before) :
    before.shared.Unbound world.shared :=
  lasts_of_run (fun _ _ unbound => unbound)
    (fun _ _ _ first second row unbound => first row (second row unbound))
    unbound_serve run early

/-- Two requests name the same pair, client and agent. -/
structure SameTriple (backend : Backend Ticket Row Key) (ticket : Ticket) (call : Call)
    (other : Ticket) (call' : Call) : Prop where
  pair : (call.body.get? "pairId").map (backend.row ticket) =
    (call'.body.get? "pairId").map (backend.row other)
  client : call.body.get? "tskClientId" = call'.body.get? "tskClientId"
  agent : call.agent = call'.agent

/-- What a call has replied. -/
def Wanted (backend : Backend Ticket Row Key) (callOf : Ticket → Option Call) (ticket : Ticket)
    (call : Call) (reply : Reply) (s : Shared Ticket Row Key) : Prop :=
  call.action = .bindIdentity → Replies backend callOf ticket call reply s

omit [DecidableEq Ticket] in
theorem safe_program {callOf : Ticket → Option Call} {ticket : Ticket} {call : Call}
    {s : Shared Ticket Row Key} (isCall : callOf ticket = some call)
    (holds : Sound backend callOf s) :
    (contract backend callOf).Safe (serve backend) ticket (Wanted backend callOf ticket call)
      (program backend call) s := by
  apply Contract.Safe.map
  unfold route
  cases isAction : call.action with
  | bindIdentity =>
      exact (safe_bindIdentity isCall holds).mono fun outcome t replies _ => replies
  | rotatePrepare =>
      refine safe_rotatePrepare.mono fun outcome t _ isBind => ?_
      rw [isAction] at isBind
      cases isBind
  | rotateCommit =>
      refine (safe_of_incomplete (incomplete_rotateCommit call)).mono fun outcome t _ isBind => ?_
      rw [isAction] at isBind
      cases isBind

theorem upheld_of_requests (begins : Begins start)
    (run : (requests backend start).Run events world) :
    world.Upheld (serve backend) (contract backend world.callOf)
      (Wanted backend world.callOf) := by
  have safely : ∀ ticket call s, world.callOf ticket = some call →
      (contract backend world.callOf).inv s → (contract backend world.callOf).fresh ticket s →
      (contract backend world.callOf).Safe (serve backend) ticket
        (Wanted backend world.callOf ticket call) (program backend call) s :=
    fun ticket call s isCall holds _ => safe_program isCall holds
  have sound : ∀ s, s = start → (contract backend world.callOf).inv s := by
    intro s isStart
    rw [isStart]
    exact ⟨fun row binding => (begins.bound row binding).mp,
      fun key entry response found isOurs => absurd isOurs (begins.unused key entry found)⟩
  exact upheld_of_run safely sound (fun _ _ _ => trivial) run
    fun ticket call started => (callOf_eq_some_iff run).mpr started

/-- Where no request is answered from the key of one that names another pair, client or agent,
a reply ok means that the pair named has been bound to the client and agent named. -/
theorem bound_of_run (begins : Begins start) (run : (requests backend start).Run events world)
    (same : ∀ ticket other call call', (ticket, other) ∈ world.shared.reused →
      world.callOf ticket = some call → call.action = .bindIdentity →
        world.callOf other = some call' → call'.agent.canonicalId = call.agent.canonicalId →
          SameTriple backend ticket call other call')
    {ticket : Ticket} {call : Call} (isBind : call.action = .bindIdentity)
    (replied : world.progress ticket = some ⟨call, some (.done (.json 200 okBody))⟩) :
    ∃ pairId clientId, call.body.get? "pairId" = some pairId ∧
      call.body.get? "tskClientId" = some (.str clientId) ∧
      ∃ k before, k ≤ events.length ∧ (requests backend start).Run (events.take k) before ∧
        before.shared.bindings (backend.row ticket pairId) =
          some (bindingOf call.agent clientId) := by
  have upheld := upheld_of_requests begins run
  have isCall : world.callOf ticket = some call := by
    rw [World.callOf, replied]
    rfl
  have bound : Bound backend world.shared ticket call := by
    rcases upheld.safe ticket call _ replied world.shared upheld.holds (Grows.refl _) isBind
        rfl with
      bound | ⟨other, call', member, isOther, sameAgent, bound⟩
    · exact bound
    · have triple := same ticket other call call' member isCall isBind isOther sameAgent
      obtain ⟨pairId, clientId, isPair, isClient, member⟩ := bound
      have pairs := triple.pair
      rw [isPair] at pairs
      obtain ⟨ownId, isOwn, sameRow⟩ := Option.map_eq_some_iff.mp pairs
      refine ⟨ownId, clientId, isOwn, triple.client.trans isClient, ?_⟩
      rw [sameRow, triple.agent]
      exact member
  obtain ⟨pairId, clientId, isPair, isClient, member⟩ := bound
  exact ⟨pairId, clientId, isPair, isClient, was_bound_of_run begins run member⟩

end Runs

def sampleDigest : Text :=
  text "66687aadf862bd776c8fc18b8e9f8e20089714856ee233b3902a591d0d5f2925"

/-- The agent of the key of zeros. -/
def sampleAgent : Agent where
  agentId := text "SC-66687AAD"
  canonicalId := text "SCID-" ++ sampleDigest
  publicKeyHex := List.replicate 64 0x30

def sampleStringify : Json → Text
  | .bool true => text "true"
  | .bool false => text "false"
  | .str value => text "\"" ++ value ++ text "\""
  | _ => text "null"

def sampleBackend : Backend Nat (Option Text) Text where
  row _ value := value.str?
  client value := value.str?
  template value := value.str?.getD []
  key key := key.map lowerUnit
  sha256 _ := sampleDigest
  stringify := sampleStringify
  payload map := .obj [(text "clientId", .str map.clientId)]
  updateKey _ granted := if granted then .updated else .declined
  template_str _ := rfl
  template_client _ _ found := congrArg (·.getD []) found
  template_row _ _ _ _ same := congrArg (·.getD []) same
  denied _ := .inr rfl

/-- The agent's two credentials, and no pair bound. -/
def sampleTables : Shared Nat (Option Text) Text where
  bindings _ := none
  entries _ := none
  keys id := some ⟨id, text "agent:" ++ sampleAgent.canonicalId, text "active", text "secret"⟩
  bound := []
  completer _ := none
  reused := []

def sampleKey : Text := text "6f1c2f0e-27c5-4d67-9c58-4dd04bb7a0aa"

def sampleCall (pairId tskClientId : String) : Call where
  action := .bindIdentity
  agent := sampleAgent
  headerKey := sampleKey
  body := .obj [(text "pairId", .str (text pairId)),
    (text "tskClientId", .str (text tskClientId)), (text "agentId", .str sampleAgent.agentId),
    (text "idempotencyKey", .str sampleKey)]

def answering : Choice where
  fails := false
  lost := false
  pair := some ⟨sampleAgent.canonicalId, text "active"⟩
  ids := []
  provisioned := .error none

/-- A request, then one of the same key. -/
def sampleEvents (second : Call) : List (Event Nat Call Choice) :=
  [.start 0 (sampleCall "first" "a")] ++ List.replicate 6 (.serve 0 answering) ++
    [.start 1 second] ++ List.replicate 2 (.serve 1 answering)

def sampleRun (second : Call) :
    Option (World Nat Call (Shared Nat (Option Text) Text) Reply Response) :=
  (sampleEvents second).foldlM (World.step (serve sampleBackend) (program sampleBackend))
    ⟨sampleTables, fun _ => none⟩

theorem run_of_sampleRun {second : Call}
    {world : World Nat Call (Shared Nat (Option Text) Text) Reply Response}
    (found : sampleRun second = some world) :
    (requests sampleBackend sampleTables).Run (sampleEvents second) world := by
  have begins : (requests sampleBackend sampleTables).initial ⟨sampleTables, fun _ => none⟩ :=
    ⟨rfl, fun _ => rfl⟩
  have run : (requests sampleBackend sampleTables).Run ([] ++ sampleEvents second) world :=
    System.Run.fold (fun _ _ _ next => next) (.start begins) found
  exact run

/-- A retry is answered from the request it repeats. -/
theorem retried : (sampleRun (sampleCall "first" "a")).map (fun world =>
    (world.progress 0, world.progress 1, world.shared.reused)) =
      some (some ⟨sampleCall "first" "a", some (.done (.json 200 okBody))⟩,
        some ⟨sampleCall "first" "a", some (.done (.json 200 okBody))⟩, [(1, 0)]) := rfl

theorem begins_sampleTables : Begins sampleTables where
  bound row binding := iff_of_false (fun same => by cases same) (List.not_mem_nil)
  unused key entry found := by cases found

theorem bound_of_run_retried :
    ∃ pairId clientId, (sampleCall "first" "a").body.get? "pairId" = some pairId ∧
      (sampleCall "first" "a").body.get? "tskClientId" = some (.str clientId) ∧
      ∃ k before, k ≤ (sampleEvents (sampleCall "first" "a")).length ∧
        (requests sampleBackend sampleTables).Run
          ((sampleEvents (sampleCall "first" "a")).take k) before ∧
        before.shared.bindings (sampleBackend.row 1 pairId) =
          some (bindingOf sampleAgent clientId) := by
  obtain ⟨world, found, ended⟩ := Option.map_eq_some_iff.mp retried
  simp only [Prod.mk.injEq] at ended
  obtain ⟨first, second, isReused⟩ := ended
  have known (ticket : Nat) (progress : Progress Call Reply Response) (call : Call)
      (isProgress : world.progress ticket = some progress)
      (isCall : world.callOf ticket = some call) : progress.call = call := by
    rw [World.callOf, isProgress] at isCall
    exact Option.some.inj isCall
  refine bound_of_run begins_sampleTables (run_of_sampleRun found) ?_ rfl second
  intro ticket other call call' member isCall _ isOther _
  rw [isReused] at member
  cases List.mem_singleton.mp member
  have isFirst := known 1 _ call second isCall
  have isSecond := known 0 _ call' first isOther
  rw [← isFirst, ← isSecond]
  exact ⟨rfl, rfl, rfl⟩

/-- A key that one pair's request has completed answers for another pair. -/
theorem not_bound_reusedKey :
    ∃ world, (requests sampleBackend sampleTables).Run (sampleEvents (sampleCall "second" "b"))
        world ∧
      world.progress 1 = some ⟨sampleCall "second" "b", some (.done (.json 200 okBody))⟩ ∧
      ∀ k before, (requests sampleBackend sampleTables).Run
          ((sampleEvents (sampleCall "second" "b")).take k) before →
        before.shared.bindings (sampleBackend.row 1 (.str (text "second"))) = none := by
  have reusedKey : (sampleRun (sampleCall "second" "b")).map (fun world =>
      (world.progress 1, world.shared.bindings (some (text "second")))) =
        some (some ⟨sampleCall "second" "b", some (.done (.json 200 okBody))⟩, none) := rfl
  obtain ⟨world, found, ended⟩ := Option.map_eq_some_iff.mp reusedKey
  simp only [Prod.mk.injEq] at ended
  obtain ⟨replied, unbound⟩ := ended
  have run := run_of_sampleRun found
  exact ⟨world, run, replied, fun k before early => unbound_of_run run early _ unbound⟩

end SelfConnect.Ultra.BindIdentity
