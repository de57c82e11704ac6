import SelfConnect.Library.Script
import SelfConnect.Library.System
import Mathlib.Logic.Function.Basic

namespace SelfConnect.Library.Calls

open SelfConnect.Library

/-! Calls at work on one shared state, which serves one request at a time. Each call has
a ticket of its own. -/

variable {Ticket Call Choice Request σ α β : Type} {Response : Request → Type}

/-- A call and what is left of it; nothing is left once it has crashed. -/
structure Progress (Call α : Type) {Request : Type} (Response : Request → Type) where
  call : Call
  rest : Option (Script Response α)

structure World (Ticket Call σ α : Type) {Request : Type} (Response : Request → Type) where
  shared : σ
  progress : Ticket → Option (Progress Call α Response)

/-- The call that has started under a ticket. -/
def World.callOf (world : World Ticket Call σ α Response) (ticket : Ticket) : Option Call :=
  (world.progress ticket).map Progress.call

inductive Event (Ticket Call Choice : Type)
  | start (ticket : Ticket) (call : Call)
  | serve (ticket : Ticket) (choice : Choice)
  | crash (ticket : Ticket)

/-- How a request goes, and what it leaves; the choice is not the caller's. -/
abbrev Serve (Ticket Choice σ : Type) {Request : Type} (Response : Request → Type) : Type :=
  Choice → Ticket → σ → (request : Request) → Response request × σ

variable (serve : Serve Ticket Choice σ Response) (program : Call → Script Response α)

section Steps

variable [DecidableEq Ticket]

def World.put (world : World Ticket Call σ α Response) (ticket : Ticket)
    (progress : Progress Call α Response) (shared : σ) : World Ticket Call σ α Response where
  shared := shared
  progress := Function.update world.progress ticket (some progress)

theorem World.progress_put (world : World Ticket Call σ α Response) (ticket : Ticket)
    (progress : Progress Call α Response) (shared : σ) :
    (world.put ticket progress shared).progress ticket = some progress :=
  Function.update_self ..

theorem World.progress_put_of_ne (world : World Ticket Call σ α Response) {ticket other : Ticket}
    (differs : other ≠ ticket) (progress : Progress Call α Response) (shared : σ) :
    (world.put ticket progress shared).progress other = world.progress other :=
  Function.update_of_ne differs ..

def World.step (world : World Ticket Call σ α Response) :
    Event Ticket Call Choice → Option (World Ticket Call σ α Response)
  | .start ticket call =>
      match world.progress ticket with
      | none => some (world.put ticket ⟨call, some (program call)⟩ world.shared)
      | some _ => none
  | .serve ticket choice =>
      match world.progress ticket with
      | some ⟨call, some (.ask request next)⟩ =>
          let served := serve choice ticket world.shared request
          some (world.put ticket ⟨call, some (next served.1)⟩ served.2)
      | _ => none
  | .crash ticket =>
      match world.progress ticket with
      | some progress => some (world.put ticket ⟨progress.call, none⟩ world.shared)
      | none => none

/-- All interleavings of any number of calls, from a first state in which none has begun. -/
def calls (first : σ → Prop) :
    System (World Ticket Call σ α Response) (Event Ticket Call Choice) where
  initial world := first world.shared ∧ ∀ ticket, world.progress ticket = none
  next world event t := world.step serve program event = some t

end Steps

/-- What holds of the shared state, what each call may do to it, and what each may count
on while the others do. -/
structure Contract (Ticket σ : Type) where
  inv : σ → Prop
  /-- Nothing has been done under the ticket. -/
  fresh : Ticket → σ → Prop
  guarantee : Ticket → σ → σ → Prop
  rely : Ticket → σ → σ → Prop
  rely_refl : ∀ ticket s, rely ticket s s
  rely_trans : ∀ ticket s t u, rely ticket s t → rely ticket t u → rely ticket s u
  rely_of_guarantee : ∀ ticket other s t, inv s → inv t → other ≠ ticket →
    guarantee ticket s t → rely other s t
  fresh_of_rely : ∀ ticket s t, fresh ticket s → rely ticket s t → fresh ticket t

namespace Contract

variable (contract : Contract Ticket σ)

/-- Whatever the others do between its requests, what is left of the call keeps to the
contract and ends as wanted. -/
def Safe (ticket : Ticket) (post : α → σ → Prop) : Script Response α → σ → Prop
  | .done a, s => ∀ t, contract.inv t → contract.rely ticket s t → post a t
  | .ask request next, s => ∀ t choice, contract.inv t → contract.rely ticket s t →
      let served := serve choice ticket t request
      contract.inv served.2 ∧ contract.guarantee ticket t served.2 ∧
        Safe ticket post (next served.1) served.2

variable {contract serve program} {ticket : Ticket} {post : α → σ → Prop} {s t : σ}

theorem Safe.later {p : Script Response α} (safe : contract.Safe serve ticket post p s)
    (relied : contract.rely ticket s t) : contract.Safe serve ticket post p t := by
  cases p with
  | done a => exact fun u holds further => safe u holds (contract.rely_trans _ _ _ _ relied further)
  | ask request next =>
      exact fun u choice holds further =>
        safe u choice holds (contract.rely_trans _ _ _ _ relied further)

theorem Safe.mono {post' : α → σ → Prop} (weaker : ∀ a t, post a t → post' a t)
    {p : Script Response α} (safe : contract.Safe serve ticket post p s) :
    contract.Safe serve ticket post' p s := by
  induction p generalizing s with
  | done a => exact fun t holds relied => weaker a t (safe t holds relied)
  | ask request next ih =>
      intro t choice holds relied
      obtain ⟨kept, guaranteed, rest⟩ := safe t choice holds relied
      exact ⟨kept, guaranteed, ih _ rest⟩

theorem Safe.bind {mid : α → σ → Prop} {post : β → σ → Prop} {p : Script Response α}
    {f : α → Script Response β} (holds : contract.inv s)
    (safe : contract.Safe serve ticket mid p s)
    (next : ∀ a t, contract.inv t → mid a t → contract.Safe serve ticket post (f a) t) :
    contract.Safe serve ticket post (p >>= f) s := by
  induction p generalizing s with
  | done a => exact next a s holds (safe s holds (contract.rely_refl _ _))
  | ask request rest ih =>
      intro t choice holds relied
      obtain ⟨kept, guaranteed, safely⟩ := safe t choice holds relied
      exact ⟨kept, guaranteed, ih _ kept safely⟩

theorem Safe.map {post : β → σ → Prop} {p : Script Response α} {f : α → β}
    (safe : contract.Safe serve ticket (fun a t => post (f a) t) p s) :
    contract.Safe serve ticket post (p >>= fun a => pure (f a)) s := by
  induction p generalizing s with
  | done a => exact safe
  | ask request rest ih =>
      intro t choice holds relied
      obtain ⟨kept, guaranteed, safely⟩ := safe t choice holds relied
      exact ⟨kept, guaranteed, ih _ safely⟩

theorem Safe.bindExcept {ε : Type} {mid : Except ε α → σ → Prop}
    {post : Except ε β → σ → Prop} {p : ExceptT ε (Script Response) α}
    {f : α → ExceptT ε (Script Response) β} (holds : contract.inv s)
    (safe : contract.Safe serve ticket mid p.run s)
    (raises : ∀ raised t, contract.inv t → mid (.error raised) t →
      contract.Safe serve ticket post (.done (.error raised)) t)
    (next : ∀ a t, contract.inv t → mid (.ok a) t →
      contract.Safe serve ticket post (f a).run t) :
    contract.Safe serve ticket post (p >>= f).run s := by
  apply Safe.bind holds safe
  intro outcome t kept ended
  cases outcome with
  | error raised => exact raises raised t kept ended
  | ok a => exact next a t kept ended

end Contract

/-! Whole runs. -/

section Runs

variable [DecidableEq Ticket] (contract : Contract Ticket σ) (post : Ticket → Call → α → σ → Prop)

/-- Every call is at a safe place. -/
structure World.Upheld (world : World Ticket Call σ α Response) : Prop where
  holds : contract.inv world.shared
  fresh : ∀ ticket, world.progress ticket = none → contract.fresh ticket world.shared
  safe : ∀ ticket call p, world.progress ticket = some ⟨call, some p⟩ →
    contract.Safe serve ticket (post ticket call) p world.shared

variable {contract post serve program}

/-- What one call does leaves the others where they are. -/
theorem World.Upheld.put {world : World Ticket Call σ α Response}
    (upheld : world.Upheld serve contract post) {ticket : Ticket}
    {progress : Progress Call α Response} {t : σ} (holds : contract.inv t)
    (change : t = world.shared ∨ contract.guarantee ticket world.shared t)
    (safe : ∀ p, progress.rest = some p →
      contract.Safe serve ticket (post ticket progress.call) p t) :
    (world.put ticket progress t).Upheld serve contract post := by
  have relied : ∀ other, other ≠ ticket → contract.rely other world.shared t := by
    intro other differs
    rcases change with unchanged | guaranteed
    · rw [unchanged]
      exact contract.rely_refl _ _
    · exact contract.rely_of_guarantee ticket other _ _ upheld.holds holds differs guaranteed
  refine ⟨holds, ?_, ?_⟩
  · intro other absent
    by_cases same : other = ticket
    · rw [same, World.progress_put] at absent
      cases absent
    · rw [World.progress_put_of_ne _ same] at absent
      exact contract.fresh_of_rely _ _ _ (upheld.fresh other absent) (relied other same)
  · intro other call p isRunning
    by_cases same : other = ticket
    · rw [same] at isRunning ⊢
      rw [World.progress_put] at isRunning
      cases isRunning
      exact safe p rfl
    · rw [World.progress_put_of_ne _ same] at isRunning
      exact (upheld.safe other call p isRunning).later (relied other same)

variable {callOf : Ticket → Option Call}
  (safe : ∀ ticket call s, callOf ticket = some call → contract.inv s →
    contract.fresh ticket s → contract.Safe serve ticket (post ticket call) (program call) s)

include safe

theorem World.Upheld.step {world t : World Ticket Call σ α Response}
    {event : Event Ticket Call Choice} (upheld : world.Upheld serve contract post)
    (isCall : ∀ ticket call, event = .start ticket call → callOf ticket = some call)
    (next : world.step serve program event = some t) : t.Upheld serve contract post := by
  cases event with
  | start ticket call =>
      unfold World.step at next
      dsimp only at next
      split at next
      · next isFresh =>
          cases next
          apply upheld.put upheld.holds (.inl rfl)
          intro p isProgram
          cases isProgram
          exact safe ticket call _ (isCall ticket call rfl) upheld.holds
            (upheld.fresh ticket isFresh)
      · cases next
  | serve ticket choice =>
      unfold World.step at next
      dsimp only at next
      split at next
      · next call request rest isRunning =>
          cases next
          obtain ⟨kept, guaranteed, safely⟩ := upheld.safe ticket call _ isRunning _ choice
            upheld.holds (contract.rely_refl _ _)
          apply upheld.put kept (.inr guaranteed)
          intro p isRest
          cases isRest
          exact safely
      · cases next
  | crash ticket =>
      unfold World.step at next
      dsimp only at next
      split at next
      · next progress isRunning =>
          cases next
          apply upheld.put upheld.holds (.inl rfl)
          intro p isRest
          cases isRest
      · cases next

/-- In every run of safe calls the shared state keeps its invariant, and every call that
has ended has ended as wanted. -/
theorem upheld_of_run {first : σ → Prop} (begins : ∀ s, first s → contract.inv s)
    (unused : ∀ ticket s, first s → contract.fresh ticket s)
    {events : List (Event Ticket Call Choice)} {world : World Ticket Call σ α Response}
    (run : (calls serve program first).Run events world)
    (starts : ∀ ticket call, Event.start ticket call ∈ events → callOf ticket = some call) :
    world.Upheld serve contract post := by
  apply @System.Run.invariant_of _ _ _ _
    (fun event => ∀ ticket call, event = Event.start ticket call → callOf ticket = some call)
    ?_ ?_ _ _ run ?_
  · intro world initial
    obtain ⟨isFirst, idle⟩ := initial
    refine ⟨begins _ isFirst, fun ticket _ => unused ticket _ isFirst, ?_⟩
    intro ticket call p isRunning
    rw [idle ticket] at isRunning
    cases isRunning
  · exact fun world event t upheld isCall next => upheld.step safe isCall next
  · intro event member ticket call isStart
    rw [isStart] at member
    exact starts ticket call member

omit safe in
private theorem progress_put_kept (world : World Ticket Call σ α Response) {ticket other : Ticket}
    {call : Call} {rest : Option (Script Response α)}
    (isKnown : world.progress ticket = some ⟨call, rest⟩) {progress : Progress Call α Response}
    (same : ticket = other → progress.call = call) (shared : σ) :
    ∃ rest, (world.put other progress shared).progress ticket = some ⟨call, rest⟩ := by
  by_cases isOther : ticket = other
  · refine ⟨progress.rest, ?_⟩
    rw [isOther, World.progress_put, ← same isOther]
  · exact ⟨rest, (World.progress_put_of_ne _ isOther _ _).trans isKnown⟩

omit safe in
theorem progress_of_step {world t : World Ticket Call σ α Response}
    {event : Event Ticket Call Choice} (next : world.step serve program event = some t)
    {ticket : Ticket} {call : Call} {rest : Option (Script Response α)}
    (isKnown : world.progress ticket = some ⟨call, rest⟩) :
    ∃ rest, t.progress ticket = some ⟨call, rest⟩ := by
  cases event with
  | start other begun =>
      unfold World.step at next
      dsimp only at next
      split at next
      · next isFresh =>
          cases next
          apply progress_put_kept world isKnown
          intro same
          rw [← same, isKnown] at isFresh
          cases isFresh
      · cases next
  | serve other choice =>
      unfold World.step at next
      dsimp only at next
      split at next
      · next running request rest isRunning =>
          cases next
          apply progress_put_kept world isKnown
          intro same
          rw [← same, isKnown] at isRunning
          cases isRunning
          rfl
      · cases next
  | crash other =>
      unfold World.step at next
      dsimp only at next
      split at next
      · next progress isRunning =>
          cases next
          apply progress_put_kept world isKnown
          intro same
          rw [← same, isKnown] at isRunning
          cases isRunning
          rfl
      · cases next

omit safe in
/-- A call that has started is still known by its ticket. -/
theorem progress_of_start {first : σ → Prop} {events : List (Event Ticket Call Choice)}
    {world : World Ticket Call σ α Response} (run : (calls serve program first).Run events world)
    {ticket : Ticket} {call : Call} (started : Event.start ticket call ∈ events) :
    ∃ rest, world.progress ticket = some ⟨call, rest⟩ := by
  induction run with
  | start _ => cases started
  | @step events world t event before next ih =>
      rcases List.mem_append.mp started with earlier | last
      · obtain ⟨rest, isKnown⟩ := ih earlier
        exact progress_of_step next isKnown
      · rw [← List.mem_singleton.mp last] at next
        change World.step serve program world (.start ticket call) = some t at next
        unfold World.step at next
        dsimp only at next
        split at next
        · cases next
          exact ⟨_, World.progress_put ..⟩
        · cases next

omit safe in
private theorem start_of_put {world : World Ticket Call σ α Response} {ticket other : Ticket}
    {call : Call} {rest : Option (Script Response α)} {progress : Progress Call α Response}
    {shared : σ}
    (isKnown : (world.put other progress shared).progress ticket = some ⟨call, rest⟩) :
    (∃ rest, world.progress ticket = some ⟨call, rest⟩) ∨ ticket = other ∧ progress.call = call := by
  by_cases isOther : ticket = other
  · rw [isOther, World.progress_put] at isKnown
    cases isKnown
    exact .inr ⟨isOther, rfl⟩
  · rw [World.progress_put_of_ne _ isOther] at isKnown
    exact .inl ⟨rest, isKnown⟩

omit safe in
/-- A call that is known by its ticket has started. -/
theorem start_of_progress {first : σ → Prop} {events : List (Event Ticket Call Choice)}
    {world : World Ticket Call σ α Response} (run : (calls serve program first).Run events world)
    {ticket : Ticket} {call : Call} {rest : Option (Script Response α)}
    (isKnown : world.progress ticket = some ⟨call, rest⟩) : Event.start ticket call ∈ events := by
  induction run generalizing rest with
  | start initial =>
      rw [initial.2 ticket] at isKnown
      cases isKnown
  | @step events world t event before next ih =>
      have earlier : (∃ rest, world.progress ticket = some ⟨call, rest⟩) →
          Event.start ticket call ∈ events ++ [event] := by
        intro known
        obtain ⟨rest, isKnown⟩ := known
        exact List.mem_append_left _ (ih isKnown)
      change World.step serve program world event = some t at next
      cases event with
      | start other begun =>
          unfold World.step at next
          dsimp only at next
          split at next
          · cases next
            rcases start_of_put isKnown with known | same
            · exact earlier known
            · obtain ⟨isTicket, isCall⟩ := same
              rw [isTicket, ← isCall]
              exact List.mem_append_right _ List.mem_cons_self
          · cases next
      | serve other choice =>
          unfold World.step at next
          dsimp only at next
          split at next
          · next running request rest' isRunning =>
              cases next
              rcases start_of_put isKnown with known | same
              · exact earlier known
              · obtain ⟨isTicket, isCall⟩ := same
                rw [← isTicket] at isRunning
                rw [← isCall] at earlier ⊢
                exact earlier ⟨_, isRunning⟩
          · cases next
      | crash other =>
          unfold World.step at next
          dsimp only at next
          split at next
          · next progress isRunning =>
              cases next
              rcases start_of_put isKnown with known | same
              · exact earlier known
              · obtain ⟨isTicket, isCall⟩ := same
                rw [← isTicket] at isRunning
                rw [← isCall] at earlier ⊢
                exact earlier ⟨_, isRunning⟩
          · cases next

omit safe in
theorem callOf_eq_some_iff {first : σ → Prop} {events : List (Event Ticket Call Choice)}
    {world : World Ticket Call σ α Response} (run : (calls serve program first).Run events world)
    {ticket : Ticket} {call : Call} :
    world.callOf ticket = some call ↔ Event.start ticket call ∈ events := by
  constructor
  · intro isCall
    obtain ⟨progress, isKnown, same⟩ := Option.map_eq_some_iff.mp isCall
    rw [← same]
    exact start_of_progress run isKnown
  · intro started
    obtain ⟨rest, isKnown⟩ := progress_of_start run started
    rw [World.callOf, isKnown]
    rfl

omit safe in
/-- A step that changes the shared state serves the next request of a call. -/
theorem request_of_step {world t : World Ticket Call σ α Response}
    {event : Event Ticket Call Choice} (next : world.step serve program event = some t) :
    t.shared = world.shared ∨ ∃ ticket choice call request rest,
      event = .serve ticket choice ∧
      world.progress ticket = some ⟨call, some (.ask request rest)⟩ ∧
      t.shared = (serve choice ticket world.shared request).2 := by
  cases event with
  | start ticket call =>
      unfold World.step at next
      dsimp only at next
      split at next
      · cases next
        exact .inl rfl
      · cases next
  | serve ticket choice =>
      unfold World.step at next
      dsimp only at next
      split at next
      · next call request rest isRunning =>
          cases next
          exact .inr ⟨ticket, choice, call, request, rest, rfl, isRunning, rfl⟩
      · cases next
  | crash ticket =>
      unfold World.step at next
      dsimp only at next
      split at next
      · cases next
        exact .inl rfl
      · cases next

variable {allowed : Call → Request → Prop} (asks : ∀ call, (program call).Asks (allowed call))

omit safe in
include asks in
theorem asks_of_step {world t : World Ticket Call σ α Response}
    (asked : ∀ ticket call p, world.progress ticket = some ⟨call, some p⟩ → p.Asks (allowed call))
    {event : Event Ticket Call Choice} (next : world.step serve program event = some t)
    {ticket : Ticket} {call : Call} {p : Script Response α}
    (isRunning : t.progress ticket = some ⟨call, some p⟩) : p.Asks (allowed call) := by
  have of_put : ∀ {other : Ticket} {progress : Progress Call α Response} {shared : σ},
      t = world.put other progress shared →
      (∀ q, progress.rest = some q → q.Asks (allowed progress.call)) → p.Asks (allowed call) := by
    intro other progress shared isPut own
    rw [isPut] at isRunning
    by_cases same : ticket = other
    · rw [same, World.progress_put] at isRunning
      cases isRunning
      exact own p rfl
    · rw [World.progress_put_of_ne _ same] at isRunning
      exact asked ticket call p isRunning
  cases event with
  | start other begun =>
      unfold World.step at next
      dsimp only at next
      split at next
      · refine of_put (Option.some.inj next).symm fun q isRest => ?_
        cases isRest
        exact asks begun
      · cases next
  | serve other choice =>
      unfold World.step at next
      dsimp only at next
      split at next
      · next running request rest known =>
          refine of_put (Option.some.inj next).symm fun q isRest => ?_
          cases isRest
          exact (asked other running _ known).2 _
      · cases next
  | crash other =>
      unfold World.step at next
      dsimp only at next
      split at next
      · refine of_put (Option.some.inj next).symm fun q isRest => ?_
        cases isRest
      · cases next

omit safe in
include asks in
/-- Every call asks only for what its program may ask for. -/
theorem asks_of_run {first : σ → Prop} {events : List (Event Ticket Call Choice)}
    {world : World Ticket Call σ α Response} (run : (calls serve program first).Run events world) :
    ∀ ticket call p, world.progress ticket = some ⟨call, some p⟩ → p.Asks (allowed call) := by
  induction run with
  | start initial =>
      intro ticket call p isRunning
      rw [initial.2 ticket] at isRunning
      cases isRunning
  | step _ next ih => exact fun ticket call p isRunning => asks_of_step asks ih next isRunning

end Runs

end SelfConnect.Library.Calls
