import SelfConnect.Library.CallPaths

namespace SelfConnect.Library.Script

open SelfConnect.Library.Calls (Path)

/-! Requests that need to know something, and answers that tell it. -/

section Earns

variable {Request Fact ε α β : Type} {Response : Request → Type}
  (needs : Request → Fact → Prop) (gives : (request : Request) → Response request → Fact → Prop)

/-- Whatever it is answered, the program knows what each of its requests needs. -/
def Earns (known : Fact → Prop) : Script Response α → Prop
  | .done _ => True
  | .ask request next => (∀ fact, needs request fact → known fact) ∧
      ∀ response, Earns (fun fact => known fact ∨ gives request response fact) (next response)

variable {needs gives} {known known' : Fact → Prop}

theorem Earns.mono (weaker : ∀ fact, known fact → known' fact) {p : Script Response α}
    (earns : Earns needs gives known p) : Earns needs gives known' p := by
  induction p generalizing known known' with
  | done a => trivial
  | ask request next ih =>
      exact ⟨fun fact need => weaker fact (earns.1 fact need),
        fun response => ih response (fun fact => Or.imp_left (weaker fact)) (earns.2 response)⟩

theorem Earns.bind {p : Script Response α} {f : α → Script Response β}
    (earns : Earns needs gives known p) (next : ∀ a, Earns needs gives known (f a)) :
    Earns needs gives known (p >>= f) := by
  induction p generalizing known with
  | done a => exact next a
  | ask request rest ih =>
      exact ⟨earns.1, fun response =>
        ih response (earns.2 response) fun a => (next a).mono fun _ => Or.inl⟩

theorem Earns.bindExcept {p : ExceptT ε (Script Response) α}
    {f : α → ExceptT ε (Script Response) β} (earns : Earns needs gives known p.run)
    (next : ∀ a, Earns needs gives known (f a).run) : Earns needs gives known (p >>= f).run := by
  apply Earns.bind earns
  intro outcome
  cases outcome with
  | error raised => trivial
  | ok a => exact next a

theorem Earns.mapExcept {p : ExceptT ε (Script Response) α} {f : α → β}
    (earns : Earns needs gives known p.run) : Earns needs gives known (f <$> p).run := by
  apply Earns.bind earns
  intro outcome
  cases outcome <;> trivial

/-- What a program knows is what it has been told. -/
theorem Earns.path {took : Nat → (request : Request) → Response request → Prop}
    {first last : Nat} {p q : Script Response α} (earns : Earns needs gives known p)
    (path : Path took first p last q) :
    Earns needs gives (fun fact => known fact ∨ ∃ k request response, k < last ∧
      took k request response ∧ gives request response fact) q := by
  induction path with
  | here => exact earns.mono fun _ => Or.inl
  | @asked upto k request next response before later answered ih =>
      refine (ih.2 response).mono fun fact => ?_
      rintro ((isKnown | ⟨j, request', response', earlier, did, gave⟩) | gave)
      · exact .inl isKnown
      · exact .inr ⟨j, request', response', by omega, did, gave⟩
      · exact .inr ⟨k, request, response, Nat.lt_succ_self k, answered, gave⟩

end Earns

/-! Facts that are so whenever they are told, and stay so. -/

section Facts

open SelfConnect.Library.Calls (Contract World Event)

variable {Ticket Call Choice Request Fact σ α : Type} {Response : Request → Type}

/-- The calls keep an invariant and every fact, each request as long as what it needs is so. -/
def factContract (Ticket : Type) (inv : σ → Prop) (meaning : Fact → σ → Prop) :
    Contract Ticket σ where
  inv := inv
  fresh _ _ := True
  guarantee _ s t := ∀ fact, meaning fact s → meaning fact t
  rely _ s t := ∀ fact, meaning fact s → meaning fact t
  rely_refl _ _ _ holds := holds
  rely_trans _ _ _ _ first second fact holds := second fact (first fact holds)
  rely_of_guarantee _ _ _ _ _ _ _ kept := kept
  fresh_of_rely _ _ _ _ _ := trivial

variable {serve : Calls.Serve Ticket Choice σ Response} {program : Call → Script Response α}
  {needs : Request → Fact → Prop} {gives : (request : Request) → Response request → Fact → Prop}
  {meaning : Fact → σ → Prop} {inv : σ → Prop} {allowed : Request → Prop}

theorem safe_of_earns
    (steps : ∀ choice ticket s request, allowed request → inv s →
      (∀ fact, needs request fact → meaning fact s) →
      inv (serve choice ticket s request).2 ∧
        (∀ fact, meaning fact s → meaning fact (serve choice ticket s request).2) ∧
        ∀ fact, gives request (serve choice ticket s request).1 fact →
          meaning fact (serve choice ticket s request).2)
    {ticket : Ticket} {known : Fact → Prop} {p : Script Response α} {s : σ}
    (earns : Earns needs gives known p) (asks : p.Asks allowed)
    (holds : ∀ fact, known fact → meaning fact s) :
    (factContract Ticket inv meaning).Safe serve ticket (fun _ _ => True) p s := by
  induction p generalizing known s with
  | done a => exact fun _ _ _ => trivial
  | ask request next ih =>
      intro t choice kept relied
      obtain ⟨further, lasts, given⟩ := steps choice ticket t request asks.1 kept fun fact need =>
        relied fact (holds fact (earns.1 fact need))
      refine ⟨further, lasts, ih _ (earns.2 _) (asks.2 _) fun fact isKnown => ?_⟩
      rcases isKnown with earlier | now
      · exact lasts fact (relied fact (holds fact earlier))
      · exact given fact now

/-- In every run the invariant holds, where every call earns what its requests need. -/
theorem inv_of_earns [DecidableEq Ticket] {wanted : Call → Prop} {start : σ}
    (steps : ∀ choice ticket s request, allowed request → inv s →
      (∀ fact, needs request fact → meaning fact s) →
      inv (serve choice ticket s request).2 ∧
        (∀ fact, meaning fact s → meaning fact (serve choice ticket s request).2) ∧
        ∀ fact, gives request (serve choice ticket s request).1 fact →
          meaning fact (serve choice ticket s request).2)
    (earns : ∀ call, Earns needs gives (fun _ => False) (program call))
    (asks : ∀ call, wanted call → (program call).Asks allowed) (begins : inv start)
    {events : List (Event Ticket Call Choice)} {world : World Ticket Call σ α Response}
    (run : (Calls.callsFrom serve program start).Run events world)
    (starts : ∀ ticket call, Event.start ticket call ∈ events → wanted call) :
    inv world.shared := by
  have safe (ticket : Ticket) (call : Call) (s : σ) (isCall : world.callOf ticket = some call)
      (_ : inv s) (_ : True) : (factContract Ticket inv meaning).Safe serve ticket
        (fun _ _ => True) (program call) s := by
    have started := (Calls.callOf_eq_some_iff run).mp isCall
    exact safe_of_earns steps (earns call) (asks call (starts ticket call started))
      fun _ absurdly => absurdly.elim
  have upheld : world.Upheld serve (factContract Ticket inv meaning) fun _ _ _ _ => True :=
    Calls.upheld_of_run safe (fun s isStart => isStart ▸ begins) (fun _ _ _ => trivial) run
      fun ticket call started => (Calls.callOf_eq_some_iff run).mpr started
  exact upheld.holds

end Facts

end SelfConnect.Library.Script
