import SelfConnect.Library.Calls

namespace SelfConnect.Library.Calls

open SelfConnect.Library

/-! What a call did, request by request, at which moments of the run. -/

section Paths

variable {Request α β : Type} {Response : Request → Type}

/-- From one moment and program to a later moment and what is left of the program. -/
inductive Path (took : Nat → (request : Request) → Response request → Prop) (first : Nat)
    (p : Script Response α) : Nat → Script Response α → Prop
  | here : Path took first p first p
  | asked {upto k : Nat} {request : Request} {next : Response request → Script Response α}
      {response : Response request} :
      Path took first p upto (.ask request next) → upto ≤ k → took k request response →
      Path took first p (k + 1) (next response)

variable {took : Nat → (request : Request) → Response request → Prop} {first last : Nat}

/-- The first request of a path. -/
theorem Path.head {request : Request} {next : Response request → Script Response α}
    {q : Script Response α} (path : Path took first (.ask request next) last q) :
    (last = first ∧ q = .ask request next) ∨
      ∃ k response, first ≤ k ∧ took k request response ∧
        Path took (k + 1) (next response) last q := by
  induction path with
  | here => exact .inl ⟨rfl, rfl⟩
  | @asked upto k _ _ response before later answered ih =>
      rcases ih with ⟨isFirst, isAsk⟩ | ⟨start, answer, begun, began, path⟩
      · cases isAsk
        exact .inr ⟨k, response, isFirst ▸ later, answered, .here⟩
      · exact .inr ⟨start, answer, begun, began, path.asked later answered⟩

theorem Path.of_ask {request : Request} {next : Response request → Script Response α} {a : α}
    (path : Path took first (.ask request next) last (.done a)) :
    ∃ k response, first ≤ k ∧ took k request response ∧
      Path took (k + 1) (next response) last (.done a) := by
  rcases path.head with ⟨_, isAsk⟩ | answered
  · cases isAsk
  · exact answered

theorem Path.of_done {a : α} {q : Script Response α} (path : Path took first (.done a) last q) :
    q = .done a := by
  induction path with
  | here => rfl
  | asked _ _ _ ih => cases ih

theorem Path.last_of_done {a : α} {q : Script Response α}
    (path : Path took first (.done a) last q) : last = first := by
  cases path with
  | here => rfl
  | asked before _ _ => cases before.of_done

theorem Path.trans {middle : Nat} {p q r : Script Response α} (front : Path took first p middle q)
    (back : Path took middle q last r) : Path took first p last r := by
  induction back with
  | here => exact front
  | asked _ later answered ih => exact ih.asked later answered

theorem Path.of_bind {p : Script Response α} {f : α → Script Response β} {b : β}
    (path : Path took first (p >>= f) last (.done b)) :
    ∃ a middle, Path took first p middle (.done a) ∧ Path took middle (f a) last (.done b) := by
  induction p generalizing first with
  | done a => exact ⟨a, first, .here, path⟩
  | ask request next ih =>
      have asked : Path took first (.ask request fun response => next response >>= f) last
          (.done b) := path
      obtain ⟨k, response, begun, answered, rest⟩ := asked.of_ask
      obtain ⟨a, middle, front, back⟩ := ih response rest
      exact ⟨a, middle, (Path.here.asked begun answered).trans front, back⟩

theorem Path.le {p q : Script Response α} (path : Path took first p last q) : first ≤ last := by
  induction path with
  | here => exact Nat.le_refl _
  | asked _ later _ ih => exact Nat.le_trans ih (Nat.le_succ_of_le later)

theorem Path.mono {took' : Nat → (request : Request) → Response request → Prop}
    (later : ∀ k request response, took k request response → took' k request response)
    {p q : Script Response α} (path : Path took first p last q) : Path took' first p last q := by
  induction path with
  | here => exact .here
  | asked _ ordered answered ih => exact ih.asked ordered (later _ _ _ answered)

/-- Where one program ends well, the next begins. -/
theorem Path.of_bindExcept {ε : Type} {p : ExceptT ε (Script Response) α}
    {f : α → ExceptT ε (Script Response) β} {b : β}
    (path : Path took first (p >>= f).run last (.done (.ok b))) :
    ∃ a middle, Path took first p.run middle (.done (.ok a)) ∧
      Path took middle (f a).run last (.done (.ok b)) := by
  obtain ⟨outcome, middle, front, back⟩ := path.of_bind
  cases outcome with
  | error raised => cases back.of_done
  | ok a => exact ⟨a, middle, front, back⟩

theorem Path.of_mapExcept {ε : Type} {p : ExceptT ε (Script Response) α} {f : α → β} {b : β}
    (path : Path took first (f <$> p).run last (.done (.ok b))) :
    ∃ a, f a = b ∧ Path took first p.run last (.done (.ok a)) := by
  obtain ⟨outcome, middle, front, back⟩ := Path.of_bind path
  cases outcome with
  | error raised => cases back.of_done
  | ok a =>
      cases back.of_done
      rw [back.last_of_done]
      exact ⟨a, rfl, front⟩

end Paths

section Runs

variable {Ticket Call Choice Request σ α : Type} {Response : Request → Type}
  [DecidableEq Ticket] {serve : Serve Ticket Choice σ Response}
  {program : Call → Script Response α} {start : σ}

/-- The runs from one shared state, before any call. -/
abbrev callsFrom (serve : Serve Ticket Choice σ Response) (program : Call → Script Response α)
    (start : σ) : System (World Ticket Call σ α Response) (Event Ticket Call Choice) :=
  calls serve program fun s => s = start

variable {events : List (Event Ticket Call Choice)} {world other : World Ticket Call σ α Response}

/-- The events of a run determine where it ends. -/
theorem run_unique (run : (callsFrom serve program start).Run events world)
    (otherRun : (callsFrom serve program start).Run events other) : world = other := by
  induction run generalizing other with
  | @start world first =>
      obtain ⟨shared, idle⟩ := first
      obtain ⟨otherShared, otherIdle⟩ := otherRun.initial
      cases world
      cases other
      simp only at shared idle otherShared otherIdle
      rw [shared, otherShared, funext idle, funext otherIdle]
  | @step events world t event before next ih =>
      generalize isAll : events ++ [event] = all at otherRun
      cases otherRun with
      | start => simp at isAll
      | step otherBefore otherNext =>
          obtain ⟨isFront, isLast⟩ := List.append_inj' isAll rfl
          cases isLast
          rw [← isFront] at otherBefore
          rw [ih otherBefore] at next
          exact Option.some.inj (next.symm.trans otherNext)

theorem exists_run_take (run : (callsFrom serve program start).Run events world) (k : Nat) :
    ∃ before, (callsFrom serve program start).Run (events.take k) before := by
  induction run with
  | @start world first => exact ⟨world, by simpa using .start first⟩
  | @step events world t event before next ih =>
      by_cases inside : k ≤ events.length
      · rw [List.take_append_of_le_length inside]
        exact ih
      · rw [List.take_of_length_le (by simp; omega)]
        exact ⟨t, before.step next⟩

theorem shared_of_step {event : Event Ticket Call Choice}
    (next : world.step serve program event = some other) :
    other.shared = world.shared ∨
      ∃ choice ticket request, other.shared = (serve choice ticket world.shared request).2 := by
  rcases request_of_step next with same | ⟨ticket, choice, _, request, _, -, -, isServed⟩
  · exact .inl same
  · exact .inr ⟨choice, ticket, request, isServed⟩

/-- What lasts from every request to the next lasts from any moment of a run to its end. -/
theorem lasts_of_run {lasts : σ → σ → Prop} (refl : ∀ s, lasts s s)
    (trans : ∀ s t u, lasts s t → lasts t u → lasts s u)
    (served : ∀ choice ticket s request, lasts s (serve choice ticket s request).2)
    (run : (callsFrom serve program start).Run events world) {k : Nat}
    (early : (callsFrom serve program start).Run (events.take k) other) :
    lasts other.shared world.shared := by
  induction run generalizing other with
  | @start world first =>
      rw [List.take_nil] at early
      rw [run_unique early (.start first)]
      exact refl _
  | @step events world t event before next ih =>
      by_cases inside : k ≤ events.length
      · rw [List.take_append_of_le_length inside] at early
        refine trans _ _ _ (ih early) ?_
        rcases shared_of_step next with same | ⟨choice, ticket, request, isServed⟩
        · rw [same]
          exact refl _
        · rw [isServed]
          exact served _ _ _ _
      · rw [List.take_of_length_le (by simp; omega)] at early
        rw [run_unique early (before.step next)]
        exact refl _

variable (serve program start) in
/-- At one moment of a run a request of a call was answered. -/
def Took (events : List (Event Ticket Call Choice)) (ticket : Ticket) (k : Nat)
    (request : Request) (response : Response request) : Prop :=
  ∃ choice before, events[k]? = some (.serve ticket choice) ∧
    (callsFrom serve program start).Run (events.take k) before ∧
    (serve choice ticket before.shared request).1 = response

omit [DecidableEq Ticket] in
theorem lt_of_getElem? {k : Nat} {event : Event Ticket Call Choice}
    (here : events[k]? = some event) : k < events.length :=
  (List.getElem?_eq_some_iff.mp here).1

variable (serve program start) in
/-- At one moment of a run a request of a call was served. -/
def Did (events : List (Event Ticket Call Choice)) (ticket : Ticket) (k : Nat)
    (request : Request) (response : Response request) : Prop :=
  ∃ choice before after, events[k]? = some (.serve ticket choice) ∧
    (callsFrom serve program start).Run (events.take k) before ∧
    (callsFrom serve program start).Run (events.take (k + 1)) after ∧
    serve choice ticket before.shared request = (response, after.shared)

theorem Did.took {ticket : Ticket} {k : Nat} {request : Request} {response : Response request}
    (did : Did serve program start events ticket k request response) :
    Took serve program start events ticket k request response := by
  obtain ⟨choice, before, after, here, run, -, isServed⟩ := did
  exact ⟨choice, before, here, run, by rw [isServed]⟩

theorem Did.later {ticket : Ticket} {k : Nat} {request : Request} {response : Response request}
    (event : Event Ticket Call Choice)
    (did : Did serve program start events ticket k request response) :
    Did serve program start (events ++ [event]) ticket k request response := by
  obtain ⟨choice, before, after, here, run, next, isServed⟩ := did
  have inside := lt_of_getElem? here
  refine ⟨choice, before, after, ?_, ?_, ?_, isServed⟩
  · rw [List.getElem?_append_left inside, here]
  · rw [List.take_append_of_le_length (Nat.le_of_lt inside)]
    exact run
  · rw [List.take_append_of_le_length inside]
    exact next

theorem Did.of_take {ticket : Ticket} {k n : Nat} {request : Request} {response : Response request}
    (did : Did serve program start (events.take n) ticket k request response) :
    Did serve program start events ticket k request response := by
  obtain ⟨choice, before, after, here, run, next, isServed⟩ := did
  rw [List.getElem?_take] at here
  split at here
  · next inside =>
    rw [List.take_take, Nat.min_eq_left (Nat.le_of_lt inside)] at run
    rw [List.take_take, Nat.min_eq_left inside] at next
    exact ⟨choice, before, after, here, run, next, isServed⟩
  · cases here

/-- One moment of a run, and the request that was served there. -/
theorem served_at {k : Nat} (early : (callsFrom serve program start).Run (events.take k) world)
    (late : (callsFrom serve program start).Run (events.take (k + 1)) other) :
    other.shared = world.shared ∨ ∃ ticket choice call request rest,
      world.progress ticket = some ⟨call, some (.ask request rest)⟩ ∧
      Did serve program start events ticket k request (serve choice ticket world.shared request).1 ∧
      other.shared = (serve choice ticket world.shared request).2 := by
  cases isEvent : events[k]? with
  | none =>
      have outside : events.length ≤ k := List.getElem?_eq_none_iff.mp isEvent
      rw [List.take_of_length_le outside] at early
      rw [List.take_of_length_le (Nat.le_succ_of_le outside)] at late
      rw [run_unique late early]
      exact .inl rfl
  | some event =>
      have isNext : events.take (k + 1) = events.take k ++ [event] := by
        rw [List.take_add_one, isEvent]
        rfl
      have reached := late
      rw [isNext] at late
      generalize isAll : events.take k ++ [event] = all at late
      cases late with
      | start => simp at isAll
      | @step front before _ last earlier next =>
          obtain ⟨isFront, isLast⟩ := List.append_inj' isAll rfl
          cases isLast
          rw [← isFront] at earlier
          rw [run_unique earlier early] at next
          rcases request_of_step next with same | ⟨ticket, choice, call, request, rest, isServe,
            known, isServed⟩
          · exact .inl same
          · refine .inr ⟨ticket, choice, call, request, rest, known, ?_, isServed⟩
            rw [isServe] at isEvent
            exact ⟨choice, world, other, isEvent, early, reached, by rw [isServed]⟩

variable (serve program start) in
/-- At this moment of a run a request of the call changes what holds. -/
structure Changed (events : List (Event Ticket Call Choice)) (holds : σ → Prop) (k : Nat)
    (ticket : Ticket) (request : Request) (before after : σ) : Prop where
  isBefore : ∃ world call rest, (callsFrom serve program start).Run (events.take k) world ∧
    world.shared = before ∧ world.progress ticket = some ⟨call, some (.ask request rest)⟩
  isAfter : ∃ world, (callsFrom serve program start).Run (events.take (k + 1)) world ∧
    world.shared = after
  held : holds before
  fails : ¬holds after
  served : ∃ choice, serve choice ticket before request =
    ((serve choice ticket before request).1, after) ∧
    Did serve program start events ticket k request (serve choice ticket before request).1

/-- What holds at one moment and not at a later one was changed by a request between them. -/
theorem changed_between (holds : σ → Prop) {k l : Nat} (le : k ≤ l)
    (early : (callsFrom serve program start).Run (events.take k) world)
    (late : (callsFrom serve program start).Run (events.take l) other) (held : holds world.shared)
    (fails : ¬holds other.shared) :
    ∃ j ticket request before after, k ≤ j ∧ j < l ∧
      Changed serve program start events holds j ticket request before after := by
  induction le generalizing other with
  | refl =>
      rw [run_unique late early] at fails
      exact absurd held fails
  | @step l le ih =>
      obtain ⟨middle, before⟩ := exists_run_take late l
      rw [List.take_take, Nat.min_eq_left (Nat.le_succ l)] at before
      by_cases holding : holds middle.shared
      · rcases served_at before late with same | ⟨ticket, choice, call, request, rest, known, did,
          isServed⟩
        · rw [same] at fails
          exact absurd holding fails
        · exact ⟨l, ticket, request, middle.shared, other.shared, le, Nat.lt_succ_self l,
            ⟨middle, call, rest, before, rfl, known⟩, ⟨other, late, rfl⟩, holding, fails, choice, by rw [isServed], did⟩
      · obtain ⟨j, ticket, request, first, second, begun, ended, changed⟩ := ih before holding
        exact ⟨j, ticket, request, first, second, begun, Nat.lt_succ_of_lt ended, changed⟩

section Reach

variable {allowed : Call → Request → Prop} {wanted : Call → Prop} {inv : σ → Prop}
  {serves : σ → σ → Prop}

/-- Between any two moments of a run the shared state takes the steps that the requests of
its calls allow. -/
theorem reaches_of_run (asks : ∀ call, (program call).Asks (allowed call))
    (steps : ∀ k choice ticket call s request, wanted call → allowed call request →
      Did serve program start events ticket k request (serve choice ticket s request).1 → inv s →
      inv (serve choice ticket s request).2 ∧ serves s (serve choice ticket s request).2)
    (starts : ∀ ticket call, Event.start ticket call ∈ events → wanted call)
    {k l : Nat} (le : k ≤ l) (early : (callsFrom serve program start).Run (events.take k) world)
    (holds : inv world.shared)
    (late : (callsFrom serve program start).Run (events.take l) other) :
    inv other.shared ∧ Relation.ReflTransGen serves world.shared other.shared := by
  induction le generalizing other with
  | refl =>
      rw [run_unique late early]
      exact ⟨holds, .refl⟩
  | @step l le ih =>
      obtain ⟨middle, before⟩ := exists_run_take late l
      rw [List.take_take, Nat.min_eq_left (Nat.le_succ l)] at before
      obtain ⟨kept, reaches⟩ := ih before
      rcases served_at before late with same | ⟨ticket, choice, call, request, rest, known, did,
        isServed⟩
      · rw [same]
        exact ⟨kept, reaches⟩
      · have isAllowed := (asks_of_run asks before ticket call _ known).1
        have isWanted := starts ticket call (List.mem_of_mem_take (start_of_progress before known))
        obtain ⟨further, isStep⟩ := steps l choice ticket call _ request isWanted isAllowed did kept
        rw [isServed]
        exact ⟨further, reaches.tail isStep⟩

end Reach

/-- Every call that is at work or has ended came there from its start, request by request. -/
theorem steps_of_run (run : (callsFrom serve program start).Run events world) {ticket : Ticket}
    {call : Call} {p : Script Response α} (known : world.progress ticket = some ⟨call, some p⟩) :
    ∃ begun upto, events[begun]? = some (.start ticket call) ∧ upto ≤ events.length ∧
      Path (Did serve program start events ticket) (begun + 1) (program call) upto p := by
  induction run generalizing p with
  | start first => simp [first.2 ticket] at known
  | @step events world t event before next ih =>
      have kept (earlier : world.progress ticket = some ⟨call, some p⟩) :
          ∃ begun upto, (events ++ [event])[begun]? = some (.start ticket call) ∧
            upto ≤ (events ++ [event]).length ∧
            Path (Did serve program start (events ++ [event]) ticket) (begun + 1)
              (program call) upto p := by
        obtain ⟨begun, upto, here, inside, path⟩ := ih earlier
        refine ⟨begun, upto, ?_, ?_, path.mono fun _ _ _ did => did.later event⟩
        · rw [List.getElem?_append_left (lt_of_getElem? here), here]
        · exact Nat.le_trans inside (by simp)
      have last : (events ++ [event])[events.length]? = some event := by simp
      have after := before.step next
      change World.step serve program world event = some t at next
      cases event with
      | start other begun =>
          unfold World.step at next
          dsimp only at next
          split at next
          · cases next
            by_cases own : ticket = other
            · rw [own, World.progress_put] at known
              cases known
              exact ⟨events.length, events.length + 1, own ▸ last, by simp, .here⟩
            · rw [World.progress_put_of_ne _ own] at known
              exact kept known
          · cases next
      | serve other choice =>
          unfold World.step at next
          dsimp only at next
          split at next
          · next running request rest isRunning =>
              cases next
              by_cases own : ticket = other
              · rw [← own] at isRunning last ⊢
                rw [own, World.progress_put] at known
                cases known
                obtain ⟨begun, upto, here, inside, path⟩ := ih isRunning
                refine ⟨begun, events.length + 1, ?_, by simp, ?_⟩
                · rw [List.getElem?_append_left (lt_of_getElem? here), here]
                · refine (path.mono fun _ _ _ did => did.later _).asked inside ?_
                  have isAll : (events ++ [Event.serve other choice]).take (events.length + 1) =
                      events ++ [Event.serve other choice] := List.take_of_length_le (by simp)
                  rw [← isAll] at after
                  refine ⟨choice, world, _, last, ?_, own ▸ after, own ▸ rfl⟩
                  rw [List.take_left]
                  exact before
              · rw [World.progress_put_of_ne _ own] at known
                exact kept known
          · cases next
      | crash other =>
          unfold World.step at next
          dsimp only at next
          split at next
          · cases next
            by_cases own : ticket = other
            · rw [own, World.progress_put] at known
              cases known
            · rw [World.progress_put_of_ne _ own] at known
              exact kept known
          · cases next

theorem path_of_run (run : (callsFrom serve program start).Run events world) {ticket : Ticket}
    {call : Call} {p : Script Response α} (known : world.progress ticket = some ⟨call, some p⟩) :
    ∃ begun upto, events[begun]? = some (.start ticket call) ∧ upto ≤ events.length ∧
      Path (Took serve program start events ticket) (begun + 1) (program call) upto p := by
  obtain ⟨begun, upto, here, inside, path⟩ := steps_of_run run known
  exact ⟨begun, upto, here, inside, path.mono fun _ _ _ did => did.took⟩

end Runs

end SelfConnect.Library.Calls
