import Mathlib.Logic.Basic

namespace SelfConnect.Library

/-! Programs that ask a server and go on with its answer. Others may ask the same
server between any two requests of one program. -/

inductive Script {Request : Type} (Response : Request → Type) (α : Type)
  | done (a : α)
  | ask (request : Request) (next : Response request → Script Response α)

namespace Script

variable {Request : Type} {Response : Request → Type} {α β σ : Type}

def bind : Script Response α → (α → Script Response β) → Script Response β
  | .done a, f => f a
  | .ask request next, f => .ask request fun response => bind (next response) f

instance : Monad (Script Response) where
  pure := .done
  bind := bind

def request (request : Request) : Script Response (Response request) :=
  .ask request .done

/-- Run a program alone; the server answers its requests in order. -/
def run (answer : Nat → σ → (request : Request) → Response request × σ) :
    Script Response α → Nat → σ → α × σ
  | .done a, _, s => (a, s)
  | .ask request next, count, s =>
      run answer (next (answer count s request).1) (count + 1) (answer count s request).2

/-- A state beside the server's own changes nothing. -/
theorem run_frame {τ : Type} (answer : Nat → σ → (request : Request) → Response request × σ)
    (kept : τ) (p : Script Response α) (count : Nat) (s : σ) :
    p.run (fun count (v : σ × τ) request =>
        ((answer count v.1 request).1, ((answer count v.1 request).2, v.2))) count (s, kept) =
      ((p.run answer count s).1, ((p.run answer count s).2, kept)) := by
  induction p generalizing count s with
  | done a => rfl
  | ask request next ih => exact ih _ (count + 1) _

/-- What a server may answer, and what of its state lasts whoever asks. -/
structure Server (Response : Request → Type) (σ : Type) where
  serves : σ → (request : Request) → Response request → σ → Prop
  inv : σ → Prop
  grows : σ → σ → Prop
  grows_refl : ∀ s, grows s s
  grows_trans : ∀ s t u, grows s t → grows t u → grows s u

variable (server : Server Response σ)

/-- Whatever others ask in between, every request of the program keeps the invariant
and what lasts, and the program ends as wanted. -/
def Ends (post : α → σ → Prop) : Script Response α → σ → Prop
  | .done a, s => ∀ t, server.inv t → server.grows s t → post a t
  | .ask request next, s => ∀ t response u, server.inv t → server.grows s t →
      server.serves t request response u →
      server.inv u ∧ server.grows t u ∧ Ends post (next response) u

variable {server} {post : α → σ → Prop}

theorem Ends.grow {p : Script Response α} {s t : σ} (ends : Ends server post p s)
    (grown : server.grows s t) : Ends server post p t := by
  cases p with
  | done a => exact fun u holds further => ends u holds (server.grows_trans _ _ _ grown further)
  | ask request next =>
      exact fun u response v holds further =>
        ends u response v holds (server.grows_trans _ _ _ grown further)

theorem Ends.mono {post' : α → σ → Prop} (weaker : ∀ a s, post a s → post' a s)
    {p : Script Response α} {s : σ} (ends : Ends server post p s) : Ends server post' p s := by
  induction p generalizing s with
  | done a => exact fun t holds grown => weaker a t (ends t holds grown)
  | ask request next ih =>
      intro t response u holds grown served
      obtain ⟨kept, lasts, rest⟩ := ends t response u holds grown served
      exact ⟨kept, lasts, ih response rest⟩

/-- A program that ends as wanted does so in a state that what lasts has reached. -/
theorem Ends.grown {p : Script Response α} {s : σ} (ends : Ends server post p s) :
    Ends server (fun a t => post a t ∧ server.inv t ∧ server.grows s t) p s := by
  induction p generalizing s with
  | done a => exact fun t holds further => ⟨ends t holds further, holds, further⟩
  | ask request next ih =>
      intro t response u holds further served
      obtain ⟨kept, lasts, rest⟩ := ends t response u holds further served
      have reached : server.grows s u := server.grows_trans _ _ _ further lasts
      refine ⟨kept, lasts, (ih response rest).mono ?_⟩
      intro a v ended
      exact ⟨ended.1, ended.2.1, server.grows_trans _ _ _ reached ended.2.2⟩

private theorem Ends.bindEnds {p : Script Response α} {f : α → Script Response β}
    {post : β → σ → Prop} {s : σ} (holds : server.inv s)
    (ends : Ends server (fun a t => Ends server post (f a) t) p s) :
    Ends server post (p >>= f) s := by
  induction p generalizing s with
  | done a => exact ends s holds (server.grows_refl s)
  | ask request next ih =>
      intro t response u invariant further served
      obtain ⟨kept, lasts, rest⟩ := ends t response u invariant further served
      exact ⟨kept, lasts, ih response kept rest⟩

/-- A program ends as wanted when what follows each of its ends does. -/
theorem Ends.bind {p : Script Response α} {f : α → Script Response β} {mid : α → σ → Prop}
    {post : β → σ → Prop} {s : σ} (holds : server.inv s) (ends : Ends server mid p s)
    (next : ∀ a t, server.inv t → server.grows s t → mid a t → Ends server post (f a) t) :
    Ends server post (p >>= f) s :=
  Ends.bindEnds holds (ends.grown.mono fun a t ended => next a t ended.2.1 ended.2.2 ended.1)

/-- A program that runs alone ends as it would among others. -/
theorem Ends.run {answer : Nat → σ → (request : Request) → Response request × σ}
    (answers : ∀ count s request,
      server.serves s request (answer count s request).1 (answer count s request).2)
    {p : Script Response α} {s : σ} (ends : Ends server post p s)
    (holds : server.inv s) (count : Nat) :
    post (p.run answer count s).1 (p.run answer count s).2 ∧
      server.inv (p.run answer count s).2 ∧ server.grows s (p.run answer count s).2 := by
  induction p generalizing s count with
  | done a => exact ⟨ends s holds (server.grows_refl s), holds, server.grows_refl s⟩
  | ask request next ih =>
      obtain ⟨kept, lasts, rest⟩ := ends s _ _ holds (server.grows_refl s) (answers count s request)
      obtain ⟨wanted, last, grown⟩ := ih _ rest kept (count + 1)
      exact ⟨wanted, last, server.grows_trans _ _ _ lasts grown⟩

/-! Programs that run alone. -/

/-- Every run of the program ends as wanted. -/
def Alone (answer : Nat → σ → (request : Request) → Response request × σ)
    (post : α → σ → Prop) : Script Response α → σ → Prop
  | .done a, s => post a s
  | .ask request next, s =>
      ∀ count, Alone answer post (next (answer count s request).1) (answer count s request).2

variable {answer : Nat → σ → (request : Request) → Response request × σ}

theorem Alone.bind {p : Script Response α} {f : α → Script Response β} {mid : α → σ → Prop}
    {post : β → σ → Prop} {s : σ} (alone : Alone answer mid p s)
    (next : ∀ a t, mid a t → Alone answer post (f a) t) : Alone answer post (p >>= f) s := by
  induction p generalizing s with
  | done a => exact next a s alone
  | ask request rest ih => exact fun count => ih _ (alone count)

theorem Alone.run {p : Script Response α} {s : σ} (alone : Alone answer post p s) (count : Nat) :
    post (p.run answer count s).1 (p.run answer count s).2 := by
  induction p generalizing s count with
  | done a => exact alone
  | ask request next ih => exact ih _ (alone count) (count + 1)

/-- Every request of the program is allowed, whatever the answers. -/
def Asks (allowed : Request → Prop) : Script Response α → Prop
  | .done _ => True
  | .ask request next => allowed request ∧ ∀ response, Asks allowed (next response)

section Asks

variable {allowed allowed' : Request → Prop}

theorem Asks.mono (weaker : ∀ request, allowed request → allowed' request) {p : Script Response α}
    (asks : Asks allowed p) : Asks allowed' p := by
  induction p with
  | done a => trivial
  | ask request next ih => exact ⟨weaker _ asks.1, fun response => ih response (asks.2 response)⟩

theorem Asks.bind {p : Script Response α} {f : α → Script Response β} (asks : Asks allowed p)
    (further : ∀ a, Asks allowed (f a)) : Asks allowed (p >>= f) := by
  induction p with
  | done a => exact further a
  | ask request next ih => exact ⟨asks.1, fun response => ih response (asks.2 response)⟩

theorem Asks.bindExcept {ε : Type} {p : ExceptT ε (Script Response) α}
    {f : α → ExceptT ε (Script Response) β} (asks : Asks allowed p.run)
    (further : ∀ a, Asks allowed (f a).run) : Asks allowed (p >>= f).run := by
  apply Asks.bind asks
  intro outcome
  cases outcome with
  | error raised => trivial
  | ok a => exact further a

theorem Asks.mapExcept {ε : Type} {p : ExceptT ε (Script Response) α} {f : α → β}
    (asks : Asks allowed p.run) : Asks allowed (f <$> p).run := by
  apply Asks.bind asks
  intro outcome
  cases outcome <;> trivial

theorem Asks.ite {condition : Prop} [Decidable condition] {p q : Script Response α}
    (first : Asks allowed p) (second : Asks allowed q) :
    Asks allowed (if condition then p else q) := by
  split
  · exact first
  · exact second

end Asks

/-! Programs that run alone, and may stop at any request. -/

section Drive

variable {Choice : Type} (serve : Choice → σ → (request : Request) → Response request × σ)

/-- Run a program until it ends or the choices run out. -/
def drive : Script Response α → List Choice → σ → Option α × σ
  | .done a, _, s => (some a, s)
  | .ask _ _, [], s => (none, s)
  | .ask request next, choice :: rest, s =>
      drive (next (serve choice s request).1) rest (serve choice s request).2

/-- Every request keeps the invariant, and the program ends as wanted. -/
def Driven (inv : σ → Prop) (post : α → σ → Prop) : Script Response α → σ → Prop
  | .done a, s => post a s
  | .ask request next, s => ∀ choice, inv (serve choice s request).2 ∧
      Driven inv post (next (serve choice s request).1) (serve choice s request).2

variable {serve} {inv : σ → Prop}

theorem Driven.drive {p : Script Response α} {s : σ} (driven : Driven serve inv post p s)
    (holds : inv s) (choices : List Choice) :
    inv (p.drive serve choices s).2 ∧
      ∀ a, (p.drive serve choices s).1 = some a → post a (p.drive serve choices s).2 := by
  induction p generalizing s choices with
  | done a =>
      refine ⟨holds, fun b same => ?_⟩
      cases same
      exact driven
  | ask request next ih =>
      cases choices with
      | nil => exact ⟨holds, fun b same => by cases same⟩
      | cons choice rest => exact ih _ (driven choice).2 (driven choice).1 rest

theorem Driven.mono {post' : α → σ → Prop} (weaker : ∀ a t, post a t → post' a t)
    {p : Script Response α} {s : σ} (driven : Driven serve inv post p s) :
    Driven serve inv post' p s := by
  induction p generalizing s with
  | done a => exact weaker a s driven
  | ask request next ih =>
      exact fun choice => ⟨(driven choice).1, ih _ (driven choice).2⟩

theorem Driven.bind {mid : α → σ → Prop} {post : β → σ → Prop} {p : Script Response α}
    {f : α → Script Response β} {s : σ} (driven : Driven serve inv mid p s)
    (next : ∀ a t, mid a t → Driven serve inv post (f a) t) :
    Driven serve inv post (p >>= f) s := by
  induction p generalizing s with
  | done a => exact next a s driven
  | ask request rest ih => exact fun choice => ⟨(driven choice).1, ih _ (driven choice).2⟩

theorem Driven.bindExcept {ε : Type} {mid : Except ε α → σ → Prop} {post : Except ε β → σ → Prop}
    {p : ExceptT ε (Script Response) α} {f : α → ExceptT ε (Script Response) β} {s : σ}
    (driven : Driven serve inv mid p.run s)
    (raises : ∀ raised t, mid (.error raised) t → post (.error raised) t)
    (next : ∀ a t, mid (.ok a) t → Driven serve inv post (f a).run t) :
    Driven serve inv post (p >>= f).run s := by
  apply driven.bind
  intro outcome t ended
  cases outcome with
  | error raised => exact raises raised t ended
  | ok a => exact next a t ended

end Drive

end Script

end SelfConnect.Library
