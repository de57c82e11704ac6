import SelfConnect.Library.Script
import SelfConnect.Library.System
import Mathlib.Logic.Function.Basic

namespace SelfConnect.Library

/-! Clients of a database that admits one writing transaction at a time. A transaction
works on a copy of what is committed, and its commit puts the copy in place. -/

/-- What the statements of a database do; `none` when a statement is refused. -/
structure Schema (σ Query : Type) (Result : Query → Type) where
  exec : σ → (query : Query) → Option (Result query × σ)
  writes : Query → Bool
  exec_reads : ∀ {s t : σ} {query : Query} {result : Result query}, writes query = false →
    exec s query = some (result, t) → t = s

inductive Command (Query : Type)
  | begin
  | query (statement : Query)
  | commit
  | rollback

def Command.Result {Query : Type} (Result : Query → Type) : Command Query → Type
  | .query statement => Result statement
  | .begin | .commit | .rollback => Unit

/-- The answer to a command; `none` when it raised. -/
abbrev Command.Answer {Query : Type} (Result : Query → Type) (command : Command Query) : Type :=
  Option (command.Result Result)

/-- How a command goes: one that raises may have ended its transaction. -/
inductive Fate
  | works
  | raises
  | aborts

/-- What one client sees: what is committed, and the copy its transaction works on. -/
structure View (σ : Type) where
  committed : σ
  working : Option σ

variable {Client σ Query : Type} {Result : Query → Type} (schema : Schema σ Query Result)

/-- What a command does; the database is busy while another client's transaction is open. -/
def View.serve (fate : Fate) (busy : Bool) (view : View σ) :
    (command : Command Query) → command.Answer Result × View σ
  | .begin =>
      match fate, view.working, busy with
      | .works, none, false => (some (), ⟨view.committed, some view.committed⟩)
      | _, _, _ => (none, view)
  | .query query =>
      match fate, view.working with
      | .works, some copy =>
          match schema.exec copy query with
          | some (result, changed) => (some result, ⟨view.committed, some changed⟩)
          | none => (none, view)
      | .works, none =>
          if busy && schema.writes query then (none, view)
          else
            match schema.exec view.committed query with
            | some (result, changed) => (some result, ⟨changed, none⟩)
            | none => (none, view)
      | .raises, _ => (none, view)
      | .aborts, _ => (none, ⟨view.committed, none⟩)
  | .commit =>
      match fate, view.working with
      | .works, some copy => (some (), ⟨copy, none⟩)
      | .aborts, _ => (none, ⟨view.committed, none⟩)
      | _, _ => (none, view)
  | .rollback =>
      match fate, view.working with
      | .works, some _ => (some (), ⟨view.committed, none⟩)
      | _, _ => (none, ⟨view.committed, none⟩)

theorem View.serve_busy (fate : Fate) (s : σ) (command : Command Query) :
    (View.serve schema fate true ⟨s, none⟩ command).2 = ⟨s, none⟩ := by
  cases command with
  | begin => cases fate <;> rfl
  | commit => cases fate <;> rfl
  | rollback => cases fate <;> rfl
  | query query =>
      cases fate with
      | raises => rfl
      | aborts => rfl
      | works =>
          unfold View.serve
          dsimp only
          by_cases writes : schema.writes query = true
          · rw [if_pos (by simp [writes])]
          · rw [if_neg (by simp [writes])]
            cases executed : schema.exec s query with
            | none => rfl
            | some answer =>
                have unchanged := schema.exec_reads (by simpa using writes) executed
                dsimp only
                rw [unchanged]

/-- A database and the client whose transaction is open, with its copy. -/
structure Store (Client σ : Type) where
  committed : σ
  holder : Option (Client × σ)

namespace Store

variable [DecidableEq Client]

def working (store : Store Client σ) (client : Client) : Option σ :=
  match store.holder with
  | some (other, copy) => if other = client then some copy else none
  | none => none

def view (store : Store Client σ) (client : Client) : View σ :=
  ⟨store.committed, store.working client⟩

def busy (store : Store Client σ) (client : Client) : Bool :=
  match store.holder with
  | some (other, _) => decide (other ≠ client)
  | none => false

def put (store : Store Client σ) (client : Client) (view : View σ) : Store Client σ where
  committed := view.committed
  holder :=
    match view.working with
    | some copy => some (client, copy)
    | none => if store.busy client then store.holder else none

variable {store : Store Client σ} {client other : Client}

theorem working_of_busy (isBusy : store.busy client = true) : store.working client = none := by
  unfold busy at isBusy
  unfold working
  split at isBusy
  · exact if_neg (of_decide_eq_true isBusy)
  · rfl

theorem not_busy_of_working {copy : σ} (works : store.working client = some copy) :
    store.busy client = false := by
  cases isBusy : store.busy client with
  | false => rfl
  | true =>
      rw [working_of_busy isBusy] at works
      cases works

theorem busy_of_working {copy : σ} (works : store.working other = some copy)
    (differs : other ≠ client) : store.busy client = true := by
  unfold working at works
  unfold busy
  split at works
  · split at works
    · next same =>
        apply decide_eq_true
        rw [same]
        exact differs
    · cases works
  · cases works

theorem view_put (store : Store Client σ) (client : Client) (view : View σ) :
    (store.put client view).view client = view := by
  obtain ⟨committed, own⟩ := view
  cases own with
  | some copy => simp [Store.view, working, put]
  | none =>
      unfold Store.view put
      congr
      by_cases busy : store.busy client = true
      · have unheld := working_of_busy busy
        unfold working at unheld ⊢
        dsimp only
        rw [if_pos busy]
        exact unheld
      · unfold working
        dsimp only
        rw [if_neg busy]

theorem put_view (store : Store Client σ) (client : Client) :
    store.put client (store.view client) = store := by
  obtain ⟨committed, holder⟩ := store
  cases holder with
  | none => rfl
  | some held =>
      unfold put view working busy
      dsimp only
      congr 1
      by_cases same : held.1 = client
      · rw [if_pos same, ← same]
      · rw [if_neg same]
        exact if_pos (decide_eq_true same)

/-- What one client does leaves the transactions of the others. -/
theorem working_put (view : View σ) (differs : other ≠ client)
    (free : store.busy client = true → view.working = none) :
    (store.put client view).working other = store.working other := by
  cases works : store.working other with
  | some copy =>
      have busy := busy_of_working works differs
      unfold working put
      rw [free busy]
      dsimp only
      rw [if_pos busy]
      exact works
  | none =>
      cases unheld : (store.put client view).working other with
      | none => rfl
      | some copy =>
          exfalso
          unfold working put at unheld
          unfold working at works
          dsimp only at unheld
          split at unheld
          · next isHeld =>
              split at isHeld
              · cases isHeld
                rw [if_neg differs.symm] at unheld
                cases unheld
              · split at isHeld
                · rw [isHeld] at works
                  dsimp only at works
                  rw [works] at unheld
                  cases unheld
                · cases isHeld
          · cases unheld

end Store

/-- Clients at work on their calls, and the calls that have ended. -/
structure World (Client Call σ Query : Type) (Result : Query → Type) (α : Type) where
  store : Store Client σ
  running : Client → Option (Call × Script (@Command.Answer Query Result) α)
  finished : List (Call × α)

inductive Event (Client Call : Type)
  | start (client : Client) (call : Call)
  | serve (client : Client) (fate : Fate)
  | finish (client : Client)
  | crash (client : Client)

variable {Call α : Type}

section Steps

variable [DecidableEq Client]

/-- One step of one client; a client that crashes leaves its transaction. -/
def World.step (program : Call → Script (@Command.Answer Query Result) α)
    (world : World Client Call σ Query Result α) :
    Event Client Call → Option (World Client Call σ Query Result α)
  | .start client call =>
      match world.running client with
      | none => some { world with
          running := Function.update world.running client (some (call, program call)) }
      | some _ => none
  | .serve client fate =>
      match world.running client with
      | some (call, .ask command next) =>
          let served := View.serve schema fate (world.store.busy client)
            (world.store.view client) command
          some { world with
            store := world.store.put client served.2
            running := Function.update world.running client (some (call, next served.1)) }
      | _ => none
  | .finish client =>
      match world.running client with
      | some (call, .done a) => some { world with
          running := Function.update world.running client none
          finished := world.finished ++ [(call, a)] }
      | _ => none
  | .crash client => some { world with
      store := world.store.put client ⟨world.store.committed, none⟩
      running := Function.update world.running client none }

/-- Clients of one database, from a first state in which no call has begun. -/
def clients (program : Call → Script (@Command.Answer Query Result) α) (first : σ → Prop) :
    System (World Client Call σ Query Result α) (Event Client Call) where
  initial world := first world.store.committed ∧ world.store.holder = none ∧
    (∀ client, world.running client = none) ∧ world.finished = []
  next world event t := world.step schema program event = some t

end Steps

/-- What holds of what is committed, what each client may change of it, and what each
client may count on while others do. -/
structure Discipline (Client σ : Type) where
  inv : σ → Prop
  guarantee : Client → σ → σ → Prop
  rely : Client → σ → σ → Prop
  rely_refl : ∀ client s, rely client s s
  rely_trans : ∀ client s t u, rely client s t → rely client t u → rely client s u
  rely_of_guarantee : ∀ client other s t, other ≠ client → guarantee client s t → rely other s t

namespace Discipline

variable (d : Discipline Client σ)

/-- What a client that saw this view may find committed now. -/
def Stands (client : Client) (view : View σ) (t : σ) : Prop :=
  d.inv t ∧ match view.working with
    | none => d.rely client view.committed t
    | some _ => t = view.committed

/-- However the commands go, each keeps to the discipline, and the program ends as wanted. -/
def Safe (client : Client) (post : α → View σ → Prop) :
    Script (@Command.Answer Query Result) α → View σ → Prop
  | .done a, view => ∀ t, d.Stands client view t → post a ⟨t, view.working⟩
  | .ask command next, view => ∀ t fate busy, d.Stands client view t →
      (busy = true → view.working = none) →
      let served := View.serve schema fate busy ⟨t, view.working⟩ command
      (served.2.committed = t ∨
        d.inv served.2.committed ∧ d.guarantee client t served.2.committed) ∧
      Safe client post (next served.1) served.2

variable {d schema} {client : Client} {post : α → View σ → Prop} {s : σ} {view : View σ}

theorem Stands.refl (holds : d.inv view.committed) : d.Stands client view view.committed := by
  refine ⟨holds, ?_⟩
  split
  · exact d.rely_refl client _
  · rfl

theorem Stands.trans {t u : σ} (first : d.Stands client view t)
    (second : d.Stands client ⟨t, view.working⟩ u) : d.Stands client view u := by
  obtain ⟨-, stood⟩ := first
  obtain ⟨holds, stands⟩ := second
  refine ⟨holds, ?_⟩
  cases works : view.working with
  | none =>
      rw [works] at stood stands
      exact d.rely_trans client _ _ _ stood stands
  | some copy =>
      rw [works] at stood stands
      exact stands.trans stood

theorem Safe.stand {p : Script (@Command.Answer Query Result) α} {t : σ}
    (safe : d.Safe schema client post p view) (stands : d.Stands client view t) :
    d.Safe schema client post p ⟨t, view.working⟩ := by
  cases p with
  | done a => exact fun u further => safe u (stands.trans further)
  | ask command next =>
      exact fun u fate busy further => safe u fate busy (stands.trans further)

theorem Safe.mono {post' : α → View σ → Prop} (weaker : ∀ a view, post a view → post' a view)
    {p : Script (@Command.Answer Query Result) α} (safe : d.Safe schema client post p view) :
    d.Safe schema client post' p view := by
  induction p generalizing view with
  | done a => exact fun t stands => weaker a _ (safe t stands)
  | ask command next ih =>
      intro t fate busy stands free
      obtain ⟨kept, rest⟩ := safe t fate busy stands free
      exact ⟨kept, ih _ rest⟩

/-- A program is safe when what follows each of its ends is. -/
theorem Safe.bind {β : Type} {mid : α → View σ → Prop} {post : β → View σ → Prop}
    {p : Script (@Command.Answer Query Result) α}
    {f : α → Script (@Command.Answer Query Result) β} (holds : d.inv view.committed)
    (safe : d.Safe schema client mid p view)
    (next : ∀ a view, d.inv view.committed → mid a view → d.Safe schema client post (f a) view) :
    d.Safe schema client post (p >>= f) view := by
  induction p generalizing view with
  | done a => exact next a view holds (safe _ (.refl holds))
  | ask command rest ih =>
      intro t fate busy stands free
      obtain ⟨kept, safely⟩ := safe t fate busy stands free
      refine ⟨kept, ih _ ?_ safely⟩
      rcases kept with unchanged | ⟨kept, -⟩
      · rw [unchanged]
        exact stands.1
      · exact kept

theorem Safe.bindExcept {ε β : Type} {mid : Except ε α → View σ → Prop}
    {post : Except ε β → View σ → Prop}
    {p : ExceptT ε (Script (@Command.Answer Query Result)) α}
    {f : α → ExceptT ε (Script (@Command.Answer Query Result)) β}
    (holds : d.inv view.committed) (safe : d.Safe schema client mid p.run view)
    (raises : ∀ raised view, d.inv view.committed → mid (.error raised) view →
      d.Safe schema client post (.done (.error raised)) view)
    (next : ∀ a view, d.inv view.committed → mid (.ok a) view →
      d.Safe schema client post (f a).run view) :
    d.Safe schema client post (p >>= f).run view := by
  apply Safe.bind holds safe
  intro outcome reached kept ended
  cases outcome with
  | error raised => exact raises raised reached kept ended
  | ok a => exact next a reached kept ended

/-! What each command may do. -/

section Rules

theorem Safe.done {a : α} (wanted : ∀ t, d.inv t → d.rely client s t → post a ⟨t, none⟩) :
    d.Safe schema client post (.done a) ⟨s, none⟩ :=
  fun t stands => wanted t stands.1 stands.2

theorem Safe.begin {next : Option Unit → Script (@Command.Answer Query Result) α}
    (refused : ∀ t, d.inv t → d.rely client s t →
      d.Safe schema client post (next none) ⟨t, none⟩)
    (begun : ∀ t, d.inv t → d.rely client s t →
      d.Safe schema client post (next (some ())) ⟨t, some t⟩) :
    d.Safe schema client post (.ask .begin next) ⟨s, none⟩ := by
  intro t fate busy stands _
  obtain ⟨holds, relied⟩ := stands
  cases fate with
  | works =>
      cases busy with
      | false => exact ⟨.inl rfl, begun t holds relied⟩
      | true => exact ⟨.inl rfl, refused t holds relied⟩
  | raises => exact ⟨.inl rfl, refused t holds relied⟩
  | aborts => exact ⟨.inl rfl, refused t holds relied⟩

theorem Safe.query {query : Query}
    {next : Option (Result query) → Script (@Command.Answer Query Result) α}
    (refused : ∀ t, d.inv t → d.rely client s t →
      d.Safe schema client post (next none) ⟨t, none⟩)
    (answered : ∀ t result u, d.inv t → d.rely client s t → schema.exec t query = some (result, u) →
      (u = t ∨ d.inv u ∧ d.guarantee client t u) ∧
        d.Safe schema client post (next (some result)) ⟨u, none⟩) :
    d.Safe schema client post (.ask (.query query) next) ⟨s, none⟩ := by
  intro t fate busy stands _
  obtain ⟨holds, relied⟩ := stands
  have idle : (t = t ∨ d.inv t ∧ d.guarantee client t t) ∧
      d.Safe schema client post (next none) ⟨t, none⟩ := ⟨.inl rfl, refused t holds relied⟩
  cases fate with
  | raises => exact idle
  | aborts => exact idle
  | works =>
      unfold View.serve
      dsimp only
      split
      · exact idle
      · cases executed : schema.exec t query with
        | none => exact idle
        | some answer => exact answered t answer.1 answer.2 holds relied executed

theorem Safe.read {query : Query} (reads : schema.writes query = false)
    {next : Option (Result query) → Script (@Command.Answer Query Result) α}
    (refused : ∀ t, d.inv t → d.rely client s t →
      d.Safe schema client post (next none) ⟨t, none⟩)
    (answered : ∀ t result, d.inv t → d.rely client s t →
      schema.exec t query = some (result, t) →
      d.Safe schema client post (next (some result)) ⟨t, none⟩) :
    d.Safe schema client post (.ask (.query query) next) ⟨s, none⟩ := by
  apply Safe.query refused
  intro t result u holds relied executed
  have unchanged := schema.exec_reads reads executed
  rw [unchanged] at executed ⊢
  exact ⟨.inl rfl, answered t result holds relied executed⟩

/-- A statement of a transaction changes its copy only. -/
theorem Safe.work {copy : σ} {query : Query}
    {next : Option (Result query) → Script (@Command.Answer Query Result) α}
    (raised : d.Safe schema client post (next none) ⟨s, some copy⟩)
    (aborted : d.Safe schema client post (next none) ⟨s, none⟩)
    (answered : ∀ result changed, schema.exec copy query = some (result, changed) →
      d.Safe schema client post (next (some result)) ⟨s, some changed⟩) :
    d.Safe schema client post (.ask (.query query) next) ⟨s, some copy⟩ := by
  intro t fate busy stands _
  have same : t = s := stands.2
  rw [same]
  cases fate with
  | raises => exact ⟨.inl rfl, raised⟩
  | aborts => exact ⟨.inl rfl, aborted⟩
  | works =>
      unfold View.serve
      dsimp only
      cases executed : schema.exec copy query with
      | none => exact ⟨.inl rfl, raised⟩
      | some answer => exact ⟨.inl rfl, answered answer.1 answer.2 executed⟩

theorem Safe.commit {copy : σ} {next : Option Unit → Script (@Command.Answer Query Result) α}
    (kept : copy = s ∨ d.inv copy ∧ d.guarantee client s copy)
    (raised : d.Safe schema client post (next none) ⟨s, some copy⟩)
    (aborted : d.Safe schema client post (next none) ⟨s, none⟩)
    (committed : d.Safe schema client post (next (some ())) ⟨copy, none⟩) :
    d.Safe schema client post (.ask .commit next) ⟨s, some copy⟩ := by
  intro t fate busy stands _
  have same : t = s := stands.2
  rw [same]
  cases fate with
  | raises => exact ⟨.inl rfl, raised⟩
  | aborts => exact ⟨.inl rfl, aborted⟩
  | works => exact ⟨kept, committed⟩

/-- A rollback ends the transaction, also where it raises. -/
theorem Safe.rollback {next : Option Unit → Script (@Command.Answer Query Result) α}
    (ended : ∀ answer t, d.Stands client view t →
      d.Safe schema client post (next answer) ⟨t, none⟩) :
    d.Safe schema client post (.ask .rollback next) view := by
  intro t fate busy stands _
  obtain ⟨committed, own⟩ := view
  cases own with
  | none => cases fate <;> exact ⟨.inl rfl, ended _ t stands⟩
  | some copy => cases fate <;> exact ⟨.inl rfl, ended _ t stands⟩

end Rules

end Discipline

/-! Whole runs. -/

section Runs

variable [DecidableEq Client] {d : Discipline Client σ} {schema : Schema σ Query Result}
  {program : Call → Script (@Command.Answer Query Result) α} {kept : Call → α → σ → Prop}

/-- A call ends outside of any transaction, with what is kept from then on. -/
def Kept (kept : Call → α → σ → Prop) (call : Call) (a : α) (view : View σ) : Prop :=
  view.working = none ∧ kept call a view.committed

/-- Every client is at a safe place of its call. -/
structure World.Upheld (d : Discipline Client σ) (schema : Schema σ Query Result)
    (kept : Call → α → σ → Prop) (world : World Client Call σ Query Result α) : Prop where
  holds : d.inv world.store.committed
  idle : ∀ client, world.running client = none → world.store.working client = none
  safe : ∀ client call p, world.running client = some (call, p) →
    d.Safe schema client (Kept kept call) p (world.store.view client)
  lasting : ∀ call a, (call, a) ∈ world.finished → kept call a world.store.committed

variable (stable : ∀ client call a s t, d.inv s → d.inv t → d.guarantee client s t →
    kept call a s → kept call a t)

include stable

/-- What one client does to the store leaves the others where they are. -/
theorem World.Upheld.put {world : World Client Call σ Query Result α}
    (upheld : world.Upheld d schema kept) (client : Client) {view : View σ}
    (free : world.store.busy client = true → view.working = none ∧
      view.committed = world.store.committed)
    (change : view.committed = world.store.committed ∨
      d.inv view.committed ∧ d.guarantee client world.store.committed view.committed)
    {entry : Option (Call × Script (@Command.Answer Query Result) α)}
    {finished : List (Call × α)}
    (idle : entry = none → view.working = none)
    (safely : ∀ call p, entry = some (call, p) →
      d.Safe schema client (Kept kept call) p view)
    (last : ∀ call a, (call, a) ∈ finished → (call, a) ∈ world.finished ∨
      kept call a view.committed) :
    World.Upheld d schema kept ⟨world.store.put client view,
      Function.update world.running client entry, finished⟩ := by
  have holds : d.inv view.committed := by
    rcases change with same | changed
    · rw [same]
      exact upheld.holds
    · exact changed.1
  have others : ∀ other, other ≠ client →
      (world.store.put client view).working other = world.store.working other :=
    fun other differs => Store.working_put view differs fun busy => (free busy).1
  refine ⟨holds, ?_, ?_, ?_⟩
  · intro other isIdle
    dsimp only at isIdle ⊢
    by_cases same : other = client
    · rw [same, Function.update_self] at isIdle
      have own := congrArg View.working (world.store.view_put client view)
      rw [same]
      exact own.trans (idle isIdle)
    · rw [Function.update_of_ne same] at isIdle
      rw [others other same]
      exact upheld.idle other isIdle
  · intro other call p isRunning
    dsimp only at isRunning ⊢
    by_cases same : other = client
    · rw [same, Function.update_self] at isRunning
      rw [same, Store.view_put]
      exact safely call p isRunning
    · rw [Function.update_of_ne same] at isRunning
      have before := upheld.safe other call p isRunning
      have seen : (world.store.put client view).view other =
          ⟨view.committed, (world.store.view other).working⟩ := by
        rw [Store.view, others other same]
        rfl
      rw [seen]
      apply before.stand
      refine ⟨holds, ?_⟩
      cases works : (world.store.view other).working with
      | none =>
          rcases change with unchanged | ⟨-, guaranteed⟩
          · dsimp only
            rw [unchanged]
            exact d.rely_refl other _
          · exact d.rely_of_guarantee client other _ _ same guaranteed
      | some copy => exact (free (Store.busy_of_working works same)).2
  · intro call a member
    rcases last call a member with earlier | now
    · have wasKept := upheld.lasting call a earlier
      rcases change with unchanged | ⟨-, guaranteed⟩
      · dsimp only [Store.put]
        rw [unchanged]
        exact wasKept
      · exact stable client call a _ _ upheld.holds holds guaranteed wasKept
    · exact now

variable (safe : ∀ client call s, d.inv s →
    d.Safe schema client (Kept kept call) (program call) ⟨s, none⟩)

include safe

theorem World.Upheld.step {world t : World Client Call σ Query Result α}
    {event : Event Client Call} (upheld : world.Upheld d schema kept)
    (next : world.step schema program event = some t) : t.Upheld d schema kept := by
  have earlier : ∀ call a, (call, a) ∈ world.finished → (call, a) ∈ world.finished ∨
      kept call a world.store.committed := fun call a member => .inl member
  cases event with
  | start client call =>
      unfold World.step at next
      dsimp only at next
      split at next
      · next isIdle =>
          cases next
          have unheld := upheld.idle client isIdle
          rw [← world.store.put_view client]
          apply upheld.put stable client
          · exact fun _ => ⟨unheld, rfl⟩
          · exact .inl rfl
          · exact fun absent => by cases absent
          · intro other p isCall
            cases isCall
            have begins := safe client call _ upheld.holds
            rw [← unheld] at begins
            exact begins
          · exact earlier
      · cases next
  | serve client fate =>
      unfold World.step at next
      dsimp only at next
      split at next
      · next call command rest isRunning =>
          cases next
          have now := upheld.safe client call _ isRunning
          have free : world.store.busy client = true → world.store.working client = none :=
            Store.working_of_busy
          obtain ⟨change, safely⟩ :=
            now _ fate (world.store.busy client) (.refl upheld.holds) free
          apply upheld.put stable client
          · intro busy
            have view : world.store.view client = ⟨world.store.committed, none⟩ := by
              rw [Store.view, free busy]
            rw [busy, view, View.serve_busy]
            exact ⟨rfl, rfl⟩
          · exact change
          · exact fun absent => by cases absent
          · intro other p isCall
            cases isCall
            exact safely
          · exact fun call a member => .inl member
      · cases next
  | finish client =>
      unfold World.step at next
      dsimp only at next
      split at next
      · next call a isRunning =>
          cases next
          have ended : Kept kept call a (world.store.view client) :=
            upheld.safe client call _ isRunning _ (.refl upheld.holds)
          rw [← world.store.put_view client]
          apply upheld.put stable client
          · exact fun _ => ⟨ended.1, rfl⟩
          · exact .inl rfl
          · exact fun _ => ended.1
          · exact fun other p absent => by cases absent
          · intro other b member
            rcases List.mem_append.mp member with before | last
            · exact .inl before
            · cases List.mem_singleton.mp last
              exact .inr ended.2
      · cases next
  | crash client =>
      cases next
      apply upheld.put stable client
      · exact fun _ => ⟨rfl, rfl⟩
      · exact .inl rfl
      · exact fun _ => rfl
      · exact fun other p absent => by cases absent
      · exact earlier

omit stable safe in
/-- A step changes what is committed as its client may, if at all. -/
theorem World.Upheld.change {world t : World Client Call σ Query Result α}
    {event : Event Client Call} (upheld : world.Upheld d schema kept)
    (next : world.step schema program event = some t) :
    t.store.committed = world.store.committed ∨
      ∃ client, d.guarantee client world.store.committed t.store.committed := by
  cases event with
  | start client call | finish client =>
      unfold World.step at next
      dsimp only at next
      split at next <;> cases next
      exact .inl rfl
  | crash client =>
      cases next
      exact .inl rfl
  | serve client fate =>
      unfold World.step at next
      dsimp only at next
      split at next
      · next call command rest isRunning =>
          cases next
          obtain ⟨change, -⟩ := upheld.safe client call _ isRunning _ fate
            (world.store.busy client) (.refl upheld.holds) Store.working_of_busy
          exact change.imp_right fun changed => ⟨client, changed.2⟩
      · cases next

/-- What is committed only grows. -/
theorem World.Upheld.grows {world t : World Client Call σ Query Result α}
    {grows : σ → σ → Prop} (refl : ∀ s, grows s s)
    (trans : ∀ s t u, grows s t → grows t u → grows s u)
    (of_guarantee : ∀ client s t, d.guarantee client s t → grows s t) {first : σ → Prop}
    (upheld : world.Upheld d schema kept) {events : List (Event Client Call)}
    (run : ((clients schema program first).since world).Run events t) :
    t.Upheld d schema kept ∧ grows world.store.committed t.store.committed := by
  apply run.invariant
  · intro u initial
    rw [initial]
    exact ⟨upheld, refl _⟩
  · intro u event v reached next
    obtain ⟨still, grown⟩ := reached
    refine ⟨still.step stable safe next, ?_⟩
    rcases still.change next with unchanged | ⟨client, guaranteed⟩
    · rw [unchanged]
      exact grown
    · exact trans _ _ _ grown (of_guarantee client _ _ guaranteed)

/-- In every run of clients whose calls are safe, what is committed keeps its invariant
and every call that has ended keeps what it reported. -/
theorem upheld_of_run {first : σ → Prop} (begins : ∀ s, first s → d.inv s)
    {events : List (Event Client Call)} {world : World Client Call σ Query Result α}
    (run : (clients schema program first).Run events world) : world.Upheld d schema kept := by
  apply run.invariant
  · intro world initial
    obtain ⟨isFirst, unheld, idle, unfinished⟩ := initial
    refine ⟨begins _ isFirst, ?_, ?_, ?_⟩
    · intro client _
      rw [Store.working, unheld]
    · intro client call p isRunning
      rw [idle client] at isRunning
      cases isRunning
    · intro call a member
      rw [unfinished] at member
      cases member
  · exact fun world event t upheld next => upheld.step stable safe next

end Runs

end SelfConnect.Library
