import Mathlib.Data.List.Pairwise
import SelfConnect.Ultra.Controller

namespace SelfConnect.Ultra.Controller

open SelfConnect.Js SelfConnect.Library SelfConnect.Library.Calls

/-! What an assertion that said ok has seen of the fence, in any interleaving. -/

namespace Fence

variable {fence : Fence} {holder : Holder} {active : Bool}

theorem head_of_current (current : fence.current = some (holder, active)) :
    fence.active = active ∧ ∃ rest, fence.claims = holder :: rest := by
  obtain ⟨first, isHead, same⟩ := Option.map_eq_some_iff.mp current
  cases same
  exact ⟨rfl, List.head?_eq_some_iff.mp isHead⟩

theorem epoch_le_of_mem (current : fence.current = some (holder, active)) {earlier : Holder}
    (member : earlier ∈ fence.claims) : earlier.fenceEpoch ≤ holder.fenceEpoch := by
  obtain ⟨_, rest, isCons⟩ := head_of_current current
  have ascending := fence.ascending
  rw [isCons] at ascending member
  rcases List.mem_cons.mp member with same | older
  · exact Int.le_of_eq (congrArg _ same)
  · exact Int.le_of_lt ((List.pairwise_cons.mp ascending).1 earlier older)

theorem mem_of_current (current : fence.current = some (holder, active)) :
    holder ∈ fence.claims := by
  obtain ⟨_, rest, isCons⟩ := head_of_current current
  rw [isCons]
  exact List.mem_cons_self

theorem not_active_of_lapse : fence.lapse.current ≠ some (holder, true) := by
  intro current
  cases (head_of_current current).1

/-- An epoch has been claimed once. -/
theorem eq_of_epoch {first second : Holder} (isFirst : first ∈ fence.claims)
    (isSecond : second ∈ fence.claims) (same : first.fenceEpoch = second.fenceEpoch) :
    first = second := by
  have apart : fence.claims.Pairwise fun a b => a.fenceEpoch ≠ b.fenceEpoch :=
    fence.ascending.imp fun less => (Int.ne_of_lt less).symm
  have symmetric : Std.Symm fun a b : Holder => a.fenceEpoch ≠ b.fenceEpoch :=
    ⟨fun _ _ => Ne.symm⟩
  by_contra differs
  exact apart.forall isFirst isSecond differs same

end Fence

variable {Instance Ticket : Type}

namespace Shared

variable {s : Shared Instance} {choice : Choice}

theorem claims_settle : (s.settle choice).fence.claims = s.fence.claims := by
  unfold settle
  split <;> rfl

/-- An active holder has not lapsed. -/
theorem current_of_settle {holder : Holder}
    (current : (s.settle choice).fence.current = some (holder, true)) :
    s.fence.current = some (holder, true) := by
  unfold settle at current
  split at current
  · exact absurd current Fence.not_active_of_lapse
  · exact current

end Shared

theorem answered_eq_some {choice : Choice} {α : Type} {answer found : α}
    (isAnswer : answered choice answer = some found) : answer = found := by
  unfold answered at isAnswer
  split at isAnswer
  · cases isAnswer
  · exact Option.some.inj isAnswer

namespace Shared

variable {s : Shared Instance} {choice : Choice}

/-- What one state has claimed, another has too. -/
def Claimed (s t : Shared Instance) : Prop := s.fence.claims <:+ t.fence.claims

theorem claimed_settle : s.Claimed (s.settle choice) :=
  ⟨[], claims_settle.symm⟩

theorem claimed_perform {change : Fence → Option Fence}
    (changes : ∀ fence changed, change fence = some changed →
      fence.claims <:+ changed.claims) :
    s.Claimed (s.perform choice change).2 := by
  unfold perform
  split
  · next fence performed =>
      split at performed
      · cases performed
      · exact claimed_settle.trans (changes _ _ performed)
  · exact claimed_settle

end Shared

variable [DecidableEq Instance]

/-- Claims are only ever added. -/
theorem claims_serve (choice : Choice) (ticket : Ticket) (s : Shared Instance)
    (request : Request Instance) :
    s.Claimed (serve choice ticket s request).2 := by
  cases request with
  | now => exact List.suffix_rfl
  | lease self => exact List.suffix_rfl
  | setLease self lease => exact List.suffix_rfl
  | current => exact Shared.claimed_settle
  | claim holder =>
      apply Shared.claimed_perform
      intro fence changed isClaim
      unfold Fence.claim at isClaim
      split at isClaim
      · cases isClaim
        exact List.suffix_cons _ _
      · cases isClaim
  | release nodeId fenceEpoch commandId =>
      apply Shared.claimed_perform
      intro fence changed isRelease
      unfold Fence.release at isRelease
      split at isRelease
      · cases isRelease
        exact List.suffix_rfl
      · cases isRelease

section Assertion

variable {took : Nat → (request : Request Instance) → Response request → Prop} {first last : Nat}
  {config : Config} {self : Instance}

omit [DecidableEq Instance] in
theorem not_ok_of_refused {fenceEpoch : Int}
    (path : Path took first (.done notWritable) last (.done (.ok fenceEpoch))) : False := by
  cases path.of_done

omit [DecidableEq Instance] in
theorem compare_of_path {lease : Command} {read : Option (Option (Holder × Bool))}
    {fenceEpoch : Int}
    (path : Path took first (compareLease config lease read : Program Instance Assertion) last
      (.done (.ok fenceEpoch))) :
    ∃ current, read = some (some current) ∧ records config lease current = true ∧
      lease.fenceEpoch = fenceEpoch ∧
      ∃ (l : Nat) (now : Int), first ≤ l ∧ took l .now now ∧ now < current.1.expiresAt := by
  unfold compareLease at path
  split at path
  · next current =>
      split at path
      · next isRecord =>
          obtain ⟨l, (now : Int), later, answered, path⟩ := path.of_ask
          change Path took _ (if now < current.1.expiresAt
            then .done (.ok lease.fenceEpoch) else .done notWritable) last _ at path
          split at path
          · next unexpired =>
              cases path.of_done
              exact ⟨current, rfl, isRecord, rfl, l, now, later, answered, unexpired⟩
          · exact (not_ok_of_refused path).elim
      · exact (not_ok_of_refused path).elim
  · exact (not_ok_of_refused path).elim

omit [DecidableEq Instance] in
/-- What an assertion that says ok has read, in order. -/
theorem reads_of_path {minRemainingMs fenceEpoch : Int}
    (path : Path took first (assertWritable config self minRemainingMs) last
      (.done (.ok fenceEpoch))) :
    ∃ (lease : Command) (current : Holder × Bool) (k j l : Nat) (now : Int),
      first ≤ k ∧ k < j ∧ j < l ∧ took k (.lease self) (some lease) ∧
        took j .current (some (some current)) ∧ took l .now now ∧
        records config lease current = true ∧ lease.fenceEpoch = fenceEpoch ∧
        now < current.1.expiresAt := by
  obtain ⟨k, (own : Option Command), begun, owned, path⟩ := path.of_ask
  change Path took _ (if isSafeInteger minRemainingMs = false ∨ minRemainingMs < 0 then
    .done notWritable else assertLease config minRemainingMs own) last _ at path
  split at path
  · exact (not_ok_of_refused path).elim
  · cases own with
    | none => exact (not_ok_of_refused path).elim
    | some lease =>
        obtain ⟨i, (clock : Int), asked, _, path⟩ := path.of_ask
        change Path took _ (if lease.expiresAt - clock < minRemainingMs then .done notWritable
          else .ask .current fun current => compareLease config lease current) last _ at path
        split at path
        · exact (not_ok_of_refused path).elim
        · obtain ⟨j, read, later, isRead, path⟩ := path.of_ask
          obtain ⟨current, same, isRecord, isEpoch, l, now, after, answered, unexpired⟩ :=
            compare_of_path path
          rw [same] at isRead
          exact ⟨lease, current, k, j, l, now, begun, by omega, after, owned, isRead, answered,
            isRecord, isEpoch, unexpired⟩

end Assertion

section Runs

variable [DecidableEq Ticket]

abbrev Events (Ticket Instance : Type) := List (Event Ticket (Call Instance) Choice)

abbrev Cluster (Ticket Instance : Type) :=
  World Ticket (Call Instance) (Shared Instance) Result (@Response Instance)

variable (config : Instance → Config) (verify : Json → Bool) (start : Shared Instance)

/-- Any number of controllers over one store, and their calls. -/
abbrev controllers : System (Cluster Ticket Instance) (Event Ticket (Call Instance) Choice) :=
  callsFrom serve (program config verify) start

/-- Between two moments of a call the store's active holder was the controller's node, with its
own command, unexpired by its clock. -/
structure HeldAt (events : Events Ticket Instance) (ticket : Ticket) (caller : Instance)
    (fenceEpoch : Int) (k j l : Nat) (owned held : Cluster Ticket Instance) (lease : Command)
    (holder : Holder) (now : Int) : Prop where
  ordered : k < j ∧ j < l
  owns : (controllers config verify start).Run (events.take k) owned
  isOwn : owned.shared.lease caller = some lease
  holds : (controllers config verify start).Run (events.take j) held
  isHeld : held.shared.fence.current = some (holder, true)
  during : ∃ choice, events[j]? = some (.serve ticket choice)
  isNode : holder.nodeId = (config caller).nodeId
  isEpoch : holder.fenceEpoch = fenceEpoch ∧ lease.fenceEpoch = fenceEpoch
  isCommand : holder.commandId = lease.commandId
  clocked : Took serve (program config verify) start events ticket l .now now
  unexpired : now < holder.expiresAt

/-- `assertWritable` has returned ok under this ticket. -/
def SaidOk (world : Cluster Ticket Instance) (ticket : Ticket) (self : Instance)
    (minRemainingMs fenceEpoch : Int) : Prop :=
  world.progress ticket =
    some ⟨⟨self, .assertWritable minRemainingMs⟩, some (.done (.assertion (.ok fenceEpoch)))⟩

variable {config verify start} {events : Events Ticket Instance} {world : Cluster Ticket Instance}

theorem held_of_said (run : (controllers config verify start).Run events world) {ticket : Ticket}
    {self : Instance} {minRemainingMs fenceEpoch : Int}
    (said : SaidOk world ticket self minRemainingMs fenceEpoch) :
    ∃ begun, events[begun]? = some (.start ticket ⟨self, .assertWritable minRemainingMs⟩) ∧
      ∃ k j l owned held lease holder now, begun < k ∧
        HeldAt config verify start events ticket self fenceEpoch k j l owned held lease holder
          now := by
  obtain ⟨begun, upto, isStart, _, path⟩ := path_of_run run said
  have bound : Path (Took serve (program config verify) start events ticket) (begun + 1)
      (assertWritable (config self) self minRemainingMs >>= fun assertion =>
        .done (Result.assertion assertion)) upto
      (.done (Result.assertion (Assertion.ok fenceEpoch))) := path
  obtain ⟨assertion, middle, front, rest⟩ := bound.of_bind
  cases rest.of_done
  obtain ⟨lease, current, k, j, l, now, after, ordered, later, own, read, clocked, isRecord,
    isEpoch, unexpired⟩ := reads_of_path front
  obtain ⟨_, owned, _, owns, isOwn⟩ := own
  obtain ⟨choice, held, during, holds, isRead⟩ := read
  obtain ⟨holder, active⟩ := current
  simp only [records, Bool.and_eq_true, decide_eq_true_eq] at isRecord
  obtain ⟨⟨⟨⟨isActive, isNode⟩, sameEpoch⟩, isCommand⟩, _⟩ := isRecord
  rw [isActive] at isRead
  have isHeld : (held.shared.settle choice).fence.current = some (holder, true) :=
    answered_eq_some isRead
  refine ⟨begun, isStart, k, j, l, owned, held, lease, holder, now, after, ?_⟩
  exact {
    ordered := ⟨ordered, later⟩
    owns := owns
    isOwn := isOwn
    holds := holds
    isHeld := Shared.current_of_settle isHeld
    during := ⟨choice, during⟩
    isNode := isNode
    isEpoch := ⟨sameEpoch.trans isEpoch, isEpoch⟩
    isCommand := isCommand
    clocked := clocked
    unexpired := unexpired }

theorem suffix_of_run (run : (controllers config verify start).Run events world) {k : Nat}
    {early : Cluster Ticket Instance}
    (before : (controllers config verify start).Run (events.take k) early) :
    early.shared.Claimed world.shared :=
  lasts_of_run (fun _ => List.suffix_rfl) (fun _ _ _ => List.IsSuffix.trans) claims_serve run
    before

variable (config verify start events world) in
structure WriterSafe : Prop where
  held : ∀ ticket self minRemainingMs fenceEpoch,
    SaidOk world ticket self minRemainingMs fenceEpoch →
      ∃ begun, events[begun]? = some (.start ticket ⟨self, .assertWritable minRemainingMs⟩) ∧
        (∃ k j l owned held lease holder now, begun < k ∧
          HeldAt config verify start events ticket self fenceEpoch k j l owned held lease holder
            now) ∧
        ∀ early, (controllers config verify start).Run (events.take begun) early →
          ∀ claimed ∈ early.shared.fence.claims, claimed.fenceEpoch ≤ fenceEpoch
  sole : ∀ ticket other self self' minRemainingMs minRemainingMs' fenceEpoch,
    SaidOk world ticket self minRemainingMs fenceEpoch →
      SaidOk world other self' minRemainingMs' fenceEpoch →
        (config self).nodeId = (config self').nodeId

theorem writer_safe_of_run (run : (controllers config verify start).Run events world) :
    WriterSafe config verify start events world where
  held ticket self minRemainingMs fenceEpoch said := by
    obtain ⟨begun, isStart, k, j, l, owned, held, lease, holder, now, after, heldAt⟩ :=
      held_of_said run said
    refine ⟨begun, isStart, ⟨k, j, l, owned, held, lease, holder, now, after, heldAt⟩, ?_⟩
    intro early before claimed member
    rw [← heldAt.isEpoch.1]
    apply Fence.epoch_le_of_mem heldAt.isHeld
    have earlier : begun ≤ j := Nat.le_of_lt (Nat.lt_trans after heldAt.ordered.1)
    have front : (events.take j).take begun = events.take begun := by
      rw [List.take_take, Nat.min_eq_left earlier]
    exact (suffix_of_run heldAt.holds (front ▸ before)).mem member
  sole ticket other self self' minRemainingMs minRemainingMs' fenceEpoch said saidOther := by
    obtain ⟨_, _, _, _, _, _, _, _, holder, _, _, first⟩ := held_of_said run said
    obtain ⟨_, _, _, _, _, _, _, _, holder', _, _, second⟩ := held_of_said run saidOther
    have isFirst := (suffix_of_run run first.holds).mem (Fence.mem_of_current first.isHeld)
    have isSecond := (suffix_of_run run second.holds).mem (Fence.mem_of_current second.isHeld)
    have same : holder = holder' :=
      Fence.eq_of_epoch isFirst isSecond (first.isEpoch.1.trans second.isEpoch.1.symm)
    rw [← first.isNode, ← second.isNode, same]

end Runs

def sampleConfig : Bool → Config
  | first => {
      clusterId := text "c"
      nodeId := if first then text "a" else text "b"
      role := .primary
      maxCommandAgeMs := 60000
      maxLeaseMs := 300000
      minLeaseRemainingMs := 5000 }

def sampleCommand (fenceEpoch : Int) : Command where
  command := .activate
  commandId := text "command-" ++ text (toString fenceEpoch)
  nodeId := text "a"
  clusterId := text "c"
  fenceEpoch := fenceEpoch
  issuedAt := 0
  expiresAt := 100000
  actor := text "operator"
  reason := none
  signature := List.replicate 43 0x41

def sampleBody (fenceEpoch : Int) : Json :=
  let command := sampleCommand fenceEpoch
  .obj [
    (text "command", .str (text "activate")), (text "commandId", .str command.commandId),
    (text "nodeId", .str command.nodeId), (text "clusterId", .str command.clusterId),
    (text "fenceEpoch", .num command.fenceEpoch), (text "issuedAt", .num command.issuedAt),
    (text "expiresAt", .num command.expiresAt), (text "by", .str command.actor),
    (text "signature", .str command.signature)]

def idle : Shared Bool where
  fence := { claims := [], active := false, ascending := .nil }
  lease _ := none

def calm : Choice := { clock := 0, lapses := false, refuses := false, lost := false }

/-- A node claims the first epoch, then asserts that it may write. -/
def claimed : Events Nat Bool :=
  [.start 0 ⟨true, .applyCommand (sampleBody 1)⟩] ++ List.replicate 13 (.serve 0 calm) ++
    [.start 1 ⟨true, .assertWritable 0⟩] ++ List.replicate 4 (.serve 1 calm)

def afterClaimed : Option (Cluster Nat Bool) :=
  claimed.foldlM (Calls.World.step serve (program sampleConfig fun _ => true)) ⟨idle, fun _ => none⟩

theorem progress_afterClaimed : (afterClaimed.map fun world => world.progress 1) =
    some (some ⟨⟨true, .assertWritable 0⟩, some (.done (.assertion (.ok 1)))⟩) := rfl

theorem writer_safe_of_run_claimed :
    ∃ world, SaidOk world 1 true 0 1 ∧
      WriterSafe sampleConfig (fun _ => true) idle claimed world := by
  obtain ⟨world, found, said⟩ := Option.map_eq_some_iff.mp progress_afterClaimed
  have begins : (controllers sampleConfig (fun _ => true) idle).initial ⟨idle, fun _ => none⟩ :=
    ⟨rfl, fun _ : Nat => rfl⟩
  have run : (controllers sampleConfig (fun _ => true) idle).Run ([] ++ claimed) world :=
    System.Run.fold (fun _ _ _ next => next) (.start begins) found
  exact ⟨world, said, writer_safe_of_run run⟩

end SelfConnect.Ultra.Controller
