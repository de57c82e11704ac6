import SelfConnect.Ultra.Writer

namespace SelfConnect.Ultra.Controller

open SelfConnect.Js SelfConnect.Library SelfConnect.Library.Calls
open SelfConnect.Library.Script (Asks)

/-! The lease of one controller against the store's holder, under concurrent commands. -/

/-- What the store has done for a call, and what the call will make of the lease. -/
structure Change where
  fenceEpoch : Int
  lease : Option Command

/-- The store takes the epochs in ascending order, and releases an epoch after its claim. -/
def Change.Before (first second : Change) : Prop :=
  first.fenceEpoch < second.fenceEpoch ∨
    first.fenceEpoch = second.fenceEpoch ∧ first.lease ≠ none ∧ second.lease = none

theorem Change.Before.asymm {first second : Change} (before : first.Before second) :
    ¬ second.Before first := by
  intro back
  rcases before with less | ⟨same, isClaim, isRelease⟩
  · rcases back with more | ⟨same, _, _⟩ <;> omega
  · rcases back with more | ⟨_, notRelease, _⟩
    · omega
    · exact notRelease isRelease

/-- Where the store's active holder is this node, the lease is that command. -/
def Agrees (config : Config) (fence : Fence) (lease : Option Command) : Prop :=
  ∀ holder, fence.current = some (holder, true) → holder.nodeId = config.nodeId →
    ∃ command, lease = some command ∧ command.nodeId = config.nodeId ∧
      holderOf config command = holder

section Changes

variable {Ticket : Type}

/-- Either the lease agrees, or the last of the changes that are under way will make it so. -/
inductive Settling (config : Config) (fence : Fence) (lease : Option Command)
    (pending : Ticket → Option Change) : Prop
  | settled : (∀ ticket, pending ticket = none) → Agrees config fence lease →
      Settling config fence lease pending
  | last (ticket : Ticket) (change : Change) : pending ticket = some change →
      Agrees config fence change.lease →
      (∀ other change', other ≠ ticket → pending other = some change' → change'.Before change) →
      Settling config fence lease pending

structure Consistent (config : Config) (fence : Fence) (lease : Option Command)
    (pending : Ticket → Option Change) : Prop where
  known : ∀ ticket change, pending ticket = some change →
    ∃ holder ∈ fence.claims, holder.fenceEpoch = change.fenceEpoch
  spent : ∀ ticket change, pending ticket = some change → change.lease = none →
    ∀ holder, fence.current = some (holder, true) → holder.fenceEpoch ≠ change.fenceEpoch
  settling : Settling config fence lease pending

variable {config : Config} {fence changed : Fence} {lease : Option Command}
  {pending : Ticket → Option Change}

theorem Settling.of_agrees (settling : Settling config fence lease pending)
    (kept : ∀ lease, Agrees config fence lease → Agrees config changed lease) :
    Settling config changed lease pending := by
  cases settling with
  | settled none agrees => exact .settled none (kept _ agrees)
  | last ticket change isPending agrees others =>
      exact .last ticket change isPending (kept _ agrees) others

theorem Agrees.of_lapse : Agrees config fence.lapse lease := by
  intro holder current
  exact absurd current Fence.not_active_of_lapse

theorem Consistent.lapse (consistent : Consistent config fence lease pending) :
    Consistent config fence.lapse lease pending where
  known := consistent.known
  spent _ _ _ _ _ current := absurd current Fence.not_active_of_lapse
  settling := consistent.settling.of_agrees fun _ _ => .of_lapse

theorem claim_eq_some {holder : Holder} (claimed : fence.claim holder = some changed) :
    (∀ earlier ∈ fence.claims, earlier.fenceEpoch < holder.fenceEpoch) ∧
      changed.claims = holder :: fence.claims ∧ changed.current = some (holder, true) := by
  unfold Fence.claim at claimed
  split at claimed
  · next newer =>
      cases claimed
      exact ⟨newer, rfl, rfl⟩
  · cases claimed

/-- A new claim is later than all that the store has done. -/
theorem Consistent.of_claim (consistent : Consistent config fence lease pending)
    {holder : Holder} (claimed : fence.claim holder = some changed) {ticket : Ticket}
    {change : Change} (isPending : pending ticket = some change) :
    change.fenceEpoch < holder.fenceEpoch := by
  obtain ⟨earlier, member, same⟩ := consistent.known ticket change isPending
  rw [← same]
  exact (claim_eq_some claimed).1 earlier member

theorem Consistent.foreign (consistent : Consistent config fence lease pending) {holder : Holder}
    (claimed : fence.claim holder = some changed) (isForeign : holder.nodeId ≠ config.nodeId) :
    Consistent config changed lease pending where
  known ticket change isPending := by
    obtain ⟨earlier, member, same⟩ := consistent.known ticket change isPending
    rw [(claim_eq_some claimed).2.1]
    exact ⟨earlier, List.mem_cons_of_mem _ member, same⟩
  spent ticket change isPending _ other current := by
    rw [(claim_eq_some claimed).2.2] at current
    cases current
    exact Int.ne_of_gt (consistent.of_claim claimed isPending)
  settling := by
    refine consistent.settling.of_agrees fun lease _ other current isNode => ?_
    rw [(claim_eq_some claimed).2.2] at current
    cases current
    exact absurd isNode isForeign

variable [DecidableEq Ticket]

theorem Consistent.claim (consistent : Consistent config fence lease pending) {ticket : Ticket}
    {command : Command} (isNode : command.nodeId = config.nodeId)
    (claimed : fence.claim (holderOf config command) = some changed) :
    Consistent config changed lease
      (Function.update pending ticket (some ⟨command.fenceEpoch, some command⟩)) where
  known other change isPending := by
    rw [(claim_eq_some claimed).2.1]
    by_cases own : other = ticket
    · rw [own, Function.update_self] at isPending
      cases isPending
      exact ⟨_, List.mem_cons_self, rfl⟩
    · rw [Function.update_of_ne own] at isPending
      obtain ⟨earlier, member, same⟩ := consistent.known other change isPending
      exact ⟨earlier, List.mem_cons_of_mem _ member, same⟩
  spent other change isPending isRelease holder current := by
    by_cases own : other = ticket
    · rw [own, Function.update_self] at isPending
      cases isPending
      cases isRelease
    · rw [Function.update_of_ne own] at isPending
      rw [(claim_eq_some claimed).2.2] at current
      cases current
      exact Int.ne_of_gt (consistent.of_claim claimed isPending)
  settling := by
    refine .last ticket _ (Function.update_self ..) ?_ ?_
    · intro holder current _
      rw [(claim_eq_some claimed).2.2] at current
      cases current
      exact ⟨command, rfl, isNode, rfl⟩
    · intro other change' differs isPending
      rw [Function.update_of_ne differs] at isPending
      exact .inl (consistent.of_claim claimed isPending)

theorem release_eq_some {nodeId commandId : Text} {fenceEpoch : Int}
    (released : fence.release nodeId fenceEpoch commandId = some changed) :
    changed = fence.lapse ∧
      ∃ holder, fence.current = some (holder, true) ∧ holder.fenceEpoch = fenceEpoch := by
  unfold Fence.release at released
  split at released
  · next isHeld =>
      cases released
      refine ⟨rfl, ?_⟩
      unfold Fence.heldBy at isHeld
      split at isHeld
      · next holder active current =>
          simp only [Bool.and_eq_true, decide_eq_true_eq] at isHeld
          obtain ⟨⟨⟨isActive, _⟩, isEpoch⟩, _⟩ := isHeld
          rw [isActive] at current
          exact ⟨holder, current, isEpoch⟩
      · cases isHeld
  · cases released

theorem Consistent.release (consistent : Consistent config fence lease pending) {ticket : Ticket}
    {nodeId commandId : Text} {fenceEpoch : Int}
    (released : fence.release nodeId fenceEpoch commandId = some changed) :
    Consistent config changed lease
      (Function.update pending ticket (some ⟨fenceEpoch, none⟩)) := by
  obtain ⟨isLapse, holder, current, isEpoch⟩ := release_eq_some released
  rw [isLapse]
  refine ⟨?_, ?_, .last ticket _ (Function.update_self ..) .of_lapse ?_⟩
  · intro other change isPending
    by_cases own : other = ticket
    · rw [own, Function.update_self] at isPending
      cases isPending
      exact ⟨holder, (Fence.mem_of_current current :), isEpoch⟩
    · rw [Function.update_of_ne own] at isPending
      exact consistent.known other change isPending
  · exact fun _ _ _ _ _ active => absurd active Fence.not_active_of_lapse
  · intro other change differs isPending
    rw [Function.update_of_ne differs] at isPending
    obtain ⟨earlier, member, same⟩ := consistent.known other change isPending
    have upto := Fence.epoch_le_of_mem current member
    rcases Int.lt_or_eq_of_le upto with less | equal
    · exact .inl (by simp only; omega)
    · refine .inr ⟨by simp only; omega, ?_, rfl⟩
      intro isRelease
      exact consistent.spent other change isPending isRelease holder current (by omega)

/-- The call goes on once no earlier change is under way. -/
theorem Consistent.keep (consistent : Consistent config fence lease pending) {ticket : Ticket}
    {change : Change} (isPending : pending ticket = some change)
    (first : ∀ other change', other ≠ ticket → pending other = some change' →
      change.Before change') :
    Consistent config fence change.lease (Function.update pending ticket none) := by
  have kept {other : Ticket} {change' : Change}
      (isOther : Function.update pending ticket none other = some change') :
      other ≠ ticket ∧ pending other = some change' := by
    by_cases own : other = ticket
    · rw [own, Function.update_self] at isOther
      cases isOther
    · rw [Function.update_of_ne own] at isOther
      exact ⟨own, isOther⟩
  refine ⟨?_, ?_, ?_⟩
  · intro other change' isOther
    exact consistent.known other change' (kept isOther).2
  · intro other change' isOther
    exact consistent.spent other change' (kept isOther).2
  · cases consistent.settling with
    | settled none _ =>
        rw [none ticket] at isPending
        cases isPending
    | last latest change' isLatest agrees others =>
        by_cases own : latest = ticket
        · rw [own, isPending] at isLatest
          cases isLatest
          refine .settled ?_ agrees
          intro other
          by_contra isSome
          obtain ⟨change', isOther⟩ := Option.ne_none_iff_exists'.mp isSome
          obtain ⟨differs, isOther⟩ := kept isOther
          exact (first other change' differs isOther).asymm
            (others other change' (fun same => differs (same.trans own)) isOther)
        · refine .last latest change' ?_ agrees ?_
          · rw [Function.update_of_ne own]
            exact isLatest
          · intro other change'' differs isOther
            exact others other change'' differs (kept isOther).2

end Changes

section Stages

variable {Instance α β : Type}

def Request.Reads : Request Instance → Prop
  | .now => True
  | .lease _ => True
  | .current => True
  | _ => False

/-- The program changes neither the store nor a lease. -/
abbrev Quiet : Program Instance α → Prop := Asks Request.Reads

def Request.Foreign (config : Config) (self : Instance) : Request Instance → Prop
  | .claim holder => holder.nodeId ≠ config.nodeId
  | .setLease other _ => other ≠ self
  | _ => True

/-- The next request keeps the lease, and nothing changes after it. -/
def Keeps (self : Instance) (lease : Option Command) : Program Instance α → Prop
  | .ask (.setLease other kept) next => other = self ∧ kept = lease ∧ ∀ u, Quiet (next u)
  | _ => False

/-- At most one claim or release of the epoch lies ahead; if the store performs it, the lease
is kept next. -/
def Ready (config : Config) (self : Instance) (fenceEpoch : Int) : Program Instance α → Prop
  | .done _ => True
  | .ask .now next => ∀ now, Ready config self fenceEpoch (next now)
  | .ask (.lease _) next => ∀ lease, Ready config self fenceEpoch (next lease)
  | .ask .current next => ∀ current, Ready config self fenceEpoch (next current)
  | .ask (.setLease _ _) _ => False
  | .ask (.claim holder) next =>
      (∃ command, command.nodeId = config.nodeId ∧ command.fenceEpoch = fenceEpoch ∧
        holder = holderOf config command ∧ Keeps self (some command) (next (some true))) ∧
      Quiet (next (some false))
  | .ask (.release _ released _) next =>
      released = fenceEpoch ∧ Keeps self none (next (some true)) ∧ Quiet (next (some false))

variable {config : Config} {self : Instance} {fenceEpoch : Int}

theorem Ready.of_quiet {p : Program Instance α} (quiet : Quiet p) :
    Ready config self fenceEpoch p := by
  induction p with
  | done a => trivial
  | ask request next ih =>
      obtain ⟨reads, rest⟩ := quiet
      cases request with
      | now => exact fun now => ih now (rest now)
      | lease _ => exact fun lease => ih lease (rest lease)
      | current => exact fun current => ih current (rest current)
      | setLease _ _ => exact reads
      | claim _ => exact reads.elim
      | release _ _ _ => exact reads.elim

theorem Keeps.bind {lease : Option Command} {p : Program Instance α} {f : α → Program Instance β}
    (keeps : Keeps self lease p) (further : ∀ a, Quiet (f a)) : Keeps self lease (p >>= f) := by
  cases p with
  | done a => exact keeps.elim
  | ask request next =>
      cases request with
      | setLease other kept =>
          obtain ⟨isSelf, isKept, quiet⟩ := keeps
          exact ⟨isSelf, isKept, fun u => (quiet u).bind further⟩
      | _ => exact keeps.elim

theorem Ready.bind {p : Program Instance α} {f : α → Program Instance β}
    (ready : Ready config self fenceEpoch p) (further : ∀ a, Quiet (f a)) :
    Ready config self fenceEpoch (p >>= f) := by
  induction p with
  | done a => exact .of_quiet (further a)
  | ask request next ih =>
      cases request with
      | now => exact fun now => ih now (ready now)
      | lease _ => exact fun lease => ih lease (ready lease)
      | current => exact fun current => ih current (ready current)
      | setLease _ _ => exact ready
      | claim _ =>
          obtain ⟨⟨command, isNode, isEpoch, isHolder, keeps⟩, quiet⟩ := ready
          exact ⟨⟨command, isNode, isEpoch, isHolder, keeps.bind further⟩, quiet.bind further⟩
      | release _ _ _ =>
          obtain ⟨isEpoch, keeps, quiet⟩ := ready
          exact ⟨isEpoch, keeps.bind further, quiet.bind further⟩

variable (config self)

theorem quiet_compareLease (lease : Command) (read : Option (Option (Holder × Bool))) :
    Quiet (compareLease config lease read : Program Instance Assertion) := by
  unfold compareLease
  split
  · next current =>
      refine .ite ⟨trivial, fun (now : Int) => ?_⟩ trivial
      change Quiet (if now < current.1.expiresAt then .done (.ok lease.fenceEpoch)
        else .done notWritable)
      exact .ite trivial trivial
  · trivial

theorem quiet_assertLease (minRemainingMs : Int) (lease : Option Command) :
    Quiet (assertLease config minRemainingMs lease : Program Instance Assertion) := by
  cases lease with
  | none => trivial
  | some lease =>
      exact ⟨trivial, fun _ => .ite trivial ⟨trivial, quiet_compareLease config lease⟩⟩

theorem quiet_assertWritable (minRemainingMs : Int) :
    Quiet (assertWritable config self minRemainingMs) :=
  ⟨trivial, fun lease => .ite trivial (quiet_assertLease config minRemainingMs lease)⟩

theorem quiet_snapshot : Quiet (snapshot config self) := by
  refine (quiet_assertWritable config self 0).bind fun _ => ?_
  refine (quiet_assertWritable config self _).bind fun _ => ?_
  refine ⟨trivial, fun (lease : Option Command) => ?_⟩
  have remaining : Quiet (leaseRemaining lease : Program Instance (Option Int)) := by
    cases lease with
    | none => trivial
    | some lease => exact ⟨trivial, fun _ => trivial⟩
  exact remaining.bind fun _ => trivial

variable {config self}

theorem keeps_keepLease (lease : Option Command) (refusal : String) :
    Keeps self lease (keepLease config self lease refusal (some true)) :=
  ⟨rfl, rfl, fun _ => (quiet_snapshot config self).bind fun _ => trivial⟩

theorem ready_demote {command : Command} :
    Ready config self command.fenceEpoch (demote config self command) := by
  intro lease
  change Ready config self command.fenceEpoch (releaseLease config self command lease)
  unfold releaseLease
  split
  · trivial
  · next lease =>
      split
      · trivial
      · next same => exact ⟨not_not.mp same, keeps_keepLease _ "fence_release_failed", trivial⟩

theorem ready_claim {command : Command} (isNode : command.nodeId = config.nodeId) :
    Ready config self command.fenceEpoch (claim config self command) :=
  ⟨⟨command, isNode, rfl, rfl, keeps_keepLease _ "fence_epoch_not_monotonic"⟩, trivial⟩

theorem ready_applyFresh {command : Command} (isNode : command.nodeId = config.nodeId)
    (stale : Option String) :
    Ready config self command.fenceEpoch (applyFresh config self command stale) := by
  unfold applyFresh
  split
  · trivial
  · split
    · exact ready_demote
    · split
      · exact ready_claim isNode
      · trivial

theorem ready_applyCommand {verify : Json → Bool} {body : Json} {command : Command}
    (shaped : commandShapeError body = .ok command) :
    Ready config self command.fenceEpoch (applyCommand config verify self body) := by
  unfold applyCommand
  rw [shaped]
  dsimp only
  split
  · trivial
  · split
    · trivial
    · next same => exact fun now => ready_applyFresh (not_not.mp (not_or.mp same).2) _

end Stages

section Staged

variable {Instance : Type}

/-- The calls that have nothing to take over, as the lease of one controller sees them. -/
inductive Still (config : Instance → Config) (self : Instance) :
    Call Instance → Program Instance Result → Prop
  | foreign {call : Call Instance} {p : Program Instance Result} : call.self ≠ self →
      Asks (Request.Foreign (config self) self) p → Still config self call p
  | quiet {call : Call Instance} {p : Program Instance Result} : Quiet p →
      Still config self call p
  | ready {body : Json} {command : Command} {p : Program Instance Result} :
      commandShapeError body = .ok command → Ready (config self) self command.fenceEpoch p →
      Still config self ⟨self, .applyCommand body⟩ p

inductive Staged (config : Instance → Config) (self : Instance) :
    Call Instance → Program Instance Result → Prop
  | still {call : Call Instance} {p : Program Instance Result} : Still config self call p →
      Staged config self call p
  | keeps {body : Json} {command : Command} {lease : Option Command}
      {p : Program Instance Result} : commandShapeError body = .ok command →
      Keeps self lease p → Staged config self ⟨self, .applyCommand body⟩ p

variable {config : Instance → Config} {self other : Instance}

theorem foreign_of_quiet {α : Type} {p : Program Instance α} (quiet : Quiet p) :
    Asks (Request.Foreign (config self) self) p := by
  refine quiet.mono fun request reads => ?_
  cases request with
  | claim _ => exact reads.elim
  | setLease _ _ => exact reads.elim
  | _ => trivial

theorem foreign_keepLease (differs : other ≠ self) (lease : Option Command) (refusal : String)
    (answer : Option Bool) : Asks (Request.Foreign (config self) self)
      (keepLease (config other) other lease refusal answer) := by
  unfold keepLease
  split
  · trivial
  · trivial
  · exact ⟨differs, fun _ => (foreign_of_quiet (quiet_snapshot (config other) other)).bind
      fun _ => trivial⟩

theorem foreign_applyCommand (differs : other ≠ self)
    (apart : (config other).nodeId ≠ (config self).nodeId) (verify : Json → Bool) (body : Json) :
    Asks (Request.Foreign (config self) self)
      (applyCommand (config other) verify other body) := by
  unfold applyCommand
  split
  · trivial
  · refine .ite trivial (.ite trivial ⟨trivial, fun now => ?_⟩)
    change Asks _ (applyFresh (config other) other _ _)
    unfold applyFresh
    split
    · trivial
    · refine .ite ⟨trivial, fun lease => ?_⟩ (.ite ⟨apart, fun answer => ?_⟩ trivial)
      · change Asks _ (releaseLease (config other) other _ lease)
        unfold releaseLease
        split
        · trivial
        · exact .ite trivial ⟨trivial, fun answer => foreign_keepLease differs _ _ answer⟩
      · exact foreign_keepLease differs _ _ answer

theorem quiet_applyCommand {config : Config} {verify : Json → Bool} {body : Json} {error : String}
    (shaped : commandShapeError body = .error error) :
    Quiet (applyCommand config verify self body) := by
  unfold applyCommand
  rw [shaped]
  trivial

theorem quiet_method (verify : Json → Bool) {call : Call Instance}
    (reads : ∀ body, call.method ≠ .applyCommand body) : Quiet (program config verify call) := by
  obtain ⟨caller, method⟩ := call
  cases method with
  | applyCommand body => exact absurd rfl (reads body)
  | assertWritable minRemainingMs =>
      exact (quiet_assertWritable _ _ _).bind fun _ => trivial
  | isWritable => exact (quiet_assertWritable _ _ _).bind fun _ => trivial
  | snapshot => exact (quiet_snapshot _ _).bind fun _ => trivial

theorem still_program
    (alone : ∀ other, (config other).nodeId = (config self).nodeId → other = self)
    (verify : Json → Bool) (call : Call Instance) :
    Still config self call (program config verify call) := by
  obtain ⟨caller, method⟩ := call
  cases method with
  | applyCommand body =>
      by_cases own : caller = self
      · rw [own]
        cases shaped : commandShapeError body with
        | error _ => exact .quiet ((quiet_applyCommand shaped).bind fun _ => trivial)
        | ok command =>
            exact .ready shaped ((ready_applyCommand shaped).bind fun _ => trivial)
      · refine .foreign own ?_
        exact (foreign_applyCommand own (fun same => own (alone _ same)) verify body).bind
          fun _ => trivial
  | _ => exact .quiet (quiet_method verify fun body same => by cases same)

end Staged

section Runs

variable {Instance Ticket : Type} [DecidableEq Instance] {config : Instance → Config}
  {verify : Json → Bool} {start : Shared Instance} {self : Instance}

/-- What the store has performed for a call whose next step is to keep the lease. -/
def pendingOf (self : Instance) :
    Option (Progress (Call Instance) Result (@Response Instance)) → Option Change
  | some ⟨⟨caller, .applyCommand body⟩, some (.ask (.setLease _ lease) _)⟩ =>
      if caller = self then
        (commandShapeError body).toOption.map fun command => ⟨command.fenceEpoch, lease⟩
      else none
  | _ => none

theorem pendingOf_of_foreign {call : Call Instance} (differs : call.self ≠ self)
    (rest : Option (Program Instance Result)) : pendingOf self (some ⟨call, rest⟩) = none := by
  unfold pendingOf
  split
  · next same =>
      cases same
      exact if_neg differs
  · rfl

theorem pendingOf_of_quiet {call : Call Instance} {p : Program Instance Result} (quiet : Quiet p) :
    pendingOf self (some ⟨call, some p⟩) = none := by
  unfold pendingOf
  split
  · next same =>
      cases same
      exact quiet.1.elim
  · rfl

theorem pendingOf_of_ready {call : Call Instance} {fenceEpoch : Int} {p : Program Instance Result}
    {config : Config} (ready : Ready config self fenceEpoch p) :
    pendingOf self (some ⟨call, some p⟩) = none := by
  unfold pendingOf
  split
  · next same =>
      cases same
      exact ready.elim
  · rfl

theorem pendingOf_of_still {call : Call Instance} {p : Program Instance Result}
    (still : Still config self call p) : pendingOf self (some ⟨call, some p⟩) = none := by
  cases still with
  | foreign differs _ => exact pendingOf_of_foreign differs _
  | quiet quiet => exact pendingOf_of_quiet quiet
  | ready _ ready => exact pendingOf_of_ready ready

theorem pendingOf_of_keeps {body : Json} {command : Command} {lease : Option Command}
    {p : Program Instance Result} (shaped : commandShapeError body = .ok command)
    (keeps : Keeps self lease p) :
    pendingOf self (some ⟨⟨self, .applyCommand body⟩, some p⟩) =
      some ⟨command.fenceEpoch, lease⟩ := by
  unfold Keeps at keeps
  split at keeps
  · obtain ⟨_, isKept, _⟩ := keeps
    rw [pendingOf, if_pos rfl, shaped, isKept]
    rfl
  · exact keeps.elim

section Served

variable {Owner : Type} {pending : Owner → Option Change} {s : Shared Instance} {choice : Choice}
  {node : Config}

omit [DecidableEq Instance] in
theorem Consistent.settle
    (consistent : Consistent node s.fence (s.lease self) pending) :
    Consistent node (s.settle choice).fence ((s.settle choice).lease self) pending := by
  unfold Shared.settle
  split
  · exact consistent.lapse
  · exact consistent

theorem Consistent.read {request : Request Instance} (reads : request.Reads) {ticket : Ticket}
    (consistent : Consistent node s.fence (s.lease self) pending) :
    Consistent node (serve choice ticket s request).2.fence
      ((serve choice ticket s request).2.lease self) pending := by
  cases request with
  | now => exact consistent
  | lease _ => exact consistent
  | current => exact consistent.settle
  | setLease _ _ => exact reads.elim
  | claim _ => exact reads.elim
  | release _ _ _ => exact reads.elim

omit [DecidableEq Instance] in
/-- A change is performed, or the store is only settled. -/
theorem perform_cases (s : Shared Instance) (choice : Choice)
    (change : Fence → Option Fence) :
    (∃ fence, change (s.settle choice).fence = some fence ∧
        s.perform choice change = (answered choice true, { s with fence := fence })) ∨
      s.perform choice change = (answered choice false, s.settle choice) := by
  unfold Shared.perform
  split
  · next fence performed =>
      split at performed
      · cases performed
      · exact .inl ⟨fence, performed, rfl⟩
  · exact .inr rfl

omit [DecidableEq Instance] in
/-- The answer says which, unless it is lost. -/
theorem perform_kept (kept : choice.lost = false) (change : Fence → Option Fence) :
    (∃ fence, change (s.settle choice).fence = some fence ∧
        s.perform choice change = (some true, { s with fence := fence })) ∨
      s.perform choice change = (some false, s.settle choice) := by
  have heard (answer : Bool) : answered choice answer = some answer := by
    unfold answered
    rw [kept]
    rfl
  have cases := perform_cases s choice change
  rwa [heard, heard] at cases

omit [DecidableEq Instance] in
theorem lease_settle : (s.settle choice).lease = s.lease := by
  unfold Shared.settle
  split <;> rfl

omit [DecidableEq Instance] in
theorem Consistent.perform {change : Fence → Option Fence}
    (consistent : Consistent node s.fence (s.lease self) pending)
    (changes : ∀ fence changed, Consistent node fence (s.lease self) pending →
      change fence = some changed → Consistent node changed (s.lease self) pending) :
    Consistent node (s.perform choice change).2.fence ((s.perform choice change).2.lease self)
      pending := by
  have settled : Consistent node (s.settle choice).fence ((s.settle choice).lease self) pending :=
    consistent.settle
  rcases perform_cases s choice change with ⟨fence, changed, performed⟩ | refused
  · rw [performed]
    rw [lease_settle] at settled
    exact changes _ _ settled changed
  · rw [refused]
    exact settled

theorem Consistent.foreignRequest {request : Request Instance}
    (isForeign : request.Foreign node self)
    {ticket : Ticket} (consistent : Consistent node s.fence (s.lease self) pending) :
    Consistent node (serve choice ticket s request).2.fence
      ((serve choice ticket s request).2.lease self) pending := by
  cases request with
  | now => exact consistent
  | lease _ => exact consistent
  | current => exact consistent.settle
  | setLease other lease =>
      change Consistent node s.fence (Function.update s.lease other lease self) pending
      rw [Function.update_of_ne (Ne.symm isForeign)]
      exact consistent
  | claim holder =>
      exact consistent.perform fun _ _ holds claimed => holds.foreign claimed isForeign
  | release _ _ _ =>
      refine consistent.perform fun fence changed holds released => ?_
      rw [(release_eq_some released).1]
      exact holds.lapse

end Served

variable [DecidableEq Ticket]

/-- The calls of the controller are not cut off, the store throws for none of them, and of
those that have a change to take over the first goes on first. -/
def InOrder (self : Instance) (world : Cluster Ticket Instance) :
    Event Ticket (Call Instance) Choice → Prop
  | .start _ _ => True
  | .serve ticket choice => ∀ call, world.callOf ticket = some call → call.self = self →
      choice.lost = false ∧
        ∀ change, pendingOf self (world.progress ticket) = some change →
          ∀ other change', other ≠ ticket →
            pendingOf self (world.progress other) = some change' → change.Before change'
  | .crash ticket => ∀ call, world.callOf ticket = some call → call.self ≠ self

structure LeaseInv (config : Instance → Config) (caller : Instance)
    (world : Cluster Ticket Instance) : Prop where
  staged : ∀ ticket call p, world.progress ticket = some ⟨call, some p⟩ →
    Staged config caller call p
  consistent : Consistent (config caller) world.shared.fence (world.shared.lease caller)
    fun ticket => pendingOf caller (world.progress ticket)

variable {world : Cluster Ticket Instance}

theorem LeaseInv.put (inv : LeaseInv config self world) {ticket : Ticket} {call : Call Instance}
    {rest : Option (Program Instance Result)} {shared : Shared Instance}
    (staged : ∀ p, rest = some p → Staged config self call p)
    (consistent : Consistent (config self) shared.fence (shared.lease self)
      (Function.update (fun ticket => pendingOf self (world.progress ticket)) ticket
        (pendingOf self (some ⟨call, rest⟩)))) :
    LeaseInv config self (world.put ticket ⟨call, rest⟩ shared) where
  staged other call' p isRunning := by
    by_cases own : other = ticket
    · rw [own, World.progress_put] at isRunning
      cases isRunning
      exact staged p rfl
    · rw [World.progress_put_of_ne _ own] at isRunning
      exact inv.staged other call' p isRunning
  consistent := by
    have same : (fun other =>
          pendingOf self ((world.put ticket ⟨call, rest⟩ shared).progress other)) =
        Function.update (fun other => pendingOf self (world.progress other)) ticket
          (pendingOf self (some ⟨call, rest⟩)) := by
      funext other
      by_cases own : other = ticket
      · rw [own, World.progress_put, Function.update_self]
      · rw [World.progress_put_of_ne _ own, Function.update_of_ne own]
    rw [same]
    exact consistent

/-- A step of a call that takes nothing over. -/
theorem LeaseInv.put_still (inv : LeaseInv config self world) {ticket : Ticket}
    {call : Call Instance} {p : Program Instance Result} {shared : Shared Instance}
    (before : pendingOf self (world.progress ticket) = none) (still : Still config self call p)
    (consistent : Consistent (config self) shared.fence (shared.lease self)
      fun ticket => pendingOf self (world.progress ticket)) :
    LeaseInv config self (world.put ticket ⟨call, some p⟩ shared) := by
  refine inv.put (fun q same => ?_) ?_
  · cases same
    exact .still still
  · rw [pendingOf_of_still still, ← before, Function.update_eq_self]
    exact consistent

theorem LeaseInv.serve_ready (inv : LeaseInv config self world) {ticket : Ticket} {body : Json}
    {command : Command} {request : Request Instance}
    {next : Response request → Program Instance Result} (choice : Choice)
    (isRunning : world.progress ticket =
      some ⟨⟨self, .applyCommand body⟩, some (.ask request next)⟩)
    (shaped : commandShapeError body = .ok command)
    (ready : Ready (config self) self command.fenceEpoch (.ask request next))
    (kept : choice.lost = false) :
    LeaseInv config self (world.put ticket
      ⟨⟨self, .applyCommand body⟩, some (next (serve choice ticket world.shared request).1)⟩
      (serve choice ticket world.shared request).2) := by
  have before : pendingOf self (world.progress ticket) = none := by
    rw [isRunning]
    exact pendingOf_of_ready ready
  have settled : Consistent (config self) (world.shared.settle choice).fence
      ((world.shared.settle choice).lease self) fun ticket =>
        pendingOf self (world.progress ticket) :=
    inv.consistent.settle
  have settledLease : (world.shared.settle choice).lease = world.shared.lease := lease_settle
  have quietly {p : Program Instance Result} {shared : Shared Instance} (quiet : Quiet p)
      (consistent : Consistent (config self) shared.fence (shared.lease self)
        fun ticket => pendingOf self (world.progress ticket)) :
      LeaseInv config self (world.put ticket ⟨⟨self, .applyCommand body⟩, some p⟩ shared) :=
    inv.put_still before (.quiet quiet) consistent
  have readily {p : Program Instance Result} {shared : Shared Instance}
      (ready : Ready (config self) self command.fenceEpoch p)
      (consistent : Consistent (config self) shared.fence (shared.lease self)
        fun ticket => pendingOf self (world.progress ticket)) :
      LeaseInv config self (world.put ticket ⟨⟨self, .applyCommand body⟩, some p⟩ shared) :=
    inv.put_still before (.ready shaped ready) consistent
  cases request with
  | now => exact readily (ready _) inv.consistent
  | lease _ => exact readily (ready _) inv.consistent
  | current => exact readily (ready _) settled
  | setLease _ _ => exact ready.elim
  | claim holder =>
      obtain ⟨⟨claimed, isNode, isEpoch, isHolder, keeps⟩, quiet⟩ := ready
      rcases perform_kept (s := world.shared) kept fun fence => fence.claim holder with
        ⟨fence, changed, performed⟩ | refused
      · have served : serve choice ticket world.shared (.claim holder) =
            (some true, { world.shared with fence := fence }) := performed
        rw [served]
        refine inv.put (fun q same => by cases same; exact .keeps shaped keeps) ?_
        rw [pendingOf_of_keeps shaped keeps, ← isEpoch]
        rw [isHolder] at changed
        rw [settledLease] at settled
        exact settled.claim isNode changed
      · have served : serve choice ticket world.shared (.claim holder) =
            (some false, world.shared.settle choice) := refused
        rw [served]
        exact quietly quiet settled
  | release nodeId released commandId =>
      obtain ⟨isEpoch, keeps, quiet⟩ := ready
      rcases perform_kept (s := world.shared) kept
        fun fence => fence.release nodeId released commandId with
        ⟨fence, changed, performed⟩ | refused
      · have served : serve choice ticket world.shared (.release nodeId released commandId) =
            (some true, { world.shared with fence := fence }) := performed
        rw [served]
        refine inv.put (fun q same => by cases same; exact .keeps shaped keeps) ?_
        rw [pendingOf_of_keeps shaped keeps, ← isEpoch]
        rw [settledLease] at settled
        exact settled.release changed
      · have served : serve choice ticket world.shared (.release nodeId released commandId) =
            (some false, world.shared.settle choice) := refused
        rw [served]
        exact quietly quiet settled

/-- The step that keeps the lease. -/
theorem LeaseInv.serve_keeps (inv : LeaseInv config self world) {ticket : Ticket} {body : Json}
    {command : Command} {lease : Option Command} {request : Request Instance}
    {next : Response request → Program Instance Result} (choice : Choice)
    (isRunning : world.progress ticket =
      some ⟨⟨self, .applyCommand body⟩, some (.ask request next)⟩)
    (shaped : commandShapeError body = .ok command) (keeps : Keeps self lease (.ask request next))
    (first : ∀ change, pendingOf self (world.progress ticket) = some change →
      ∀ other change', other ≠ ticket →
        pendingOf self (world.progress other) = some change' → change.Before change') :
    LeaseInv config self (world.put ticket
      ⟨⟨self, .applyCommand body⟩, some (next (serve choice ticket world.shared request).1)⟩
      (serve choice ticket world.shared request).2) := by
  have isPending : pendingOf self (world.progress ticket) = some ⟨command.fenceEpoch, lease⟩ := by
    rw [isRunning]
    exact pendingOf_of_keeps shaped keeps
  cases request with
  | setLease other kept =>
      obtain ⟨isSelf, isKept, quiet⟩ := keeps
      refine inv.put (fun q same => by cases same; exact .still (.quiet (quiet _))) ?_
      rw [pendingOf_of_quiet (quiet _)]
      have taken : (serve choice ticket world.shared (.setLease other kept)).2.lease self =
          lease := by
        rw [isSelf, isKept]
        exact Function.update_self ..
      rw [taken]
      exact inv.consistent.keep isPending (first _ isPending)
  | _ => exact keeps.elim

theorem LeaseInv.serve (inv : LeaseInv config self world) {ticket : Ticket} {call : Call Instance}
    {request : Request Instance} {next : Response request → Program Instance Result}
    {choice : Choice} (isRunning : world.progress ticket = some ⟨call, some (.ask request next)⟩)
    (inOrder : InOrder self world (.serve ticket choice)) :
    LeaseInv config self (world.put ticket
      ⟨call, some (next (Controller.serve choice ticket world.shared request).1)⟩
      (Controller.serve choice ticket world.shared request).2) := by
  have isCall : world.callOf ticket = some call := by
    rw [World.callOf, isRunning]
    rfl
  have before {call : Call Instance} {p : Program Instance Result}
      (still : Still config self call p)
      (same : world.progress ticket = some ⟨call, some p⟩) :
      pendingOf self (world.progress ticket) = none := same ▸ pendingOf_of_still still
  cases inv.staged ticket call _ isRunning with
  | still still =>
      cases still with
      | foreign differs isForeign =>
          exact inv.put_still (before (.foreign differs isForeign) isRunning)
            (.foreign differs (isForeign.2 _)) (inv.consistent.foreignRequest isForeign.1)
      | quiet quiet =>
          exact inv.put_still (before (.quiet quiet) isRunning) (.quiet (quiet.2 _))
            (inv.consistent.read quiet.1)
      | ready shaped ready =>
          exact inv.serve_ready choice isRunning shaped ready (inOrder _ isCall rfl).1
  | keeps shaped keeps =>
      exact inv.serve_keeps choice isRunning shaped keeps (inOrder _ isCall rfl).2

theorem LeaseInv.step
    (alone : ∀ other, (config other).nodeId = (config self).nodeId → other = self)
    (inv : LeaseInv config self world) {event : Event Ticket (Call Instance) Choice}
    (inOrder : InOrder self world event) {t : Cluster Ticket Instance}
    (next : world.step Controller.serve (program config verify) event = some t) :
    LeaseInv config self t := by
  cases event with
  | start ticket call =>
      unfold Calls.World.step at next
      dsimp only at next
      split at next
      · next isFresh =>
          cases next
          refine inv.put_still ?_ (still_program alone verify call) inv.consistent
          rw [isFresh]
          rfl
      · cases next
  | serve ticket choice =>
      unfold Calls.World.step at next
      dsimp only at next
      split at next
      · next call request rest isRunning =>
          cases next
          exact inv.serve isRunning inOrder
      · cases next
  | crash ticket =>
      unfold Calls.World.step at next
      dsimp only at next
      split at next
      · next progress isKnown =>
          cases next
          have differs : progress.call.self ≠ self := by
            apply inOrder
            rw [World.callOf, isKnown]
            rfl
          have before : pendingOf self (world.progress ticket) = none := by
            rw [isKnown]
            exact pendingOf_of_foreign differs _
          refine inv.put (fun q same => by cases same) ?_
          rw [pendingOf_of_foreign differs, ← before, Function.update_eq_self]
          exact inv.consistent
      · cases next

/-- Every call of the controller has returned. -/
def Over (self : Instance) (world : Cluster Ticket Instance) : Prop :=
  ∀ ticket call rest, world.progress ticket = some ⟨call, rest⟩ → call.self = self →
    ∃ result, rest = some (.done result)

omit [DecidableEq Ticket] in
theorem pendingOf_of_over (returned : Over self world) (ticket : Ticket) :
    pendingOf self (world.progress ticket) = none := by
  cases known : world.progress ticket with
  | none => rfl
  | some progress =>
      obtain ⟨call, rest⟩ := progress
      by_cases own : call.self = self
      · obtain ⟨result, isDone⟩ := returned ticket call rest known own
        rw [isDone]
        exact pendingOf_of_quiet trivial
      · exact pendingOf_of_foreign own _

variable (Ticket) in
/-- Whatever the clock and the store do, an assertion that runs now is refused. -/
def Unwritable (config : Config) (self : Instance) (s : Shared Instance) : Prop :=
  ∀ (choices : Nat → Choice) (ticket : Ticket) minRemainingMs fenceEpoch,
    ((assertWritable config self minRemainingMs).run
      (fun count s request => Controller.serve (choices count) ticket s request) 0 s).1 ≠
        .ok fenceEpoch

def HeldBy (node : Config) (fence : Fence) : Prop :=
  ∃ holder, fence.current = some (holder, true) ∧ holder.nodeId = node.nodeId

omit [DecidableEq Instance] in
theorem compare_of_unheld {node : Config} {s : Shared Instance} (unheld : ¬ HeldBy node s.fence)
    (lease : Command) (choice : Choice) :
    (compareLease node lease (answered choice (s.settle choice).fence.current) :
      Program Instance Assertion) = .done notWritable := by
  unfold compareLease
  split
  · next current isRead =>
      apply if_neg
      intro isRecord
      obtain ⟨holder, active⟩ := current
      simp only [records, Bool.and_eq_true, decide_eq_true_eq] at isRecord
      obtain ⟨⟨⟨⟨isActive, isNode⟩, _⟩, _⟩, _⟩ := isRecord
      rw [isActive] at isRead
      exact unheld ⟨holder, Shared.current_of_settle (answered_eq_some isRead), isNode⟩
  · rfl

omit [DecidableEq Ticket] in
theorem unwritable_of_unheld {node : Config} {s : Shared Instance}
    (unheld : ¬ HeldBy node s.fence) : Unwritable Ticket node self s := by
  intro choices ticket minRemainingMs fenceEpoch
  have refused (count : Nat) : ((Script.done notWritable : Program Instance Assertion).run
      (fun count s request => Controller.serve (choices count) ticket s request) count s).1 ≠
        .ok fenceEpoch := by
    intro same
    cases same
  change ((if isSafeInteger minRemainingMs = false ∨ minRemainingMs < 0 then .done notWritable
    else assertLease node minRemainingMs (s.lease self) : Program Instance Assertion).run
      (fun count s request => Controller.serve (choices count) ticket s request) 1 s).1 ≠ _
  split
  · exact refused 1
  · cases s.lease self with
    | none => exact refused 1
    | some lease =>
        change ((if lease.expiresAt - (choices 1).clock < minRemainingMs then .done notWritable
          else .ask .current fun current => compareLease node lease current :
            Program Instance Assertion).run
          (fun count s request => Controller.serve (choices count) ticket s request) 2 s).1 ≠ _
        split
        · exact refused 2
        · change ((compareLease node lease (answered (choices 2)
            (s.settle (choices 2)).fence.current) : Program Instance Assertion).run _ 3 _).1 ≠ _
          rw [compare_of_unheld unheld]
          intro same
          cases same

end Runs

def returned : Option (Progress (Call Bool) Result (@Response Bool)) → Bool
  | some ⟨_, some (.done _)⟩ => true
  | _ => false

def sampleRun (events : Events Nat Bool) : Option (Cluster Nat Bool) :=
  events.foldlM (Calls.World.step serve (program sampleConfig fun _ => true)) ⟨idle, fun _ => none⟩

abbrev sampleControllers : System (Cluster Nat Bool) (Event Nat (Call Bool) Choice) :=
  controllers sampleConfig (fun _ => true) idle

theorem run_of_sampleRun {events : Events Nat Bool} {world : Cluster Nat Bool}
    (found : sampleRun events = some world) : sampleControllers.Run events world := by
  have begins : sampleControllers.initial ⟨idle, fun _ => none⟩ := ⟨rfl, fun _ => rfl⟩
  have run : sampleControllers.Run ([] ++ events) world :=
    System.Run.fold (fun _ _ _ next => next) (.start begins) found
  exact run

theorem over_of_returned {events : Events Nat Bool} {world : Cluster Nat Bool}
    (run : sampleControllers.Run events world)
    (all : ∀ ticket call, .start ticket call ∈ events →
      returned (world.progress ticket) = true) : Over true world := by
  intro ticket call rest known _
  have isReturned := all ticket call (start_of_progress run known)
  rw [known] at isReturned
  unfold returned at isReturned
  split at isReturned
  · next same =>
      cases same
      exact ⟨_, rfl⟩
  · cases isReturned

/-- One claim, to its end. -/
def claimedAlone : Events Nat Bool :=
  .start 0 ⟨true, .applyCommand (sampleBody 1)⟩ :: List.replicate 13 (.serve 0 calm)

def heldEpoch (world : Cluster Nat Bool) : Option (Text × Int × Bool) :=
  world.shared.fence.current.map fun current =>
    (current.1.nodeId, current.1.fenceEpoch, current.2)

def leaseEpoch (world : Cluster Nat Bool) : Option Int :=
  (world.shared.lease true).map (·.fenceEpoch)

theorem inOrder_claimedAlone : sampleControllers.Guarded (InOrder true) claimedAlone := by
  intro front event rest world split run
  have members (event : Event Nat (Call Bool) Choice) (member : event ∈ claimedAlone) :
      event = .start 0 ⟨true, .applyCommand (sampleBody 1)⟩ ∨ event = .serve 0 calm := by
    rcases List.mem_cons.mp member with isStart | isServe
    · exact .inl isStart
    · exact .inr (List.eq_of_mem_replicate isServe)
  have isMember : event ∈ claimedAlone := by
    rw [split]
    exact List.mem_append_right _ List.mem_cons_self
  rcases members event isMember with isStart | isServe
  · rw [isStart]
    trivial
  · rw [isServe]
    refine fun call _ _ => ⟨rfl, fun change _ other change' differs isPending => ?_⟩
    cases known : world.progress other with
    | none =>
        rw [known] at isPending
        cases isPending
    | some progress =>
        have started := start_of_progress run known
        have isEvent : .start other progress.call ∈ claimedAlone := by
          rw [split]
          exact List.mem_append_left _ started
        rcases members _ isEvent with same | same
        · injection same with isTicket
          exact absurd isTicket differs
        · cases same

/-- Two claims that the store takes in order and whose calls go on in the other order. -/
def crossed : Events Nat Bool :=
  [.start 0 ⟨true, .applyCommand (sampleBody 1)⟩, .start 1 ⟨true, .applyCommand (sampleBody 2)⟩,
      .serve 0 calm, .serve 0 calm, .serve 1 calm, .serve 1 calm] ++
    List.replicate 11 (.serve 1 calm) ++ List.replicate 9 (.serve 0 calm)

def isSampleEvent : Event Nat (Call Bool) Choice → Bool
  | .start ticket _ => ticket = 0 || ticket = 1
  | .serve _ choice => !choice.lost
  | .crash _ => false

end SelfConnect.Ultra.Controller
