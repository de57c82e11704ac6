import SelfConnect.Ownership.Lock

namespace SelfConnect.Ownership

open SelfConnect.Python SelfConnect.Library SelfConnect.Ledger

/-! Every lock that is held stands for an identity that is held. -/

def Phase.remaining : Phase → List Text
  | .closing _ remaining => remaining
  | _ => []

structure Holds (table : LockTable Text Nat) (owner : Nat) (lock : OwnershipLock) : Prop where
  matched : lock.held.map lockFile = lock.locks.map some
  owned : ∀ file ∈ lock.locks ++ lock.phase.remaining, table file = some owner
  nodup : (lock.locks ++ lock.phase.remaining).Nodup

/-- What a step does to the locks. -/
inductive Move (owner : Nat) (table : LockTable Text Nat) (lock : OwnershipLock) :
    LockTable Text Nat → OwnershipLock → Prop
  | kept {after : OwnershipLock} (locks : after.locks = lock.locks) (held : after.held = lock.held)
      (remaining : after.phase.remaining = lock.phase.remaining) : Move owner table lock table after
  | closed (failed : Bool) (none : lock.phase.remaining = []) :
      Move owner table lock table (lock.close failed)
  | acquired {table' : LockTable Text Nat} {after : OwnershipLock} {identity : Str} {file : Text}
      (isFile : lockFile identity = some file) (taken : table.acquire file owner = some table')
      (locks : after.locks = lock.locks ++ [file]) (held : after.held = lock.held ++ [identity])
      (none : lock.phase.remaining = []) (none' : after.phase.remaining = []) :
      Move owner table lock table' after
  | released {after : OwnershipLock} {file : Text} {rest : List Text}
      (locks : after.locks = lock.locks) (held : after.held = lock.held)
      (remaining : lock.phase.remaining = file :: rest)
      (remaining' : after.phase.remaining = rest) :
      Move owner table lock (table.release file) after

section Steps

variable {casefold : Str → Str} {fs : FileSystem} {owner : Nat} {fails : Bool}
  {table table' : LockTable Text Nat} {lock after : OwnershipLock}

theorem of_attempt {α : Type} {result : Option α} {a : α}
    (found : attempt fails result = some a) : result = some a := by
  cases fails with
  | true => cases found
  | false => exact found

theorem move_raise (none : lock.phase.remaining = []) (purpose : Purpose) :
    Move owner table lock table (lock.raise purpose) := by
  cases purpose with
  | constructing => exact .closed true none
  | binding => exact .kept rfl rfl none.symm

theorem move_step (stepped : lock.step casefold fs table owner fails = some (table', after)) :
    Move owner table lock table' after := by
  unfold OwnershipLock.step at stepped
  split at stepped
  · next purpose isPhase =>
      have none : lock.phase.remaining = [] := by rw [isPhase]; rfl
      split at stepped <;> cases stepped
      · exact move_raise none purpose
      · exact .kept rfl rfl none.symm
  · next purpose ledger isPhase =>
      have none : lock.phase.remaining = [] := by rw [isPhase]; rfl
      split at stepped
      · cases stepped
        exact move_raise none purpose
      · split at stepped <;> cases stepped
        · exact .kept rfl rfl none.symm
        · exact move_raise none purpose
  · next isPhase =>
      cases stepped
      exact .kept rfl rfl (by rw [isPhase]; rfl)
  · next isPhase =>
      cases stepped
      exact .kept rfl rfl (by rw [isPhase]; rfl)
  · next purpose sets identity rest isPhase =>
      have none : lock.phase.remaining = [] := by rw [isPhase]; rfl
      split at stepped
      · cases stepped
        exact move_raise none purpose
      · next file isFile =>
          have named : lockFile identity = some file := of_attempt isFile
          split at stepped
          · cases stepped
            exact move_raise none purpose
          · next taken =>
              cases stepped
              exact .acquired named taken rfl rfl none rfl
  · next isPhase =>
      have none : lock.phase.remaining = [] := by rw [isPhase]; rfl
      split at stepped <;> cases stepped
      · exact move_raise none .binding
      · exact .kept rfl rfl none.symm
  · next isPhase =>
      have none : lock.phase.remaining = [] := by rw [isPhase]; rfl
      split at stepped
      · cases stepped
        exact move_raise none .binding
      · split at stepped <;> cases stepped
        · exact .kept rfl rfl none.symm
        · exact move_raise none .binding
  · next isPhase =>
      cases stepped
      exact .released rfl rfl (by rw [isPhase]; rfl) rfl
  · next failed isPhase =>
      cases stepped
      refine .kept rfl rfl ?_
      rw [isPhase]
      cases failed <;> rfl
  · cases stepped
  · cases stepped
  · cases stepped

theorem keepsOthers_of_move (holds : Holds table owner lock)
    (move : Move owner table lock table' after) :
    LockTable.KeepsOthers owner table table' := by
  cases move with
  | kept locks held remaining => exact .refl owner table
  | closed failed none => exact .refl owner table
  | acquired isFile taken locks held none none' => exact LockTable.keepsOthers_acquire taken
  | released locks held remaining remaining' =>
      refine LockTable.keepsOthers_release (holds.owned _ ?_)
      rw [remaining]
      exact List.mem_append_right _ List.mem_cons_self

theorem holds_of_move (holds : Holds table owner lock)
    (move : Move owner table lock table' after) : Holds table' owner after := by
  obtain ⟨matched, owned, nodup⟩ := holds
  cases move with
  | kept locks held remaining =>
      refine ⟨?_, ?_, ?_⟩
      · rw [held, locks, matched]
      · rw [locks, remaining]
        exact owned
      · rw [locks, remaining]
        exact nodup
  | closed failed none =>
      rw [none, List.append_nil] at owned nodup
      refine ⟨rfl, ?_, ?_⟩
      · intro file member
        exact owned file (List.mem_reverse.mp member)
      · exact List.nodup_reverse.mpr nodup
  | @acquired table' after identity file isFile taken locks held none none' =>
      rw [none, List.append_nil] at owned nodup
      obtain ⟨free, isTable⟩ := LockTable.acquire_eq_some.mp taken
      refine ⟨?_, ?_, ?_⟩
      · rw [held, locks, List.map_append, List.map_append, matched, List.map_singleton,
          List.map_singleton, isFile]
      · rw [locks, none', List.append_nil, isTable]
        intro other member
        rcases List.mem_append.mp member with before | new
        · have differs : other ≠ file := by
            intro same
            have isOwned := owned other before
            rw [same, free] at isOwned
            cases isOwned
          rw [Function.update_of_ne differs]
          exact owned other before
        · rw [List.mem_singleton.mp new, Function.update_self]
      · rw [locks, none', List.append_nil]
        refine List.nodup_append.mpr ⟨nodup, List.nodup_singleton _, ?_⟩
        intro other before new isNew same
        rw [List.mem_singleton.mp isNew] at same
        have isOwned := owned other before
        rw [same, free] at isOwned
        cases isOwned
  | @released after file rest locks held remaining remaining' =>
      rw [remaining] at owned nodup
      have fresh : file ∉ lock.locks ++ rest := by
        have swapped := (@List.perm_middle _ file lock.locks rest).nodup_iff.mp nodup
        exact (List.nodup_cons.mp swapped).1
      refine ⟨?_, ?_, ?_⟩
      · rw [held, locks, matched]
      · rw [locks, remaining']
        intro other member
        have differs : other ≠ file := by
          intro same
          exact fresh (same ▸ member)
        rw [LockTable.release, Function.update_of_ne differs]
        refine owned other ?_
        rcases List.mem_append.mp member with inLocks | inRest
        · exact List.mem_append_left _ inLocks
        · exact List.mem_append_right _ (List.mem_cons_of_mem _ inRest)
      · rw [locks, remaining']
        exact nodup.sublist ((List.sublist_cons_self file rest).append_left _)

end Steps

/-! A lock that is bound holds the identities of its files. -/

/-- The path leads to a file whose identity is among these. -/
def HasFile (fs : FileSystem) (path : Str) (identities : List Str) : Prop :=
  ∃ file, fs.fileOf path = some file ∧ fileIdentity file ∈ identities

/-- What a binding that was begun after both files were created has come to. -/
def Progress (fs : FileSystem) (lock : OwnershipLock) : Phase → Prop
  | .readLedger .binding => ∀ path ∈ lock.resources, (fs.fileOf path).isSome = true
  | .readApproval .binding ledger =>
      HasFile fs lock.ledgerPath ledger ∧ (fs.fileOf lock.approvalPath).isSome = true
  | .acquiring .binding sets pending =>
      HasFile fs lock.ledgerPath sets.1 ∧ HasFile fs lock.approvalPath sets.2 ∧
        ∀ identity ∈ sets.1 ++ sets.2, identity ∈ lock.held ∨ identity ∈ pending
  | .rereadLedger sets | .rereadApproval sets _ =>
      HasFile fs lock.ledgerPath sets.1 ∧ HasFile fs lock.approvalPath sets.2 ∧
        ∀ identity ∈ sets.1 ++ sets.2, identity ∈ lock.held
  | _ => True

structure Bound (fs : FileSystem) (lock : OwnershipLock) : Prop where
  progress : Progress fs lock lock.phase
  covered : lock.bound = true →
    HasFile fs lock.ledgerPath lock.held ∧ HasFile fs lock.approvalPath lock.held

section Binding

variable {casefold : Str → Str} {fs fs' : FileSystem} {owner : Nat} {fails : Bool}
  {table table' : LockTable Text Nat} {lock after : OwnershipLock} {path : Str}
  {identities : List Str}

theorem fileOf_of_grows (grows : fs.Grows fs') {file : FileId}
    (isFile : fs.fileOf path = some file) : fs'.fileOf path = some file := by
  obtain ⟨place, isPlace, isThere⟩ := Option.bind_eq_some_iff.mp isFile
  rw [FileSystem.fileOf, grows.paths path place file isPlace isThere]
  exact grows.files place file isThere

theorem HasFile.grow (grows : fs.Grows fs') (hasFile : HasFile fs path identities) :
    HasFile fs' path identities := by
  obtain ⟨file, isFile, member⟩ := hasFile
  exact ⟨file, fileOf_of_grows grows isFile, member⟩

theorem HasFile.mono {more : List Str} (hasFile : HasFile fs path identities)
    (grows : ∀ identity ∈ identities, identity ∈ more) : HasFile fs path more := by
  obtain ⟨file, isFile, member⟩ := hasFile
  exact ⟨file, isFile, grows _ member⟩

theorem hasFile_of_resourceIdentities (isSome : (fs.fileOf path).isSome = true)
    (found : resourceIdentities casefold fs path = some identities) :
    HasFile fs path identities := by
  obtain ⟨file, isFile⟩ := Option.isSome_iff_exists.mp isSome
  obtain ⟨place, isPlace, isThere⟩ := Option.bind_eq_some_iff.mp isFile
  refine ⟨file, isFile, ?_⟩
  rw [resourceIdentities, isPlace, Option.map_some, Option.some.injEq, isThere] at found
  rw [← found]
  exact List.mem_cons_of_mem _ List.mem_cons_self

theorem isSome_of_grows (grows : fs.Grows fs') (isSome : (fs.fileOf path).isSome = true) :
    (fs'.fileOf path).isSome = true := by
  obtain ⟨file, isFile⟩ := Option.isSome_iff_exists.mp isSome
  rw [fileOf_of_grows grows isFile]
  rfl

theorem Bound.grow (bound : Bound fs lock) (grows : fs.Grows fs') : Bound fs' lock where
  progress := by
    have progress := bound.progress
    unfold Progress at progress ⊢
    split at progress
    · exact fun path member => isSome_of_grows grows (progress path member)
    · exact ⟨progress.1.grow grows, isSome_of_grows grows progress.2⟩
    · exact ⟨progress.1.grow grows, progress.2.1.grow grows, progress.2.2⟩
    · exact ⟨progress.1.grow grows, progress.2.1.grow grows, progress.2.2⟩
    · exact ⟨progress.1.grow grows, progress.2.1.grow grows, progress.2.2⟩
    · trivial
  covered isBound := by
    obtain ⟨ledger, approval⟩ := bound.covered isBound
    exact ⟨ledger.grow grows, approval.grow grows⟩

/-- A call that raised has nothing more to come to. -/
theorem bound_raise (bound : Bound fs lock) (purpose : Purpose) : Bound fs (lock.raise purpose) := by
  cases purpose with
  | constructing => exact ⟨trivial, fun isBound => by cases isBound⟩
  | binding => exact ⟨trivial, bound.covered⟩

theorem mem_toAcquire {identity : Str} (member : identity ∈ identities) :
    identity ∈ lock.held ∨ identity ∈ lock.toAcquire identities := by
  by_cases isHeld : identity ∈ lock.held
  · exact .inl isHeld
  · refine .inr ((List.perm_insertionSort _ _).mem_iff.mpr (List.mem_filter.mpr ⟨member, ?_⟩))
    rw [Bool.not_eq_true', ← Bool.not_eq_true, List.contains_iff_mem]
    exact isHeld

theorem bound_step (bound : Bound fs lock)
    (stepped : lock.step casefold fs table owner fails = some (table', after)) :
    Bound fs after := by
  obtain ⟨progress, covered⟩ := bound
  have raised := bound_raise ⟨progress, covered⟩
  unfold OwnershipLock.step at stepped
  split at stepped
  · next purpose isPhase =>
      rw [isPhase] at progress
      split at stepped <;> cases stepped
      · exact raised purpose
      · next ledger isRead =>
          refine ⟨?_, covered⟩
          cases purpose with
          | constructing => trivial
          | binding => exact ⟨hasFile_of_resourceIdentities (progress _ List.mem_cons_self)
              (of_attempt isRead), progress _ (List.mem_cons_of_mem _ List.mem_cons_self)⟩
  · next purpose ledger isPhase =>
      rw [isPhase] at progress
      split at stepped
      · cases stepped
        exact raised purpose
      · next approval isRead =>
          split at stepped <;> cases stepped
          · refine ⟨?_, covered⟩
            cases purpose with
            | constructing => trivial
            | binding => exact ⟨progress.1, hasFile_of_resourceIdentities progress.2
                (of_attempt isRead), fun identity member => mem_toAcquire member⟩
          · exact raised purpose
  · cases stepped
    exact ⟨trivial, covered⟩
  · next sets isPhase =>
      rw [isPhase] at progress
      cases stepped
      refine ⟨⟨progress.1, progress.2.1, ?_⟩, covered⟩
      intro identity member
      exact (progress.2.2 identity member).resolve_right List.not_mem_nil
  · next purpose sets identity rest isPhase =>
      rw [isPhase] at progress
      split at stepped
      · cases stepped
        exact raised purpose
      · split at stepped <;> cases stepped
        · exact raised purpose
        · have grows : ∀ other ∈ lock.held, other ∈ lock.held ++ [identity] :=
            fun other member => List.mem_append_left _ member
          refine ⟨?_, ?_⟩
          · cases purpose with
            | constructing => trivial
            | binding =>
                refine ⟨progress.1, progress.2.1, ?_⟩
                intro other member
                rcases progress.2.2 other member with isHeld | isPending
                · exact .inl (grows other isHeld)
                · rcases List.mem_cons.mp isPending with isFirst | later
                  · exact .inl (List.mem_append_right _ (List.mem_singleton.mpr isFirst))
                  · exact .inr later
          · intro isBound
            obtain ⟨ledger, approval⟩ := covered isBound
            exact ⟨ledger.mono grows, approval.mono grows⟩
  · next sets isPhase =>
      rw [isPhase] at progress
      split at stepped <;> cases stepped
      · exact raised .binding
      · exact ⟨progress, covered⟩
  · next sets ledger isPhase =>
      rw [isPhase] at progress
      split at stepped
      · cases stepped
        exact raised .binding
      · split at stepped <;> cases stepped
        · refine ⟨trivial, ?_⟩
          intro _
          exact ⟨progress.1.mono fun identity member =>
              progress.2.2 identity (List.mem_append_left _ member),
            progress.2.1.mono fun identity member =>
              progress.2.2 identity (List.mem_append_right _ member)⟩
        · exact raised .binding
  · cases stepped
    exact ⟨trivial, covered⟩
  · next failed isPhase =>
      cases stepped
      refine ⟨?_, covered⟩
      cases failed <;> trivial
  · cases stepped
  · cases stepped
  · cases stepped

end Binding

/-! Whole runs. -/

section Runs

variable {casefold : Str → Str} {w after : World} {event : Event}

def Sound (w : World) : Prop := ∀ owner, Holds w.table owner (w.locks owner)

/-- An event of a lock moves that lock alone. -/
theorem act_spec (sound : Sound w) (acted : w.act casefold event = some after) :
    ∃ owner table lock, event.owner = some owner ∧ after = w.put owner table lock ∧
      Holds table owner lock ∧ LockTable.KeepsOthers owner w.table table := by
  unfold World.act at acted
  split at acted
  · cases acted
  · next owner ledgerPath approvalPath =>
      split at acted <;> cases acted
      refine ⟨owner, _, _, rfl, rfl, ⟨rfl, ?_, List.nodup_nil⟩, .refl _ _⟩
      intro file member
      cases member
  · next owner fails =>
      have holds := sound owner
      split at acted
      · next isPhase =>
          split at acted <;> cases acted
          · exact ⟨owner, w.table, w.locks owner, rfl, by
              rw [World.put, Function.update_eq_self], holds, .refl _ _⟩
          · refine ⟨owner, _, _, rfl, rfl, ?_, .refl _ _⟩
            exact holds_of_move holds (.kept rfl rfl (by rw [isPhase]; rfl))
      · cases acted
  · next owner fails =>
      obtain ⟨result, stepped, isAfter⟩ := Option.map_eq_some_iff.mp acted
      have move : Move owner w.table (w.locks owner) result.1 result.2 := move_step stepped
      exact ⟨owner, result.1, result.2, rfl, isAfter.symm, holds_of_move (sound owner) move,
        keepsOthers_of_move (sound owner) move⟩
  · next owner =>
      have holds := sound owner
      split at acted <;> cases acted
      next isPhase =>
        refine ⟨owner, _, _, rfl, rfl, ?_, .refl _ _⟩
        exact holds_of_move holds (.closed false (by rw [isPhase]; rfl))
  · next owner =>
      cases acted
      refine ⟨owner, _, _, rfl, rfl, ⟨rfl, ?_, List.nodup_nil⟩, LockTable.keepsOthers_releaseAll⟩
      intro file member
      cases member

theorem sound_put (sound : Sound w) {owner : Nat} {table : LockTable Text Nat}
    {lock : OwnershipLock} (holds : Holds table owner lock)
    (keeps : LockTable.KeepsOthers owner w.table table) : Sound (w.put owner table lock) := by
  intro other
  change Holds table other (Function.update w.locks owner lock other)
  by_cases same : other = owner
  · rw [same, Function.update_self]
    exact holds
  · rw [Function.update_of_ne same]
    obtain ⟨matched, owned, nodup⟩ := sound other
    exact ⟨matched, fun file member => keeps file other same (owned file member), nodup⟩

theorem sound_next (sound : Sound w) (next : ownershipNext casefold w event after) :
    Sound after := by
  rcases next with acted | ⟨fs, -, -, isAfter⟩
  · obtain ⟨owner, table, lock, -, isAfter, holds, keeps⟩ := act_spec sound acted
    rw [isAfter]
    exact sound_put sound holds keeps
  · rw [isAfter]
    exact sound

theorem sound_of_run {events : List Event} (run : (ownershipSystem casefold).Run events w) :
    Sound w := by
  refine run.invariant ?_ fun _ _ _ => sound_next
  rintro start ⟨isTable, isLocks⟩ owner
  rw [isLocks]
  refine ⟨rfl, ?_, List.nodup_nil⟩
  intro file member
  cases member

theorem harmless_of_sound (sound : Sound w) : Harmless casefold w := by
  intro event after next file other another held
  rcases next with acted | ⟨fs, -, -, isAfter⟩
  · obtain ⟨owner, table, lock, isOwner, isAfter, -, keeps⟩ := act_spec sound acted
    rw [isAfter]
    refine keeps file other ?_ held
    intro same
    exact another (isOwner.trans (congrArg some same.symm))
  · rw [isAfter]
    exact held

def AllBound (w : World) : Prop := ∀ owner, Bound w.fs (w.locks owner)

theorem allBound_next (allBound : AllBound w) (opened : Opened w event)
    (next : ownershipNext casefold w event after) : AllBound after := by
  have put : ∀ {owner table lock}, Bound w.fs lock → AllBound (w.put owner table lock) := by
    intro owner table lock bound other
    change Bound w.fs (Function.update w.locks owner lock other)
    by_cases same : other = owner
    · rw [same, Function.update_self]
      exact bound
    · rw [Function.update_of_ne same]
      exact allBound other
  rcases next with acted | ⟨fs, -, grows, isAfter⟩
  · unfold World.act at acted
    split at acted
    · cases acted
    · split at acted <;> cases acted
      exact put ⟨trivial, fun isBound => by cases isBound⟩
    · next owner fails =>
        split at acted
        · split at acted <;> cases acted
          · exact allBound
          · exact put ⟨opened, (allBound owner).covered⟩
        · cases acted
    · next owner fails =>
        obtain ⟨result, stepped, isAfter⟩ := Option.map_eq_some_iff.mp acted
        rw [← isAfter]
        exact put (bound_step (allBound owner) stepped)
    · split at acted <;> cases acted
      exact put ⟨trivial, fun isBound => by cases isBound⟩
    · cases acted
      exact put ⟨trivial, fun isBound => by cases isBound⟩
  · rw [isAfter]
    exact fun owner => (allBound owner).grow grows

theorem allBound_of_run {events : List Event} (run : (ownershipSystem casefold).Run events w)
    (opened : (ownershipSystem casefold).Guarded Opened events) : AllBound w := by
  refine run.invariant_guarded ?_ (fun _ _ _ => allBound_next) opened
  rintro start ⟨-, isLocks⟩ owner
  rw [isLocks]
  exact ⟨trivial, fun isBound => by cases isBound⟩

theorem owner_of_hasIdentity {owner : Nat} (sound : Sound w) {identity : Str}
    (isHeld : identity ∈ (w.locks owner).held) :
    ∃ file, lockFile identity = some file ∧ w.table file = some owner := by
  have named : lockFile identity ∈ (w.locks owner).held.map lockFile := List.mem_map_of_mem isHeld
  rw [(sound owner).matched] at named
  obtain ⟨file, member, isFile⟩ := List.mem_map.mp named
  exact ⟨file, isFile.symm, (sound owner).owned file (List.mem_append_left _ member)⟩

theorem exclusive_of_bound (sound : Sound w) (allBound : AllBound w) : Exclusive w := by
  have holds : ∀ owner, (w.locks owner).bound = true → ∀ path ∈ (w.locks owner).resources,
      ∀ file, w.fs.fileOf path = some file → fileIdentity file ∈ (w.locks owner).held := by
    intro owner isBound path member file isFile
    obtain ⟨ledger, approval⟩ := (allBound owner).covered isBound
    have hasFile : HasFile w.fs path (w.locks owner).held := by
      rcases List.mem_cons.mp member with isLedger | rest
      · rw [isLedger]
        exact ledger
      · rw [List.mem_singleton.mp rest]
        exact approval
    obtain ⟨other, isOther, isHeld⟩ := hasFile
    rw [isFile] at isOther
    cases isOther
    exact isHeld
  intro i j differs boundI boundJ path member path' member' file isFile isFile'
  obtain ⟨first, isFirst, ownerI⟩ := owner_of_hasIdentity sound (holds i boundI path member file isFile)
  obtain ⟨second, isSecond, ownerJ⟩ :=
    owner_of_hasIdentity sound (holds j boundJ path' member' file isFile')
  rw [isFirst] at isSecond
  cases isSecond
  rw [ownerI] at ownerJ
  exact differs (Option.some.inj ownerJ)

end Runs

/-! Two locks: the first is bound before its ledger is created, the second on a link to
that ledger. -/

section Samples

def noFiles : FileSystem where
  place path := some ⟨⟨0, 1⟩, path⟩
  fileAt _ := none

/-- The ledger, and a link to it. -/
def linkedFiles : FileSystem where
  place path := some ⟨⟨0, 1⟩, path⟩
  fileAt place :=
    if place.name = Str.lit "ledger" ∨ place.name = Str.lit "link" then some ⟨0, 2⟩ else none

theorem noFiles_grows : noFiles.Grows linkedFiles where
  files _ _ isFile := by cases isFile
  paths _ _ _ _ isFile := by cases isFile

def unlocked : World := ⟨noFiles, fun _ => none, fun _ => noLock⟩

def steps (owner count : Nat) : List Event := List.replicate count (.step owner false)

def bindEarly : List Event :=
  [.construct 0 (Str.lit "ledger") (Str.lit "approvals")] ++ steps 0 5 ++ [.bind 0 false] ++
    steps 0 5

def bindLink : List Event :=
  [.construct 1 (Str.lit "link") (Str.lit "others")] ++ steps 1 6 ++ [.bind 1 false] ++ steps 1 5

def ran (events : List Event) (w : World) : World := (events.foldlM (World.act id) w).getD w

def boundEarly : World := ran bindEarly unlocked

def linked : World := { boundEarly with fs := linkedFiles }

def boundBoth : World := ran bindLink linked

theorem run_ran {front events : List Event} {w : World}
    (run : (ownershipSystem id).Run front w)
    (works : (events.foldlM (World.act id) w).isSome = true) :
    (ownershipSystem id).Run (front ++ events) (ran events w) := by
  obtain ⟨after, isAfter⟩ := Option.isSome_iff_exists.mp works
  rw [ran, isAfter]
  exact run.fold (fun _ _ _ acted => Or.inl acted) isAfter

theorem fs_of_act {w after : World} {event : Event} (acted : w.act id event = some after) :
    after.fs = w.fs := by
  unfold World.act at acted
  split at acted
  · cases acted
  · split at acted <;> cases acted
    rfl
  · split at acted
    · split at acted <;> cases acted <;> rfl
    · cases acted
  · obtain ⟨result, -, isAfter⟩ := Option.map_eq_some_iff.mp acted
    rw [← isAfter]
    rfl
  · split at acted <;> cases acted
    rfl
  · cases acted
    rfl

theorem fs_of_fold {events : List Event} {w after : World}
    (folded : events.foldlM (World.act id) w = some after) : after.fs = w.fs := by
  induction events generalizing w with
  | nil =>
      cases folded
      rfl
  | cons event rest ih =>
      rw [List.foldlM_cons] at folded
      obtain ⟨next, acted, further⟩ := Option.bind_eq_some_iff.mp folded
      exact (ih further).trans (fs_of_act acted)

theorem works_bindEarly : (bindEarly.foldlM (World.act id) unlocked).isSome = true := by
  decide +kernel

theorem boundEarly_grows : boundEarly.fs.Grows linkedFiles := by
  obtain ⟨after, isAfter⟩ := Option.isSome_iff_exists.mp works_bindEarly
  rw [boundEarly, ran, isAfter, Option.getD_some, fs_of_fold isAfter]
  exact noFiles_grows

theorem run_boundEarly : (ownershipSystem id).Run bindEarly boundEarly :=
  run_ran (.start ⟨rfl, rfl⟩) works_bindEarly

theorem run_boundBoth :
    (ownershipSystem id).Run (bindEarly ++ [.grow linkedFiles] ++ bindLink) boundBoth :=
  run_ran (run_boundEarly.step (.inr ⟨_, rfl, boundEarly_grows, rfl⟩)) (by decide +kernel)

end Samples

end SelfConnect.Ownership
