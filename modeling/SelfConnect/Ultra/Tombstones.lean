import SelfConnect.Ultra.Import

namespace SelfConnect.Ultra.Independent

open SelfConnect.Js SelfConnect.Library SelfConnect.Library.Table SelfConnect.Ultra.Outbox

/-! The tombstones of nonces at a target, between imports. Times are in microseconds. -/

namespace PgNonceTombstoneStore

variable (codec : Codec)

/-- The hash of the nonce, and its ttl. -/
def input? (nonce ttlMs : Json) : Option (Text × Int) := do
  let ttlMs ← ttlMs.num?.bind safeInteger?
  guard (1 ≤ ttlMs)
  let nonce ← nonce.str?
  guard (1 ≤ nonce.length ∧ nonce.length ≤ 4096)
  return (codec.sha256 nonce, ttlMs)

/-- Whether the nonce has been consumed before. The clock is read for each of the statements. -/
def checkAndConsume (nonce ttlMs : Json) (deletedAt insertedAt : Int) (nonces : Table Text Int) :
    Option (Bool × Table Text Int) := do
  let (nonceHash, ttlMs) ← input? codec nonce ttlMs
  let live := if (nonces.lookup nonceHash).any (· ≤ deletedAt) then nonces.erase nonceHash
    else nonces
  match live.lookup nonceHash with
  | some _ => return (true, live)
  | none => return (false, live.insert nonceHash (insertedAt + 1000 * ttlMs))

end PgNonceTombstoneStore

/-- A nonce that has been taken as fresh, and the end of its ttl. -/
structure Acceptance where
  nonceHash : Text
  endsAt : Int

/-- The target, what it has accepted, the tombstones of the bundle imported last, and the time. -/
structure NonceStore where
  target : Target
  accepted : List Acceptance
  bundle : List Tombstone
  now : Int

/-- A call, the times it reads, and whether its transaction commits. -/
inductive NonceEvent (Keys : Type)
  | consumes (nonce ttlMs : Json) (deletedAt insertedAt : Int) (commits : Bool)
  | imports (call : Call Keys) (clock : Text → Int) (finishedAt : Int) (commits : Bool)

section Tombstones

variable {codec : Codec} {Keys : Type} (site : Site codec Keys)

/-- The clock does not go back. -/
def Timely (now : Int) : NonceEvent Keys → Prop
  | .consumes _ _ deletedAt insertedAt _ => now ≤ deletedAt ∧ deletedAt ≤ insertedAt
  | .imports _ clock finishedAt _ =>
      now ≤ finishedAt ∧ ∀ nonceHash, now ≤ clock nonceHash ∧ clock nonceHash ≤ finishedAt

variable (codec) in
def accept (nonce ttlMs : Json) (insertedAt : Int) : List Acceptance :=
  match PgNonceTombstoneStore.input? codec nonce ttlMs with
  | some (nonceHash, ttlMs) => [⟨nonceHash, insertedAt + 1000 * ttlMs⟩]
  | none => []

def NonceStore.step (s : NonceStore) : NonceEvent Keys → NonceStore
  | .consumes nonce ttlMs deletedAt insertedAt commits =>
      match PgNonceTombstoneStore.checkAndConsume codec nonce ttlMs deletedAt insertedAt
        s.target.nonces, commits with
      | some (seen, nonces), true =>
          { s with
            target := { s.target with nonces := nonces }
            accepted := (if seen then [] else accept codec nonce ttlMs insertedAt) ++ s.accepted
            now := insertedAt }
      | _, _ => { s with now := insertedAt }
  | .imports call clock finishedAt commits =>
      match importIndependentState site call clock s.target, commits with
      | some (_, t), true =>
          { s with
            target := t
            bundle := call.bundle.manifest.state.nonceTombstones
            now := finishedAt }
      | _, _ => { s with now := finishedAt }

/-- Consumptions and imports in any order, from a target of any state. -/
def nonceRuns : System NonceStore (NonceEvent Keys) where
  initial s := s.accepted = [] ∧ s.bundle = []
  next s event t := Timely s.now event ∧ t = s.step site event

/-- A bundle of a new epoch has, for every nonce accepted here whose ttl is not past, a tombstone
that lasts as long. -/
def Covering (s : NonceStore) : NonceEvent Keys → Prop
  | .consumes _ _ _ _ _ => True
  | .imports call _ finishedAt commits => commits = true →
      (∀ head, s.target.heads.lookup call.bundle.manifest.clusterId = some head →
        head.sourceEpoch ≠ call.bundle.manifest.sourceEpoch) →
      ∀ acceptance ∈ s.accepted, finishedAt < acceptance.endsAt →
        ∃ nonce ∈ call.bundle.manifest.state.nonceTombstones,
          nonce.nonceHash = acceptance.nonceHash ∧
            ∃ expiry, site.database.timestamptz nonce.expiresAt = some expiry ∧
              acceptance.endsAt ≤ expiry

/-- The time is past, or there is a tombstone until then. -/
def Lasts (nonces : Table Text Int) (now : Int) (nonceHash : Text) (endsAt : Int) : Prop :=
  endsAt ≤ now ∨ ∃ expiry, nonces.lookup nonceHash = some expiry ∧ endsAt ≤ expiry

structure Remembers (s : NonceStore) : Prop where
  accepted : ∀ acceptance ∈ s.accepted,
    Lasts s.target.nonces s.now acceptance.nonceHash acceptance.endsAt
  bundle : ∀ nonce ∈ s.bundle, ∀ expiry,
    site.database.timestamptz nonce.expiresAt = some expiry →
      Lasts s.target.nonces s.now nonce.nonceHash expiry

variable {site} {nonces later : Table Text Int} {now time endsAt : Int} {nonceHash : Text}

theorem Lasts.mono (lasts : Lasts nonces now nonceHash endsAt) (le : now ≤ time)
    (grows : ∀ expiry, nonces.lookup nonceHash = some expiry → endsAt ≤ expiry → time < endsAt →
      ∃ found, later.lookup nonceHash = some found ∧ expiry ≤ found) :
    Lasts later time nonceHash endsAt := by
  rcases lasts with past | ⟨expiry, isExpiry, lasting⟩
  · exact .inl (past.trans le)
  · rcases le_or_gt endsAt time with past | ahead
    · exact .inl past
    · obtain ⟨found, isFound, longer⟩ := grows expiry isExpiry lasting ahead
      exact .inr ⟨found, isFound, lasting.trans longer⟩

variable {nonce ttlMs : Json} {deletedAt insertedAt : Int} {seen : Bool}

/-- What a consumption does to a tombstone that is not past. -/
theorem lookup_of_checkAndConsume
    (done : PgNonceTombstoneStore.checkAndConsume codec nonce ttlMs deletedAt insertedAt nonces =
      some (seen, later)) {expiry : Int} (isExpiry : nonces.lookup nonceHash = some expiry)
    (ahead : deletedAt < expiry) : later.lookup nonceHash = some expiry := by
  obtain ⟨⟨own, ttl⟩, -, done⟩ := Option.bind_eq_some_iff.mp done
  have kept : Finmap.lookup nonceHash (if (nonces.lookup own).any (· ≤ deletedAt) = true then
      nonces.erase own else nonces) = some expiry := by
    split
    · next isPast =>
        have differs : nonceHash ≠ own := by
          rintro rfl
          rw [isExpiry] at isPast
          exact absurd (of_decide_eq_true isPast) (not_le.mpr ahead)
        rw [Finmap.lookup_erase_ne differs]
        exact isExpiry
    · exact isExpiry
  dsimp only at done
  split at done
  · cases done
    exact kept
  · next absent =>
      cases done
      have differs : nonceHash ≠ own := by
        rintro rfl
        cases kept.symm.trans absent
      rw [Finmap.lookup_insert_of_ne _ differs]
      exact kept

/-- A fresh nonce had no tombstone that was not past, and has one from then on. -/
theorem fresh_of_checkAndConsume
    (done : PgNonceTombstoneStore.checkAndConsume codec nonce ttlMs deletedAt insertedAt nonces =
      some (false, later)) : ∃ nonceHash ttl,
    PgNonceTombstoneStore.input? codec nonce ttlMs = some (nonceHash, ttl) ∧
      (∀ expiry, nonces.lookup nonceHash = some expiry → expiry ≤ deletedAt) ∧
      later.lookup nonceHash = some (insertedAt + 1000 * ttl) := by
  obtain ⟨⟨nonceHash, ttl⟩, isInput, done⟩ := Option.bind_eq_some_iff.mp done
  refine ⟨nonceHash, ttl, isInput, ?_⟩
  dsimp only at done
  split at done
  · cases done
  · next absent =>
      cases done
      refine ⟨fun expiry isExpiry => ?_, Finmap.lookup_insert _⟩
      by_contra ahead
      have notPast : ¬ (nonces.lookup nonceHash).any (· ≤ deletedAt) = true := by
        rw [isExpiry]
        exact fun isPast => ahead (of_decide_eq_true isPast)
      rw [if_neg notPast] at absent
      cases absent.symm.trans isExpiry

/-- Every tombstone stays, or becomes one that lasts longer. -/
def Grows (before after : Table Text Int) : Prop :=
  ∀ nonceHash expiry, before.lookup nonceHash = some expiry →
    ∃ found, after.lookup nonceHash = some found ∧ expiry ≤ found

theorem Grows.refl (nonces : Table Text Int) : Grows nonces nonces :=
  fun _ expiry isExpiry => ⟨expiry, isExpiry, le_rfl⟩

theorem Grows.trans {first second third : Table Text Int} (front : Grows first second)
    (back : Grows second third) : Grows first third := by
  intro nonceHash expiry isExpiry
  obtain ⟨found, isFound, le⟩ := front nonceHash expiry isExpiry
  obtain ⟨last, isLast, le'⟩ := back nonceHash found isFound
  exact ⟨last, isLast, le.trans le'⟩

/-- The tombstone of a bundle is there, unless it was past when it was read. -/
def Stored (site : Site codec Keys) (clock : Text → Int) (nonces : Table Text Int)
    (nonce : Tombstone) : Prop :=
  ∀ expiry, site.database.timestamptz nonce.expiresAt = some expiry →
    clock nonce.nonceHash < expiry →
    ∃ found, nonces.lookup nonce.nonceHash = some found ∧ expiry ≤ found

variable {clock : Text → Int} {before after : Table Text Int} {tombstone : Tombstone}

theorem Stored.grow (stored : Stored site clock before tombstone) (grows : Grows before after) :
    Stored site clock after tombstone := by
  intro expiry isExpiry ahead
  obtain ⟨found, isFound, le⟩ := stored expiry isExpiry ahead
  obtain ⟨last, isLast, le'⟩ := grows _ found isFound
  exact ⟨last, isLast, le.trans le'⟩

theorem stored_insertTombstone
    (inserted : insertTombstone site clock before tombstone = some after) :
    Grows before after ∧ Stored site clock after tombstone := by
  obtain ⟨expiry, isExpiry, inserted⟩ := Option.bind_eq_some_iff.mp inserted
  split at inserted
  · have look := lookup_insertRow inserted
    refine ⟨fun other found isFound => ⟨found, (look other found).mpr (.inr isFound), le_rfl⟩, ?_⟩
    intro other isOther ahead
    cases isExpiry.symm.trans isOther
    exact ⟨expiry, (look _ expiry).mpr (.inl ⟨rfl, rfl⟩), le_rfl⟩
  · next notAhead =>
      cases inserted
      refine ⟨.refl before, fun other isOther ahead => ?_⟩
      cases isExpiry.symm.trans isOther
      exact absurd ahead notAhead

theorem le_latest (found : Option Int) (expiry : Int) :
    expiry ≤ (found.map (max · expiry)).getD expiry := by
  cases found with
  | none => exact le_rfl
  | some other => exact le_max_right other expiry

theorem stored_mergeTombstone
    (merged : mergeTombstone site clock before tombstone = some after) :
    Grows before after ∧ Stored site clock after tombstone := by
  obtain ⟨expiry, isExpiry, merged⟩ := Option.bind_eq_some_iff.mp merged
  split at merged
  · cases merged
    refine ⟨fun other found isFound => ?_, fun other isOther ahead => ?_⟩
    · by_cases same : other = tombstone.nonceHash
      · rw [same] at isFound ⊢
        rw [isFound]
        exact ⟨_, Finmap.lookup_insert _, le_max_left found expiry⟩
      · exact ⟨found, (Finmap.lookup_insert_of_ne _ same).trans isFound, le_rfl⟩
    · cases isExpiry.symm.trans isOther
      exact ⟨_, Finmap.lookup_insert _, le_latest _ expiry⟩
  · next notAhead =>
      cases merged
      refine ⟨.refl before, fun other isOther ahead => ?_⟩
      cases isExpiry.symm.trans isOther
      exact absurd ahead notAhead

/-- Storing tombstones one after the other. -/
theorem stored_foldlM {store : Table Text Int → Tombstone → Option (Table Text Int)}
    (stores : ∀ {before after : Table Text Int} {tombstone : Tombstone},
      store before tombstone = some after →
        Grows before after ∧ Stored site clock after tombstone)
    {tombstones : List Tombstone} (done : tombstones.foldlM store before = some after) :
    Grows before after ∧ ∀ tombstone ∈ tombstones, Stored site clock after tombstone := by
  induction tombstones generalizing before with
  | nil =>
      cases done
      exact ⟨.refl _, fun tombstone member => absurd member List.not_mem_nil⟩
  | cons first rest ih =>
      rw [List.foldlM_cons] at done
      obtain ⟨next, isNext, done⟩ := Option.bind_eq_some_iff.mp done
      obtain ⟨grows, own⟩ := stores isNext
      obtain ⟨grows', others⟩ := ih done
      exact ⟨grows.trans grows', List.forall_mem_cons.mpr ⟨own.grow grows', others⟩⟩

theorem Stored.lasts {finishedAt expiry : Int} (stored : Stored site clock after tombstone)
    (isExpiry : site.database.timestamptz tombstone.expiresAt = some expiry)
    (timely : clock tombstone.nonceHash ≤ finishedAt) (reaches : endsAt ≤ expiry) :
    Lasts after finishedAt tombstone.nonceHash endsAt := by
  rcases le_or_gt expiry (clock tombstone.nonceHash) with past | ahead
  · exact .inl (reaches.trans (past.trans timely))
  · obtain ⟨found, isFound, le⟩ := stored expiry isExpiry ahead
    exact .inr ⟨found, isFound, reaches.trans le⟩

variable {s : NonceStore}

theorem remembers_consumes (remembers : Remembers site s) (commits : Bool)
    (timely : s.now ≤ deletedAt ∧ deletedAt ≤ insertedAt) :
    Remembers site (s.step site (.consumes nonce ttlMs deletedAt insertedAt commits)) := by
  have le : s.now ≤ insertedAt := timely.1.trans timely.2
  unfold NonceStore.step
  dsimp only
  split
  · next seen nonces done =>
      have kept : ∀ {nonceHash : Text} {endsAt : Int},
          Lasts s.target.nonces s.now nonceHash endsAt →
            Lasts nonces insertedAt nonceHash endsAt := by
        intro nonceHash endsAt lasts
        refine lasts.mono le fun expiry isExpiry lasting ahead => ⟨expiry, ?_, le_rfl⟩
        exact lookup_of_checkAndConsume done isExpiry (timely.2.trans_lt (ahead.trans_le lasting))
      refine ⟨fun acceptance member => ?_, fun tombstone member expiry isExpiry =>
        kept (remembers.bundle tombstone member expiry isExpiry)⟩
      rcases List.mem_append.mp member with isNew | earlier
      · cases seen with
        | true => cases isNew
        | false =>
            obtain ⟨nonceHash, ttl, isInput, -, isStored⟩ := fresh_of_checkAndConsume done
            rw [if_neg Bool.false_ne_true, accept, isInput] at isNew
            cases List.mem_singleton.mp isNew
            exact .inr ⟨_, isStored, le_rfl⟩
      · exact kept (remembers.accepted acceptance earlier)
  · have kept : ∀ {nonceHash : Text} {endsAt : Int},
        Lasts s.target.nonces s.now nonceHash endsAt →
          Lasts s.target.nonces insertedAt nonceHash endsAt :=
      fun lasts => lasts.mono le fun expiry isExpiry _ _ => ⟨expiry, isExpiry, le_rfl⟩
    exact ⟨fun acceptance member => kept (remembers.accepted acceptance member),
      fun tombstone member expiry isExpiry =>
        kept (remembers.bundle tombstone member expiry isExpiry)⟩

theorem remembers_imports (remembers : Remembers site s) {call : Call Keys} {finishedAt : Int}
    {commits : Bool} (timely : Timely s.now (.imports call clock finishedAt commits))
    (covering : Covering site s (.imports call clock finishedAt commits)) :
    Remembers site (s.step site (.imports call clock finishedAt commits)) := by
  obtain ⟨le, reads⟩ := timely
  have kept : ∀ {nonces : Table Text Int}, Grows s.target.nonces nonces →
      ∀ {nonceHash : Text} {endsAt : Int}, Lasts s.target.nonces s.now nonceHash endsAt →
        Lasts nonces finishedAt nonceHash endsAt :=
    fun grows _ _ lasts => lasts.mono le fun expiry isExpiry _ _ => grows _ expiry isExpiry
  unfold NonceStore.step
  dsimp only
  split
  · next result t done =>
      obtain ⟨-, ⟨head, isHead, sameEpoch, isAgain⟩ | ⟨below, isReplaced⟩⟩ := import_cases done
      · obtain ⟨-, nonces, isMerged, rfl⟩ := importAgain_eq_some.mp isAgain
        obtain ⟨grows, stored⟩ := stored_foldlM stored_mergeTombstone isMerged
        exact ⟨fun acceptance member => kept grows (remembers.accepted acceptance member),
          fun tombstone member expiry isExpiry =>
            (stored tombstone member).lasts isExpiry (reads _).2 le_rfl⟩
      · obtain ⟨imported, -, -, -, isNonces⟩ := replaced_of_replaceState isReplaced
        obtain ⟨-, stored⟩ := stored_foldlM stored_insertTombstone isNonces
        refine ⟨fun acceptance member => ?_, fun tombstone member expiry isExpiry =>
          (stored tombstone member).lasts isExpiry (reads _).2 le_rfl⟩
        -- Only what the bundle has is left of what this target has accepted.
        rcases le_or_gt acceptance.endsAt finishedAt with past | ahead
        · exact .inl past
        · obtain ⟨tombstone, isMember, sameNonce, expiry, isExpiry, reaches⟩ :=
            covering rfl (fun head isHead => (below head isHead).ne) acceptance member ahead
          rw [← sameNonce]
          exact (stored tombstone isMember).lasts isExpiry (reads _).2 reaches
  · exact ⟨fun acceptance member => kept (.refl _) (remembers.accepted acceptance member),
      fun tombstone member expiry isExpiry =>
        kept (.refl _) (remembers.bundle tombstone member expiry isExpiry)⟩

variable {events : List (NonceEvent Keys)}

theorem remembers_of_run (run : ((nonceRuns site).under (Covering site)).Run events s) :
    Remembers site s := by
  induction run with
  | start first =>
      obtain ⟨noneAccepted, noBundle⟩ := first
      refine ⟨fun acceptance member => ?_, fun tombstone member => ?_⟩
      · rw [noneAccepted] at member
        cases member
      · rw [noBundle] at member
        cases member
  | @step _ s _ event _ next ih =>
      obtain ⟨covering, timely, rfl⟩ := next
      cases event with
      | consumes nonce ttlMs deletedAt insertedAt commits =>
          exact remembers_consumes ih commits timely
      | imports call clock finishedAt commits => exact remembers_imports ih timely covering

end Tombstones

def sampleConsumption (time : Int) : NonceEvent Unit :=
  .consumes (.str (text "nonce")) (.num 1000) time time true

def firstStore : NonceStore := ⟨emptyTarget, [], [], 0⟩

def consumedOnce : NonceStore := firstStore.step sampleSite (sampleConsumption 1)

theorem initial_firstStore : (nonceRuns sampleSite).initial firstStore := ⟨rfl, rfl⟩

theorem timely_sampleConsumption : Timely firstStore.now (sampleConsumption 1) :=
  ⟨Int.one_nonneg, le_rfl⟩

theorem run_consumedOnce :
    ((nonceRuns sampleSite).under (Covering sampleSite)).Run [sampleConsumption 1]
      consumedOnce := by
  have covering : Covering sampleSite firstStore (sampleConsumption 1) := trivial
  have first : ((nonceRuns sampleSite).under (Covering sampleSite)).Run [] firstStore :=
    .start initial_firstStore
  exact first.step ⟨covering, timely_sampleConsumption, rfl⟩

/-- A bundle of a new epoch without the tombstone is imported. -/
def newEpoch : NonceEvent Unit := .imports (sampleCall 1 []) (fun _ => 2) 2 true

def forgotten : NonceStore := consumedOnce.step sampleSite newEpoch

end SelfConnect.Ultra.Independent
