import SelfConnect.Delegation.Verified
import SelfConnect.Library.System

namespace SelfConnect.Delegation

open SelfConnect.Python SelfConnect.Replication SelfConnect.Library

/-! The lease map of a dispatcher, and the authority store that vouches for its leases. -/

/-- The Ed25519 key pair of one authority store. -/
structure LeaseKeys where
  sign : Bytes → Bytes
  verify : Bytes → Bytes → Bool

def RuntimeLease.asDict (lease : RuntimeLease) : Members :=
  .of [
    ("lease_id", .str lease.leaseId),
    ("agent_id", .str lease.agentId),
    ("hwnd", .int lease.hwnd),
    ("role", .str lease.role),
    ("issued_at", .float lease.issuedAt),
    ("expires_at", .float lease.expiresAt),
    ("revoked", .bool lease.revoked),
    ("target_pid", .int lease.targetPid),
    ("target_exe", .str lease.targetExe),
    ("target_exe_path", .str lease.targetExePath),
    ("target_class", .str lease.targetClass),
    ("target_title_hash", .str lease.targetTitleHash),
    ("logical_target_id", .str lease.logicalTargetId)]

/-- `_lease_authority_payload`. -/
def leaseAuthorityPayload (lease : RuntimeLease) : Bytes :=
  encode (Json.render .compact (Json.sortKeys
    (.dict (lease.asDict ++ Members.of [("schema", Value.lit "selfconnect.lease-authority.v1")]))))

/-- `_LeaseAuthority`. -/
structure SignedLease where
  lease : RuntimeLease
  signature : Bytes

structure LeaseAuthorityStore where
  records : Dict Str SignedLease
  revoked : List Str

namespace LeaseAuthorityStore

variable (keys : LeaseKeys) (store : LeaseAuthorityStore)

def empty : LeaseAuthorityStore := ⟨.empty, []⟩

def record (lease : RuntimeLease) : Dict Str SignedLease :=
  store.records.set lease.leaseId ⟨lease, keys.sign (leaseAuthorityPayload lease)⟩

def issue (lease : RuntimeLease) : Except Str LeaseAuthorityStore :=
  if (store.records.get? lease.leaseId).isSome || store.revoked.contains lease.leaseId then
    .error (Str.lit "lease authority already exists")
  else .ok { store with records := store.record keys lease }

def revoke (lease : RuntimeLease) : Except Str LeaseAuthorityStore :=
  if (store.records.get? lease.leaseId).isNone then
    .error (Str.lit "lease issuance authority is missing")
  else
    .ok ⟨store.record keys { lease with revoked := true }, lease.leaseId :: store.revoked⟩

/-- `verify`, with `allow_revoked=False`. -/
def verify (requestedLeaseId : Str) (lease : RuntimeLease) : Except Str RuntimeLease :=
  if lease.leaseId ≠ requestedLeaseId then
    .error (Str.lit "lease storage key does not match the embedded signed lease id")
  else
    match store.records.get? requestedLeaseId with
    | none => .error (Str.lit "lease issuance authority is missing")
    | some authority =>
        if !keys.verify authority.signature (leaseAuthorityPayload authority.lease) then
          .error (Str.lit "lease issuance authority signature is invalid")
        else if !lease.eqv authority.lease then
          .error (Str.lit "lease no longer matches its signed issuance authority")
        else if store.revoked.contains requestedLeaseId then
          .error (Str.lit "lease issuance authority is revoked")
        else .ok authority.lease

end LeaseAuthorityStore

/-- `now + seconds`; `none` is `OverflowError`. -/
def expiry (now : PyFloat) (seconds : Int) : Option PyFloat :=
  if 2 ^ 1024 - 2 ^ 970 ≤ seconds.natAbs then none
  else
    match now with
    | .finite time => some (.ofFloat (time.toFloat + Float.ofInt seconds))
    | other => some other

/-- `_VALID_LEASE_ROLES`. -/
def validLeaseRoles : List Str := ["sender", "receiver", "observer"].map Str.lit

/-- The part of a dispatcher that leases live in, and what its clock shows. -/
structure LeaseDispatcher where
  leases : Dict Str RuntimeLease
  store : LeaseAuthorityStore
  now : PyFloat

/-- The arguments of a lease request, and the target that its window was found to be. -/
structure LeaseRequest where
  leaseId : Str
  agentId : Str
  args : Value
  hwnd : Int
  role : Str
  target : Value
  logicalTargetId : Str

def ensure (condition : Bool) (reason : Str) : Except Str Unit :=
  if condition then .ok () else .error reason

namespace LeaseDispatcher

variable (builtins : Builtins) (keys : LeaseKeys) (dispatcher : LeaseDispatcher)

/-- The lease that `_issue_verified_lease` builds. -/
def leaseFor (request : LeaseRequest) : Except Str RuntimeLease := do
  let ttl ← intOf builtins (request.args.getD "ttl_seconds" (.int 300))
  let some expiresAt := expiry dispatcher.now ttl
    | throw (Str.lit "int too large to convert to float")
  let targetPid ← intOf builtins (← item request.target "pid")
  let targetExe ← item request.target "exe"
  let targetClass ← item request.target "class"
  let titleHash ← hashText (builtins.str (request.target.getD "title" (Value.lit "")))
  return {
    leaseId := request.leaseId
    agentId := request.agentId
    hwnd := request.hwnd
    role := request.role
    issuedAt := dispatcher.now
    expiresAt := expiresAt
    revoked := false
    targetPid := targetPid
    targetExe := builtins.str targetExe
    targetExePath := builtins.str (request.target.getD "exe_path" (Value.lit ""))
    targetClass := builtins.str targetClass
    targetTitleHash := titleHash
    logicalTargetId := request.logicalTargetId }

/-- `_sc_request_lease` and `_sc_request_target_lease`, once the target is verified. -/
def issueVerifiedLease (request : LeaseRequest) : Except Str (RuntimeLease × LeaseDispatcher) := do
  ensure (validLeaseRoles.contains request.role)
    (Str.lit "unknown lease role " ++ quoted request.role)
  let lease ← dispatcher.leaseFor builtins request
  let store ← dispatcher.store.issue keys lease
  return (lease,
    { dispatcher with store := store, leases := dispatcher.leases.set lease.leaseId lease })

/-- `_sc_revoke_lease`. -/
def revokeLease (leaseId : Str) : Except Str LeaseDispatcher := do
  match dispatcher.leases.get? leaseId with
  | none => throw (Str.lit "lease " ++ quoted leaseId ++ Str.lit " not found")
  | some lease =>
      let canonical ← dispatcher.store.verify keys leaseId lease
      let store ← dispatcher.store.revoke keys canonical
      return { dispatcher with
        store := store
        leases := dispatcher.leases.set leaseId { canonical with revoked := true } }

/-- `_require_lease`. -/
def requireLease (leaseId : Str) (hwnd : Option Int) (tool : Str) : Except Str RuntimeLease := do
  match dispatcher.leases.get? leaseId with
  | none => throw (Str.lit "lease " ++ quoted leaseId ++ Str.lit " not found")
  | some lease =>
      ensure (lease.isActive dispatcher.now)
        (Str.lit "lease " ++ quoted leaseId ++ Str.lit " is expired or revoked")
      demand (hwnd.all fun hwnd => hwnd = lease.hwnd) "lease is not bound to requested HWND"
      let authority ← dispatcher.store.verify keys leaseId lease
      match rolesOf tool with
      | none =>
          throw (Str.lit "tool " ++ quoted tool ++
            Str.lit " has no lease-role authorization contract")
      | some roles =>
          ensure (roles.contains authority.role)
            (Str.lit "lease role " ++ quoted authority.role ++
              Str.lit " is not authorized for " ++ tool)
          return lease

end LeaseDispatcher

/-! A delegated call meets the same check, at the moment at which it looks. -/

/-- What a delegated call sees of the leases. -/
def LeaseDispatcher.live (dispatcher : LeaseDispatcher) (keys : LeaseKeys) (desktop : Live) :
    Live :=
  { desktop with
    now := dispatcher.now
    leases := dispatcher.leases.get?
    authorities := fun leaseId => (dispatcher.store.records.get? leaseId).map fun authority =>
      ⟨authority.lease, keys.verify authority.signature (leaseAuthorityPayload authority.lease)⟩
    revoked := dispatcher.store.revoked.contains }

theorem live_verifyAuthority (dispatcher : LeaseDispatcher) (keys : LeaseKeys) (desktop : Live)
    (leaseId : Str) (lease : RuntimeLease) :
    (dispatcher.live keys desktop).verifyAuthority leaseId lease =
      dispatcher.store.verify keys leaseId lease := by
  unfold Live.verifyAuthority LeaseAuthorityStore.verify LeaseDispatcher.live
  dsimp only
  split
  · rfl
  · cases dispatcher.store.records.get? leaseId with
    | none => rfl
    | some authority => rfl

theorem live_requireLease (dispatcher : LeaseDispatcher) (keys : LeaseKeys) (desktop : Live)
    (leaseId : Str) (hwnd : Int) (tool : Str) :
    (dispatcher.live keys desktop).requireLease leaseId hwnd tool =
      dispatcher.requireLease keys leaseId (some hwnd) tool := by
  have leases : (dispatcher.live keys desktop).leases leaseId = dispatcher.leases.get? leaseId :=
    rfl
  have now : (dispatcher.live keys desktop).now = dispatcher.now := rfl
  unfold Live.requireLease LeaseDispatcher.requireLease
  rw [leases]
  cases dispatcher.leases.get? leaseId with
  | none => rfl
  | some lease =>
      dsimp only
      rw [now, live_verifyAuthority]
      cases lease.isActive dispatcher.now with
      | false => rfl
      | true =>
          by_cases bound : hwnd = lease.hwnd
          · have isBound : ((some hwnd).all fun handle => handle = lease.hwnd) = true :=
              decide_eq_true bound
            simp only [demand, if_pos bound, if_pos isBound]
            cases dispatcher.store.verify keys leaseId lease with
            | error reason => rfl
            | ok authority =>
                cases rolesOf tool with
                | none => rfl
                | some roles =>
                    simp only [ensure, if_true, bind, Except.bind]
                    split <;> rfl
          · have isBound : ¬ ((some hwnd).all fun handle => handle = lease.hwnd) = true :=
              mt of_decide_eq_true bound
            simp only [demand, if_neg bound, if_neg isBound]
            rfl

/-! Runs of a dispatcher whose lease map anyone can write. -/

inductive LeaseCall
  | request (request : LeaseRequest)
  | revoke (leaseId : Str)
  | require (leaseId : Str) (hwnd : Option Int) (tool : Str)
  | tick (now : PyFloat)
  | replace (leases : Dict Str RuntimeLease)

inductive LeaseOutcome
  | issued (lease : RuntimeLease)
  | revoked (leaseId : Str)
  | granted (lease : RuntimeLease)
  | refused (reason : Str)
  | done

namespace LeaseDispatcher

variable (builtins : Builtins) (keys : LeaseKeys)

def serve (dispatcher : LeaseDispatcher) : LeaseCall → LeaseOutcome × LeaseDispatcher
  | .request request =>
      match dispatcher.issueVerifiedLease builtins keys request with
      | .ok (lease, changed) => (.issued lease, changed)
      | .error reason => (.refused reason, dispatcher)
  | .revoke leaseId =>
      match dispatcher.revokeLease keys leaseId with
      | .ok changed => (.revoked leaseId, changed)
      | .error reason => (.refused reason, dispatcher)
  | .require leaseId hwnd tool =>
      match dispatcher.requireLease keys leaseId hwnd tool with
      | .ok lease => (.granted lease, dispatcher)
      | .error reason => (.refused reason, dispatcher)
  | .tick now => (.done, { dispatcher with now := now })
  | .replace leases => (.done, { dispatcher with leases := leases })

end LeaseDispatcher

abbrev LeaseLabel := LeaseCall × LeaseOutcome

/-- A new dispatcher, at any time. -/
def leaseSystem (builtins : Builtins) (keys : LeaseKeys) : System LeaseDispatcher LeaseLabel where
  initial dispatcher := dispatcher.leases = .empty ∧ dispatcher.store = .empty
  next dispatcher label changed :=
    dispatcher.serve builtins keys label.1 = (label.2, changed)

def Issued (labels : List LeaseLabel) (lease : RuntimeLease) : Prop :=
  ∃ call, (call, LeaseOutcome.issued lease) ∈ labels

def Revoked (labels : List LeaseLabel) (leaseId : Str) : Prop :=
  ∃ call, (call, LeaseOutcome.revoked leaseId) ∈ labels

/-! What the store says of a lease is what was issued. -/

theorem ensure_eq_ok {condition : Bool} {reason : Str} {u : Unit} :
    ensure condition reason = .ok u ↔ condition = true := by
  cases condition with
  | true => exact iff_of_true rfl rfl
  | false => exact iff_of_false (fun same => by cases same) Bool.false_ne_true

section Eqv

variable {lease other : RuntimeLease}

theorem RuntimeLease.eqv_cases (same : lease.eqv other = true) :
    lease.leaseId = other.leaseId ∧ lease.hwnd = other.hwnd ∧ lease.role = other.role ∧
      (Number.ofFloat lease.expiresAt).eqv (Number.ofFloat other.expiresAt) = true ∧
      lease.revoked = other.revoked := by
  simp only [RuntimeLease.eqv, Bool.and_eq_true, beq_iff_eq] at same
  obtain ⟨⟨⟨⟨⟨⟨⟨⟨⟨⟨⟨⟨sameId, -⟩, sameHwnd⟩, sameRole⟩, -⟩, sameExpiry⟩, sameRevoked⟩, -⟩, -⟩, -⟩,
    -⟩, -⟩, -⟩ := same
  exact ⟨sameId, sameHwnd, sameRole, sameExpiry, sameRevoked⟩

theorem Number.lt_of_eqv {time first second : Number} (same : first.eqv second = true)
    (before : time.lt first = true) : time.lt second = true := by
  cases first with
  | nan => cases same
  | infinity negative =>
      cases second with
      | infinity sign =>
          have isSign : negative = sign := eq_of_beq same
          rw [← isSign]
          exact before
      | nan | finite _ => cases same
  | finite q =>
      cases second with
      | finite r =>
          have isSame : q = r := of_decide_eq_true same
          rw [← isSame]
          exact before
      | nan | infinity _ => cases same

theorem RuntimeLease.isActive_of_eqv {now : PyFloat} (same : lease.eqv other = true)
    (active : lease.isActive now = true) : other.isActive now = true := by
  obtain ⟨-, -, -, sameExpiry, sameRevoked⟩ := RuntimeLease.eqv_cases same
  obtain ⟨unrevoked, unexpired⟩ := (Bool.and_eq_true _ _).mp active
  apply (Bool.and_eq_true _ _).mpr
  constructor
  · rw [← sameRevoked]
    exact unrevoked
  · exact Number.lt_of_eqv sameExpiry unexpired

end Eqv

section Sound

variable {builtins : Builtins} {keys : LeaseKeys} {store changed : LeaseAuthorityStore}
  {lease canonical : RuntimeLease} {leaseId : Str}

theorem LeaseAuthorityStore.verify_cases
    (verified : store.verify keys leaseId lease = .ok canonical) :
    lease.leaseId = leaseId ∧ leaseId ∉ store.revoked ∧ lease.eqv canonical = true ∧
      ∃ authority, store.records.get? leaseId = some authority ∧ authority.lease = canonical := by
  unfold LeaseAuthorityStore.verify at verified
  by_cases sameId : lease.leaseId = leaseId
  · rw [if_neg (not_not.mpr sameId)] at verified
    cases found : store.records.get? leaseId with
    | none =>
        rw [found] at verified
        cases verified
    | some authority =>
        rw [found] at verified
        dsimp only at verified
        split at verified
        · cases verified
        · split at verified
          · cases verified
          · next same =>
              split at verified
              · cases verified
              · next unrevoked =>
                  cases verified
                  refine ⟨sameId, ?_, by simpa using same, authority, rfl, rfl⟩
                  exact fun member => unrevoked (List.contains_iff_mem.mpr member)
  · rw [if_pos sameId] at verified
    cases verified

theorem issue_of_issueVerifiedLease {dispatcher : LeaseDispatcher} {request : LeaseRequest}
    {made : RuntimeLease × LeaseDispatcher}
    (issued : dispatcher.issueVerifiedLease builtins keys request = .ok made) :
    dispatcher.store.issue keys made.1 = .ok made.2.store := by
  unfold LeaseDispatcher.issueVerifiedLease at issued
  obtain ⟨_, -, rest⟩ := bind_eq_ok.mp issued
  obtain ⟨lease, -, rest⟩ := bind_eq_ok.mp rest
  obtain ⟨store, isIssued, made⟩ := bind_eq_ok.mp rest
  cases made
  exact isIssued

theorem revoke_of_revokeLease {dispatcher after : LeaseDispatcher}
    (isRevoked : dispatcher.revokeLease keys leaseId = .ok after) :
    ∃ canonical, canonical.leaseId = leaseId ∧
      dispatcher.store.revoke keys canonical = .ok after.store := by
  unfold LeaseDispatcher.revokeLease at isRevoked
  cases found : dispatcher.leases.get? leaseId with
  | none =>
      rw [found] at isRevoked
      cases isRevoked
  | some lease =>
      rw [found] at isRevoked
      obtain ⟨canonical, verified, rest⟩ := bind_eq_ok.mp isRevoked
      obtain ⟨store, isStore, made⟩ := bind_eq_ok.mp rest
      cases made
      obtain ⟨isId, -, same, -⟩ := LeaseAuthorityStore.verify_cases verified
      exact ⟨canonical, (RuntimeLease.eqv_cases same).1.symm.trans isId, isStore⟩

/-- What a call does to the store: it issues a lease that no record has the id of, it
revokes a recorded one, or it leaves the store as it is. -/
theorem store_cases {dispatcher after : LeaseDispatcher} {call : LeaseCall} {outcome : LeaseOutcome}
    (served : dispatcher.serve builtins keys call = (outcome, after)) :
    (∃ lease, outcome = .issued lease ∧ dispatcher.store.issue keys lease = .ok after.store) ∨
    (∃ leaseId canonical, outcome = .revoked leaseId ∧ canonical.leaseId = leaseId ∧
      dispatcher.store.revoke keys canonical = .ok after.store) ∨
    ((∀ lease, outcome ≠ .issued lease) ∧ (∀ leaseId, outcome ≠ .revoked leaseId) ∧
      after.store = dispatcher.store) := by
  cases call with
  | request request =>
      dsimp only [LeaseDispatcher.serve] at served
      cases issued : dispatcher.issueVerifiedLease builtins keys request with
      | error reason =>
          rw [issued] at served
          cases served
          exact .inr (.inr ⟨fun _ => by simp, fun _ => by simp, rfl⟩)
      | ok made =>
          rw [issued] at served
          cases served
          exact .inl ⟨_, rfl, issue_of_issueVerifiedLease issued⟩
  | revoke leaseId =>
      dsimp only [LeaseDispatcher.serve] at served
      cases isRevoked : dispatcher.revokeLease keys leaseId with
      | error reason =>
          rw [isRevoked] at served
          cases served
          exact .inr (.inr ⟨fun _ => by simp, fun _ => by simp, rfl⟩)
      | ok changed =>
          rw [isRevoked] at served
          cases served
          obtain ⟨canonical, isId, revokes⟩ := revoke_of_revokeLease isRevoked
          exact .inr (.inl ⟨leaseId, canonical, rfl, isId, revokes⟩)
  | require leaseId hwnd tool =>
      dsimp only [LeaseDispatcher.serve] at served
      split at served <;> cases served <;>
        exact .inr (.inr ⟨fun _ => by simp, fun _ => by simp, rfl⟩)
  | tick now =>
      cases served
      exact .inr (.inr ⟨fun _ => by simp, fun _ => by simp, rfl⟩)
  | replace leases =>
      cases served
      exact .inr (.inr ⟨fun _ => by simp, fun _ => by simp, rfl⟩)

/-- What a lease that `_require_lease` returns is. -/
theorem LeaseDispatcher.requireLease_cases {dispatcher : LeaseDispatcher} {hwnd : Option Int}
    {tool : Str} (granted : dispatcher.requireLease keys leaseId hwnd tool = .ok lease) :
    ∃ canonical roles, dispatcher.store.verify keys leaseId lease = .ok canonical ∧
      lease.isActive dispatcher.now = true ∧ (∀ handle, hwnd = some handle → handle = lease.hwnd) ∧
      rolesOf tool = some roles ∧ canonical.role ∈ roles := by
  unfold LeaseDispatcher.requireLease at granted
  cases found : dispatcher.leases.get? leaseId with
  | none =>
      rw [found] at granted
      cases granted
  | some stored =>
      rw [found] at granted
      obtain ⟨_, active, rest⟩ := bind_eq_ok.mp granted
      obtain ⟨_, bound, rest⟩ := bind_eq_ok.mp rest
      obtain ⟨canonical, verified, rest⟩ := bind_eq_ok.mp rest
      cases areRoles : rolesOf tool with
      | none =>
          rw [areRoles] at rest
          cases rest
      | some roles =>
          rw [areRoles] at rest
          obtain ⟨_, allowed, returned⟩ := bind_eq_ok.mp rest
          cases returned
          refine ⟨canonical, roles, verified, ensure_eq_ok.mp active, ?_, rfl,
            List.contains_iff_mem.mp (ensure_eq_ok.mp allowed)⟩
          intro handle isHandle
          have same := demand_eq_ok.mp bound
          rw [isHandle] at same
          exact of_decide_eq_true same

/-- The records, the revocations and what was done agree, whatever the lease map holds. -/
structure Vouches (labels : List LeaseLabel) (store : LeaseAuthorityStore) : Prop where
  named : ∀ leaseId authority, store.records.get? leaseId = some authority →
    authority.lease.leaseId = leaseId
  issued : ∀ leaseId authority, store.records.get? leaseId = some authority →
    leaseId ∉ store.revoked → Issued labels authority.lease
  recorded : ∀ lease, Issued labels lease → (store.records.get? lease.leaseId).isSome = true
  once : ∀ first second, Issued labels first → Issued labels second →
    first.leaseId = second.leaseId → first = second
  revoked : ∀ leaseId, Revoked labels leaseId → leaseId ∈ store.revoked

theorem issued_snoc {labels : List LeaseLabel} {label : LeaseLabel} :
    Issued (labels ++ [label]) lease ↔ Issued labels lease ∨ label.2 = .issued lease := by
  constructor
  · intro issued
    obtain ⟨call, member⟩ := issued
    rcases List.mem_append.mp member with before | last
    · exact .inl ⟨call, before⟩
    · rw [← List.mem_singleton.mp last]
      exact .inr rfl
  · intro issued
    rcases issued with ⟨call, before⟩ | now
    · exact ⟨call, List.mem_append_left _ before⟩
    · exact ⟨label.1, List.mem_append_right _ (by rw [← now]; exact List.mem_singleton_self _)⟩

theorem revoked_snoc {labels : List LeaseLabel} {label : LeaseLabel} :
    Revoked (labels ++ [label]) leaseId ↔ Revoked labels leaseId ∨ label.2 = .revoked leaseId := by
  constructor
  · intro isRevoked
    obtain ⟨call, member⟩ := isRevoked
    rcases List.mem_append.mp member with before | last
    · exact .inl ⟨call, before⟩
    · rw [← List.mem_singleton.mp last]
      exact .inr rfl
  · intro isRevoked
    rcases isRevoked with ⟨call, before⟩ | now
    · exact ⟨call, List.mem_append_left _ before⟩
    · exact ⟨label.1, List.mem_append_right _ (by rw [← now]; exact List.mem_singleton_self _)⟩

namespace Vouches

variable {labels : List LeaseLabel} {label : LeaseLabel}

theorem empty : Vouches [] .empty where
  named := fun _ _ found => by cases found
  issued := fun _ _ found => by cases found
  recorded := fun _ issued => by obtain ⟨_, member⟩ := issued; cases member
  once := fun _ _ issued => by obtain ⟨_, member⟩ := issued; cases member
  revoked := fun _ isRevoked => by obtain ⟨_, member⟩ := isRevoked; cases member

theorem keep (vouches : Vouches labels store) (unissued : ∀ lease, label.2 ≠ .issued lease)
    (unrevoked : ∀ leaseId, label.2 ≠ .revoked leaseId) : Vouches (labels ++ [label]) store := by
  have before : ∀ lease, Issued (labels ++ [label]) lease → Issued labels lease := by
    intro lease issued
    exact (issued_snoc.mp issued).resolve_right (unissued lease)
  constructor
  · exact vouches.named
  · exact fun leaseId authority found live =>
      issued_snoc.mpr (.inl (vouches.issued leaseId authority found live))
  · exact fun lease issued => vouches.recorded lease (before lease issued)
  · exact fun first second isFirst isSecond =>
      vouches.once first second (before first isFirst) (before second isSecond)
  · exact fun leaseId isRevoked =>
      vouches.revoked leaseId ((revoked_snoc.mp isRevoked).resolve_right (unrevoked leaseId))

theorem issue (vouches : Vouches labels store) (isLabel : label.2 = .issued lease)
    (issues : store.issue keys lease = .ok changed) : Vouches (labels ++ [label]) changed := by
  unfold LeaseAuthorityStore.issue at issues
  split at issues
  · cases issues
  · next isFresh =>
      cases issues
      obtain ⟨absent, -⟩ := not_or.mp (mt (Bool.or_eq_true _ _).mpr isFresh)
      have lookup (leaseId : Str) := Dict.get?_set store.records lease.leaseId leaseId
        ⟨lease, keys.sign (leaseAuthorityPayload lease)⟩
      have issuedCases : ∀ other, Issued (labels ++ [label]) other →
          Issued labels other ∧ other.leaseId ≠ lease.leaseId ∨ other = lease := by
        intro other issued
        rcases issued_snoc.mp issued with before | now
        · refine .inl ⟨before, ?_⟩
          intro same
          have found := vouches.recorded other before
          rw [same] at found
          exact absent found
        · rw [isLabel] at now
          cases now
          exact .inr rfl
      constructor
      · intro leaseId authority found
        rw [LeaseAuthorityStore.record, lookup] at found
        split at found
        · next isId =>
            cases found
            exact isId.symm
        · exact vouches.named leaseId authority found
      · intro leaseId authority found live
        rw [LeaseAuthorityStore.record, lookup] at found
        split at found
        · cases found
          exact issued_snoc.mpr (.inr isLabel)
        · exact issued_snoc.mpr (.inl (vouches.issued leaseId authority found live))
      · intro other issued
        rw [LeaseAuthorityStore.record, lookup]
        rcases issuedCases other issued with ⟨before, differs⟩ | same
        · rw [if_neg differs]
          exact vouches.recorded other before
        · rw [same, if_pos rfl]
          rfl
      · intro first second isFirst isSecond same
        rcases issuedCases first isFirst with ⟨firstBefore, firstDiffers⟩ | isLease
        · rcases issuedCases second isSecond with ⟨secondBefore, -⟩ | isLease
          · exact vouches.once first second firstBefore secondBefore same
          · rw [isLease] at same
            exact absurd same firstDiffers
        · rcases issuedCases second isSecond with ⟨-, secondDiffers⟩ | isOther
          · rw [isLease] at same
            exact absurd same.symm secondDiffers
          · rw [isLease, isOther]
      · intro leaseId isRevoked
        refine vouches.revoked leaseId ((revoked_snoc.mp isRevoked).resolve_right ?_)
        rw [isLabel]
        exact fun absurdly => by cases absurdly

theorem revoke (vouches : Vouches labels store) (isLabel : label.2 = .revoked leaseId)
    (isId : canonical.leaseId = leaseId) (revokes : store.revoke keys canonical = .ok changed) :
    Vouches (labels ++ [label]) changed := by
  unfold LeaseAuthorityStore.revoke at revokes
  split at revokes
  · cases revokes
  · next present =>
      cases revokes
      have before : ∀ lease, Issued (labels ++ [label]) lease → Issued labels lease := by
        intro lease issued
        refine (issued_snoc.mp issued).resolve_right ?_
        rw [isLabel]
        exact fun absurdly => by cases absurdly
      have lookup (other : Str) := Dict.get?_set store.records canonical.leaseId other
        ⟨{ canonical with revoked := true },
          keys.sign (leaseAuthorityPayload { canonical with revoked := true })⟩
      constructor
      · intro other authority found
        rw [LeaseAuthorityStore.record, lookup] at found
        split at found
        · next same =>
            cases found
            exact same.symm
        · exact vouches.named other authority found
      · intro other authority found live
        obtain ⟨differs, unrevoked⟩ := not_or.mp (mt List.mem_cons.mpr live)
        rw [LeaseAuthorityStore.record, lookup, if_neg differs] at found
        exact issued_snoc.mpr (.inl (vouches.issued other authority found unrevoked))
      · intro lease issued
        rw [LeaseAuthorityStore.record, lookup]
        split
        · rfl
        · exact vouches.recorded lease (before lease issued)
      · exact fun first second isFirst isSecond =>
          vouches.once first second (before first isFirst) (before second isSecond)
      · intro other isRevoked
        rcases revoked_snoc.mp isRevoked with earlier | now
        · exact List.mem_cons_of_mem _ (vouches.revoked other earlier)
        · rw [isLabel] at now
          cases now
          rw [isId]
          exact List.mem_cons_self

end Vouches

theorem run_serve {labels : List LeaseLabel} {dispatcher : LeaseDispatcher}
    (run : (leaseSystem builtins keys).Run labels dispatcher) (call : LeaseCall) :
    (leaseSystem builtins keys).Run
      (labels ++ [(call, (dispatcher.serve builtins keys call).1)])
      (dispatcher.serve builtins keys call).2 :=
  run.step rfl

theorem vouches_of_run {labels : List LeaseLabel} {dispatcher : LeaseDispatcher}
    (run : (leaseSystem builtins keys).Run labels dispatcher) :
    Vouches labels dispatcher.store := by
  induction run with
  | start first =>
      rw [first.2]
      exact Vouches.empty
  | step _ next ih =>
      rcases store_cases next with ⟨lease, isLabel, issues⟩ | ⟨leaseId, canonical, isLabel, isId,
        revokes⟩ | ⟨unissued, unrevoked, kept⟩
      · exact ih.issue isLabel issues
      · exact ih.revoke isLabel isId revokes
      · rw [kept]
        exact ih.keep unissued unrevoked

/-- A lease that was issued once and never revoked, unexpired, and good for the tool. -/
structure Good (labels : List LeaseLabel) (now : PyFloat) (leaseId : Str) (hwnd : Option Int)
    (tool : Str) (lease issued : RuntimeLease) : Prop where
  wasIssued : Issued labels issued
  named : issued.leaseId = leaseId
  only : ∀ other, Issued labels other → other.leaseId = leaseId → other = issued
  neverRevoked : ¬ Revoked labels leaseId
  active : issued.isActive now = true
  unchanged : lease.eqv issued = true
  bound : ∀ handle, hwnd = some handle → handle = issued.hwnd
  allowed : ∃ roles, rolesOf tool = some roles ∧ issued.role ∈ roles

/-- In every run, with the lease map replaced at will, a lease is accepted only as it was
issued, and never once it was revoked. -/
theorem leases_of_run {labels : List LeaseLabel} {dispatcher : LeaseDispatcher}
    (run : (leaseSystem builtins keys).Run labels dispatcher) (leaseId : Str) (hwnd : Option Int)
    (tool : Str) :
    (∀ lease, dispatcher.requireLease keys leaseId hwnd tool = .ok lease →
      ∃ issued, Good labels dispatcher.now leaseId hwnd tool lease issued) ∧
    (Revoked labels leaseId →
      ∃ reason, dispatcher.requireLease keys leaseId hwnd tool = .error reason) := by
  have vouches := vouches_of_run run
  have good : ∀ lease, dispatcher.requireLease keys leaseId hwnd tool = .ok lease →
      ∃ issued, Good labels dispatcher.now leaseId hwnd tool lease issued := by
    intro lease granted
    obtain ⟨canonical, roles, verified, active, bound, areRoles, allowed⟩ :=
      LeaseDispatcher.requireLease_cases granted
    obtain ⟨-, live, same, authority, found, isCanonical⟩ :=
      LeaseAuthorityStore.verify_cases verified
    have wasIssued := vouches.issued leaseId authority found live
    have named := vouches.named leaseId authority found
    rw [isCanonical] at wasIssued named
    refine ⟨canonical, wasIssued, named, ?_, mt (vouches.revoked leaseId) live,
      RuntimeLease.isActive_of_eqv same active, same, ?_, roles, areRoles, allowed⟩
    · exact fun other isOther sameId =>
        vouches.once other canonical isOther wasIssued (sameId.trans named.symm)
    · intro handle isHandle
      rw [← (RuntimeLease.eqv_cases same).2.1]
      exact bound handle isHandle
  refine ⟨good, ?_⟩
  intro isRevoked
  cases required : dispatcher.requireLease keys leaseId hwnd tool with
  | error reason => exact ⟨reason, rfl⟩
  | ok lease =>
      obtain ⟨issued, isGood⟩ := good lease required
      exact absurd isRevoked isGood.neverRevoked

end Sound

/-! A sender's lease is good for reading, and after its revocation for nothing. -/

def plainBuiltins : Builtins where
  isalnum _ := false
  str
    | .str s => s
    | _ => []
  int
    | .int n => .int n
    | _ => .invalid

/-- A scheme with one signature. -/
def tagKeys : LeaseKeys where
  sign _ := [1]
  verify signature _ := signature == [1]

def leaseRequestSample : LeaseRequest where
  leaseId := Str.lit "lease-1"
  agentId := Str.lit "SC-A"
  args := .dict []
  hwnd := 5
  role := Str.lit "sender"
  target := .object [("pid", .int 7), ("exe", Value.lit "term.exe"), ("class", Value.lit "Console")]
  logicalTargetId := []

def leaseStart : LeaseDispatcher := ⟨.empty, .empty, .finite .zero⟩

def requested : LeaseOutcome × LeaseDispatcher :=
  leaseStart.serve plainBuiltins tagKeys (.request leaseRequestSample)

def revokedThen : LeaseOutcome × LeaseDispatcher :=
  requested.2.serve plainBuiltins tagKeys (.revoke (Str.lit "lease-1"))

def isRevokedOutcome : LeaseOutcome → Bool
  | .revoked leaseId => leaseId = Str.lit "lease-1"
  | _ => false

theorem run_requested : (leaseSystem plainBuiltins tagKeys).Run
    [(.request leaseRequestSample, requested.1)] requested.2 :=
  run_serve (.start ⟨rfl, rfl⟩) (.request leaseRequestSample)

theorem run_revokedThen : (leaseSystem plainBuiltins tagKeys).Run
    [(.request leaseRequestSample, requested.1), (.revoke (Str.lit "lease-1"), revokedThen.1)]
    revokedThen.2 :=
  run_serve run_requested (.revoke (Str.lit "lease-1"))

theorem leases_of_run_sender :
    (∃ labels lease issued, requested.2.requireLease tagKeys (Str.lit "lease-1") (some 5)
        (Str.lit "sc_read_output") = .ok lease ∧
      Good labels requested.2.now (Str.lit "lease-1") (some 5) (Str.lit "sc_read_output")
        lease issued) ∧
    ∃ reason, revokedThen.2.requireLease tagKeys (Str.lit "lease-1") (some 5)
      (Str.lit "sc_read_output") = .error reason := by
  constructor
  · have isGranted : (requested.2.requireLease tagKeys (Str.lit "lease-1") (some 5)
        (Str.lit "sc_read_output")).isOk = true := by decide +kernel
    generalize requirement : requested.2.requireLease tagKeys (Str.lit "lease-1") (some 5)
        (Str.lit "sc_read_output") = required at isGranted
    cases required with
    | error reason => cases isGranted
    | ok lease =>
        obtain ⟨issued, good⟩ := (leases_of_run run_requested _ _ _).1 lease requirement
        exact ⟨_, lease, issued, rfl, good⟩
  · apply (leases_of_run run_revokedThen _ _ _).2
    have outcome : isRevokedOutcome revokedThen.1 = true := by decide +kernel
    generalize revokedThen.1 = isOutcome at outcome
    cases isOutcome with
    | revoked leaseId =>
        rw [← of_decide_eq_true outcome]
        exact ⟨_, List.mem_cons_of_mem _ List.mem_cons_self⟩
    | issued _ | granted _ | refused _ | done => cases outcome

end SelfConnect.Delegation
