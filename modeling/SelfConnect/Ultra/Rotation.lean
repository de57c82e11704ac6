import Mathlib.Data.List.Chain
import SelfConnect.Ultra.BindIdentity

namespace SelfConnect.Ultra.Rotation

open SelfConnect.Js SelfConnect.Library SelfConnect.Library.Calls SelfConnect.Ultra.Lifecycle
open SelfConnect.Library.Script (Asks Driven)
open SelfConnect.Ultra.BindIdentity

/-! The credentials that a pair has been bound to, while requests come one at a time and may
crash anywhere. -/

section State

variable {Ticket Row Key : Type} [DecidableEq Row] {backend : Backend Ticket Row Key}
  {s t : Shared Ticket Row Key} {row : Row}

/-- The bindings that a pair has had, the last one first. -/
def chain (s : Shared Ticket Row Key) (row : Row) : List Binding :=
  (s.bound.filter fun entry => entry.1 = row).map (·.2)

theorem chain_bind (binding : Binding) :
    chain (s.bind row binding) row = binding :: chain s row := by
  unfold chain Shared.bind
  rw [List.filter_cons_of_pos (by simp), List.map_cons]

theorem chain_bind_of_ne {other : Row} (differs : other ≠ row) (binding : Binding) :
    chain (s.bind row binding) other = chain s other := by
  unfold chain Shared.bind
  rw [List.filter_cons_of_neg (by simpa using Ne.symm differs)]

/-- The later binding's key has been prepared for the earlier one, and is not revoked. -/
def Replaces (backend : Backend Ticket Row Key) (s : Shared Ticket Row Key) (row : Row)
    (later earlier : Binding) : Prop :=
  ∃ ticket pairId map, backend.row ticket pairId = row ∧ s.keys later.tskClientId = some map ∧
    map.label = rotationLabel later.canonicalId (backend.template pairId) earlier.tskClientId ∧
    map.status ≠ text "revoked"

structure Linked (backend : Backend Ticket Row Key) (s : Shared Ticket Row Key) : Prop where
  head : ∀ row, s.bindings row = (chain s row).head?
  linked : ∀ row, (chain s row).IsChain (Replaces backend s row)

theorem Linked.of_same (linked : Linked backend s) (bindings : t.bindings = s.bindings)
    (bound : t.bound = s.bound)
    (replaces : ∀ row later earlier, Replaces backend s row later earlier →
      Replaces backend t row later earlier) : Linked backend t := by
  have same (row : Row) : chain t row = chain s row := by
    unfold chain
    rw [bound]
  refine ⟨fun row => ?_, fun row => ?_⟩
  · rw [bindings, same, linked.head]
  · rw [same]
    exact (linked.linked row).imp (replaces row)

theorem Linked.of_keys (linked : Linked backend s) (bindings : t.bindings = s.bindings)
    (bound : t.bound = s.bound) (keys : t.keys = s.keys) : Linked backend t := by
  refine linked.of_same bindings bound fun row later earlier replaces => ?_
  obtain ⟨ticket, pairId, map, isRow, isKey, isLabel, notRevoked⟩ := replaces
  exact ⟨ticket, pairId, map, isRow, keys ▸ isKey, isLabel, notRevoked⟩

theorem Linked.bind (linked : Linked backend s) {binding : Binding}
    (replaces : ∀ current, s.bindings row = some current →
      Replaces backend s row binding current) : Linked backend (s.bind row binding) := by
  have kept (other : Row) (later earlier : Binding)
      (replaces : Replaces backend s other later earlier) :
      Replaces backend (s.bind row binding) other later earlier := replaces
  refine ⟨fun other => ?_, fun other => ?_⟩
  · by_cases same : other = row
    · rw [same, chain_bind]
      exact Function.update_self ..
    · rw [chain_bind_of_ne same, ← linked.head]
      exact Function.update_of_ne same ..
  · by_cases same : other = row
    · rw [same, chain_bind]
      have isHead := linked.head row
      have rest := linked.linked row
      cases isChain : chain s row with
      | nil => exact .singleton _
      | cons current earlier =>
          rw [isChain] at isHead rest
          exact .cons_cons (replaces current isHead) (rest.imp (kept row))
    · rw [chain_bind_of_ne same]
      exact (linked.linked other).imp (kept other)

theorem agent_ne_rotation (principal agentPrincipal pairId oldClientId : Text) :
    text "agent:" ++ principal ≠ rotationLabel agentPrincipal pairId oldClientId := by
  intro same
  have heads := congrArg List.head? same
  simp [rotationLabel, text, units] at heads

theorem eq_of_rotationLabel {agentPrincipal pairId first second : Text}
    (same : rotationLabel agentPrincipal pairId first =
      rotationLabel agentPrincipal pairId second) : first = second :=
  List.append_cancel_left same

/-- What every request keeps: the chains, and what has been bound. -/
structure Kept (backend : Backend Ticket Row Key) (base : List (Row × Binding))
    (s : Shared Ticket Row Key) : Prop where
  linked : Linked backend s
  base : base <:+ s.bound

variable {base : List (Row × Binding)}

theorem Kept.of_keys (kept : Kept backend base s) (bindings : t.bindings = s.bindings)
    (bound : t.bound = s.bound) (keys : t.keys = s.keys) : Kept backend base t where
  linked := kept.linked.of_keys bindings bound keys
  base := bound ▸ kept.base

theorem Kept.bind (kept : Kept backend base s) {binding : Binding}
    (replaces : ∀ current, s.bindings row = some current →
      Replaces backend s row binding current) : Kept backend base (s.bind row binding) where
  linked := kept.linked.bind replaces
  base := kept.base.trans (List.suffix_cons _ _)

theorem Kept.setBinding (kept : Kept backend base s) (row : Row) (binding : Binding) :
    Kept backend base (s.setBinding row binding).2 := by
  unfold Shared.setBinding
  split
  · exact kept
  · next unbound =>
      refine kept.bind fun current isCurrent => ?_
      rw [unbound] at isCurrent
      cases isCurrent

theorem Kept.provision (kept : Kept backend base s) (label : Text)
    (provisioned : Except (Option Text) TskMap) :
    Kept backend base (s.provision label provisioned).2 := by
  unfold Shared.provision
  split
  · exact kept
  · split
    · exact kept
    · next map unused =>
        refine ⟨kept.linked.of_same rfl rfl fun row later earlier replaces => ?_, kept.base⟩
        obtain ⟨ticket, pairId, found, isRow, isKey, isLabel, notRevoked⟩ := replaces
        refine ⟨ticket, pairId, found, isRow, ?_, isLabel, notRevoked⟩
        refine (Function.update_of_ne ?_ ..).trans isKey
        intro same
        rw [same, unused] at isKey
        cases isKey

/-- A revocation that the authorizer grants is of a key that replaces none. -/
theorem Kept.revoke (kept : Kept backend base s) {clientId : Option Text} {principal : Text}
    (granted : s.lifecycleAuthorizer clientId principal (text "rotation-commit") = true) :
    Kept backend base (s.revoke clientId) := by
  refine ⟨kept.linked.of_same rfl rfl fun row later earlier replaces => ?_, kept.base⟩
  obtain ⟨ticket, pairId, found, isRow, isKey, isLabel, notRevoked⟩ := replaces
  refine ⟨ticket, pairId, found, isRow, (if_neg ?_).trans isKey, isLabel, notRevoked⟩
  intro same
  unfold Shared.lifecycleAuthorizer at granted
  rw [if_neg (by rintro ⟨-, other⟩; exact absurd other (by decide)), if_neg (by simp), same,
    Option.bind_some, isKey] at granted
  simp only [Bool.and_eq_true, decide_eq_true_eq] at granted
  exact agent_ne_rotation _ _ _ _ (granted.1.symm.trans isLabel)

end State

section Requests

variable {Ticket Row Key : Type} [DecidableEq Row] [DecidableEq Key]
  {backend : Backend Ticket Row Key} {base : List (Row × Binding)}
  {s t : Shared Ticket Row Key} {ticket : Ticket}

/-- Neither swaps a binding nor updates a key. -/
def Request.Plain : Request → Prop
  | .swapBinding _ _ _ => False
  | .updateKey _ _ _ => False
  | _ => True

/-- The requests of one call, which come one at a time. -/
abbrev serveAlone (backend : Backend Ticket Row Key) (ticket : Ticket) (choice : Choice)
    (s : Shared Ticket Row Key) (request : Request) : Response request × Shared Ticket Row Key :=
  serve backend choice ticket s request

omit [DecidableEq Key] in
theorem kept_perform {α : Type} {choice : Choice} {answer : α} (kept : Kept backend base s)
    (done : Kept backend base t) : Kept backend base (perform choice s answer t).2 := by
  rcases perform_snd choice s t answer with same | same
  · rw [same]
    exact kept
  · rw [same]
    exact done

theorem kept_serve (ticket : Ticket) (kept : Kept backend base s) (choice : Choice)
    {request : Request} (plain : Request.Plain request) :
    Kept backend base (serve backend choice ticket s request).2 := by
  cases request with
  | insertEntry key operation agentId =>
      refine kept_perform kept ?_
      unfold Shared.insertEntry
      split
      · exact kept
      · exact kept.of_keys rfl rfl rfl
  | claimedEntry key =>
      refine kept_perform kept ?_
      unfold Shared.reuse
      split
      · exact kept.of_keys rfl rfl rfl
      · exact kept
  | completeEntry key response =>
      refine kept_perform kept ?_
      unfold Shared.completeEntry
      split
      · exact kept.of_keys rfl rfl rfl
      · exact kept
  | setBinding pairId binding => exact kept_perform kept (kept.setBinding _ _)
  | provision label => exact kept_perform kept (kept.provision _ _)
  | swapBinding pairId expected binding => exact plain.elim
  | updateKey clientId requestorId reason => exact plain.elim
  | _ => exact kept_perform kept kept

/-- A call that asks for nothing else keeps the chains. -/
theorem driven_of_plain {α : Type} {p : Script Response α} (asks : Asks Request.Plain p)
    (kept : Kept backend base s) :
    Driven (serveAlone backend ticket) (Kept backend base) (fun _ _ => True) p s := by
  induction p generalizing s with
  | done a => trivial
  | ask request next ih =>
      intro choice
      have still := kept_serve ticket kept choice asks.1
      exact ⟨still, ih _ (asks.2 _) still⟩

omit [DecidableEq Row] [DecidableEq Key] in
theorem plain_finishIdempotent (stringify : Json → Text) (key : Text) (response : Json) :
    Asks Request.Plain (finishIdempotent stringify key response).run := by
  refine asks_ask trivial fun updated => ?_
  split
  · trivial
  · refine asks_ask trivial fun existing => ?_
    split
    · split <;> trivial
    · trivial

omit [DecidableEq Row] [DecidableEq Key] in
theorem plain_claimIdempotency (call : Call) (operation : Text) :
    Asks Request.Plain (claimIdempotency call operation).run := by
  unfold claimIdempotency
  split
  · refine asks_ask trivial fun inserted => ?_
    split
    · trivial
    · refine asks_ask trivial fun existing => ?_
      split
      · split <;> trivial
      · trivial
  · trivial

omit [DecidableEq Row] [DecidableEq Key] in
theorem plain_bindPair (call : Call) (pairId tskClientId : Json) :
    Asks Request.Plain (bindPair backend call pairId tskClientId).run := by
  refine asks_ask trivial fun pair => asks_ask trivial fun tskMap => Asks.ite ?_ trivial
  refine asks_ask trivial fun existing => ?_
  split
  · split
    · exact plain_finishIdempotent _ _ _
    · trivial
  · split
    · refine asks_ask trivial fun isSet => ?_
      split
      · exact plain_finishIdempotent _ _ _
      · trivial
    · trivial

omit [DecidableEq Row] [DecidableEq Key] in
theorem plain_bindIdentity (call : Call) : Asks Request.Plain (bindIdentity backend call).run := by
  unfold bindIdentity
  split
  · split
    · refine asks_bind (plain_claimIdempotency _ _) fun cached => ?_
      split
      · trivial
      · exact plain_bindPair _ _ _
    · trivial
  · trivial

omit [DecidableEq Row] [DecidableEq Key] in
theorem plain_prepareCandidate (call : Call) (label : Text) :
    Asks Request.Plain (prepareCandidate backend call label).run := by
  refine asks_ask trivial fun existing => ?_
  split
  · refine asks_ask trivial fun provisioned => ?_
    split
    · exact plain_finishIdempotent _ _ _
    · trivial
  · split
    · exact plain_finishIdempotent _ _ _
    · trivial
  · trivial

omit [DecidableEq Row] [DecidableEq Key] in
theorem plain_rotatePrepare (call : Call) :
    Asks Request.Plain (rotatePrepare backend call).run := by
  unfold rotatePrepare
  split
  · split
    · refine asks_ask trivial fun pair => asks_ask trivial fun binding => ?_
      split
      · refine asks_bind (plain_claimIdempotency _ _) fun cached => ?_
        split
        · refine asks_ask trivial fun cachedMap => ?_
          split <;> trivial
        · exact plain_prepareCandidate _ _
      · trivial
    · trivial
  · trivial

section Alone

variable {α : Type} {request : Request} {next : Answer request → Route α}
  {post : Except Reply α → Shared Ticket Row Key → Prop}

/-- After the answer of a query that is done. -/
theorem driven_ask {answer : Choice → Answer request} (kept : Kept backend base s)
    (serves : ∀ choice, serve backend choice ticket s request = perform choice s (answer choice) t)
    (done : Kept backend base t) (raises : ∀ u, post (.error .raised) u)
    (step : ∀ choice, Driven (serveAlone backend ticket) (Kept backend base) post
      (next (answer choice)).run t) :
    Driven (serveAlone backend ticket) (Kept backend base) post (ask request >>= next).run s := by
  intro choice
  change Kept backend base (serve backend choice ticket s request).2 ∧
    Driven (serveAlone backend ticket) (Kept backend base) post
      (answered (serve backend choice ticket s request).1 >>= ExceptT.bindCont next)
      (serve backend choice ticket s request).2
  rw [serves]
  refine ⟨kept_perform kept done, ?_⟩
  cases found : (perform choice s (answer choice) t).1 with
  | none => exact raises _
  | some heard =>
      obtain ⟨isAnswer, isDone⟩ := answer_of_perform found
      cases isAnswer
      rw [isDone]
      exact step choice

/-- A query that changes nothing. -/
theorem driven_read {answer : Choice → Answer request} (kept : Kept backend base s)
    (serves : ∀ choice, serve backend choice ticket s request = perform choice s (answer choice) s)
    (raises : ∀ u, post (.error .raised) u)
    (step : ∀ choice, Driven (serveAlone backend ticket) (Kept backend base) post
      (next (answer choice)).run s) :
    Driven (serveAlone backend ticket) (Kept backend base) post (ask request >>= next).run s :=
  driven_ask kept serves kept raises step

end Alone

/-! Commits. -/

variable (backend) in
/-- What a commit has read: the keys of both clients, the newer one labelled for the older. -/
structure Candidate (s : Shared Ticket Row Key) (call : Call) (pairId oldClientId : Json)
    (newClientId oldId : Text) (oldMap newMap : TskMap) : Prop where
  old : backend.client oldClientId = some oldId
  oldKey : s.keys oldId = some oldMap
  newKey : s.keys newClientId = some newMap
  label : newMap.label = rotationLabel call.agent.canonicalId (backend.template pairId) oldId
  active : newMap.status = text "active"

omit [DecidableEq Row] [DecidableEq Key] in
theorem candidate_of_isReplacement {call : Call} {pairId oldClientId : Json} {newClientId : Text}
    {pair : Option Pair} {binding : Option Binding}
    (replacement : isReplacement call.agent (labelOf backend call pairId oldClientId) pair binding
      ((backend.client oldClientId).bind s.keys)
      ((backend.client (.str newClientId)).bind s.keys) = true) :
    ∃ oldId oldMap newMap,
      Candidate backend s call pairId oldClientId newClientId oldId oldMap newMap := by
  unfold isReplacement at replacement
  split at replacement
  · simp only [Bool.and_eq_true, isCandidate, Option.any_eq_true] at replacement
    obtain ⟨⟨-, isOld⟩, newMap, isNew, isLabel, isActive⟩ := replacement
    obtain ⟨oldMap, isOld⟩ := Option.isSome_iff_exists.mp isOld
    obtain ⟨oldId, isOldId, oldKey⟩ := Option.bind_eq_some_iff.mp isOld
    obtain ⟨newId, isNewId, newKey⟩ := Option.bind_eq_some_iff.mp isNew
    have same : newClientId = newId :=
      (backend.template_str _).symm.trans (backend.template_client _ _ isNewId)
    refine ⟨oldId, oldMap, newMap, isOldId, oldKey, same ▸ newKey, ?_, of_decide_eq_true isActive⟩
    rw [of_decide_eq_true isLabel, labelOf, backend.template_client _ _ isOldId]
  · cases replacement

omit [DecidableEq Key] in
theorem chain_suffix {row : Row} (suffix : s.bound <:+ t.bound) :
    chain s row <:+ chain t row :=
  (suffix.filter _).map _

def IsRevoked (s : Shared Ticket Row Key) (clientId : Text) : Prop :=
  ∃ map, s.keys clientId = some map ∧ map.status = text "revoked"

def clientOf (s : Shared Ticket Row Key) (row : Row) : Option Text :=
  (s.bindings row).map (·.tskClientId)

/-- The client is bound, and every other that was bound before is revoked. -/
structure Settled (s : Shared Ticket Row Key) (row : Row) (clientId : Text) : Prop where
  bound : clientOf s row = some clientId
  earlier : ∀ earlier ∈ (chain s row).tail,
    earlier.tskClientId ≠ clientId ∧ IsRevoked s earlier.tskClientId

omit [DecidableEq Key] in
/-- A key that has replaced another is not revoked, so a chain whose second key is revoked
ends there. -/
theorem settled_of_revoked {pairId : Json} {binding : Binding} {newMap : TskMap} {oldId : Text}
    (linked : Linked backend s) (isBound : s.bindings (backend.row ticket pairId) = some binding)
    (newKey : s.keys binding.tskClientId = some newMap)
    (label : newMap.label =
      rotationLabel binding.canonicalId (backend.template pairId) oldId)
    (revoked : IsRevoked s oldId) :
    Settled s (backend.row ticket pairId) binding.tskClientId := by
  refine ⟨congrArg (Option.map _) isBound, ?_⟩
  have isHead := (linked.head _).symm.trans isBound
  have links := linked.linked (backend.row ticket pairId)
  obtain ⟨rest, isChain⟩ := List.head?_eq_some_iff.mp isHead
  rw [isChain] at links ⊢
  cases rest with
  | nil =>
      intro earlier member
      cases member
  | cons second third =>
      obtain ⟨⟨other, otherId, map, isRow, isKey, isLabel, notRevoked⟩, links⟩ :=
        List.isChain_cons_cons.mp links
      obtain ⟨oldMap, oldKey, isRevoked⟩ := revoked
      cases newKey.symm.trans isKey
      have isOld : second.tskClientId = oldId := by
        rw [backend.template_row _ _ _ _ isRow, label] at isLabel
        exact (eq_of_rotationLabel isLabel).symm
      have last : third = [] := by
        cases third with
        | nil => rfl
        | cons third rest =>
            obtain ⟨⟨_, _, map, _, isKey, _, notRevoked⟩, _⟩ := List.isChain_cons_cons.mp links
            rw [isOld, oldKey] at isKey
            cases isKey
            exact absurd isRevoked notRevoked
      intro earlier member
      rw [List.tail_cons, last] at member
      rw [List.mem_singleton.mp member, isOld]
      refine ⟨?_, oldMap, oldKey, isRevoked⟩
      intro same
      rw [← same, oldKey] at newKey
      cases newKey
      exact notRevoked isRevoked

variable (backend base ticket) in
/-- A swap that counts has left the new client bound. -/
def Swapped (s : Shared Ticket Row Key) (call : Call) (pairId newClientId : Json) :
    Except Reply Swap → Shared Ticket Row Key → Prop
  | .error reply, _ => reply = .raised
  | .ok swap, t => ¬ (swap = .missing ∨ swap = .conflict) →
      Kept backend base t ∧ t.keys = s.keys ∧ ∃ clientId, newClientId = .str clientId ∧
        t.bindings (backend.row ticket pairId) = some (bindingOf call.agent clientId)

omit [DecidableEq Row] [DecidableEq Key] in
theorem eq_of_validBinding {call : Call} {clientId : Json} {binding : Binding}
    (isValid : validBinding backend call clientId = some binding) :
    ∃ found, clientId = .str found ∧ binding = bindingOf call.agent found := by
  obtain ⟨found, isText, isValid⟩ := Option.bind_eq_some_iff.mp isValid
  exact ⟨found, Json.eq_str isText, eq_of_validateIdentityBinding isValid⟩

omit [DecidableEq Key] in
theorem kept_swapBinding {call : Call} {pairId oldClientId : Json} {clientId oldId : Text}
    {oldMap newMap : TskMap} (kept : Kept backend base s)
    (candidate : Candidate backend s call pairId oldClientId clientId oldId oldMap newMap) :
    Kept backend base (s.swapBinding (backend.row ticket pairId) (backend.client oldClientId)
      (bindingOf call.agent clientId)).2 := by
  unfold Shared.swapBinding
  split
  · next current found =>
      split
      · next fits =>
          refine kept.bind fun other isCurrent => ?_
          cases found.symm.trans isCurrent
          obtain ⟨isExpected, _⟩ := fits
          have same : oldId = current.tskClientId :=
            Option.some.inj (candidate.old.symm.trans isExpected)
          refine ⟨ticket, pairId, newMap, rfl, candidate.newKey, same ▸ candidate.label, ?_⟩
          rw [candidate.active]
          decide
      · exact kept
  · exact kept

omit [DecidableEq Key] in
theorem bound_of_swapBinding {row : Row} {expected : Option Text} {binding : Binding}
    (updated : (s.swapBinding row expected binding).1 = true) :
    (s.swapBinding row expected binding).2.bindings row = some binding := by
  unfold Shared.swapBinding at updated ⊢
  split
  · next current found =>
      rw [found] at updated
      dsimp only at updated
      split
      · exact Function.update_self ..
      · next differs =>
          rw [if_neg differs] at updated
          cases updated
  · next absent =>
      rw [absent] at updated
      cases updated

omit [DecidableEq Key] in
theorem keys_swapBinding (row : Row) (expected : Option Text) (binding : Binding) :
    (s.swapBinding row expected binding).2.keys = s.keys := by
  unfold Shared.swapBinding
  split
  · split <;> rfl
  · rfl

omit [DecidableEq Key] in
theorem same_of_swapBinding {row : Row} {expected : Option Text} {binding : Binding}
    (refused : (s.swapBinding row expected binding).1 = false) :
    (s.swapBinding row expected binding).2 = s := by
  unfold Shared.swapBinding at refused ⊢
  split
  · next current found =>
      rw [found] at refused
      dsimp only at refused
      split
      · next fits =>
          rw [if_pos fits] at refused
          cases refused
      · rfl
  · rfl

theorem driven_compareAndSwap {call : Call} {pairId oldClientId newClientId : Json}
    (kept : Kept backend base s)
    (candidates : ∀ clientId, newClientId = .str clientId → ∃ oldId oldMap newMap,
      Candidate backend s call pairId oldClientId clientId oldId oldMap newMap) :
    Driven (serveAlone backend ticket) (Kept backend base)
      (Swapped backend base ticket s call pairId newClientId)
      (compareAndSwap backend call pairId oldClientId newClientId).run s := by
  have raises (t : Shared Ticket Row Key) :
      Swapped backend base ticket s call pairId newClientId (.error .raised) t := rfl
  unfold compareAndSwap
  split
  · next binding isValid =>
      obtain ⟨clientId, isText, rfl⟩ := eq_of_validBinding isValid
      obtain ⟨oldId, oldMap, newMap, candidate⟩ := candidates clientId isText
      refine driven_ask kept (fun choice => rfl) (kept_swapBinding kept candidate) raises
        fun choice => ?_
      split
      · next updated =>
          intro _
          exact ⟨kept_swapBinding kept candidate, keys_swapBinding _ _ _, clientId, isText,
            bound_of_swapBinding updated⟩
      · next refused =>
          rw [same_of_swapBinding (Bool.eq_false_iff.mpr refused)]
          refine driven_read kept (fun choice => rfl) raises fun choice' => ?_
          intro counts
          refine ⟨kept, rfl, clientId, isText, ?_⟩
          unfold swapOf at counts
          split at counts
          · exact absurd (.inl rfl) counts
          · next current isCurrent =>
              split at counts
              · next same => rw [isCurrent, same]
              · exact absurd (.inr rfl) counts
  · exact raises _

variable (backend base) in
/-- A revocation that is done. -/
def Revoked (s : Shared Ticket Row Key) (oldId : Text) :
    Except Reply Bool → Shared Ticket Row Key → Prop
  | .error reply, _ => reply = .raised
  | .ok revoked, t => revoked = true →
      Kept backend base t ∧ t.bindings = s.bindings ∧ IsRevoked t oldId ∧
        ∀ id map, s.keys id = some map → ∃ later, t.keys id = some later ∧ later.label = map.label

omit [DecidableEq Row] [DecidableEq Key] in
theorem keys_revoke (clientId : Option Text) {id : Text} {map : TskMap}
    (isKey : s.keys id = some map) :
    ∃ later, (s.revoke clientId).keys id = some later ∧ later.label = map.label := by
  by_cases same : clientId = some id
  · refine ⟨{ map with status := text "revoked" }, (if_pos same).trans ?_, rfl⟩
    rw [isKey]
    rfl
  · exact ⟨map, (if_neg same).trans isKey, rfl⟩

omit [DecidableEq Row] [DecidableEq Key] in
theorem isRevoked_revoke {id : Text} {map : TskMap} (isKey : s.keys id = some map) :
    IsRevoked (s.revoke (some id)) id := by
  refine ⟨{ map with status := text "revoked" }, (if_pos rfl).trans ?_, rfl⟩
  rw [isKey]
  rfl

omit [DecidableEq Key] in
/-- The key provisioner updates only what the authorizer grants. -/
theorem kept_updateKey (kept : Kept backend base s) (choice : Choice) (clientId : Option Text)
    (principal : Text) :
    Kept backend base (s.updateKey clientId (backend.updateKey choice
      (s.lifecycleAuthorizer clientId principal (text "rotation-commit")))).2 := by
  cases granted : s.lifecycleAuthorizer clientId principal (text "rotation-commit") with
  | false =>
      rcases backend.denied choice with failed | declined
      · rw [failed]
        exact kept
      · rw [declined]
        exact kept
  | true =>
      unfold Shared.updateKey
      split
      · exact kept
      · exact kept
      · exact kept.revoke granted
      · exact kept.revoke granted

theorem driven_revokeOld {call : Call} {oldClientId : Json} {oldId : Text} {oldMap : TskMap}
    (kept : Kept backend base s) (old : backend.client oldClientId = some oldId)
    (oldKey : s.keys oldId = some oldMap) :
    Driven (serveAlone backend ticket) (Kept backend base) (Revoked backend base s oldId)
      (revokeOld call oldClientId (some oldMap)).run s := by
  unfold revokeOld
  split
  · next isRevoked =>
      intro _
      refine ⟨kept, rfl, ⟨oldMap, oldKey, of_decide_eq_true isRevoked⟩, ?_⟩
      exact fun id map isKey => ⟨map, isKey, rfl⟩
  · intro choice
    have still := kept_updateKey kept choice (backend.client oldClientId) call.agent.canonicalId
    refine ⟨still, ?_⟩
    change Driven (serveAlone backend ticket) (Kept backend base) (Revoked backend base s oldId)
      (answered (s.updateKey (backend.client oldClientId) (backend.updateKey choice
        (s.lifecycleAuthorizer (backend.client oldClientId) call.agent.canonicalId
          (text "rotation-commit")))).1) (s.updateKey (backend.client oldClientId)
            (backend.updateKey choice (s.lifecycleAuthorizer (backend.client oldClientId)
              call.agent.canonicalId (text "rotation-commit")))).2
    rw [old] at still ⊢
    revert still
    cases backend.updateKey choice (s.lifecycleAuthorizer (some oldId) call.agent.canonicalId
      (text "rotation-commit")) with
    | updated =>
        exact fun still _ => ⟨still, rfl, isRevoked_revoke oldKey, fun id map => keys_revoke _⟩
    | declined =>
        intro _ same
        cases same
    | _ => exact fun _ => rfl

variable (backend ticket) in
/-- A commit's success leaves the client it names bound, and every other revoked. -/
def Commits (call : Call) (reply : Reply) (t : Shared Ticket Row Key) : Prop :=
  ∀ body, reply = .json 200 body → ∃ pairId clientId, call.body.get? "pairId" = some pairId ∧
    call.body.get? "newClientId" = some (.str clientId) ∧
    Settled t (backend.row ticket pairId) clientId

theorem driven_commitRotation {call : Call} {pairId oldClientId newClientId : Json}
    (kept : Kept backend base s) (isPair : call.body.get? "pairId" = some pairId)
    (isNew : call.body.get? "newClientId" = some newClientId) :
    Driven (serveAlone backend ticket) (Kept backend base)
      (fun outcome t => Commits backend ticket call (replied outcome) t)
      (commitRotation backend call pairId oldClientId newClientId).run s := by
  have refused (status : Nat) (error : String) (notOk : status ≠ 200)
      (t : Shared Ticket Row Key) :
      Commits backend ticket call (refusal status error) t := by
    intro body same
    cases same
    exact absurd rfl notOk
  have raises (t : Shared Ticket Row Key) : Commits backend ticket call .raised t := by
    intro body same
    cases same
  unfold commitRotation
  refine driven_read kept (fun choice => rfl) raises fun first => ?_
  refine driven_read kept (fun choice => rfl) raises fun second => ?_
  refine driven_read kept (fun choice => rfl) raises fun third => ?_
  refine driven_read kept (fun choice => rfl) raises fun fourth => ?_
  split
  · next replacement =>
      have candidates (clientId : Text) (isText : newClientId = .str clientId) :=
        candidate_of_isReplacement (isText ▸ replacement)
      refine (driven_compareAndSwap kept candidates).bindExcept ?_ ?_
      · intro reply t isRaised
        rw [isRaised]
        exact raises t
      · intro swap t swapped
        split
        · exact refused 409 _ (by decide) t
        · next counts =>
            obtain ⟨kept, sameKeys, clientId, isText, isBound⟩ := swapped counts
            obtain ⟨oldId, oldMap, newMap, candidate⟩ := candidates clientId isText
            have isOld : ((some oldClientId).bind backend.client).bind s.keys = some oldMap := by
              rw [Option.bind_some, candidate.old]
              exact candidate.oldKey
            rw [isOld]
            refine (driven_revokeOld kept candidate.old
              (sameKeys ▸ candidate.oldKey)).bindExcept ?_ ?_
            · intro reply u isRaised
              rw [isRaised]
              exact raises u
            · intro revoked u isRevoked
              split
              · next isDone =>
                  obtain ⟨kept, sameBindings, oldRevoked, sameLabels⟩ := isRevoked isDone
                  obtain ⟨later, laterKey, sameLabel⟩ :=
                    sameLabels clientId newMap (sameKeys ▸ candidate.newKey)
                  intro body _
                  refine ⟨pairId, clientId, isPair, isText ▸ isNew, ?_⟩
                  exact settled_of_revoked kept.linked (sameBindings ▸ isBound) laterKey
                    (sameLabel.trans candidate.label) oldRevoked
              · exact refused 500 _ (by decide) u
  · exact refused 409 _ (by decide) s

theorem driven_rotateCommit {call : Call} (kept : Kept backend base s) :
    Driven (serveAlone backend ticket) (Kept backend base)
      (fun outcome t => Commits backend ticket call (replied outcome) t)
      (rotateCommit backend call).run s := by
  have refused : Commits backend ticket call (refusal 400 "INVALID_ROTATION_REQUEST") s := by
    intro body same
    cases same
  unfold rotateCommit
  split
  · next pairId oldClientId newClientId isPair isOld isNew =>
      split
      · exact refused
      · exact driven_commitRotation kept (eq_of_truthy isPair) (eq_of_truthy isNew)
  · exact refused

/-- What is asked of the server, and how far it comes. -/
structure Served (Ticket : Type) where
  ticket : Ticket
  call : Call
  choices : List Choice

variable (backend) in
/-- Serve a call alone, until it ends or stops. -/
def respond (s : Shared Ticket Row Key) (served : Served Ticket) :
    Option Reply × Shared Ticket Row Key :=
  (program backend served.call).drive (serveAlone backend served.ticket) served.choices s

variable (backend) in
def after (start : Shared Ticket Row Key) (served : List (Served Ticket)) :
    Shared Ticket Row Key :=
  served.foldl (fun s one => (respond backend s one).2) start

theorem respond_kept (kept : Kept backend base s) (served : Served Ticket) :
    Kept backend base (respond backend s served).2 ∧
      (served.call.action = .rotateCommit → ∀ reply, (respond backend s served).1 = some reply →
        Commits backend served.ticket served.call reply (respond backend s served).2) := by
  have replies : Driven (serveAlone backend served.ticket) (Kept backend base)
      (fun reply t => served.call.action = .rotateCommit →
        Commits backend served.ticket served.call reply t) (program backend served.call) s := by
    have first : Driven (serveAlone backend served.ticket) (Kept backend base)
        (fun outcome t => served.call.action = .rotateCommit →
          Commits backend served.ticket served.call (replied outcome) t)
        (route backend served.call).run s := by
      unfold route
      cases served.call.action with
      | bindIdentity =>
          refine (driven_of_plain (plain_bindIdentity _) kept).mono fun _ _ _ isCommit => ?_
          cases isCommit
      | rotatePrepare =>
          refine (driven_of_plain (plain_rotatePrepare _) kept).mono fun _ _ _ isCommit => ?_
          cases isCommit
      | rotateCommit => exact (driven_rotateCommit kept).mono fun _ _ commits _ => commits
    exact first.bind fun outcome t commits => commits
  obtain ⟨still, ended⟩ := replies.drive kept served.choices
  exact ⟨still, fun isCommit reply isReply => ended reply isReply isCommit⟩

theorem kept_after (kept : Kept backend base s) (served : List (Served Ticket)) :
    Kept backend base (after backend s served) := by
  induction served generalizing s with
  | nil => exact kept
  | cons one rest ih => exact ih (respond_kept kept one).1

theorem bound_after (linked : Linked backend s) (served : List (Served Ticket)) :
    s.bound <:+ (after backend s served).bound :=
  (kept_after ⟨linked, List.suffix_rfl⟩ served).base

omit [DecidableEq Key] in
theorem head_of_clientOf {row : Row} {clientId : Text} (linked : Linked backend s)
    (isClient : clientOf s row = some clientId) :
    ∃ binding, (chain s row).head? = some binding ∧ binding.tskClientId = clientId := by
  obtain ⟨binding, isBound, isClient⟩ := Option.map_eq_some_iff.mp isClient
  exact ⟨binding, (linked.head row).symm.trans isBound, isClient⟩

omit [DecidableEq Key] in
theorem clientOf_of_chain {row : Row} (linked : Linked backend s) (linked' : Linked backend t)
    (same : chain s row = chain t row) : clientOf s row = clientOf t row := by
  unfold clientOf
  rw [linked.head, linked'.head, same]

omit [DecidableEq Key] in
/-- Nothing has been bound since, or another client has taken its place. -/
theorem Settled.cases {row : Row} {clientId id : Text} (settled : Settled t row clientId)
    (linked : Linked backend s) (suffix : chain s row <:+ chain t row)
    (isClient : clientOf s row = some id) :
    chain s row = chain t row ∨ (id ≠ clientId ∧ IsRevoked t id) := by
  cases isChain : chain t row with
  | nil =>
      rw [isChain] at suffix
      exact .inl (List.suffix_nil.mp suffix)
  | cons newest earlier =>
      rw [isChain] at suffix
      refine (List.suffix_cons_iff.mp suffix).imp_right fun suffix => ?_
      obtain ⟨binding, isHead, isClient⟩ := head_of_clientOf linked isClient
      have member : binding ∈ (chain t row).tail := by
        rw [isChain]
        exact suffix.subset (List.mem_of_mem_head? isHead)
      exact isClient ▸ settled.earlier binding member

/-- Each pair's history begins with what it is bound to. -/
def Begins (start : Shared Ticket Row Key) : Prop :=
  ∀ row, chain start row = (start.bindings row).toList

omit [DecidableEq Key] in
theorem linked_of_begins (begins : Begins s) : Linked backend s := by
  refine ⟨fun row => ?_, fun row => ?_⟩
  · rw [begins row]
    exact Option.head?_toList.symm
  · rw [begins row]
    cases s.bindings row with
    | none => exact .nil
    | some binding => exact .singleton binding

variable (backend) in
/-- The client that a pair is bound to after so many calls. -/
def clientAt (start : Shared Ticket Row Key) (served : List (Served Ticket)) (row : Row) (k : Nat) :
    Option Text :=
  clientOf (after backend start (served.take k)) row

theorem after_take {start : Shared Ticket Row Key} (served : List (Served Ticket)) {j k : Nat}
    (before : j ≤ k) : after backend start (served.take k) =
      after backend (after backend start (served.take j)) ((served.take k).drop j) := by
  unfold after
  rw [← List.foldl_append]
  congr 1
  have rejoined := List.take_append_drop j (served.take k)
  rw [List.take_take, Nat.min_eq_left before] at rejoined
  exact rejoined.symm

/-- When a commit succeeds, the client it names is bound to the pair. Every other that was bound
when it came is revoked, and none has been bound since the one it names. -/
theorem settled_of_commit {start : Shared Ticket Row Key} (begins : Begins start)
    (served : List (Served Ticket)) {last : Served Ticket} {body : Json}
    (isCommit : last.call.action = .rotateCommit)
    (succeeded : (respond backend (after backend start served) last).1 =
      some (.json 200 body)) :
    let final := (respond backend (after backend start served) last).2
    ∃ pairId clientId, last.call.body.get? "pairId" = some pairId ∧
      last.call.body.get? "newClientId" = some (.str clientId) ∧
      let row := backend.row last.ticket pairId
      clientOf final row = some clientId ∧
      (∀ k earlier, clientAt backend start served row k = some earlier → earlier ≠ clientId →
        IsRevoked final earlier) ∧
      ∀ j k, j ≤ k → clientAt backend start served row j = some clientId →
        clientAt backend start served row k = some clientId := by
  intro final
  have kept (some : List (Served Ticket)) : Kept backend [] (after backend start some) :=
    kept_after ⟨linked_of_begins begins, List.nil_suffix⟩ some
  obtain ⟨pairId, clientId, isPair, isNew, settled⟩ :=
    (respond_kept (kept served) last).2 isCommit _ succeeded body rfl
  have linked (k : Nat) : Linked backend (after backend start (served.take k)) := (kept _).linked
  have suffix (k : Nat) (row : Row) :
      chain (after backend start (served.take k)) row <:+ chain final row := by
    have early := bound_after (linked k) (served.drop k)
    have rejoined : after backend (after backend start (served.take k)) (served.drop k) =
        after backend start served := by
      unfold after
      rw [← List.foldl_append, List.take_append_drop]
    rw [rejoined] at early
    have late := (respond_kept ⟨(kept served).linked, List.suffix_rfl⟩ last).1.base
    exact chain_suffix (early.trans late)
  have linkedFinal : Linked backend final := (respond_kept (kept served) last).1.linked
  refine ⟨pairId, clientId, isPair, isNew, settled.bound, ?_, ?_⟩
  · intro k earlier wasBound differs
    rcases settled.cases (linked k) (suffix k _) wasBound with same | replaced
    · have isClient := (clientOf_of_chain (linked k) linkedFinal same).symm.trans wasBound
      exact absurd (Option.some.inj (isClient.symm.trans settled.bound)) differs
    · exact replaced.2
  · intro j k before wasBound
    rcases settled.cases (linked j) (suffix j _) wasBound with same | replaced
    · have between : chain (after backend start (served.take j)) (backend.row last.ticket pairId)
          <:+ chain (after backend start (served.take k)) (backend.row last.ticket pairId) := by
        rw [after_take served before]
        exact chain_suffix (bound_after (linked j) _)
      rw [same] at between
      have same' := (suffix k (backend.row last.ticket pairId)).eq_of_length_le between.length_le
      exact (clientOf_of_chain (linked k) linkedFinal same').trans settled.bound
    · exact absurd rfl replaced.1

end Requests

def samplePair : Option Text := some (text "pair")

/-- The pair is bound to the agent's only credential. -/
def boundTables : Shared Nat (Option Text) Text where
  bindings row := if row = samplePair then some (bindingOf sampleAgent (text "a")) else none
  entries _ := none
  keys id := if id = text "a" then
      some ⟨id, text "agent:" ++ sampleAgent.canonicalId, text "active", text "secret"⟩
    else none
  bound := [(samplePair, bindingOf sampleAgent (text "a"))]
  completer _ := none
  reused := []

def rotationCall (action : Action) : Call where
  action := action
  agent := sampleAgent
  headerKey := sampleKey
  body := .obj [(text "pairId", .str (text "pair")), (text "oldClientId", .str (text "a")),
    (text "newClientId", .str (text "b")), (text "agentId", .str sampleAgent.agentId),
    (text "idempotencyKey", .str sampleKey)]

def provisioning : Choice :=
  { answering with provisioned := .ok ⟨text "b", [], [], text "secret"⟩ }

/-- A key is prepared, and the commit stops after it has swapped the binding. -/
def crashed : List (Served Nat) :=
  [⟨0, rotationCall .rotatePrepare, List.replicate 6 provisioning⟩,
    ⟨1, rotationCall .rotateCommit, List.replicate 5 answering⟩]

def retry : Served Nat := ⟨2, rotationCall .rotateCommit, List.replicate 7 answering⟩

theorem begins_boundTables : Begins boundTables := by
  intro row
  by_cases same : row = samplePair
  · rw [same]
    rfl
  · have unbound : boundTables.bindings row = none := if_neg same
    have never : chain boundTables row = chain { boundTables with bound := [] } row :=
      congrArg (List.map _) (List.filter_cons_of_neg (by simpa using Ne.symm same))
    rw [unbound, never]
    rfl

theorem settled_of_commit_retried :
    let final := (respond sampleBackend (after sampleBackend boundTables crashed) retry).2
    ∃ pairId clientId, retry.call.body.get? "pairId" = some pairId ∧
      retry.call.body.get? "newClientId" = some (.str clientId) ∧
      let row := sampleBackend.row retry.ticket pairId
      clientOf final row = some clientId ∧
      (∀ k earlier, clientAt sampleBackend boundTables crashed row k = some earlier →
        earlier ≠ clientId → IsRevoked final earlier) ∧
      ∀ j k, j ≤ k → clientAt sampleBackend boundTables crashed row j = some clientId →
        clientAt sampleBackend boundTables crashed row k = some clientId := by
  have replied : (respond sampleBackend (after sampleBackend boundTables crashed) retry).1 =
      some (committed (.str (text "pair")) (.str (text "a")) (.str (text "b")) .already) := rfl
  exact settled_of_commit begins_boundTables crashed rfl replied

end SelfConnect.Ultra.Rotation
