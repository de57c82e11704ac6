import SelfConnect.Library.Calls
import SelfConnect.Ultra.Export

namespace SelfConnect.Ultra.Identity

open SelfConnect.Js SelfConnect.Library SelfConnect.Library.Calls SelfConnect.Ultra.Outbox

/-! The identity binding stores, in any interleaving of their calls on one table: in memory, in
PostgreSQL and replicated, and the applier of a replica. -/

abbrev Rows := Text → Option Binding

/-- `validateIdentityBinding` of what a caller gives. -/
def plainBinding (codec : Codec) (value : Json) : Option Binding := do
  guard (exactKeys value ["agentId", "agentPublicKeyHex", "canonicalId", "tskClientId"])
  let tskClientId ← value.getStr? "tskClientId"
  let agentId ← value.getStr? "agentId"
  let canonicalId ← value.getStr? "canonicalId"
  let agentPublicKeyHex ← value.getStr? "agentPublicKeyHex"
  validateIdentityBinding codec.keySha256 ⟨tskClientId, agentId, canonicalId, agentPublicKeyHex⟩

def sameOwner (current binding : Binding) : Bool :=
  current.agentId = binding.agentId && current.canonicalId = binding.canonicalId &&
    current.agentPublicKeyHex = binding.agentPublicKeyHex

namespace MemoryIdentityBindingStore

def set (rows : Rows) (pairId : Text) (binding : Binding) : Option Rows :=
  match rows pairId with
  | none => some (Function.update rows pairId (some binding))
  | some current =>
      if current = binding then some (Function.update rows pairId (some binding)) else none

/-- The client that is expected may be no text. -/
def compareAndSwap (rows : Rows) (pairId : Text) (expectedClientId : Option Text)
    (binding : Binding) : SwapAnswer × Rows :=
  match rows pairId with
  | none => (.missing, rows)
  | some current =>
      if current = binding then (.already, rows)
      else if some current.tskClientId ≠ expectedClientId ∨ sameOwner current binding = false then
        (.conflict, rows)
      else (.updated, Function.update rows pairId (some binding))

end MemoryIdentityBindingStore

namespace PgIdentityBindingStore

/-- `INSERT … ON CONFLICT DO UPDATE … WHERE`, and whether a row came back. -/
def upsert (rows : Rows) (pairId : Text) (binding : Binding) : Bool × Rows :=
  match rows pairId with
  | none => (true, Function.update rows pairId (some binding))
  | some current => (current = binding, rows)

/-- `UPDATE … WHERE`, and whether a row came back. -/
def update (rows : Rows) (pairId : Text) (expectedClientId : Option Text) (binding : Binding) :
    Bool × Rows :=
  match rows pairId with
  | none => (false, rows)
  | some current =>
      if some current.tskClientId = expectedClientId ∧ sameOwner current binding = true then
        (true, Function.update rows pairId
          (some { current with tskClientId := binding.tskClientId }))
      else (false, rows)

end PgIdentityBindingStore

/-- One step of a store: a method in memory, a statement, or a transaction, which holds its rows
until it ends. -/
inductive Request
  | memorySet (pairId : Text) (binding : Binding)
  | memorySwap (pairId : Text) (expectedClientId : Option Text) (binding : Binding)
  | upsert (pairId : Text) (binding : Binding)
  | update (pairId : Text) (expectedClientId : Option Text) (binding : Binding)
  | select (pairId : Text)
  | replicatedSet (pairId : Json) (binding : BindingValue)
  | replicatedSwap (pairId expectedClientId : Json) (binding : BindingValue)
  | apply (mutation : Json)

abbrev Answer : Request → Type
  | .memorySet _ _ => Unit
  | .memorySwap _ _ _ => SwapAnswer
  | .upsert _ _ => Bool
  | .update _ _ _ => Bool
  | .select _ => Option Binding
  | .replicatedSet _ _ => Unit
  | .replicatedSwap _ _ _ => SwapAnswer
  | .apply _ => Unit

/-- There is no answer where the store throws. -/
abbrev Response (request : Request) : Type := Option (Answer request)

/-- A query may throw before it is done, or be done and its answer lost. -/
structure Fault where
  fails : Bool
  lost : Bool

inductive Store
  | memory
  | postgres

inductive Call
  | set (store : Store) (pairId : Text) (binding : Json)
  | compareAndSwap (store : Store) (pairId : Text) (expectedClientId : Option Text)
      (binding : Json)
  | replicatedSet (pairId : Json) (binding : BindingValue)
  | replicatedSwap (pairId expectedClientId : Json) (binding : BindingValue)
  | apply (mutation : Json)

inductive Outcome
  | set (done : Option Unit)
  | swap (answer : Option SwapAnswer)

section Stores

variable {codec : Codec} (database : Database) (outbox : DurableOutbox codec)

def Fault.perform {α : Type} (fault : Fault) (s : Tables) (answer : α) (rows : Rows) :
    Option α × Tables :=
  if fault.fails then (none, s)
  else (if fault.lost then none else some answer, { s with bindings := rows })

def serve {Ticket : Type} (fault : Fault) (_ : Ticket) (s : Tables) :
    (request : Request) → Response request × Tables
  | .memorySet pairId binding =>
      match MemoryIdentityBindingStore.set s.bindings pairId binding with
      | some rows => (some (), { s with bindings := rows })
      | none => (none, s)
  | .memorySwap pairId expectedClientId binding =>
      let done := MemoryIdentityBindingStore.compareAndSwap s.bindings pairId expectedClientId
        binding
      (some done.1, { s with bindings := done.2 })
  | .upsert pairId binding =>
      let done := PgIdentityBindingStore.upsert s.bindings pairId binding
      fault.perform s done.1 done.2
  | .update pairId expectedClientId binding =>
      let done := PgIdentityBindingStore.update s.bindings pairId expectedClientId binding
      fault.perform s done.1 done.2
  | .select pairId => fault.perform s (s.bindings pairId) s.bindings
  | .replicatedSet pairId binding =>
      match Outbox.set outbox pairId binding s with
      | some done => fault.perform s done.answer done.tables.bindings
      | none => (none, s)
  | .replicatedSwap pairId expectedClientId binding =>
      match Outbox.compareAndSwap outbox pairId expectedClientId binding s with
      | some done => fault.perform s done.answer done.tables.bindings
      | none => (none, s)
  | .apply mutation =>
      match applyInTx codec database s mutation with
      | some t => fault.perform s () t.bindings
      | none => (none, s)

variable (codec)

def setIn (store : Store) (pairId : Text) (binding : Json) : Script Response (Option Unit) :=
  match plainBinding codec binding with
  | none => .done none
  | some binding =>
      match store with
      | .memory => .ask (.memorySet pairId binding) .done
      | .postgres => .ask (.upsert pairId binding) fun inserted =>
          .done (if inserted = some true then some () else none)

/-- What the row says once no row has been updated; a row that is not valid throws. -/
def diagnose (binding : Binding) (found : Option (Option Binding)) : Option SwapAnswer := do
  match ← found with
  | none => return .missing
  | some current => do
      let current ← validateIdentityBinding codec.keySha256 current
      return if current = binding then .already else .conflict

def swapIn (store : Store) (pairId : Text) (expectedClientId : Option Text) (binding : Json) :
    Script Response (Option SwapAnswer) :=
  match plainBinding codec binding with
  | none => .done none
  | some binding =>
      match store with
      | .memory => .ask (.memorySwap pairId expectedClientId binding) .done
      | .postgres => .ask (.update pairId expectedClientId binding) fun updated =>
          match updated with
          | none => .done none
          | some true => .done (some .updated)
          | some false => .ask (.select pairId) fun found => .done (diagnose codec binding found)

def program : Call → Script Response Outcome
  | .set store pairId binding => setIn codec store pairId binding >>= fun done => .done (.set done)
  | .compareAndSwap store pairId expectedClientId binding =>
      swapIn codec store pairId expectedClientId binding >>= fun answer => .done (.swap answer)
  | .replicatedSet pairId binding =>
      .ask (.replicatedSet pairId binding) fun done => .done (.set done)
  | .replicatedSwap pairId expectedClientId binding =>
      .ask (.replicatedSwap pairId expectedClientId binding) fun answer => .done (.swap answer)
  | .apply mutation => .ask (.apply mutation) fun done => .done (.set done)

end Stores

/-! What one request does to a row. -/

section Rows

variable (codec : Codec)

def Derived (binding : Binding) : Prop :=
  identityPrincipalsFromPublicKeyHex codec.keySha256 binding.agentPublicKeyHex =
    some (binding.agentId, binding.canonicalId)

structure SameOwner (current binding : Binding) : Prop where
  agentId : binding.agentId = current.agentId
  canonicalId : binding.canonicalId = current.canonicalId
  agentPublicKeyHex : binding.agentPublicKeyHex = current.agentPublicKeyHex

/-- A swap of the row that expects the client. -/
def Call.Swaps : Call → Text → Text → Prop
  | .compareAndSwap _ pairId expectedClientId _, row, clientId =>
      pairId = row ∧ expectedClientId = some clientId
  | .replicatedSwap pairId expectedClientId _, row, clientId =>
      pairId = .str row ∧ expectedClientId = .str clientId
  | .apply mutation, row, clientId =>
      ∃ binding, sanitizeMutation codec mutation = some (.swap row clientId binding)
  | _, _, _ => False

/-- What a row may become, where `swaps` are the clients that may be expected of it. -/
inductive Change (swaps : Text → Prop) : Option Binding → Option Binding → Prop
  | same (row : Option Binding) : Change swaps row row
  | bound {binding : Binding} : Derived codec binding → Change swaps none (some binding)
  | swapped {current binding : Binding} : SameOwner current binding → swaps current.tskClientId →
      Change swaps (some current) (some binding)

/-- What a call of this kind may ask for. -/
def Request.Asked (call : Call) : Request → Prop
  | .memorySet _ binding => Derived codec binding
  | .memorySwap pairId expectedClientId _ =>
      ∀ clientId, expectedClientId = some clientId → call.Swaps codec pairId clientId
  | .upsert _ binding => Derived codec binding
  | .update pairId expectedClientId _ =>
      ∀ clientId, expectedClientId = some clientId → call.Swaps codec pairId clientId
  | .select _ => True
  | .replicatedSet _ _ => True
  | .replicatedSwap pairId expectedClientId _ => ∀ row clientId, pairId = .str row →
      expectedClientId = .str clientId → call.Swaps codec row clientId
  | .apply mutation => ∀ row clientId binding,
      sanitizeMutation codec mutation = some (.swap row clientId binding) →
        call.Swaps codec row clientId

variable {codec} {swaps : Text → Text → Prop}

theorem SameOwner.refl (binding : Binding) : SameOwner binding binding := ⟨rfl, rfl, rfl⟩

theorem SameOwner.trans {first second third : Binding} (front : SameOwner first second)
    (back : SameOwner second third) : SameOwner first third where
  agentId := back.agentId.trans front.agentId
  canonicalId := back.canonicalId.trans front.canonicalId
  agentPublicKeyHex := back.agentPublicKeyHex.trans front.agentPublicKeyHex

theorem SameOwner.derived {current binding : Binding} (same : SameOwner current binding)
    (derived : Derived codec current) : Derived codec binding := by
  unfold Derived
  rw [same.agentId, same.canonicalId, same.agentPublicKeyHex]
  exact derived

theorem sameOwner_iff {current binding : Binding} :
    sameOwner current binding = true ↔ SameOwner current binding := by
  simp only [sameOwner, Bool.and_eq_true, decide_eq_true_eq, and_assoc]
  constructor
  · rintro ⟨agent, canonical, key⟩
    exact ⟨agent.symm, canonical.symm, key.symm⟩
  · exact fun same => ⟨same.agentId.symm, same.canonicalId.symm, same.agentPublicKeyHex.symm⟩

theorem derived_of_validateIdentityBinding {binding valid : Binding}
    (isValid : validateIdentityBinding codec.keySha256 binding = some valid) :
    Derived codec valid := by
  rw [eq_of_validateIdentityBinding isValid]
  unfold validateIdentityBinding at isValid
  split at isValid
  · next derived => exact derived.2
  · cases isValid

/-- Every row may have become what it is. -/
def Changed (codec : Codec) (swaps : Text → Text → Prop) (rows changed : Rows) : Prop :=
  ∀ pairId, Change codec (swaps pairId) (rows pairId) (changed pairId)

theorem Changed.refl (rows : Rows) : Changed codec swaps rows rows := fun _ => .same _

theorem Changed.update {rows : Rows} {pairId : Text} {binding : Binding}
    (change : Change codec (swaps pairId) (rows pairId) (some binding)) :
    Changed codec swaps rows (Function.update rows pairId (some binding)) := by
  intro other
  by_cases same : other = pairId
  · rw [same, Function.update_self]
    exact change
  · rw [Function.update_of_ne same]
    exact .same _

variable {rows : Rows} {pairId : Text} {binding : Binding} {s t : Tables}

theorem changed_memorySet {changed : Rows} (derived : Derived codec binding)
    (done : MemoryIdentityBindingStore.set rows pairId binding = some changed) :
    Changed codec swaps rows changed := by
  unfold MemoryIdentityBindingStore.set at done
  split at done
  · next unbound =>
      cases done
      refine .update ?_
      rw [unbound]
      exact .bound derived
  · next current found =>
      split at done
      · next same =>
          cases done
          refine .update ?_
          rw [found, same]
          exact .same _
      · cases done

theorem changed_memorySwap {expectedClientId : Option Text}
    (asked : ∀ clientId, expectedClientId = some clientId → swaps pairId clientId) :
    Changed codec swaps rows
      (MemoryIdentityBindingStore.compareAndSwap rows pairId expectedClientId binding).2 := by
  unfold MemoryIdentityBindingStore.compareAndSwap
  split
  · exact .refl _
  · next current found =>
      split
      · exact .refl _
      · split
        · exact .refl _
        · next fitting =>
            obtain ⟨isExpected, isOwner⟩ := not_or.mp fitting
            refine .update ?_
            rw [found]
            exact .swapped (sameOwner_iff.mp (Bool.eq_true_of_not_eq_false isOwner))
              (asked _ (not_not.mp isExpected).symm)

theorem changed_upsert (derived : Derived codec binding) :
    Changed codec swaps rows (PgIdentityBindingStore.upsert rows pairId binding).2 := by
  unfold PgIdentityBindingStore.upsert
  split
  · next unbound =>
      refine .update ?_
      rw [unbound]
      exact .bound derived
  · exact .refl _

theorem changed_update {expectedClientId : Option Text}
    (asked : ∀ clientId, expectedClientId = some clientId → swaps pairId clientId) :
    Changed codec swaps rows
      (PgIdentityBindingStore.update rows pairId expectedClientId binding).2 := by
  unfold PgIdentityBindingStore.update
  split
  · exact .refl _
  · next current found =>
      split
      · next fitting =>
          refine .update ?_
          rw [found]
          exact .swapped ⟨rfl, rfl, rfl⟩ (asked _ fitting.1.symm)
      · exact .refl _

theorem sameOwner_of_fits {current : Binding} {expectedClientId : Text}
    (fitting : fits current expectedClientId binding = true) :
    current.tskClientId = expectedClientId ∧ SameOwner current binding := by
  simp only [fits, Bool.and_eq_true, decide_eq_true_eq] at fitting
  obtain ⟨⟨⟨isExpected, agent⟩, canonical⟩, key⟩ := fitting
  exact ⟨isExpected, agent.symm, canonical.symm, key.symm⟩

theorem changed_replicatedSet {outbox : DurableOutbox codec} {pairId : Json}
    {binding : BindingValue} {done : Done Unit}
    (isDone : Outbox.set outbox pairId binding s = some done) :
    Changed codec swaps s.bindings done.tables.bindings := by
  obtain ⟨mutation, sanitized, isDone⟩ := Option.bind_eq_some_iff.mp isDone
  have valid := valid_of_sanitizeMutation sanitized
  split at isDone
  · next pairId binding =>
      obtain ⟨record, -, isDone⟩ := Option.bind_eq_some_iff.mp isDone
      split at isDone
      · next unbound =>
          cases isDone
          refine .update ?_
          rw [unbound]
          exact .bound (derived_of_validateIdentityBinding valid.2.2)
      · split at isDone
        · cases isDone
          exact .refl _
        · cases isDone
  · cases isDone

/-- The mutation of a swap names the pair and the client that the caller gave. -/
theorem eq_of_swap {pairId expectedClientId : Json} {binding : BindingValue}
    {row clientId : Text} {swapped : Binding}
    (sanitized : sanitizeMutation codec (.obj ([(text "kind", .str Mutation.swapKind),
      (text "pairId", pairId), (text "expectedClientId", expectedClientId)] ++ binding.members)) =
      some (.swap row clientId swapped)) :
    pairId = .str row ∧ expectedClientId = .str clientId := by
  obtain ⟨snapshot, isSnapshot, sanitized⟩ := Option.bind_eq_some_iff.mp sanitized
  rw [normal_of_jsonSnapshot isSnapshot, sanitizeSnapshot, getStr?_normal] at sanitized
  change sanitizeKind codec _ Mutation.swapKind = _ at sanitized
  have kind : ∀ raw, sanitizeKind codec raw Mutation.swapKind = sanitizeSwap codec raw := by
    intro raw
    unfold sanitizeKind
    rw [if_neg (by decide)]
    exact if_pos rfl
  rw [kind] at sanitized
  simp only [sanitizeSwap, Option.bind_eq_bind, Option.bind_eq_some_iff, id?,
    getStr?_normal, Option.filter_eq_some_iff] at sanitized
  obtain ⟨_, -, _, -, pair, ⟨isPair, -⟩, client, ⟨isClient, -⟩, isSwap⟩ := sanitized
  cases isSwap
  exact ⟨Json.eq_str isPair, Json.eq_str isClient⟩

theorem changed_replicatedSwap {outbox : DurableOutbox codec} {pairId expectedClientId : Json}
    {binding : BindingValue} {done : Done SwapAnswer}
    (asked : ∀ row clientId, pairId = .str row → expectedClientId = .str clientId →
      swaps row clientId)
    (isDone : Outbox.compareAndSwap outbox pairId expectedClientId binding s = some done) :
    Changed codec swaps s.bindings done.tables.bindings := by
  obtain ⟨mutation, sanitized, isDone⟩ := Option.bind_eq_some_iff.mp isDone
  split at isDone
  · next row clientId swapped =>
      obtain ⟨isRow, isClient⟩ := eq_of_swap sanitized
      split at isDone
      · cases isDone
        exact .refl _
      · next current found =>
          split at isDone
          · cases isDone
            exact .refl _
          · split at isDone
            · cases isDone
              exact .refl _
            · next fitting =>
                obtain ⟨record, -, isDone⟩ := Option.bind_eq_some_iff.mp isDone
                cases isDone
                obtain ⟨isExpected, owner⟩ :=
                  sameOwner_of_fits (Bool.eq_true_of_not_eq_false fitting)
                refine .update ?_
                rw [found]
                exact .swapped owner (isExpected ▸ asked row clientId isRow isClient)
  · cases isDone

theorem changed_effect {database : Database} {mutation : Mutation} (valid : mutation.Valid codec)
    (asked : ∀ row clientId binding, mutation = .swap row clientId binding → swaps row clientId)
    (applied : effect database s mutation = some t) :
    Changed codec swaps s.bindings t.bindings := by
  cases mutation with
  | set pairId binding =>
      change applySet s pairId binding = some t at applied
      unfold applySet at applied
      split at applied
      · next unbound =>
          cases applied
          refine .update ?_
          rw [unbound]
          exact .bound (derived_of_validateIdentityBinding valid.2.2)
      · split at applied
        · cases applied
          exact .refl _
        · cases applied
  | swap pairId expectedClientId binding =>
      change applySwap s pairId expectedClientId binding = some t at applied
      unfold applySwap at applied
      split at applied
      · cases applied
      · next current found =>
          split at applied
          · cases applied
            exact .refl _
          · split at applied
            · next fitting =>
                cases applied
                obtain ⟨isExpected, owner⟩ := sameOwner_of_fits fitting
                refine .update ?_
                rw [found]
                exact .swapped owner (isExpected ▸ asked _ _ _ rfl)
            · cases applied
  | claim key operation agentId =>
      change applyClaim s key operation agentId = some t at applied
      unfold applyClaim at applied
      split at applied
      · cases applied
        exact .refl _
      · split at applied
        · cases applied
          exact .refl _
        · cases applied
  | complete key operation agentId response responseDigest required =>
      change applyComplete database s key operation agentId _ = some t at applied
      unfold applyComplete at applied
      split at applied
      · split at applied
        · obtain ⟨_, _, -, -, rfl⟩ := updateResponse_eq applied
          exact .refl _
        · cases applied
      · cases applied
  | consume nonceHash expiresAt =>
      obtain ⟨hash, -, applied⟩ := Option.bind_eq_some_iff.mp applied
      obtain ⟨expiry, -, applied⟩ := Option.bind_eq_some_iff.mp applied
      cases applied
      exact .refl _

theorem changed_perform {α : Type} {answer : α} {changed : Rows}
    (change : Changed codec swaps s.bindings changed) (fault : Fault) :
    Changed codec swaps s.bindings (fault.perform s answer changed).2.bindings := by
  unfold Fault.perform
  split
  · exact .refl _
  · exact change

theorem changed_serve {database : Database} {outbox : DurableOutbox codec} {Ticket : Type}
    (fault : Fault) (ticket : Ticket) {call : Call} {request : Request}
    (asked : request.Asked codec call) :
    Changed codec (call.Swaps codec) s.bindings
      (serve database outbox fault ticket s request).2.bindings := by
  cases request with
  | memorySet pairId binding =>
      dsimp only [serve]
      split
      · next done => exact changed_memorySet asked done
      · exact .refl _
  | memorySwap pairId expectedClientId binding => exact changed_memorySwap asked
  | upsert pairId binding => exact changed_perform (changed_upsert asked) fault
  | update pairId expectedClientId binding => exact changed_perform (changed_update asked) fault
  | select pairId => exact changed_perform (.refl _) fault
  | replicatedSet pairId binding =>
      dsimp only [serve]
      split
      · next done => exact changed_perform (changed_replicatedSet done) fault
      · exact .refl _
  | replicatedSwap pairId expectedClientId binding =>
      dsimp only [serve]
      split
      · next done => exact changed_perform (changed_replicatedSwap asked done) fault
      · exact .refl _
  | apply mutation =>
      dsimp only [serve]
      split
      · next applied =>
          obtain ⟨clean, sanitized, applied⟩ := Option.bind_eq_some_iff.mp applied
          obtain ⟨_, -, applied⟩ := Option.bind_eq_some_iff.mp applied
          refine changed_perform (changed_effect (valid_of_sanitizeMutation sanitized) ?_ applied)
            fault
          rintro row clientId binding rfl
          exact asked row clientId binding sanitized
      · exact .refl _

theorem asks_program (call : Call) : (program codec call).Asks (Request.Asked codec call) := by
  cases call with
  | set store pairId binding =>
      refine Script.Asks.bind ?_ fun _ => trivial
      unfold setIn
      split
      · trivial
      · next isValid =>
          obtain ⟨_, -, isValid⟩ := Option.bind_eq_some_iff.mp isValid
          simp only [Option.bind_eq_bind, Option.bind_eq_some_iff] at isValid
          obtain ⟨_, -, _, -, _, -, _, -, isValid⟩ := isValid
          cases store with
          | memory => exact ⟨derived_of_validateIdentityBinding isValid, fun _ => trivial⟩
          | postgres => exact ⟨derived_of_validateIdentityBinding isValid, fun _ => trivial⟩
  | compareAndSwap store pairId expectedClientId binding =>
      refine Script.Asks.bind ?_ fun _ => trivial
      unfold swapIn
      split
      · trivial
      · cases store with
        | memory => exact ⟨fun clientId isExpected => ⟨rfl, isExpected⟩, fun _ => trivial⟩
        | postgres =>
            refine ⟨fun clientId isExpected => ⟨rfl, isExpected⟩, fun updated => ?_⟩
            cases updated with
            | none => trivial
            | some updated =>
                cases updated with
                | true => trivial
                | false => exact ⟨trivial, fun _ => trivial⟩
  | replicatedSet pairId binding => exact ⟨trivial, fun _ => trivial⟩
  | replicatedSwap pairId expectedClientId binding =>
      exact ⟨fun row clientId isRow isClient => ⟨isRow, isClient⟩, fun _ => trivial⟩
  | apply mutation =>
      exact ⟨fun row clientId binding sanitized => ⟨binding, sanitized⟩, fun _ => trivial⟩

theorem Change.kept {row : Option Binding} {current : Binding} {swaps : Text → Prop}
    (change : Change codec swaps (some current) row) :
    ∃ binding, row = some binding ∧ SameOwner current binding ∧
      (binding.tskClientId = current.tskClientId ∨ swaps current.tskClientId) := by
  cases change with
  | same => exact ⟨current, rfl, .refl _, .inl rfl⟩
  | swapped owner allowed => exact ⟨_, rfl, owner, .inr allowed⟩

theorem Change.derived {row changed : Option Binding} {swaps : Text → Prop}
    (change : Change codec swaps row changed)
    (derived : ∀ binding, row = some binding → Derived codec binding) {binding : Binding}
    (found : changed = some binding) : Derived codec binding := by
  cases change with
  | same => exact derived binding found
  | bound isDerived =>
      cases found
      exact isDerived
  | swapped owner _ =>
      cases found
      exact owner.derived (derived _ rfl)

end Rows

/-! Whole runs. -/

section Runs

variable {codec : Codec} {database : Database} {outbox : DurableOutbox codec} {Ticket : Type}
  [DecidableEq Ticket]

abbrev StoreWorld (Ticket : Type) : Type := World Ticket Call Tables Outcome Response

/-- Any calls, from a table whose rows are valid. -/
def stores (database : Database) (outbox : DurableOutbox codec) (Ticket : Type)
    [DecidableEq Ticket] : System (StoreWorld Ticket) (Event Ticket Call Fault) :=
  calls (serve database outbox) (program codec) fun s =>
    ∀ pairId binding, s.bindings pairId = some binding → Derived codec binding

variable {events further : List (Event Ticket Call Fault)} {world later next : StoreWorld Ticket}
  {event : Event Ticket Call Fault}

theorem changed_of_step (run : (stores database outbox Ticket).Run events world)
    (step : (stores database outbox Ticket).next world event next) :
    next.shared.bindings = world.shared.bindings ∨ ∃ ticket fault call rest,
      event = .serve ticket fault ∧ world.progress ticket = some ⟨call, rest⟩ ∧
      Changed codec (call.Swaps codec) world.shared.bindings next.shared.bindings := by
  rcases request_of_step step with
    same | ⟨ticket, fault, call, request, rest, isEvent, isRunning, isServed⟩
  · exact .inl (congrArg Tables.bindings same)
  · have asked := (asks_of_run asks_program run ticket call _ isRunning).1
    have change := @changed_serve _ world.shared database outbox _ fault ticket _ _ asked
    rw [← isServed] at change
    exact .inr ⟨ticket, fault, call, _, isEvent, isRunning, change⟩

theorem derived_of_run (run : (stores database outbox Ticket).Run events world) :
    ∀ pairId binding, world.shared.bindings pairId = some binding → Derived codec binding := by
  induction run with
  | start first => exact first.1
  | step before step ih =>
      intro pairId binding found
      rcases changed_of_step before step with same | ⟨_, _, _, _, -, -, changed⟩
      · exact ih pairId binding ((congrFun same pairId).symm.trans found)
      · exact (changed pairId).derived (ih pairId) found

theorem owner_kept (run : (stores database outbox Ticket).Run events world)
    (continued : ((stores database outbox Ticket).since world).Run further later) {pairId : Text}
    {binding : Binding} (found : world.shared.bindings pairId = some binding) :
    ∃ kept, later.shared.bindings pairId = some kept ∧ SameOwner binding kept := by
  induction continued with
  | start isFirst =>
      cases isFirst
      exact ⟨binding, found, .refl _⟩
  | step before step ih =>
      obtain ⟨kept, isKept, owner⟩ := ih
      rcases changed_of_step (run.append before) step with same | ⟨_, _, _, _, -, -, changed⟩
      · exact ⟨kept, (congrFun same pairId).trans isKept, owner⟩
      · have change := changed pairId
        rw [isKept] at change
        obtain ⟨binding, isBinding, further, -⟩ := change.kept
        exact ⟨binding, isBinding, owner.trans further⟩

/-- The owner of a pair is derived from its key and stays, and only a swap that expects the
current client of the pair changes the client. -/
theorem owner_kept_of_run (run : (stores database outbox Ticket).Run events world) :
    (∀ pairId binding, world.shared.bindings pairId = some binding →
      Derived codec binding ∧ ∀ further later,
        ((stores database outbox Ticket).since world).Run further later →
        ∃ kept, later.shared.bindings pairId = some kept ∧ SameOwner binding kept) ∧
    ∀ event next, (stores database outbox Ticket).next world event next →
      ∀ pairId binding changed, world.shared.bindings pairId = some binding →
        next.shared.bindings pairId = some changed → changed.tskClientId ≠ binding.tskClientId →
        ∃ ticket fault call rest, event = .serve ticket fault ∧
          world.progress ticket = some ⟨call, rest⟩ ∧
          call.Swaps codec pairId binding.tskClientId := by
  constructor
  · intro pairId binding found
    exact ⟨derived_of_run run pairId binding found, fun _ _ continued =>
      owner_kept run continued found⟩
  · intro event next step pairId binding changed found isChanged differs
    rcases changed_of_step run step with same | ⟨ticket, fault, call, rest, isEvent, isCall, all⟩
    · rw [same, found] at isChanged
      cases isChanged
      exact absurd rfl differs
    · have change := all pairId
      rw [found] at change
      obtain ⟨kept, isKept, -, same | swaps⟩ := change.kept
      · cases isKept.symm.trans isChanged
        exact absurd same differs
      · exact ⟨ticket, fault, call, rest, isEvent, isCall, swaps⟩

end Runs

/-- A binding of the key of zeros. -/
def sampleBinding (tskClientId : String) : Json :=
  .obj [(text "tskClientId", .str (text tskClientId)), (text "agentId", .str (text "SC-66687AAD")),
    (text "canonicalId", .str (text
      "SCID-66687aadf862bd776c8fc18b8e9f8e20089714856ee233b3902a591d0d5f2925")),
    (text "agentPublicKeyHex", .str (List.replicate 64 0x30))]

/-- A pair is bound, and its client is swapped. -/
def sampleSwap : List (Event Nat Call Fault) :=
  [.start 0 (.set .postgres (text "pair") (sampleBinding "first")), .serve 0 ⟨false, false⟩,
    .start 1 (.compareAndSwap .postgres (text "pair") (some (text "first"))
      (sampleBinding "second")),
    .serve 1 ⟨false, true⟩]

def freshStores : StoreWorld Nat := ⟨.empty, fun _ => none⟩

theorem run_sampleSwap : ∃ world, (stores sampleDatabase sampleOutbox Nat).Run sampleSwap world ∧
    (world.shared.bindings (text "pair")).any (·.tskClientId = text "second") = true := by
  have evaluated : (sampleSwap.foldlM (World.step (serve sampleDatabase sampleOutbox)
      (program sampleCodec)) freshStores).any (fun world =>
        (world.shared.bindings (text "pair")).any (·.tskClientId = text "second")) = true := by
    decide +kernel
  obtain ⟨world, found, swapped⟩ := (Option.any_eq_true ..).mp evaluated
  have fresh : (stores sampleDatabase sampleOutbox Nat).initial freshStores := by
    refine ⟨fun pairId binding bound => ?_, fun _ => rfl⟩
    cases bound
  exact ⟨world, System.Run.fold (fun _ _ _ next => next) (System.Run.start fresh) found, swapped⟩

theorem owner_kept_of_run_swapped : ∃ world,
    (stores sampleDatabase sampleOutbox Nat).Run sampleSwap world ∧
      ∃ binding, world.shared.bindings (text "pair") = some binding ∧
        Derived sampleCodec binding := by
  obtain ⟨world, run, swapped⟩ := run_sampleSwap
  obtain ⟨binding, found, -⟩ := (Option.any_eq_true ..).mp swapped
  exact ⟨world, run, binding, found, ((owner_kept_of_run run).1 _ binding found).1⟩

end SelfConnect.Ultra.Identity
