import SelfConnect.Ultra.Identity

namespace SelfConnect.Ultra.Equivalence

open SelfConnect.Js SelfConnect.Library SelfConnect.Ultra.Outbox
open SelfConnect.Ultra.Identity

/-! The stores in memory against the stores in PostgreSQL, call by call. -/

/-! Canonical texts do not depend on the order of members. -/

section CanonicalJson

variable {α : Type}

/-- Two lists in order agree when they agree on every key. -/
theorem eq_of_filter {first second : List (Text × α)} (ordered : first.Pairwise ByKey)
    (ordered' : second.Pairwise ByKey)
    (same : ∀ key, first.filter (fun member => member.1 = key) =
      second.filter (fun member => member.1 = key)) : first = second := by
  induction first generalizing second with
  | nil =>
      cases second with
      | nil => rfl
      | cons member rest =>
          have own := same member.1
          rw [List.filter_nil, List.filter_cons_of_pos (by simp)] at own
          cases own
  | cons member rest ih =>
      have own := same member.1
      rw [List.filter_cons_of_pos (by simp)] at own
      cases second with
      | nil =>
          rw [List.filter_nil] at own
          cases own
      | cons other rest' =>
          have isMember : member ∈ other :: rest' :=
            (List.mem_filter.mp (own ▸ List.mem_cons_self)).1
          have isOther : other ∈ member :: rest := by
            have found := same other.1
            rw [List.filter_cons_of_pos (a := other) (by simp)] at found
            exact (List.mem_filter.mp (found ▸ List.mem_cons_self)).1
          have least : other.1 ≤ member.1 := by
            rcases List.mem_cons.mp isMember with isHead | inside
            · rw [isHead]
              exact List.le_refl _
            · exact List.rel_of_pairwise_cons ordered' inside
          have least' : member.1 ≤ other.1 := by
            rcases List.mem_cons.mp isOther with isHead | inside
            · rw [isHead]
              exact List.le_refl _
            · exact List.rel_of_pairwise_cons ordered inside
          have sameKey : other.1 = member.1 := List.le_antisymm least least'
          rw [List.filter_cons_of_pos (by simpa using sameKey)] at own
          obtain ⟨rfl, -⟩ := List.cons.inj own
          refine congrArg _ (ih ordered.of_cons ordered'.of_cons fun key => ?_)
          have found := same key
          by_cases isKey : member.1 = key
          · rw [List.filter_cons_of_pos (by simpa using isKey),
              List.filter_cons_of_pos (by simpa using isKey)] at found
            exact (List.cons.inj found).2
          · rw [List.filter_cons_of_neg (by simpa using isKey),
              List.filter_cons_of_neg (by simpa using isKey)] at found
            exact found

theorem sortMembers_eq (members : List (Text × α)) :
    sortMembers members = orderMembers members := by
  have trans : ∀ first second third : Text × α, decide (first.1 ≤ second.1) = true →
      decide (second.1 ≤ third.1) = true → decide (first.1 ≤ third.1) = true := by
    intro first second third front back
    exact decide_eq_true (List.le_trans (of_decide_eq_true front) (of_decide_eq_true back))
  have total : ∀ first second : Text × α,
      (decide (first.1 ≤ second.1) || decide (second.1 ≤ first.1)) = true := by
    intro first second
    simpa using List.le_total first.1 second.1
  have sorted : (sortMembers members).Pairwise ByKey :=
    (List.pairwise_mergeSort trans total members).imp of_decide_eq_true
  refine eq_of_filter sorted (orderMembers_ordered members) fun key => ?_
  rw [filter_orderMembers]
  have ordered : (members.filter fun member => member.1 = key).Pairwise
      (fun first second => decide (first.1 ≤ second.1) = true) := by
    refine List.pairwise_of_forall_mem_list fun first isFirst second isSecond => ?_
    have sameFirst := of_decide_eq_true (List.mem_filter.mp isFirst).2
    have sameSecond := of_decide_eq_true (List.mem_filter.mp isSecond).2
    rw [sameFirst, sameSecond]
    exact decide_eq_true (List.le_refl key)
  have sublist := (List.sublist_mergeSort trans total ordered List.filter_sublist).filter
    (fun member : Text × α => member.1 = key)
  rw [List.filter_filter] at sublist
  simp only [Bool.and_self] at sublist
  exact (sublist.eq_of_length (((List.mergeSort_perm members _).filter _).length_eq).symm).symm

theorem orderMembers_map {β : Type} (members : List (Text × α)) (image : α → β) :
    orderMembers (members.map fun member => (member.1, image member.2)) =
      (orderMembers members).map fun member => (member.1, image member.2) :=
  (List.map_insertionSort ByKey ByKey (fun member => (member.1, image member.2)) members
    fun _ _ _ _ => Iff.rfl).symm

variable (stringify : Json → Text)

theorem canonicalMembers_eq_map (members : List (Text × Json)) :
    canonicalMembers stringify members =
      members.map fun member => (member.1, canonicalJson stringify member.2) := by
  induction members with
  | nil => rfl
  | cons member rest ih => exact congrArg (_ :: ·) ih

mutual

theorem canonicalJson_normal : ∀ value : Json,
    canonicalJson stringify value.normal = canonicalJson stringify value
  | .null => rfl
  | .bool _ => rfl
  | .num _ => rfl
  | .str _ => rfl
  | .arr items => by
      have same := canonicalItems_normal items
      unfold Json.normal canonicalJson
      rw [same]
  | .obj members => by
      have same :
          sortMembers (canonicalMembers stringify (orderMembers (Json.normalMembers members))) =
            sortMembers (canonicalMembers stringify members) := by
        rw [← canonicalMembers_normal members, sortMembers_eq, sortMembers_eq,
          canonicalMembers_eq_map, canonicalMembers_eq_map, ← orderMembers_map]
        exact orderMembers_of_ordered (orderMembers_ordered _)
      unfold Json.normal canonicalJson
      rw [same]

theorem canonicalItems_normal : ∀ items : List Json,
    canonicalItems stringify (Json.normalItems items) = canonicalItems stringify items
  | [] => rfl
  | item :: rest =>
      congrArg₂ List.cons (canonicalJson_normal item) (canonicalItems_normal rest)

theorem canonicalMembers_normal : ∀ members : List (Text × Json),
    canonicalMembers stringify (Json.normalMembers members) = canonicalMembers stringify members
  | [] => rfl
  | (key, value) :: rest =>
      congrArg₂ List.cons (congrArg (Prod.mk key) (canonicalJson_normal value))
        (canonicalMembers_normal rest)

end

theorem canonicalJson_eq_of_normal {first second : Json} (same : first.normal = second.normal) :
    canonicalJson stringify first = canonicalJson stringify second := by
  rw [← canonicalJson_normal stringify first, same, canonicalJson_normal]

end CanonicalJson

/-- How PostgreSQL reads a UUID, what JSONB gives back of a document that it takes,
`JSON.stringify` of what is neither an array nor an object, and `JSON.parse`. -/
structure Columns where
  uuid : Text → Option Text
  jsonb : Json → Option Json
  stringify : Json → Text
  parse : Text → Option Json
  uuid_of_isUuid : ∀ value, isUuid value = true → uuid value = some (value.map lowerUnit)
  normal_jsonb : ∀ value stored, jsonb value = some stored → stored.normal = value.normal

abbrev Entries := Text → Option Entry

/-- `parseMap` -/
def parseMap (columns : Columns) : Json → Option Json
  | .str value => columns.parse value
  | value => some value

namespace MemoryIdempotencyStore

def claim (entries : Entries) (key operation agentId : Text) : ClaimAnswer × Entries :=
  match entries key with
  | some existing =>
      if existing.operation ≠ operation ∨ existing.agentId ≠ agentId then (.conflict, entries)
      else match existing.response with
        | some response => (.complete response, entries)
        | none => (.processing, entries)
  | none => (.claimed, Function.update entries key (some ⟨operation, agentId, none⟩))

def complete (columns : Columns) (entries : Entries) (key : Text) (response : Json) :
    Option Entries :=
  match entries key with
  | none => none
  | some ⟨_, _, some existing⟩ =>
      if canonicalJson columns.stringify existing = canonicalJson columns.stringify response then
        some entries
      else none
  | some ⟨operation, agentId, none⟩ =>
      some (Function.update entries key (some ⟨operation, agentId, some response⟩))

end MemoryIdempotencyStore

namespace PgIdempotencyStore

def claim (columns : Columns) (entries : Entries) (key operation agentId : Text) :
    Option ClaimAnswer × Entries :=
  match columns.uuid key with
  | none => (none, entries)
  | some row =>
      match entries row with
      | none => (some .claimed, Function.update entries row (some ⟨operation, agentId, none⟩))
      | some existing =>
          if existing.operation ≠ operation ∨ existing.agentId ≠ agentId then
            (some .conflict, entries)
          else match existing.response with
            | some response => ((parseMap columns response).map .complete, entries)
            | none => (some .processing, entries)

def complete (columns : Columns) (entries : Entries) (key : Text) (response : Json) :
    Option Entries := do
  let row ← columns.uuid key
  let stored ← columns.jsonb response
  match entries row with
  | none => none
  | some ⟨operation, agentId, none⟩ =>
      return Function.update entries row (some ⟨operation, agentId, some stored⟩)
  | some ⟨_, _, some existing⟩ => do
      let existing ← parseMap columns existing
      guard (canonicalJson columns.stringify existing = canonicalJson columns.stringify response)
      return entries

end PgIdempotencyStore

structure Contents where
  bindings : Rows
  entries : Entries

def Contents.empty : Contents := ⟨fun _ => none, fun _ => none⟩

inductive Op
  | get (pairId : Text)
  | set (pairId : Text) (binding : Json)
  | compareAndSwap (pairId : Text) (expectedClientId : Option Text) (binding : Json)
  | claim (key operation agentId : Text)
  | complete (key : Text) (response : Json)

/-- There is nothing in an answer where the store throws. -/
inductive Answer
  | get (found : Option (Option Binding))
  | set (done : Option Unit)
  | swap (answer : Option SwapAnswer)
  | claim (answer : Option ClaimAnswer)
  | complete (done : Option Unit)

section Stores

variable (codec : Codec) (columns : Columns)

def Contents.memory (s : Contents) : Op → Answer × Contents
  | .get pairId => (.get (some (s.bindings pairId)), s)
  | .set pairId binding =>
      match plainBinding codec binding with
      | none => (.set none, s)
      | some binding =>
          match MemoryIdentityBindingStore.set s.bindings pairId binding with
          | some rows => (.set (some ()), { s with bindings := rows })
          | none => (.set none, s)
  | .compareAndSwap pairId expectedClientId binding =>
      match plainBinding codec binding with
      | none => (.swap none, s)
      | some binding =>
          let done := MemoryIdentityBindingStore.compareAndSwap s.bindings pairId expectedClientId
            binding
          (.swap (some done.1), { s with bindings := done.2 })
  | .claim key operation agentId =>
      let done := MemoryIdempotencyStore.claim s.entries key operation agentId
      (.claim (some done.1), { s with entries := done.2 })
  | .complete key response =>
      match MemoryIdempotencyStore.complete columns s.entries key response with
      | some entries => (.complete (some ()), { s with entries := entries })
      | none => (.complete none, s)

/-- The row of a pair, which throws if it is not valid. -/
def findRow (rows : Rows) (pairId : Text) : Option (Option Binding) :=
  match rows pairId with
  | none => some none
  | some current => (validateIdentityBinding codec.keySha256 current).map some

def Contents.postgres (s : Contents) : Op → Answer × Contents
  | .get pairId => (.get (findRow codec s.bindings pairId), s)
  | .set pairId binding =>
      match plainBinding codec binding with
      | none => (.set none, s)
      | some binding =>
          let done := PgIdentityBindingStore.upsert s.bindings pairId binding
          (.set (if done.1 = true then some () else none), { s with bindings := done.2 })
  | .compareAndSwap pairId expectedClientId binding =>
      match plainBinding codec binding with
      | none => (.swap none, s)
      | some binding =>
          let done := PgIdentityBindingStore.update s.bindings pairId expectedClientId binding
          (.swap (if done.1 = true then some .updated
            else diagnose codec binding (some (done.2 pairId))), { s with bindings := done.2 })
  | .claim key operation agentId =>
      let done := PgIdempotencyStore.claim columns s.entries key operation agentId
      (.claim done.1, { s with entries := done.2 })
  | .complete key response =>
      match PgIdempotencyStore.complete columns s.entries key response with
      | some entries => (.complete (some ()), { s with entries := entries })
      | none => (.complete none, s)

/-- The answers of the operations in order, and what the store holds after them. -/
def run (perform : Contents → Op → Answer × Contents) (s : Contents) :
    List Op → List Answer × Contents
  | [] => ([], s)
  | op :: rest =>
      let done := run perform (perform s op).2 rest
      ((perform s op).1 :: done.1, done.2)

end Stores

/-! Where the stores answer alike. -/

def normalClaim : ClaimAnswer → ClaimAnswer
  | .complete response => .complete response.normal
  | answer => answer

/-- An answer up to the order of the members of a response. -/
def Answer.normal : Answer → Answer
  | .claim answer => .claim (answer.map normalClaim)
  | answer => answer

def Op.Valid : Op → Prop
  | .claim key _ _ => isUuid key = true
  | .complete key _ => isUuid key = true
  | _ => True

/-- No entry has the key in another letter case. -/
def Spelled (entries : Entries) (key : Text) : Prop :=
  ∀ other, other.map lowerUnit = key.map lowerUnit → (entries other).isSome = true → other = key

section Alike

variable (codec : Codec) (columns : Columns)

/-- The swap is not one of a binding for itself, a key keeps its spelling, and a response is one
that JSONB takes, and is no text when it is kept. -/
def Uniform (s : Contents) : Op → Prop
  | .compareAndSwap pairId expectedClientId binding => ∀ current, s.bindings pairId = some current →
      plainBinding codec binding = some current → expectedClientId ≠ some current.tskClientId
  | .claim key _ _ => Spelled s.entries key
  | .complete key response => Spelled s.entries key ∧ ∀ entry, s.entries key = some entry →
      (columns.jsonb response).isSome = true ∧ (entry.response = none → response.str? = none)
  | _ => True

/-- A row of an entry in memory. -/
structure RowOf (entry row : Entry) : Prop where
  operation : row.operation = entry.operation
  agentId : row.agentId = entry.agentId
  response : row.response.map Json.normal = entry.response.map Json.normal
  noText : ∀ response, entry.response = some response → response.str? = none

structure Same (memory postgres : Contents) : Prop where
  bindings : postgres.bindings = memory.bindings
  valid : ∀ pairId binding, memory.bindings pairId = some binding →
    validateIdentityBinding codec.keySha256 binding = some binding
  kept : ∀ key entry, memory.entries key = some entry →
    ∃ row, postgres.entries (key.map lowerUnit) = some row ∧ RowOf entry row
  known : ∀ key, (postgres.entries key).isSome = true →
    ∃ other, other.map lowerUnit = key ∧ (memory.entries other).isSome = true

variable {codec columns} {rows : Rows} {pairId : Text} {binding : Binding}

theorem set_eq_upsert (rows : Rows) (pairId : Text) (binding : Binding) :
    MemoryIdentityBindingStore.set rows pairId binding =
      if (PgIdentityBindingStore.upsert rows pairId binding).1 = true then
        some (PgIdentityBindingStore.upsert rows pairId binding).2
      else none := by
  unfold MemoryIdentityBindingStore.set PgIdentityBindingStore.upsert
  cases found : rows pairId with
  | none => rfl
  | some current =>
      by_cases same : current = binding
      · simp only [same, if_true, decide_true]
        rw [← same, ← found, Function.update_eq_self]
      · simp only [same, if_false, decide_false, Bool.false_eq_true]

theorem update_sameOwner {current : Binding} (owner : sameOwner current binding = true) :
    { current with tskClientId := binding.tskClientId } = binding := by
  obtain ⟨agent, canonical, key⟩ := sameOwner_iff.mp owner
  cases current
  cases binding
  cases agent
  cases canonical
  cases key
  rfl

/-- Writing first and then telling why comes to the same as comparing first, unless the binding is
swapped for itself. -/
theorem compareAndSwap_eq {expectedClientId : Option Text}
    (valid : ∀ current, rows pairId = some current →
      validateIdentityBinding codec.keySha256 current = some current)
    (proper : rows pairId = some binding → expectedClientId ≠ some binding.tskClientId) :
    let done := PgIdentityBindingStore.update rows pairId expectedClientId binding
    ∃ answer, (if done.1 = true then some .updated
        else diagnose codec binding (some (done.2 pairId))) = some answer ∧
      MemoryIdentityBindingStore.compareAndSwap rows pairId expectedClientId binding =
        (answer, done.2) := by
  unfold MemoryIdentityBindingStore.compareAndSwap PgIdentityBindingStore.update
  cases found : rows pairId with
  | none =>
      dsimp only
      rw [found]
      exact ⟨_, rfl, rfl⟩
  | some current =>
      have isDiagnosed : diagnose codec binding (some (rows pairId)) =
          some (if current = binding then .already else .conflict) := by
        rw [found]
        change (validateIdentityBinding codec.keySha256 current).bind _ = _
        rw [valid current found]
        rfl
      by_cases same : current = binding
      · have unfit : ¬ (some current.tskClientId = expectedClientId ∧
            sameOwner current binding = true) := by
          rintro ⟨expected, -⟩
          exact proper (found.trans (congrArg some same)) (same ▸ expected.symm)
        dsimp only
        rw [if_pos same, if_neg unfit, if_neg Bool.false_ne_true, isDiagnosed, if_pos same]
        exact ⟨_, rfl, rfl⟩
      · by_cases fit : some current.tskClientId = expectedClientId ∧
            sameOwner current binding = true
        · have passes : ¬ (some current.tskClientId ≠ expectedClientId ∨
              sameOwner current binding = false) := by
            rintro (other | other)
            · exact other fit.1
            · exact Bool.false_ne_true (other.symm.trans fit.2)
          dsimp only
          rw [if_neg same, if_neg passes, if_pos fit, if_pos rfl, update_sameOwner fit.2]
          exact ⟨_, rfl, rfl⟩
        · have stops : some current.tskClientId ≠ expectedClientId ∨
              sameOwner current binding = false := by
            rcases not_and_or.mp fit with other | other
            · exact .inl other
            · exact .inr (Bool.eq_false_of_not_eq_true other)
          dsimp only
          rw [if_neg same, if_pos stops, if_neg fit, if_neg Bool.false_ne_true, isDiagnosed,
            if_neg same]
          exact ⟨_, rfl, rfl⟩

theorem str?_normal (value : Json) : value.normal.str? = value.str? := by
  cases value <;> rfl

theorem parseMap_of_noText {value : Json} (noText : value.str? = none) :
    parseMap columns value = some value := by
  cases value with
  | str _ => cases noText
  | _ => rfl

variable {entry row : Entry}

theorem RowOf.fresh (operation agentId : Text) :
    RowOf ⟨operation, agentId, none⟩ ⟨operation, agentId, none⟩ :=
  ⟨rfl, rfl, rfl, fun _ absent => by cases absent⟩

/-- The row is complete with the response as JSONB keeps it. -/
theorem RowOf.complete (rowOf : RowOf entry row) {response : Json}
    (completed : entry.response = some response) :
    ∃ stored, row.response = some stored ∧ stored.normal = response.normal ∧
      parseMap columns stored = some stored := by
  have same := rowOf.response
  rw [completed] at same
  obtain ⟨stored, isStored, sameNormal⟩ := Option.map_eq_some_iff.mp same
  refine ⟨stored, isStored, sameNormal, parseMap_of_noText ?_⟩
  rw [← str?_normal stored, sameNormal, str?_normal]
  exact rowOf.noText response completed

theorem RowOf.processing (rowOf : RowOf entry row) (isOpen : entry.response = none) :
    row.response = none := by
  have same := rowOf.response
  rw [isOpen] at same
  exact Option.map_eq_none_iff.mp same

variable {s t : Contents} {key operation agentId : Text}

theorem Same.unclaimed (same : Same codec s t) (spelled : Spelled s.entries key)
    (absent : s.entries key = none) : t.entries (key.map lowerUnit) = none := by
  rw [← Option.not_isSome_iff_eq_none]
  intro present
  obtain ⟨other, sameRow, isKnown⟩ := same.known _ present
  rw [spelled other sameRow isKnown, absent] at isKnown
  cases isKnown

theorem Same.put (same : Same codec s t) (spelled : Spelled s.entries key)
    (rowOf : RowOf entry row) :
    Same codec { s with entries := Function.update s.entries key (some entry) }
      { t with entries := Function.update t.entries (key.map lowerUnit) (some row) } where
  bindings := same.bindings
  valid := same.valid
  kept other found isFound := by
    dsimp only at isFound ⊢
    by_cases isKey : other = key
    · rw [isKey, Function.update_self] at isFound
      cases isFound
      rw [isKey, Function.update_self]
      exact ⟨row, rfl, rowOf⟩
    · rw [Function.update_of_ne isKey] at isFound
      have elsewhere : other.map lowerUnit ≠ key.map lowerUnit := fun sameRow =>
        isKey (spelled other sameRow (Option.isSome_iff_exists.mpr ⟨found, isFound⟩))
      rw [Function.update_of_ne elsewhere]
      exact same.kept other found isFound
  known other isKnown := by
    dsimp only at isKnown ⊢
    by_cases isRow : other = key.map lowerUnit
    · refine ⟨key, isRow.symm, ?_⟩
      rw [Function.update_self]
      rfl
    · rw [Function.update_of_ne isRow] at isKnown
      obtain ⟨first, sameRow, isFirst⟩ := same.known other isKnown
      refine ⟨first, sameRow, ?_⟩
      by_cases isKey : first = key
      · rw [isKey, Function.update_self]
        rfl
      · rw [Function.update_of_ne isKey]
        exact isFirst

theorem claim_alike (same : Same codec s t) (valid : isUuid key = true)
    (spelled : Spelled s.entries key) :
    let front := MemoryIdempotencyStore.claim s.entries key operation agentId
    let back := PgIdempotencyStore.claim columns t.entries key operation agentId
    Same codec { s with entries := front.2 } { t with entries := back.2 } ∧
      back.1.map normalClaim = some (normalClaim front.1) := by
  unfold MemoryIdempotencyStore.claim PgIdempotencyStore.claim
  rw [columns.uuid_of_isUuid key valid]
  cases found : s.entries key with
  | none =>
      dsimp only
      rw [same.unclaimed spelled found]
      exact ⟨same.put spelled (.fresh operation agentId), rfl⟩
  | some entry =>
      obtain ⟨row, isRow, rowOf⟩ := same.kept key entry found
      dsimp only
      rw [isRow]
      dsimp only
      rw [rowOf.operation, rowOf.agentId]
      split
      · exact ⟨same, rfl⟩
      · cases isResponse : entry.response with
        | none =>
            rw [rowOf.processing isResponse]
            exact ⟨same, rfl⟩
        | some response =>
            obtain ⟨stored, isStored, sameNormal, isParsed⟩ := rowOf.complete isResponse
            rw [isStored]
            dsimp only
            rw [isParsed]
            exact ⟨same, congrArg (fun response => some (ClaimAnswer.complete response)) sameNormal⟩

/-- Both stores complete the key, or neither does. -/
theorem complete_alike (same : Same codec s t) (valid : isUuid key = true) {response : Json}
    (uniform : Uniform codec columns s (.complete key response)) :
    (MemoryIdempotencyStore.complete columns s.entries key response = none ∧
      PgIdempotencyStore.complete columns t.entries key response = none) ∨
    ∃ front back, MemoryIdempotencyStore.complete columns s.entries key response = some front ∧
      PgIdempotencyStore.complete columns t.entries key response = some back ∧
      Same codec { s with entries := front } { t with entries := back } := by
  obtain ⟨spelled, fit⟩ := uniform
  unfold MemoryIdempotencyStore.complete PgIdempotencyStore.complete
  rw [columns.uuid_of_isUuid key valid]
  dsimp only [Option.bind_eq_bind, Option.bind_some]
  cases found : s.entries key with
  | none =>
      refine .inl ⟨rfl, ?_⟩
      rw [same.unclaimed spelled found]
      exact Option.bind_eq_none_iff.mpr fun _ _ => rfl
  | some entry =>
      obtain ⟨row, isRow, rowOf⟩ := same.kept key entry found
      obtain ⟨taken, noText⟩ := fit entry found
      obtain ⟨stored, isStored⟩ := Option.isSome_iff_exists.mp taken
      have sameStored := columns.normal_jsonb response stored isStored
      rw [isStored, isRow]
      cases entry with
      | mk operation agentId completed =>
          cases completed with
          | none =>
              obtain ⟨rowOperation, rowAgent, rowResponse⟩ := row
              have isOpen : rowResponse = none := rowOf.processing rfl
              rw [isOpen]
              refine .inr ⟨_, _, rfl, rfl, same.put spelled ?_⟩
              refine ⟨rowOf.operation, rowOf.agentId, congrArg some sameStored, ?_⟩
              intro other isOther
              cases isOther
              exact noText rfl
          | some existing =>
              obtain ⟨rowOperation, rowAgent, rowResponse⟩ := row
              obtain ⟨kept, isKept, sameKept, isParsed⟩ := rowOf.complete rfl
              dsimp only at isKept
              rw [isKept]
              dsimp only [Option.bind_some]
              rw [isParsed]
              dsimp only [Option.bind_some]
              rw [canonicalJson_eq_of_normal columns.stringify sameKept]
              split
              · next agrees =>
                  exact .inr ⟨_, _, rfl, by simp [agrees], same⟩
              · next differs =>
                  exact .inl ⟨rfl, by simp [differs]⟩

theorem Same.withRows (same : Same codec s t) {changed : Rows}
    (valid : ∀ pairId binding, changed pairId = some binding →
      validateIdentityBinding codec.keySha256 binding = some binding) :
    Same codec { s with bindings := changed } { t with bindings := changed } :=
  ⟨rfl, valid, same.kept, same.known⟩

theorem valid_plainBinding {value : Json} (isPlain : plainBinding codec value = some binding) :
    validateIdentityBinding codec.keySha256 binding = some binding := by
  unfold plainBinding at isPlain
  simp only [Option.bind_eq_bind, Option.bind_eq_some_iff] at isPlain
  obtain ⟨_, -, _, -, _, -, _, -, _, -, isValid⟩ := isPlain
  rw [← eq_of_validateIdentityBinding isValid] at isValid
  exact isValid

theorem valid_update (valid : ∀ pairId binding, rows pairId = some binding →
      validateIdentityBinding codec.keySha256 binding = some binding)
    (isValid : validateIdentityBinding codec.keySha256 binding = some binding) (pairId other : Text)
    (found : Binding) (isFound : Function.update rows pairId (some binding) other = some found) :
    validateIdentityBinding codec.keySha256 found = some found := by
  by_cases isPair : other = pairId
  · rw [isPair, Function.update_self] at isFound
    cases isFound
    exact isValid
  · rw [Function.update_of_ne isPair] at isFound
    exact valid other found isFound

/-- An operation keeps the stores the same, and they answer alike. -/
theorem perform_alike (same : Same codec s t) {op : Op} (valid : op.Valid)
    (uniform : Uniform codec columns s op) :
    Same codec (s.memory codec columns op).2 (t.postgres codec columns op).2 ∧
      (t.postgres codec columns op).1.normal = (s.memory codec columns op).1.normal := by
  cases op with
  | get pairId =>
      refine ⟨same, congrArg Answer.get ?_⟩
      rw [same.bindings]
      unfold findRow
      cases found : s.bindings pairId with
      | none => rfl
      | some current =>
          dsimp only
          rw [same.valid pairId current found]
          rfl
  | set pairId binding =>
      unfold Contents.memory Contents.postgres
      dsimp only
      cases isPlain : plainBinding codec binding with
      | none => exact ⟨same, rfl⟩
      | some binding =>
          dsimp only
          rw [set_eq_upsert, same.bindings]
          unfold PgIdentityBindingStore.upsert
          cases s.bindings pairId with
          | none =>
              exact ⟨same.withRows (valid_update same.valid (valid_plainBinding isPlain) pairId),
                rfl⟩
          | some current =>
              by_cases isSame : current = binding
              · simp only [isSame, decide_true, if_true]
                exact ⟨same.withRows same.valid, trivial⟩
              · simp only [isSame, decide_false, Bool.false_eq_true, if_false]
                exact ⟨same.withRows same.valid, trivial⟩
  | compareAndSwap pairId expectedClientId binding =>
      unfold Contents.memory Contents.postgres
      dsimp only
      cases isPlain : plainBinding codec binding with
      | none => exact ⟨same, rfl⟩
      | some binding =>
          obtain ⟨answer, isAnswer, isSwap⟩ := compareAndSwap_eq (same.valid pairId)
            (fun found => uniform binding found isPlain)
          dsimp only
          rw [same.bindings, isAnswer, isSwap]
          refine ⟨same.withRows ?_, rfl⟩
          unfold PgIdentityBindingStore.update
          cases found : s.bindings pairId with
          | none => exact same.valid
          | some current =>
              dsimp only
              split
              · next fit =>
                  rw [update_sameOwner fit.2]
                  exact valid_update same.valid (valid_plainBinding isPlain) pairId
              · exact same.valid
  | claim key operation agentId =>
      obtain ⟨kept, alike⟩ := claim_alike same valid uniform
      exact ⟨kept, congrArg Answer.claim alike⟩
  | complete key response =>
      unfold Contents.memory Contents.postgres
      dsimp only
      rcases complete_alike same valid uniform with
        ⟨isRefused, isRefused'⟩ | ⟨front, back, isFront, isBack, kept⟩
      · rw [isRefused, isRefused']
        exact ⟨same, rfl⟩
      · rw [isFront, isBack]
        exact ⟨kept, rfl⟩

theorem Same.empty : Same codec .empty .empty where
  bindings := rfl
  valid _ _ absent := by cases absent
  kept _ _ absent := by cases absent
  known _ absent := by cases absent

/-- Every operation is uniform where it is performed. -/
def UniformRun (codec : Codec) (columns : Columns) (s : Contents) : List Op → Prop
  | [] => True
  | op :: rest =>
      Uniform codec columns s op ∧ UniformRun codec columns (s.memory codec columns op).2 rest

theorem run_alike (same : Same codec s t) {ops : List Op} (valid : ∀ op ∈ ops, op.Valid)
    (uniform : UniformRun codec columns s ops) :
    Same codec (run (Contents.memory codec columns) s ops).2
        (run (Contents.postgres codec columns) t ops).2 ∧
      (run (Contents.postgres codec columns) t ops).1.map Answer.normal =
        (run (Contents.memory codec columns) s ops).1.map Answer.normal := by
  induction ops generalizing s t with
  | nil => exact ⟨same, rfl⟩
  | cons op rest ih =>
      obtain ⟨isUniform, laterUniform⟩ := uniform
      obtain ⟨next, alike⟩ := perform_alike same (valid op List.mem_cons_self) isUniform
      obtain ⟨last, alikeRest⟩ :=
        ih next (fun later member => valid later (List.mem_cons_of_mem op member)) laterUniform
      exact ⟨last, congrArg₂ List.cons alike alikeRest⟩

/-- From empty stores on, both hold the same and answer alike. -/
theorem same_of_run {ops : List Op} (valid : ∀ op ∈ ops, op.Valid)
    (uniform : UniformRun codec columns .empty ops) :
    Same codec (run (Contents.memory codec columns) .empty ops).2
        (run (Contents.postgres codec columns) .empty ops).2 ∧
      (run (Contents.postgres codec columns) .empty ops).1.map Answer.normal =
        (run (Contents.memory codec columns) .empty ops).1.map Answer.normal :=
  run_alike .empty valid uniform

end Alike

def sampleColumns : Columns where
  uuid value := some (value.map lowerUnit)
  jsonb value := some value
  stringify _ := []
  parse _ := none
  uuid_of_isUuid _ _ := rfl
  normal_jsonb _ _ same := by
    cases same
    rfl

/-- A binding is swapped for itself. -/
def degenerateSwap : List Op :=
  [.set (text "pair") (sampleBinding "first"),
    .compareAndSwap (text "pair") (some (text "first")) (sampleBinding "first")]

def isUpdated : Answer → Bool
  | .swap (some .updated) => true
  | _ => false

theorem not_forall_same_degenerateSwap : ¬ ∀ ops : List Op, (∀ op ∈ ops, op.Valid) →
    (run (Contents.postgres sampleCodec sampleColumns) .empty ops).1.map Answer.normal =
      (run (Contents.memory sampleCodec sampleColumns) .empty ops).1.map Answer.normal := by
  intro alike
  have valid : ∀ op ∈ degenerateSwap, op.Valid := by
    intro op member
    rcases List.mem_pair.mp member with rfl | rfl
    · trivial
    · trivial
  have same := congrArg (List.map isUpdated) (alike degenerateSwap valid)
  have differs : ((run (Contents.postgres sampleCodec sampleColumns) .empty
        degenerateSwap).1.map Answer.normal).map isUpdated = [false, true] ∧
      ((run (Contents.memory sampleCodec sampleColumns) .empty
        degenerateSwap).1.map Answer.normal).map isUpdated = [false, false] := by
    decide +kernel
  rw [differs.1, differs.2] at same
  cases same

def sampleCompletion : List Op :=
  [.claim completionKey (text "bind") (text "agent"), .complete completionKey okBody]

theorem same_of_run_sampleCompletion :
    (run (Contents.postgres sampleCodec sampleColumns) .empty sampleCompletion).1.map
        Answer.normal =
      (run (Contents.memory sampleCodec sampleColumns) .empty sampleCompletion).1.map
        Answer.normal := by
  have valid : ∀ op ∈ sampleCompletion, op.Valid := by
    intro op member
    have isKey : isUuid completionKey = true := by decide +kernel
    rcases List.mem_pair.mp member with rfl | rfl
    · exact isKey
    · exact isKey
  have uniform : UniformRun sampleCodec sampleColumns .empty sampleCompletion := by
    refine ⟨?_, ⟨?_, ?_⟩, trivial⟩
    · intro other _ isKnown
      cases isKnown
    · intro other _ isKnown
      by_contra differs
      have absent : Function.update (fun _ => none) completionKey
          (some (Entry.mk (text "bind") (text "agent") none)) other = none :=
        Function.update_of_ne differs _ _
      cases absent.symm.trans (Option.isSome_iff_exists.mp isKnown).choose_spec
    · exact fun _ _ => ⟨rfl, fun _ => rfl⟩
  exact (same_of_run valid uniform).2

end SelfConnect.Ultra.Equivalence
