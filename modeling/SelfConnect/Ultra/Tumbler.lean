import Mathlib.Data.List.Forall2
import Mathlib.Data.List.Nodup
import SelfConnect.Library.Binary64
import SelfConnect.Library.System
import SelfConnect.Ultra.Stores

namespace SelfConnect.Ultra.Tumbler

open SelfConnect.Js SelfConnect.Library

/-! The credential maps in PostgreSQL. Each method is one transaction that locks its row. -/

inductive Number
  | finite (value : ℚ)
  | posInf
  | negInf
  | nan

namespace Number

def lt : Number → Number → Bool
  | .finite first, .finite second => first < second
  | .finite _, .posInf => true
  | .negInf, .finite _ => true
  | .negInf, .posInf => true
  | _, _ => false

/-- `Math.max` -/
def max : Number → Number → Number
  | .nan, _ => .nan
  | _, .nan => .nan
  | first, second => if first.lt second then second else first

/-- The number and one, rounded. -/
def next : Number → Number
  | .finite value => .finite (Binary64.round (value + 1))
  | number => number

/-- `JSON.stringify` writes null for what is not finite. -/
def json? : Number → Option ℚ
  | .finite value => some value
  | _ => none

end Number

structure Segment (Counter : Type) where
  segmentId : Text
  type : Text
  counter : Option Counter
  /-- The fields that no method reads. -/
  rest : Json

/-- A status that is missing is undefined. -/
structure TumblerMap (Counter : Type) where
  segments : List (Segment Counter)
  requestCount : Option Counter
  lastUsedAt : Option Counter
  status : Option Json
  rest : Json

/-- A map as a caller has it, and as its row has it. -/
abbrev Given : Type := TumblerMap Number
abbrev Stored : Type := TumblerMap ℚ

abbrev Maps : Type := Text → Option Stored

def Segment.isHotp {Counter : Type} (segment : Segment Counter) : Bool :=
  segment.type = text "hotp"

/-- `segment.counter ?? 0` -/
def Segment.value (segment : Segment Number) : Number := segment.counter.getD (.finite 0)

def Segment.stored (segment : Segment Number) : Segment ℚ :=
  ⟨segment.segmentId, segment.type, segment.counter.bind Number.json?, segment.rest⟩

def Segment.given (segment : Segment ℚ) : Segment Number :=
  ⟨segment.segmentId, segment.type, segment.counter.map .finite, segment.rest⟩

/-- `JSON.stringify`, and what the column makes of it. -/
def stringify (map : Given) : Stored where
  segments := map.segments.map Segment.stored
  requestCount := map.requestCount.bind Number.json?
  lastUsedAt := map.lastUsedAt.bind Number.json?
  status := map.status
  rest := map.rest

def parseMap (map : Stored) : Given where
  segments := map.segments.map Segment.given
  requestCount := map.requestCount.map .finite
  lastUsedAt := map.lastUsedAt.map .finite
  status := map.status
  rest := map.rest

namespace PgTumblerStore

/-- `counters.get`, in which the last entry of a segment counts. -/
def counters (current : Given) (segmentId : Text) : Option Number :=
  ((current.segments.filter Segment.isHotp).reverse.find? (·.segmentId = segmentId)).map
    Segment.value

def raise (counters : Text → Option Number) (segment : Segment Number) : Segment Number :=
  if segment.isHotp = true then
    match counters segment.segmentId with
    | some counter => { segment with counter := some (segment.value.max counter) }
    | none => segment
  else segment

def merge (current map : Given) : Given :=
  let currentCount := current.requestCount.getD (.finite 0)
  let incomingCount := map.requestCount.getD (.finite 0)
  let currentUsed := current.lastUsedAt.getD (.finite 0)
  let incomingUsed := map.lastUsedAt.getD (.finite 0)
  { map with
    segments := map.segments.map (raise (counters current))
    requestCount := some (if currentUsed.lt incomingUsed then incomingCount.max currentCount.next
      else incomingCount.max currentCount)
    lastUsedAt := if incomingUsed.lt currentUsed then current.lastUsedAt else map.lastUsedAt }

def set (maps : Maps) (clientId : Text) (map : Given) : Maps :=
  match maps clientId with
  | some current =>
      Function.update maps clientId (some (stringify (merge (parseMap current) map)))
  | none => Function.update maps clientId (some (stringify map))

def updated (updates : Text → Option Number) (segment : Segment Number) : Segment Number :=
  if segment.isHotp = true then
    match updates segment.segmentId with
    | some counter => { segment with counter := some counter }
    | none => segment
  else segment

def updateCounters (maps : Maps) (clientId : Text) (updates : Text → Option Number) : Maps :=
  match maps clientId with
  | none => maps
  | some current =>
      let map := parseMap current
      Function.update maps clientId
        (some (stringify { map with segments := map.segments.map (updated updates) }))

/-- The first segment of the name gets the counter. -/
def putCounter (segmentId : Text) (counter : Number) :
    List (Segment Number) → List (Segment Number)
  | [] => []
  | segment :: rest =>
      if segment.segmentId = segmentId then { segment with counter := some counter } :: rest
      else segment :: putCounter segmentId counter rest

def consumeCounter (maps : Maps) (clientId segmentId : Text) (matchedCounter : Number) :
    Bool × Maps :=
  match maps clientId with
  | none => (false, maps)
  | some current =>
      let map := parseMap current
      match map.segments.find? (·.segmentId = segmentId) with
      | none => (false, maps)
      | some segment =>
          if segment.isHotp = false ∨ matchedCounter.lt segment.value = true then (false, maps)
          else (true, Function.update maps clientId (some (stringify
            { map with segments := putCounter segmentId matchedCounter.next map.segments })))

/-- No status, or one of an active or expiring credential. -/
def replaceable : Option Json → Bool
  | none => true
  | some (.str status) => status = text "active" || status = text "expiring"
  | some _ => false

def revoked : Json := .str (text "revoked")

def replaceCredential (maps : Maps) (oldClientId newClientId : Text) (replacement : Given) :
    Bool × Maps :=
  match maps oldClientId with
  | none => (false, maps)
  | some current =>
      if replaceable current.status = false then (false, maps)
      else match maps newClientId with
        | some _ => (false, maps)
        | none =>
            let revokedMap := { parseMap current with status := some revoked }
            (true, Function.update (Function.update maps oldClientId
              (some (stringify revokedMap))) newClientId (some (stringify replacement)))

end PgTumblerStore

/-- `commitValidationToMap`: its result and what it makes of the map, unless it throws. -/
structure Tsk (Input Result : Type) where
  commitValidationToMap : Given → Input → Option (Result × Given)

inductive Op (Input : Type)
  | set (clientId : Text) (map : Given)
  | delete (clientId : Text)
  | updateCounters (clientId : Text) (updates : Text → Option Number)
  | consumeCounter (clientId segmentId : Text) (matchedCounter : Number)
  | commitValidation (clientId : Text) (input : Input)
  | replaceCredential (oldClientId newClientId : Text) (replacement : Given)

/-- There is no result for a client that is unknown. -/
inductive Answer (Result : Type)
  | done
  | bool (answer : Bool)
  | result (result : Option Result)

section Stores

variable {Input Result : Type} (tsk : Tsk Input Result)

open PgTumblerStore

def commitValidation (maps : Maps) (clientId : Text) (input : Input) :
    Option (Option Result × Maps) :=
  match maps clientId with
  | none => some (none, maps)
  | some current => do
      let (result, map) ← tsk.commitValidationToMap (parseMap current) input
      return (some result, Function.update maps clientId (some (stringify map)))

/-- What a transaction that commits answers and leaves. -/
def perform (maps : Maps) : Op Input → Option (Answer Result × Maps)
  | .set clientId map => some (.done, set maps clientId map)
  | .delete clientId => some (.done, Function.update maps clientId none)
  | .updateCounters clientId updates => some (.done, updateCounters maps clientId updates)
  | .consumeCounter clientId segmentId matchedCounter =>
      let consumed := consumeCounter maps clientId segmentId matchedCounter
      some (.bool consumed.1, consumed.2)
  | .commitValidation clientId input =>
      (commitValidation tsk maps clientId input).map fun done => (.result done.1, done.2)
  | .replaceCredential oldClientId newClientId replacement =>
      let replaced := replaceCredential maps oldClientId newClientId replacement
      some (.bool replaced.1, replaced.2)

/-- The rows, and what has become of them: the counters that have been consumed, the maps that
have been revoked, and how often they have been replaced. -/
structure Store where
  maps : Maps
  consumed : List (Text × Text × Number)
  retired : Text → Bool
  replaced : Text → Nat

def consumedBy : Op Input → Answer Result → List (Text × Text × Number)
  | .consumeCounter clientId segmentId matchedCounter, .bool true =>
      [(clientId, segmentId, matchedCounter)]
  | _, _ => []

def replacedBy : Op Input → Answer Result → Text → Nat
  | .replaceCredential oldClientId _ _, .bool true, clientId =>
      if oldClientId = clientId then 1 else 0
  | _, _, _ => 0

def isRevoked (map : Stored) : Bool :=
  match map.status with
  | some (.str status) => status = text "revoked"
  | _ => false

def Store.after (s : Store) (op : Op Input) (answer : Answer Result) (maps : Maps) : Store where
  maps := maps
  consumed := consumedBy op answer ++ s.consumed
  retired clientId := (maps clientId).any fun map => s.retired clientId || isRevoked map
  replaced clientId :=
    if (maps clientId).isSome then s.replaced clientId + replacedBy op answer clientId else 0

/-- A transaction, which may also fail and be rolled back. -/
structure Event (Input : Type) where
  op : Op Input
  commits : Bool

def Store.step (s : Store) (event : Event Input) : Store :=
  if event.commits = true then
    match perform tsk s.maps event.op with
    | some (answer, maps) => s.after event.op answer maps
    | none => s
  else s

end Stores

/-! Counters. -/

/-- The map has a segment of this name at this counter. -/
def HasCounter (map : Stored) (segmentId : Text) (counter : ℚ) : Prop :=
  ∃ segment ∈ map.segments, segment.segmentId = segmentId ∧ segment.isHotp = true ∧
    segment.counter.getD 0 = counter

def At (maps : Maps) (clientId segmentId : Text) (counter : ℚ) : Prop :=
  ∃ map, maps clientId = some map ∧ HasCounter map segmentId counter

/-- The map names each segment once. -/
def Distinct {Counter : Type} (map : TumblerMap Counter) : Prop :=
  (map.segments.map (·.segmentId)).Nodup

/-- A segment is as before, or its counter is later. -/
structure SegmentRaised (before after : Segment ℚ) : Prop where
  segmentId : after.segmentId = before.segmentId
  isHotp : after.isHotp = before.isHotp
  counter : before.isHotp = true → before.counter.getD 0 ≤ after.counter.getD 0

def Raised (before after : Stored) : Prop :=
  List.Forall₂ SegmentRaised before.segments after.segments

section Counters

variable {Input Result : Type}

/-- `commitValidationToMap` lowers no counter. -/
def Tsk.Raises (tsk : Tsk Input Result) : Prop :=
  ∀ map input result changed, tsk.commitValidationToMap (parseMap map) input =
    some (result, changed) → Raised map (stringify changed)

/-- What a step has to meet: maps name each segment once; a map that is set has every counter of
the stored one, with a value that JSON can write; no counter is updated to a lower one; and the
number after a counter that is consumed is a later one. -/
def Orderly (maps : Maps) : Op Input → Prop
  | .set clientId map => Distinct map ∧ ∀ segmentId counter, At maps clientId segmentId counter →
      ∃ segment ∈ map.segments, segment.segmentId = segmentId ∧ segment.isHotp = true ∧
        segment.value ≠ .nan ∧ segment.value ≠ .posInf
  | .delete _ => False
  | .updateCounters clientId updates => ∀ segmentId counter,
      At maps clientId segmentId counter → ∀ later, updates segmentId = some later →
        ∃ value, later = .finite value ∧ counter ≤ value
  | .consumeCounter clientId segmentId matchedCounter => ∀ counter,
      At maps clientId segmentId counter → matchedCounter.lt (.finite counter) = false →
        ∃ value, matchedCounter = .finite value ∧ value < Binary64.round (value + 1)
  | .commitValidation _ _ => True
  | .replaceCredential _ _ replacement => Distinct replacement

theorem json?_finite (counter : Option ℚ) :
    (counter.map Number.finite).bind Number.json? = counter := by
  cases counter <;> rfl

theorem stored_given (segment : Segment ℚ) : segment.given.stored = segment := by
  unfold Segment.given Segment.stored
  rw [json?_finite]

theorem value_given (segment : Segment ℚ) :
    segment.given.value = .finite (segment.counter.getD 0) := by
  unfold Segment.value Segment.given
  cases segment.counter <;> rfl

theorem stringify_parseMap (map : Stored) : stringify (parseMap map) = map := by
  unfold stringify parseMap
  rw [json?_finite, json?_finite, List.map_map]
  have same : (Segment.stored ∘ Segment.given) = id := funext stored_given
  rw [same, List.map_id]

theorem distinct_stringify {map : Given} : Distinct (stringify map) ↔ Distinct map := by
  unfold Distinct stringify
  rw [List.map_map]
  rfl

theorem SegmentRaised.refl (segment : Segment ℚ) : SegmentRaised segment segment :=
  ⟨rfl, rfl, fun _ => le_rfl⟩

theorem Raised.refl (map : Stored) : Raised map map := List.forall₂_same.mpr fun _ _ => .refl _

theorem Raised.distinct {before after : Stored} (raised : Raised before after)
    (distinct : Distinct before) : Distinct after := by
  have same : after.segments.map (·.segmentId) = before.segments.map (·.segmentId) := by
    unfold Raised at raised
    generalize before.segments = front at raised
    generalize after.segments = back at raised
    induction raised with
    | nil => rfl
    | cons head _ ih => exact congrArg₂ List.cons head.segmentId ih
  unfold Distinct
  rw [same]
  exact distinct

theorem Raised.hasCounter {before after : Stored} (raised : Raised before after)
    {segmentId : Text} {counter : ℚ} (has : HasCounter before segmentId counter) :
    ∃ later, HasCounter after segmentId later ∧ counter ≤ later := by
  obtain ⟨segment, member, isName, isHotp, isCounter⟩ := has
  obtain ⟨index, bound, isSegment⟩ := List.getElem_of_mem member
  obtain ⟨sameLength, each⟩ := List.forall₂_iff_get.mp raised
  have fits := each index bound (sameLength ▸ bound)
  rw [List.get_eq_getElem, isSegment] at fits
  refine ⟨_, ⟨_, List.get_mem _ _, fits.segmentId.trans isName, fits.isHotp.trans isHotp, rfl⟩, ?_⟩
  rw [← isCounter]
  exact fits.counter isHotp

theorem eq_of_distinct {map : Stored} (distinct : Distinct map) {first second : Segment ℚ}
    (isFirst : first ∈ map.segments) (isSecond : second ∈ map.segments)
    (same : first.segmentId = second.segmentId) : first = second :=
  List.inj_on_of_nodup_map distinct isFirst isSecond same

theorem HasCounter.unique {map : Stored} (distinct : Distinct map) {segmentId : Text}
    {first second : ℚ} (has : HasCounter map segmentId first)
    (has' : HasCounter map segmentId second) : first = second := by
  obtain ⟨segment, isFirst, isName, -, isCounter⟩ := has
  obtain ⟨other, isSecond, isName', -, isCounter'⟩ := has'
  cases eq_of_distinct distinct isFirst isSecond (isName.trans isName'.symm)
  exact isCounter.symm.trans isCounter'

/-- Every counter is still there, or a later one of its segment. -/
def Kept (before after : Stored) : Prop :=
  ∀ segmentId counter, HasCounter before segmentId counter →
    ∃ later, HasCounter after segmentId later ∧ counter ≤ later

def Rises (maps later : Maps) : Prop :=
  ∀ clientId segmentId counter, At maps clientId segmentId counter →
    ∃ found, At later clientId segmentId found ∧ counter ≤ found

def AllDistinct (maps : Maps) : Prop := ∀ clientId map, maps clientId = some map → Distinct map

theorem Rises.refl (maps : Maps) : Rises maps maps :=
  fun _ _ counter isAt => ⟨counter, isAt, le_rfl⟩

theorem Rises.trans {first second third : Maps} (front : Rises first second)
    (back : Rises second third) : Rises first third := by
  intro clientId segmentId counter isAt
  obtain ⟨found, isFound, le⟩ := front clientId segmentId counter isAt
  obtain ⟨last, isLast, le'⟩ := back clientId segmentId found isFound
  exact ⟨last, isLast, le.trans le'⟩

variable {maps : Maps} {clientId segmentId : Text} {current : Stored}

theorem AllDistinct.update (distinct : AllDistinct maps) {map : Stored} (own : Distinct map) :
    AllDistinct (Function.update maps clientId (some map)) := by
  intro other found isFound
  by_cases isClient : other = clientId
  · rw [isClient, Function.update_self] at isFound
    cases isFound
    exact own
  · rw [Function.update_of_ne isClient] at isFound
    exact distinct other found isFound

theorem rises_update {map : Stored}
    (kept : ∀ current, maps clientId = some current → Kept current map) :
    Rises maps (Function.update maps clientId (some map)) := by
  rintro other segmentId counter ⟨found, isFound, has⟩
  by_cases isClient : other = clientId
  · rw [isClient] at isFound ⊢
    obtain ⟨later, hasLater, le⟩ := kept found isFound segmentId counter has
    exact ⟨later, ⟨map, Function.update_self .., hasLater⟩, le⟩
  · exact ⟨counter, ⟨found, (Function.update_of_ne isClient ..).trans isFound, has⟩, le_rfl⟩

theorem counters_parseMap (distinct : Distinct current) {counter : ℚ}
    (has : HasCounter current segmentId counter) :
    PgTumblerStore.counters (parseMap current) segmentId = some (.finite counter) := by
  obtain ⟨segment, member, isName, isHotp, isCounter⟩ := has
  unfold PgTumblerStore.counters parseMap
  have isListed : segment.given ∈ ((current.segments.map Segment.given).filter
      Segment.isHotp).reverse :=
    List.mem_reverse.mpr (List.mem_filter.mpr ⟨List.mem_map_of_mem member, isHotp⟩)
  cases found : ((current.segments.map Segment.given).filter Segment.isHotp).reverse.find?
      (·.segmentId = segmentId) with
  | none =>
      have absent := List.find?_eq_none.mp found _ isListed
      exact absurd (decide_eq_true isName) absent
  | some other =>
      have isOther := List.mem_filter.mp (List.mem_reverse.mp (List.mem_of_find?_eq_some found))
      obtain ⟨source, isSource, isGiven⟩ := List.mem_map.mp isOther.1
      have sameName : source.segmentId = segmentId := by
        have named := List.find?_some found
        rw [← isGiven] at named
        exact of_decide_eq_true named
      cases eq_of_distinct distinct isSource member (sameName.trans isName.symm)
      rw [← isGiven, ← isCounter]
      exact congrArg some (value_given segment)

/-- The greater of a number that JSON can write and a counter. -/
theorem json?_max {value : Number} (isNumber : value ≠ .nan) (bounded : value ≠ .posInf)
    (counter : ℚ) :
    ∃ later, (value.max (.finite counter)).json? = some later ∧ counter ≤ later := by
  cases value with
  | finite first =>
      unfold Number.max Number.lt
      dsimp only
      split
      · exact ⟨counter, rfl, le_rfl⟩
      · next notBelow => exact ⟨first, rfl, not_lt.mp fun below => notBelow (decide_eq_true below)⟩
  | posInf => exact absurd rfl bounded
  | negInf => exact ⟨counter, rfl, le_rfl⟩
  | nan => exact absurd rfl isNumber

theorem segmentId_raise (counters : Text → Option Number) (segment : Segment Number) :
    (PgTumblerStore.raise counters segment).segmentId = segment.segmentId := by
  unfold PgTumblerStore.raise
  split
  · split <;> rfl
  · rfl

theorem kept_merge (distinct : Distinct current) {map : Given}
    (fits : ∀ segmentId counter, HasCounter current segmentId counter →
      ∃ segment ∈ map.segments, segment.segmentId = segmentId ∧ segment.isHotp = true ∧
        segment.value ≠ .nan ∧ segment.value ≠ .posInf) :
    Kept current (stringify (PgTumblerStore.merge (parseMap current) map)) := by
  intro segmentId counter has
  obtain ⟨segment, member, isName, isHotp, isNumber, bounded⟩ := fits segmentId counter has
  obtain ⟨later, isLater, le⟩ := json?_max isNumber bounded counter
  refine ⟨later, ⟨_, List.mem_map_of_mem (List.mem_map_of_mem member), ?_, ?_, ?_⟩, le⟩
  · exact (segmentId_raise _ _).trans isName
  all_goals
    unfold PgTumblerStore.raise
    rw [if_pos isHotp, isName, counters_parseMap distinct has]
  · exact isHotp
  · exact congrArg (Option.getD · 0) isLater

theorem distinct_merge {map : Given} (distinct : Distinct map) (current : Given) :
    Distinct (PgTumblerStore.merge current map) := by
  unfold Distinct PgTumblerStore.merge
  rw [List.map_map]
  have same : (fun segment : Segment Number => segment.segmentId) ∘
      PgTumblerStore.raise (PgTumblerStore.counters current) = fun segment => segment.segmentId :=
    funext fun segment => segmentId_raise _ segment
  rw [same]
  exact distinct

theorem raised_updated {updates : Text → Option Number}
    (fits : ∀ segmentId counter, HasCounter current segmentId counter →
      ∀ later, updates segmentId = some later → ∃ value, later = .finite value ∧ counter ≤ value) :
    Raised current (stringify { parseMap current with
      segments := (parseMap current).segments.map (PgTumblerStore.updated updates) }) := by
  unfold Raised stringify parseMap
  dsimp only
  rw [List.map_map, List.map_map, List.forall₂_map_right_iff, List.forall₂_same]
  intro segment member
  change SegmentRaised segment (PgTumblerStore.updated updates segment.given).stored
  unfold PgTumblerStore.updated
  split
  · next isHotp =>
      split
      · next later isUpdate =>
          obtain ⟨value, isValue, le⟩ := fits segment.segmentId _
            ⟨segment, member, rfl, isHotp, rfl⟩ later isUpdate
          rw [isValue]
          exact ⟨rfl, rfl, fun _ => le⟩
      · rw [stored_given]
        exact .refl segment
  · rw [stored_given]
    exact .refl segment

theorem putCounter_cons (segmentId : Text) (counter : Number) (segment : Segment Number)
    (rest : List (Segment Number)) :
    PgTumblerStore.putCounter segmentId counter (segment :: rest) =
      if segment.segmentId = segmentId then { segment with counter := some counter } :: rest
      else segment :: PgTumblerStore.putCounter segmentId counter rest := rfl

/-- The counter of the first segment of the name rises to this one. -/
theorem raised_putCounter {segments : List (Segment ℚ)} {segment : Segment Number} {later : ℚ}
    (found : (segments.map Segment.given).find? (·.segmentId = segmentId) = some segment)
    (fits : ∀ counter : ℚ, segment.value = .finite counter → counter ≤ later) :
    List.Forall₂ SegmentRaised segments
        ((PgTumblerStore.putCounter segmentId (.finite later)
          (segments.map Segment.given)).map Segment.stored) ∧
      ∃ after ∈ (PgTumblerStore.putCounter segmentId (.finite later)
          (segments.map Segment.given)).map Segment.stored,
        after.segmentId = segmentId ∧ after.isHotp = segment.isHotp ∧
          after.counter.getD 0 = later := by
  induction segments with
  | nil => cases found
  | cons first rest ih =>
      rw [List.map_cons, List.find?_cons] at found
      rw [List.map_cons, putCounter_cons]
      by_cases isName : first.given.segmentId = segmentId
      · rw [decide_eq_true isName] at found
        cases found
        rw [if_pos isName, List.map_cons]
        refine ⟨.cons ⟨rfl, rfl, fun _ => fits _ (value_given first)⟩ ?_, _, List.mem_cons_self,
          isName, rfl, rfl⟩
        rw [List.map_map, List.forall₂_map_right_iff, List.forall₂_same]
        intro other _
        rw [Function.comp_apply, stored_given]
        exact .refl other
      · rw [decide_eq_false isName] at found
        obtain ⟨raised, after, member, isAfter⟩ := ih found
        rw [if_neg isName, List.map_cons, stored_given]
        exact ⟨.cons (.refl first) raised, after, List.mem_cons_of_mem _ member, isAfter⟩

variable {tsk : Tsk Input Result} {matchedCounter : Number} {later : Maps}

/-- What a counter that is consumed has been, and what it becomes. -/
theorem consumed_of_consumeCounter (distinct : AllDistinct maps)
    (orderly : Orderly maps (.consumeCounter clientId segmentId matchedCounter : Op Input))
    (isConsumed : PgTumblerStore.consumeCounter maps clientId segmentId matchedCounter =
      (true, later)) :
    AllDistinct later ∧ Rises maps later ∧ ∃ value counter, matchedCounter = .finite value ∧
      At maps clientId segmentId counter ∧ counter ≤ value ∧
        ∃ next, At later clientId segmentId next ∧ value < next := by
  unfold PgTumblerStore.consumeCounter at isConsumed
  split at isConsumed
  · cases isConsumed
  · next current isCurrent =>
      dsimp only at isConsumed
      split at isConsumed
      · cases isConsumed
      · next segment found =>
          split at isConsumed
          · cases isConsumed
          · next fits =>
              cases isConsumed
              obtain ⟨isHotp, notBelow⟩ := not_or.mp fits
              obtain ⟨source, isSource, isGiven⟩ :=
                List.mem_map.mp (List.mem_of_find?_eq_some found)
              have isName := List.find?_some found
              rw [← isGiven] at isName isHotp notBelow
              rw [value_given] at notBelow
              have isAt : At maps clientId segmentId (source.counter.getD 0) :=
                ⟨current, isCurrent, source, isSource, of_decide_eq_true isName,
                  Bool.eq_true_of_not_eq_false isHotp, rfl⟩
              obtain ⟨value, isValue, grows⟩ :=
                orderly _ isAt (Bool.eq_false_of_not_eq_true notBelow)
              rw [isValue] at notBelow ⊢
              have reached : source.counter.getD 0 ≤ value :=
                not_lt.mp fun below => notBelow (decide_eq_true below)
              have fits (counter : ℚ) (isCounter : segment.value = .finite counter) :
                  counter ≤ Binary64.round (value + 1) := by
                rw [← isGiven, value_given] at isCounter
                cases isCounter
                exact reached.trans grows.le
              obtain ⟨raised, after, member, isAfter, sameHotp, isNext⟩ :=
                raised_putCounter found fits
              have isRaised : Raised current (stringify { parseMap current with
                  segments := PgTumblerStore.putCounter segmentId
                    (.finite (Binary64.round (value + 1))) (parseMap current).segments }) := raised
              refine ⟨distinct.update (isRaised.distinct (distinct clientId current isCurrent)),
                rises_update fun other isOther => ?_, value, _, rfl, isAt, reached, _,
                ⟨_, Function.update_self .., after, member, isAfter, ?_, isNext⟩, grows⟩
              · cases isCurrent.symm.trans isOther
                exact fun segmentId counter has => isRaised.hasCounter has
              · rw [sameHotp, ← isGiven]
                exact Bool.eq_true_of_not_eq_false isHotp

theorem consumeCounter_cases (maps : Maps) (clientId segmentId : Text) (matchedCounter : Number) :
    PgTumblerStore.consumeCounter maps clientId segmentId matchedCounter = (false, maps) ∨
      (PgTumblerStore.consumeCounter maps clientId segmentId matchedCounter).1 = true := by
  unfold PgTumblerStore.consumeCounter
  split
  · exact .inl rfl
  · dsimp only
    split
    · exact .inl rfl
    · split
      · exact .inl rfl
      · exact .inr rfl

theorem replaceCredential_cases (maps : Maps) (oldClientId newClientId : Text)
    (replacement : Given) :
    PgTumblerStore.replaceCredential maps oldClientId newClientId replacement = (false, maps) ∨
      ∃ current, maps oldClientId = some current ∧ maps newClientId = none ∧
        PgTumblerStore.replaceable current.status = true ∧
        PgTumblerStore.replaceCredential maps oldClientId newClientId replacement =
          (true, Function.update (Function.update maps oldClientId
            (some { current with status := some PgTumblerStore.revoked })) newClientId
              (some (stringify replacement))) := by
  unfold PgTumblerStore.replaceCredential
  split
  · exact .inl rfl
  · next current isCurrent =>
      split
      · exact .inl rfl
      · next isReplaceable =>
          split
          · exact .inl rfl
          · next isNew =>
              refine .inr ⟨current, isCurrent, isNew,
                Bool.eq_true_of_not_eq_false isReplaceable, ?_⟩
              have same := stringify_parseMap { current with status := some PgTumblerStore.revoked }
              dsimp only
              rw [← same]
              rfl

/-- What a transaction that meets its condition leaves. -/
theorem rises_perform (raises : tsk.Raises) (distinct : AllDistinct maps) {op : Op Input}
    (orderly : Orderly maps op) {answer : Answer Result}
    (performed : perform tsk maps op = some (answer, later)) :
    AllDistinct later ∧ Rises maps later := by
  cases op with
  | set clientId map =>
      obtain ⟨own, fits⟩ := orderly
      cases performed
      unfold PgTumblerStore.set
      split
      · next current isCurrent =>
          refine ⟨distinct.update (distinct_stringify.mpr (distinct_merge own _)),
            rises_update fun found isFound => ?_⟩
          cases isCurrent.symm.trans isFound
          exact kept_merge (distinct clientId current isCurrent) fun segmentId counter has =>
            fits segmentId counter ⟨current, isCurrent, has⟩
      · next absent =>
          refine ⟨distinct.update (distinct_stringify.mpr own),
            rises_update fun found isFound => ?_⟩
          cases absent.symm.trans isFound
  | delete clientId => exact orderly.elim
  | updateCounters clientId updates =>
      cases performed
      unfold PgTumblerStore.updateCounters
      split
      · exact ⟨distinct, .refl maps⟩
      · next current isCurrent =>
          have raised := raised_updated fun segmentId counter has =>
            orderly segmentId counter ⟨current, isCurrent, has⟩
          refine ⟨distinct.update (raised.distinct (distinct clientId current isCurrent)),
            rises_update fun found isFound => ?_⟩
          cases isCurrent.symm.trans isFound
          exact fun segmentId counter has => raised.hasCounter has
  | consumeCounter clientId segmentId matchedCounter =>
      cases performed
      rcases consumeCounter_cases maps clientId segmentId matchedCounter with isRefused | isTrue
      · rw [isRefused]
        exact ⟨distinct, .refl maps⟩
      · have consumed := consumed_of_consumeCounter distinct orderly (Prod.ext isTrue rfl)
        exact ⟨consumed.1, consumed.2.1⟩
  | commitValidation clientId input =>
      obtain ⟨done, isDone, isLater⟩ := Option.map_eq_some_iff.mp performed
      cases isLater
      unfold commitValidation at isDone
      split at isDone
      · cases isDone
        exact ⟨distinct, .refl maps⟩
      · next current isCurrent =>
          obtain ⟨⟨result, changed⟩, isChanged, isDone⟩ := Option.bind_eq_some_iff.mp isDone
          cases isDone
          have raised := raises current input result changed isChanged
          refine ⟨distinct.update (raised.distinct (distinct clientId current isCurrent)),
            rises_update fun found isFound => ?_⟩
          cases isCurrent.symm.trans isFound
          exact fun segmentId counter has => raised.hasCounter has
  | replaceCredential oldClientId newClientId replacement =>
      cases performed
      rcases replaceCredential_cases maps oldClientId newClientId replacement with
        isRefused | ⟨current, isCurrent, isNew, -, isReplaced⟩
      · rw [isRefused]
        exact ⟨distinct, .refl maps⟩
      · rw [isReplaced]
        refine ⟨(distinct.update ?_).update (distinct_stringify.mpr orderly),
          Rises.trans (rises_update fun found isFound => ?_) (rises_update fun found isFound => ?_)⟩
        · exact distinct oldClientId current isCurrent
        · cases isCurrent.symm.trans isFound
          exact fun segmentId counter has => ⟨counter, has, le_rfl⟩
        · by_cases same : newClientId = oldClientId
          · rw [same, isCurrent] at isNew
            cases isNew
          · rw [Function.update_of_ne same, isNew] at isFound
            cases isFound

structure Safe (s : Store) : Prop where
  distinct : AllDistinct s.maps
  passed : ∀ clientId segmentId matchedCounter, (clientId, segmentId, matchedCounter) ∈ s.consumed →
    ∃ value counter, matchedCounter = .finite value ∧ At s.maps clientId segmentId counter ∧
      value < counter
  nodup : s.consumed.Nodup

theorem consumedBy_cases (op : Op Input) (answer : Answer Result) : consumedBy op answer = [] ∨
    ∃ clientId segmentId matchedCounter, op = .consumeCounter clientId segmentId matchedCounter ∧
      answer = .bool true ∧ consumedBy op answer = [(clientId, segmentId, matchedCounter)] := by
  unfold consumedBy
  split
  · exact .inr ⟨_, _, _, rfl, rfl, rfl⟩
  · exact .inl rfl

theorem consumeCounter_of_perform (performed : perform tsk maps
    (.consumeCounter clientId segmentId matchedCounter) = some (.bool true, later)) :
    PgTumblerStore.consumeCounter maps clientId segmentId matchedCounter = (true, later) := by
  obtain ⟨isAnswer, isLater⟩ := Prod.mk.inj (Option.some.inj performed)
  exact Prod.ext (Answer.bool.inj isAnswer) isLater

theorem safe_after {s : Store} (safe : Safe s) (raises : tsk.Raises) {op : Op Input}
    (orderly : Orderly s.maps op) {answer : Answer Result}
    (performed : perform tsk s.maps op = some (answer, later)) :
    Safe (s.after op answer later) ∧ Rises s.maps later := by
  obtain ⟨distinct, rises⟩ := rises_perform raises safe.distinct orderly performed
  have passed : ∀ clientId segmentId matchedCounter,
      (clientId, segmentId, matchedCounter) ∈ s.consumed →
        ∃ value counter, matchedCounter = .finite value ∧ At later clientId segmentId counter ∧
          value < counter := by
    intro clientId segmentId matchedCounter member
    obtain ⟨value, counter, isValue, isAt, below⟩ := safe.passed _ _ _ member
    obtain ⟨found, isFound, le⟩ := rises _ _ _ isAt
    exact ⟨value, found, isValue, isFound, below.trans_le le⟩
  suffices kept : (∀ clientId segmentId matchedCounter,
      (clientId, segmentId, matchedCounter) ∈ consumedBy op answer ++ s.consumed →
        ∃ value counter, matchedCounter = .finite value ∧ At later clientId segmentId counter ∧
          value < counter) ∧ (consumedBy op answer ++ s.consumed).Nodup from
    ⟨⟨distinct, kept.1, kept.2⟩, rises⟩
  rcases consumedBy_cases op answer with
    isNone | ⟨clientId, segmentId, matchedCounter, rfl, rfl, isOne⟩
  · rw [isNone]
    exact ⟨passed, safe.nodup⟩
  · rw [isOne]
    obtain ⟨-, -, value, counter, isValue, isAt, le, next, isNext, below⟩ :=
      consumed_of_consumeCounter safe.distinct orderly (consumeCounter_of_perform performed)
    constructor
    · intro client segment number member
      rcases List.mem_cons.mp member with isNew | isOld
      · cases isNew
        exact ⟨value, next, isValue, isNext, below⟩
      · exact passed client segment number isOld
    · -- A counter that is consumed is one that the stored counter has not passed.
      refine List.nodup_cons.mpr ⟨fun again => ?_, safe.nodup⟩
      obtain ⟨value', counter', isValue', isAt', below'⟩ := safe.passed _ _ _ again
      cases isValue.symm.trans isValue'
      obtain ⟨map, isMap, has⟩ := isAt
      obtain ⟨map', isMap', has'⟩ := isAt'
      cases isMap.symm.trans isMap'
      rw [has.unique (safe.distinct _ _ isMap) has'] at le
      exact absurd le (not_le.mpr below')

theorem safe_step {s : Store} (safe : Safe s) (raises : tsk.Raises) {event : Event Input}
    (orderly : event.commits = true → Orderly s.maps event.op) :
    Safe (s.step tsk event) ∧ Rises s.maps (s.step tsk event).maps := by
  unfold Store.step
  split
  · next commits =>
      split
      · next answer later performed => exact safe_after safe raises (orderly commits) performed
      · exact ⟨safe, .refl _⟩
  · exact ⟨safe, .refl _⟩

end Counters

section Runs

variable {Input Result : Type} {tsk : Tsk Input Result}

/-- Nothing has been consumed yet, and nothing replaced. -/
structure Fresh (s : Store) : Prop where
  distinct : AllDistinct s.maps
  consumed : s.consumed = []
  retired : ∀ clientId, s.retired clientId = (s.maps clientId).any isRevoked
  replaced : ∀ clientId, s.replaced clientId = 0

/-- Transactions in any order. -/
def stores (tsk : Tsk Input Result) : System Store (Event Input) where
  initial := Fresh
  next s event t := t = s.step tsk event

/-- The steps that are to be orderly are those that commit. -/
def OrderlyStep (s : Store) (event : Event Input) : Prop :=
  event.commits = true → Orderly s.maps event.op

variable {events further : List (Event Input)} {s t : Store}

theorem safe_of_run (raises : tsk.Raises)
    (run : ((stores tsk).under OrderlyStep).Run events s) : Safe s := by
  induction run with
  | start first =>
      refine ⟨first.distinct, fun clientId segmentId matchedCounter member => ?_, ?_⟩
      · rw [first.consumed] at member
        cases member
      · rw [first.consumed]
        exact .nil
  | step _ next ih =>
      obtain ⟨orderly, rfl⟩ := next
      exact (safe_step ih raises orderly).1

end Runs

/-! Revocation. -/

section Revocation

variable {Input Result : Type}

/-- `commitValidationToMap` makes no revoked credential one that may be replaced. -/
def Tsk.LeavesRevoked (tsk : Tsk Input Result) : Prop :=
  ∀ map input result changed, tsk.commitValidationToMap map input = some (result, changed) →
    PgTumblerStore.replaceable map.status = false →
      PgTumblerStore.replaceable changed.status = false

/-- A map that has been revoked is only set with a status that is neither missing nor active nor
expiring. -/
def Lasting (s : Store) (event : Event Input) : Prop :=
  event.commits = true → ∀ clientId map, event.op = .set clientId map →
    s.retired clientId = true → PgTumblerStore.replaceable map.status = false

structure Settled (s : Store) : Prop where
  retired : ∀ clientId, s.retired clientId = true →
    ∃ map, s.maps clientId = some map ∧ PgTumblerStore.replaceable map.status = false
  revoked : ∀ clientId map, s.maps clientId = some map → isRevoked map = true →
    s.retired clientId = true
  once : ∀ clientId, s.replaced clientId ≤ 1
  replaced : ∀ clientId, s.replaced clientId = 1 → s.retired clientId = true

theorem not_replaceable_of_isRevoked {map : Stored} (isRevoked : isRevoked map = true) :
    PgTumblerStore.replaceable map.status = false := by
  unfold Tumbler.isRevoked at isRevoked
  split at isRevoked
  · next status isStatus =>
      rw [isStatus, of_decide_eq_true isRevoked]
      decide
  · cases isRevoked

variable {tsk : Tsk Input Result} {s t : Store} {maps later : Maps} {clientId : Text}

/-- A row keeps a status that may not be replaced, unless it is set or deleted. -/
theorem not_replaceable_of_perform (leaves : tsk.LeavesRevoked) {op : Op Input}
    {answer : Answer Result} (performed : perform tsk maps op = some (answer, later))
    (isSet : ∀ map, op = .set clientId map → PgTumblerStore.replaceable map.status = false)
    (isKept : op ≠ .delete clientId) {map : Stored} (isMap : maps clientId = some map)
    (notReplaceable : PgTumblerStore.replaceable map.status = false) :
    ∃ changed, later clientId = some changed ∧
      PgTumblerStore.replaceable changed.status = false := by
  have updated : ∀ {other : Text} {row : Option Stored},
      (other = clientId → ∃ changed, row = some changed ∧
        PgTumblerStore.replaceable changed.status = false) →
      ∃ changed, Function.update maps other row clientId = some changed ∧
        PgTumblerStore.replaceable changed.status = false := by
    intro other row own
    by_cases same : other = clientId
    · rw [same, Function.update_self]
      exact own same
    · rw [Function.update_of_ne (Ne.symm same)]
      exact ⟨map, isMap, notReplaceable⟩
  cases op with
  | set other given =>
      cases performed
      unfold PgTumblerStore.set
      cases maps other with
      | none => exact updated fun same => ⟨_, rfl, isSet given (same ▸ rfl)⟩
      | some current => exact updated fun same => ⟨_, rfl, isSet given (same ▸ rfl)⟩
  | delete other =>
      cases performed
      exact updated fun same => absurd (same ▸ rfl) isKept
  | updateCounters other updates =>
      cases performed
      unfold PgTumblerStore.updateCounters
      cases isCurrent : maps other with
      | none => exact ⟨map, isMap, notReplaceable⟩
      | some current =>
          refine updated fun same => ⟨_, rfl, ?_⟩
          rw [same] at isCurrent
          cases isMap.symm.trans isCurrent
          exact notReplaceable
  | consumeCounter other segmentId matchedCounter =>
      cases performed
      unfold PgTumblerStore.consumeCounter
      split
      · exact ⟨map, isMap, notReplaceable⟩
      · next current isCurrent =>
          dsimp only
          split
          · exact ⟨map, isMap, notReplaceable⟩
          · split
            · exact ⟨map, isMap, notReplaceable⟩
            · refine updated fun same => ⟨_, rfl, ?_⟩
              rw [same] at isCurrent
              cases isMap.symm.trans isCurrent
              exact notReplaceable
  | commitValidation other input =>
      obtain ⟨done, isDone, isLater⟩ := Option.map_eq_some_iff.mp performed
      cases isLater
      unfold commitValidation at isDone
      split at isDone
      · cases isDone
        exact ⟨map, isMap, notReplaceable⟩
      · next current isCurrent =>
          obtain ⟨⟨result, changed⟩, isChanged, isDone⟩ := Option.bind_eq_some_iff.mp isDone
          cases isDone
          refine updated fun same => ⟨_, rfl, leaves _ _ _ _ isChanged ?_⟩
          rw [same] at isCurrent
          cases isMap.symm.trans isCurrent
          exact notReplaceable
  | replaceCredential oldClientId newClientId replacement =>
      cases performed
      rcases replaceCredential_cases maps oldClientId newClientId replacement with
        isRefused | ⟨current, isCurrent, isNew, isReplaceable, isReplaced⟩
      · rw [isRefused]
        exact ⟨map, isMap, notReplaceable⟩
      · rw [isReplaced]
        dsimp only
        have elsewhere : clientId ≠ newClientId := by
          intro same
          rw [← same, isMap] at isNew
          cases isNew
        rw [Function.update_of_ne elsewhere]
        refine updated fun same => ?_
        rw [same] at isCurrent
        cases isMap.symm.trans isCurrent
        exact absurd (isReplaceable.symm.trans notReplaceable) (by decide)

/-- A map is replaced while it may be, and is revoked by it. -/
theorem replacedBy_cases {op : Op Input} {answer : Answer Result}
    (performed : perform tsk maps op = some (answer, later)) (clientId : Text) :
    replacedBy op answer clientId = 0 ∨
      replacedBy op answer clientId = 1 ∧
        (∃ map, maps clientId = some map ∧ PgTumblerStore.replaceable map.status = true) ∧
        ∃ changed, later clientId = some changed ∧ isRevoked changed = true := by
  unfold replacedBy
  split
  · next oldClientId newClientId replacement =>
      split
      · next same =>
          refine .inr ⟨rfl, ?_⟩
          obtain ⟨isAnswer, isLater⟩ := Prod.mk.inj (Option.some.inj performed)
          rcases replaceCredential_cases maps oldClientId newClientId replacement with
            isRefused | ⟨current, isCurrent, isNew, isReplaceable, isReplaced⟩
          · rw [isRefused] at isAnswer
            cases isAnswer
          · rw [isReplaced] at isLater
            rw [← isLater, ← same]
            refine ⟨⟨current, isCurrent, isReplaceable⟩,
              { current with status := some PgTumblerStore.revoked }, ?_, ?_⟩
            · have elsewhere : oldClientId ≠ newClientId := by
                intro same
                rw [← same, isCurrent] at isNew
                cases isNew
              exact (Function.update_of_ne elsewhere ..).trans (Function.update_self ..)
            · change decide (text "revoked" = text "revoked") = true
              exact decide_eq_true rfl
      · exact .inl rfl
  · exact .inl rfl

theorem settled_after (leaves : tsk.LeavesRevoked) (settled : Settled s) {op : Op Input}
    {answer : Answer Result} (performed : perform tsk s.maps op = some (answer, later))
    (lasting : ∀ clientId map, op = .set clientId map → s.retired clientId = true →
      PgTumblerStore.replaceable map.status = false) : Settled (s.after op answer later) := by
  have stays : ∀ clientId map, later clientId = some map → s.retired clientId = true →
      PgTumblerStore.replaceable map.status = false := by
    intro clientId map isMap isRetired
    obtain ⟨before, isBefore, notReplaceable⟩ := settled.retired clientId isRetired
    have isKept : op ≠ .delete clientId := by
      rintro rfl
      cases performed
      rw [Function.update_self] at isMap
      cases isMap
    obtain ⟨changed, isChanged, stillNot⟩ := not_replaceable_of_perform leaves performed
      (fun map isSet => lasting clientId map isSet isRetired) isKept isBefore notReplaceable
    cases isMap.symm.trans isChanged
    exact stillNot
  have retired : ∀ clientId map, later clientId = some map →
      s.retired clientId = true ∨ isRevoked map = true →
        (s.after op answer later).retired clientId = true := by
    intro clientId map isMap isRetired
    exact (Option.any_eq_true ..).mpr ⟨map, isMap, Bool.or_eq_true_iff.mpr isRetired⟩
  have counted : ∀ clientId map, later clientId = some map →
      (s.after op answer later).replaced clientId =
        s.replaced clientId + replacedBy op answer clientId := by
    intro clientId map isMap
    refine if_pos ?_
    rw [isMap]
    rfl
  have gone : ∀ clientId, later clientId = none →
      (s.after op answer later).replaced clientId = 0 := by
    intro clientId absent
    refine if_neg ?_
    rw [absent]
    exact Bool.false_ne_true
  have unreplaced : ∀ clientId map, s.maps clientId = some map →
      PgTumblerStore.replaceable map.status = true → s.replaced clientId = 0 := by
    intro clientId map isMap isReplaceable
    have atMost := settled.once clientId
    rcases Nat.le_one_iff_eq_zero_or_eq_one.mp atMost with isZero | isOne
    · exact isZero
    · obtain ⟨before, isBefore, notReplaceable⟩ :=
        settled.retired clientId (settled.replaced clientId isOne)
      cases isMap.symm.trans isBefore
      exact absurd (isReplaceable.symm.trans notReplaceable) (by decide)
  refine ⟨fun clientId isRetired => ?_, fun clientId map isMap isRevoked =>
    retired clientId map isMap (.inr isRevoked), fun clientId => ?_, fun clientId isOne => ?_⟩
  · obtain ⟨map, isMap, isRetired⟩ := (Option.any_eq_true ..).mp isRetired
    rcases Bool.or_eq_true_iff.mp isRetired with before | now
    · exact ⟨map, isMap, stays clientId map isMap before⟩
    · exact ⟨map, isMap, not_replaceable_of_isRevoked now⟩
  · cases isRow : later clientId with
    | none => exact (gone clientId isRow).trans_le (Nat.zero_le 1)
    | some map =>
        rw [counted clientId map isRow]
        rcases replacedBy_cases performed clientId with
          isNone | ⟨isOne, ⟨before, isBefore, isReplaceable⟩, -⟩
        · rw [isNone]
          exact settled.once clientId
        · rw [isOne, unreplaced clientId before isBefore isReplaceable]
  · cases isRow : later clientId with
    | none => exact absurd ((gone clientId isRow).symm.trans isOne) (by decide)
    | some map =>
        rcases replacedBy_cases performed clientId with
          isNone | ⟨-, -, changed, isChanged, isRevoked⟩
        · rw [counted clientId map isRow, isNone] at isOne
          exact retired clientId map isRow (.inl (settled.replaced clientId isOne))
        · exact retired clientId changed isChanged (.inr isRevoked)

variable {events : List (Event Input)}

theorem settled_step (leaves : tsk.LeavesRevoked) (settled : Settled s) {event : Event Input}
    (lasting : Lasting s event) : Settled (s.step tsk event) := by
  unfold Store.step
  split
  · next commits =>
      split
      · next answer later performed =>
            exact settled_after leaves settled performed (lasting commits)
      · exact settled
  · exact settled

theorem settled_of_run (leaves : tsk.LeavesRevoked)
    (run : ((stores tsk).under Lasting).Run events s) : Settled s := by
  induction run with
  | start first =>
      refine ⟨fun clientId isRetired => ?_, fun clientId map isMap isRevoked => ?_,
        fun clientId => ?_, fun clientId isOne => ?_⟩
      · rw [first.retired] at isRetired
        obtain ⟨map, isMap, isRevoked⟩ := (Option.any_eq_true ..).mp isRetired
        exact ⟨map, isMap, not_replaceable_of_isRevoked isRevoked⟩
      · rw [first.retired]
        exact (Option.any_eq_true ..).mpr ⟨map, isMap, isRevoked⟩
      · exact (first.replaced clientId).trans_le (Nat.zero_le 1)
      · exact absurd ((first.replaced clientId).symm.trans isOne) (by decide)
  | step _ next ih =>
      obtain ⟨lasting, rfl⟩ := next
      exact settled_step leaves ih lasting

/-- A map that has been revoked stays so while it is not deleted. -/
theorem retired_step (leaves : tsk.LeavesRevoked) (settled : Settled s) {event : Event Input}
    (lasting : Lasting s event) (isKept : event.op ≠ .delete clientId)
    (isRetired : s.retired clientId = true) : (s.step tsk event).retired clientId = true := by
  unfold Store.step
  split
  · next commits =>
      split
      · next answer later performed =>
          obtain ⟨map, isMap, notReplaceable⟩ := settled.retired clientId isRetired
          obtain ⟨changed, isChanged, -⟩ := not_replaceable_of_perform leaves performed
            (fun map isSet => lasting commits clientId map isSet isRetired) isKept isMap
            notReplaceable
          exact (Option.any_eq_true ..).mpr
            ⟨changed, isChanged, Bool.or_eq_true_iff.mpr (.inl isRetired)⟩
      · exact isRetired
  · exact isRetired

end Revocation

def sampleTsk : Tsk Unit Unit where
  commitValidationToMap map _ := some ((), map)

theorem raises_sampleTsk : sampleTsk.Raises := by
  intro map input result changed isChanged
  cases isChanged
  rw [stringify_parseMap]
  exact .refl map

def sampleMap (status : String) : Given where
  segments := [⟨text "hotp", text "hotp", some (.finite 0), .null⟩]
  requestCount := none
  lastUsedAt := none
  status := some (.str (text status))
  rest := .null

/-- A store with one credential. -/
def sampleStore : Store where
  maps clientId := if clientId = text "old" then some (stringify (sampleMap "active")) else none
  consumed := []
  retired _ := false
  replaced _ := 0

theorem fresh_sampleStore : Fresh sampleStore where
  distinct clientId map isMap := by
    unfold sampleStore at isMap
    dsimp only at isMap
    split at isMap
    · cases isMap
      exact List.nodup_singleton _
    · cases isMap
  consumed := rfl
  retired clientId := by
    unfold sampleStore
    dsimp only
    split
    · decide
    · rfl
  replaced _ := rfl

def consumeFirst : Event Unit := ⟨.consumeCounter (text "old") (text "hotp") (.finite 0), true⟩

/-- The counter is put back between two uses of it. -/
def consumedTwice : List (Event Unit) :=
  [consumeFirst, ⟨.updateCounters (text "old") fun _ => some (.finite 0), true⟩, consumeFirst]

theorem leavesRevoked_sampleTsk : sampleTsk.LeavesRevoked := by
  intro map input result changed isChanged notReplaceable
  cases isChanged
  exact notReplaceable

def replaceOld (newClientId : String) : Event Unit :=
  ⟨.replaceCredential (text "old") (text newClientId) (sampleMap "active"), true⟩

/-- A map that was read before the credential was replaced is set after it. -/
def replacedTwice : List (Event Unit) :=
  [replaceOld "second", ⟨.set (text "old") (sampleMap "active"), true⟩, replaceOld "third"]

end SelfConnect.Ultra.Tumbler
