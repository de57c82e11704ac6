import SelfConnect.Provenance.Agreement

namespace SelfConnect.Provenance

open SelfConnect.Python SelfConnect.Python.Json

/-! Which lines of a log file are leaves of which seal, as the file itself tells. A
seal speaks of the lines directly before it, as many as its `sealed_events`. -/

def isSeal (record : Value) : Bool :=
  isText (record.get? "event_type") SessionEventType.merkleSeal.value

/-- The number of a seal's leaves. -/
def sealedEvents (record : Value) : Option Nat :=
  ((record.getD "payload" .null).getD "sealed_events" .null).toInt?.map Int.toNat

def merkleRootOf (record : Value) : Option Str :=
  ((record.getD "payload" .null).getD "merkle_root" .null).str?

/-- The line is a leaf of the seal, and the seal's root is that of its leaves. -/
def leafOf (lines : List Text) (sealLine line : Nat) : Bool :=
  match lines[sealLine]?.bind loads with
  | some record =>
      match sealedEvents record with
      | some count =>
          isSeal record && decide (sealLine - count ≤ line ∧ line < sealLine) &&
            decide (merkleRootOf record = some (Str.ofText (merkleRoot
              (((lines.take sealLine).drop (sealLine - count)).map sha384Hex))))
      | none => false
  | none => false

def isSealLine (lines : List Text) (line : Nat) : Bool :=
  ((lines[line]?.bind loads).map isSeal).getD false

/-- A record of the chain, not an acknowledgement. -/
def isChainedLine (lines : List Text) (line : Nat) : Bool :=
  ((lines[line]?.bind loads).map fun record =>
    !isAck (record.getD "seq" (Value.lit ""))).getD false

/-- Every chained record before a seal is a leaf of exactly one seal. -/
def Covered (lines : List Text) : Prop :=
  ∀ last, isSealLine lines last = true → ∀ line < last, isChainedLine lines line = true →
    ∃! sealLine, leafOf lines sealLine line = true

/-! A log that its seals tile: `since` is the number of lines from the last seal on. -/

def textOf (lines : List Line) : List Text :=
  (lines.map Line.value).map (render .compact)

inductive Tiled : List Line → Nat → Prop
  | nil : Tiled [] 0
  | event {lines : List Line} {since : Nat} {draft : Draft} {recorderSig : Option Bytes} :
      Tiled lines since → draft.eventType ≠ .merkleSeal →
        Tiled (lines ++ [.record draft recorderSig]) (since + 1)
  | merkleSeal {lines : List Line} {since : Nat} {draft : Draft} {recorderSig : Option Bytes}
      {segmentNo : Int} {final : Bool} :
      Tiled lines since → draft.eventType = .merkleSeal →
        draft.payload = sealPayload (merkleRoot
          (((textOf lines).drop (lines.length - since)).map sha384Hex)) since segmentNo final →
        Tiled (lines ++ [.record draft recorderSig]) 1

theorem textOf_snoc (lines : List Line) (line : Line) :
    textOf (lines ++ [line]) = textOf lines ++ [render .compact line.value] := by
  simp [textOf]

theorem length_textOf (lines : List Line) : (textOf lines).length = lines.length := by
  simp [textOf]

theorem Tiled.since_le {lines : List Line} {since : Nat} (tiled : Tiled lines since) :
    since ≤ lines.length := by
  induction tiled with
  | nil => exact le_refl _
  | event _ _ ih =>
      rw [List.length_append, List.length_singleton]
      omega
  | merkleSeal _ _ _ _ =>
      rw [List.length_append, List.length_singleton]
      omega

/-! Looking at one line. -/

theorem lt_length_of_leafOf {lines : List Text} {sealLine leaf : Nat}
    (found : leafOf lines sealLine leaf = true) : sealLine < lines.length := by
  by_contra beyond
  rw [leafOf, List.getElem?_eq_none (not_lt.mp beyond)] at found
  cases found

section Lookup

variable {lines : List Line} {line : Line}

private theorem loads_last : (textOf (lines ++ [line]))[lines.length]?.bind loads =
    some line.loaded := by
  rw [textOf_snoc, List.getElem?_append_right (by rw [length_textOf]), length_textOf,
    Nat.sub_self]
  exact loads_text line

private theorem loads_before {index : Nat} (before : index < lines.length) :
    (textOf (lines ++ [line]))[index]? = (textOf lines)[index]? := by
  rw [textOf_snoc, List.getElem?_append_left (by rw [length_textOf]; exact before)]

/-- Later lines change nothing for the leaves of earlier seals. -/
private theorem leafOf_before {sealLine : Nat} (before : sealLine < lines.length)
    (leaf : Nat) :
    leafOf (textOf (lines ++ [line])) sealLine leaf = leafOf (textOf lines) sealLine leaf := by
  unfold leafOf
  rw [loads_before before, textOf_snoc,
    List.take_append_of_le_length (by rw [length_textOf]; exact before.le)]

private theorem isSealLine_before {index : Nat} (before : index < lines.length) :
    isSealLine (textOf (lines ++ [line])) index = isSealLine (textOf lines) index := by
  rw [isSealLine, loads_before before, isSealLine]

private theorem leafOf_beyond {sealLine leaf : Nat} (found : leafOf (textOf lines) sealLine leaf =
    true) : sealLine < lines.length := by
  rw [← length_textOf]
  exact lt_length_of_leafOf found

theorem isSeal_loaded (draft : Draft) (recorderSig : Option Bytes) :
    isSeal (Line.record draft recorderSig).loaded = decide (draft.eventType = .merkleSeal) := by
  rw [isSeal, draft.get?_eventType]
  cases draft.eventType <;> decide

private theorem leafOf_event {draft : Draft} {recorderSig : Option Bytes}
    (isEvent : draft.eventType ≠ .merkleSeal) (leaf : Nat) :
    leafOf (textOf (lines ++ [.record draft recorderSig])) lines.length leaf = false := by
  unfold leafOf
  rw [loads_last]
  dsimp only
  rw [isSeal_loaded, decide_eq_false isEvent]
  split <;> rfl

private theorem loadedMembers_sealPayload (root : Text) (count : Nat) (segmentNo : Int)
    (final : Bool) :
    loadedMembers (sealPayload root count segmentNo final) =
      sealPayload root count segmentNo final := by
  have distinct : ([("merkle_root", Value.str (Str.ofText root)), ("sealed_events", .int count),
      ("segment_no", .int segmentNo), ("final", .bool final)].map Prod.fst).Nodup := by simp
  have loaded := build_reread_object distinct
  have members : build (reread (.dict (sealPayload root count segmentNo final))) =
      .dict (sealPayload root count segmentNo final) := by
    refine loaded.trans ?_
    simp [reread, build, Str.joinSurrogates_ofText, Value.object, sealPayload, Members.of]
  rw [build_reread_dict] at members
  exact Value.dict.inj members

private theorem leafOf_merkleSeal {draft : Draft} {recorderSig : Option Bytes} {since : Nat}
    {segmentNo : Int} {final : Bool} (isMerkleSeal : draft.eventType = .merkleSeal)
    (payload : draft.payload = sealPayload (merkleRoot
      (((textOf lines).drop (lines.length - since)).map sha384Hex)) since segmentNo final)
    (leaf : Nat) :
    leafOf (textOf (lines ++ [.record draft recorderSig])) lines.length leaf =
      decide (lines.length - since ≤ leaf ∧ leaf < lines.length) := by
  have given : (Line.record draft recorderSig).loaded.getD "payload" .null =
      .dict (sealPayload (merkleRoot
        (((textOf lines).drop (lines.length - since)).map sha384Hex)) since segmentNo final) := by
    rw [Value.getD, draft.get?_payload, Option.getD_some, payload, loadedMembers_sealPayload]
  have count : sealedEvents (Line.record draft recorderSig).loaded = some since := by
    rw [sealedEvents, given]
    change ((Value.object _).getD _ _).toInt?.map Int.toNat = _
    simp [Value.getD, Value.toInt?]
  have root : merkleRootOf (Line.record draft recorderSig).loaded =
      some (Str.ofText (merkleRoot
        (((textOf lines).drop (lines.length - since)).map sha384Hex))) := by
    rw [merkleRootOf, given]
    change ((Value.object _).getD _ _).str? = _
    simp [Value.getD, Value.str?]
  unfold leafOf
  rw [loads_last]
  dsimp only
  rw [count]
  dsimp only
  rw [isSeal_loaded, isMerkleSeal, root, textOf_snoc,
    List.take_append_of_le_length (by rw [length_textOf]), ← length_textOf, List.take_length]
  simp

end Lookup

/-- Below the last boundary every line is a leaf of exactly one seal; from there on none
is, and there is no seal beyond it. -/
structure Tiling (lines : List Text) (boundary : Nat) : Prop where
  covered : ∀ line < boundary, ∃! sealLine, leafOf lines sealLine line = true
  uncovered : ∀ sealLine line, leafOf lines sealLine line = true → line < boundary
  seals : ∀ line, isSealLine lines line = true → line ≤ boundary

/-- What a further line can do: nothing, or be a seal over the lines since the boundary. -/
private theorem leafOf_snoc (lines : List Line) (line : Line) (sealLine leaf : Nat) :
    leafOf (textOf (lines ++ [line])) sealLine leaf =
      if sealLine = lines.length then leafOf (textOf (lines ++ [line])) lines.length leaf
      else leafOf (textOf lines) sealLine leaf := by
  split
  · next same => rw [same]
  next differs =>
  rcases lt_or_gt_of_ne differs with earlier | later
  · exact leafOf_before earlier leaf
  · have shorter : leafOf (textOf lines) sealLine leaf = false := by
      rw [Bool.eq_false_iff]
      intro found
      exact absurd (leafOf_beyond found) (by omega)
    have longer : leafOf (textOf (lines ++ [line])) sealLine leaf = false := by
      rw [Bool.eq_false_iff]
      intro found
      have bound := leafOf_beyond found
      rw [List.length_append, List.length_singleton] at bound
      omega
    rw [shorter, longer]

private theorem isSealLine_snoc {lines : List Line} {line : Line} {index : Nat}
    (found : isSealLine (textOf (lines ++ [line])) index = true) :
    isSealLine (textOf lines) index = true ∨ index = lines.length ∧ isSeal line.loaded = true := by
  rcases lt_trichotomy index lines.length with earlier | rfl | later
  · exact Or.inl (isSealLine_before earlier ▸ found)
  · rw [isSealLine, loads_last] at found
    exact Or.inr ⟨rfl, found⟩
  · have none : (textOf (lines ++ [line]))[index]? = none := by
      rw [List.getElem?_eq_none_iff, length_textOf, List.length_append, List.length_singleton]
      omega
    rw [isSealLine, none] at found
    cases found

theorem Tiled.tiling {lines : List Line} {since : Nat} (tiled : Tiled lines since) :
    Tiling (textOf lines) (lines.length - since) := by
  induction tiled with
  | nil =>
      constructor
      · intro line below
        exact absurd below (Nat.not_lt_zero _)
      · intro sealLine line found
        cases found
      · intro line found
        cases found
  | @event lines since draft recorderSig before isEvent ih =>
      have same : (lines ++ [Line.record draft recorderSig]).length - (since + 1) =
          lines.length - since := by
        rw [List.length_append, List.length_singleton]
        omega
      have unchanged : ∀ sealLine line,
          leafOf (textOf (lines ++ [.record draft recorderSig])) sealLine line =
            leafOf (textOf lines) sealLine line := by
        intro sealLine line
        rw [leafOf_snoc, leafOf_event isEvent]
        split
        · next isLast =>
            rw [eq_comm, Bool.eq_false_iff]
            intro found
            exact absurd (leafOf_beyond found) (by omega)
        · rfl
      rw [same]
      constructor
      · intro line below
        simpa only [unchanged] using ih.covered line below
      · intro sealLine line found
        rw [unchanged] at found
        exact ih.uncovered sealLine line found
      · intro line found
        rcases isSealLine_snoc found with earlier | ⟨-, isMerkleSeal⟩
        · exact ih.seals line earlier
        · rw [isSeal_loaded, decide_eq_true_eq] at isMerkleSeal
          exact absurd isMerkleSeal isEvent
  | @merkleSeal lines since draft recorderSig segmentNo final before isMerkleSeal payload ih =>
      have boundary : (lines ++ [Line.record draft recorderSig]).length - 1 = lines.length := by
        rw [List.length_append, List.length_singleton]
        exact Nat.add_sub_cancel _ _
      have leaf : ∀ sealLine line,
          leafOf (textOf (lines ++ [.record draft recorderSig])) sealLine line =
            if sealLine = lines.length then
              decide (lines.length - since ≤ line ∧ line < lines.length)
            else leafOf (textOf lines) sealLine line := by
        intro sealLine line
        rw [leafOf_snoc, leafOf_merkleSeal isMerkleSeal payload]
      rw [boundary]
      constructor
      · intro line below
        by_cases tiledBefore : line < lines.length - since
        · -- covered by an earlier seal, and outside the block of this one
          obtain ⟨sealLine, found, unique⟩ := ih.covered line tiledBefore
          have earlier := leafOf_beyond found
          refine ⟨sealLine, ?_, ?_⟩
          · dsimp only
            rw [leaf, if_neg (by omega)]
            exact found
          · intro other isLeaf
            rw [leaf] at isLeaf
            split at isLeaf
            · rw [decide_eq_true_eq] at isLeaf
              omega
            · exact unique other isLeaf
        · -- in the block of this seal, and beyond the boundary of the earlier ones
          refine ⟨lines.length, ?_, ?_⟩
          · dsimp only
            rw [leaf, if_pos rfl, decide_eq_true_eq]
            omega
          · intro other isLeaf
            rw [leaf] at isLeaf
            split at isLeaf
            · assumption
            · exact absurd (ih.uncovered other line isLeaf) tiledBefore
      · intro sealLine line found
        rw [leaf] at found
        split at found
        · rw [decide_eq_true_eq] at found
          exact found.2
        · have := ih.uncovered sealLine line found
          omega
      · intro line found
        rcases isSealLine_snoc found with earlier | ⟨rfl, -⟩
        · have := ih.seals line earlier
          omega
        · exact le_refl _

theorem Tiled.covered {lines : List Line} {since : Nat} (tiled : Tiled lines since) :
    Covered (textOf lines) := by
  intro last isSealed line below _
  refine tiled.tiling.covered line ?_
  exact lt_of_lt_of_le below (tiled.tiling.seals last isSealed)

end SelfConnect.Provenance
