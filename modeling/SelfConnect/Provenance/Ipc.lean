import SelfConnect.Python.Codec
import SelfConnect.Python.Json.Lines
import SelfConnect.Python.Json.Limits
import SelfConnect.Python.Json.Sorted

namespace SelfConnect.Provenance

open SelfConnect.Python SelfConnect.Python.Json

/-! The frames of the provenance service's pipe: canonical JSON in ASCII. -/

def maxFrameBytes : Nat := 65536

structure ProtocolError where
  code : String
  message : String
  deriving DecidableEq

mutual
/-- `_validate_json`. -/
def validateJson (depth : Nat) (value : Value) : Except ProtocolError Unit :=
  if 32 < depth then .error ⟨"json_too_deep", "JSON nesting exceeds 32 levels"⟩
  else
    match value with
    | .null | .str _ | .bool _ => .ok ()
    | .int n =>
        if -(2 ^ 63) ≤ n ∧ n < 2 ^ 63 then .ok ()
        else .error ⟨"integer_out_of_range", "JSON integer exceeds signed 64-bit range"⟩
    | .float _ => .error ⟨"float_not_allowed", "floating-point values are not canonical"⟩
    | .list items => validateItems (depth + 1) items
    | .dict members => validateMembers (depth + 1) members

def validateItems (depth : Nat) : List Value → Except ProtocolError Unit
  | [] => .ok ()
  | item :: rest =>
      match validateJson depth item with
      | .error e => .error e
      | .ok () => validateItems depth rest

def validateMembers (depth : Nat) : Members → Except ProtocolError Unit
  | [] => .ok ()
  | (key, item) :: rest =>
      if key.isStr then
        match validateJson depth item with
        | .error e => .error e
        | .ok () => validateMembers depth rest
      else .error ⟨"non_string_key", "JSON object keys must be strings"⟩
end

/-- `canonical_json_bytes`; UTF-8 is ASCII on the text that `ensure_ascii` gives. -/
def canonicalJsonBytes (value : Value) : Except ProtocolError Bytes :=
  match validateJson 0 value with
  | .error e => .error e
  | .ok () =>
      match dumpsSorted .compact value with
      | some text => .ok (encode text)
      | none => .error ⟨"invalid_json", "value is not canonical JSON"⟩

def encodeFrame (value : Value) : Except ProtocolError Bytes :=
  match canonicalJsonBytes value with
  | .error e => .error e
  | .ok data =>
      if maxFrameBytes < data.length then
        .error ⟨"frame_too_large", "frame exceeds 65536 bytes"⟩
      else .ok data

/-- `data.decode("ascii")`; `none` is `UnicodeDecodeError`. -/
def decodeAscii (data : Bytes) : Option Text :=
  if data.all (· < 128) then some (data.map fun byte => Char.ofNat byte.toNat) else none

/-- What `decode_frame` raises. -/
inductive FrameError
  | protocol (error : ProtocolError)
  | valueError
  | recursionError

def decodeFrame (interpreter : Interpreter) (data : Bytes) : Except FrameError Value :=
  if data.isEmpty || maxFrameBytes < data.length then
    .error (.protocol ⟨"invalid_frame_size", "frame is empty or oversized"⟩)
  else
    match decodeAscii data with
    | none => .error (.protocol ⟨"invalid_json", "frame is not strict ASCII JSON"⟩)
    | some text =>
        match loadsWithin interpreter text with
        | .error .decode =>
            .error (.protocol ⟨"invalid_json", "frame is not strict ASCII JSON"⟩)
        -- neither is a `JSONDecodeError`, so neither is caught
        | .error .digits => .error .valueError
        | .error .recursion => .error .recursionError
        | .ok value =>
            if !value.isDict then
              .error (.protocol ⟨"invalid_frame_shape", "frame root must be an object"⟩)
            else
              match canonicalJsonBytes value with
              | .error e => .error (.protocol e)
              | .ok canonical =>
                  if canonical ≠ data then
                    .error (.protocol ⟨"noncanonical_frame",
                      "frame does not use canonical serialization"⟩)
                  else .ok value

/-! A Python object has every key once, at every depth. -/

mutual
def Distinct : Value → Prop
  | .list items => DistinctItems items
  | .dict members => (members.map Prod.fst).Nodup ∧ DistinctMembers members
  | _ => True

def DistinctItems : List Value → Prop
  | [] => True
  | v :: rest => Distinct v ∧ DistinctItems rest

def DistinctMembers : Members → Prop
  | [] => True
  | (_, v) :: rest => Distinct v ∧ DistinctMembers rest
end

structure PyObject where
  members : Members
  distinct : Distinct (.dict members)

def PyObject.value (object : PyObject) : Value := .dict object.members

mutual
/-- No string and no key spells a character as the two halves of a surrogate pair. -/
def Joined : Value → Prop
  | .str s => Str.joinSurrogates s = s
  | .list items => JoinedItems items
  | .dict members => JoinedMembers members
  | _ => True

def JoinedItems : List Value → Prop
  | [] => True
  | v :: rest => Joined v ∧ JoinedItems rest

def JoinedMembers : Members → Prop
  | [] => True
  | (k, v) :: rest => Str.joinSurrogates k.text = k.text ∧ Joined v ∧ JoinedMembers rest
end

/-! What validation leaves. -/

mutual
def Valid (depth : Nat) : Value → Prop
  | .null => depth ≤ 32
  | .bool _ => depth ≤ 32
  | .str _ => depth ≤ 32
  | .int n => depth ≤ 32 ∧ -(2 ^ 63) ≤ n ∧ n < 2 ^ 63
  | .float _ => False
  | .list items => depth ≤ 32 ∧ ValidItems (depth + 1) items
  | .dict members => depth ≤ 32 ∧ ValidMembers (depth + 1) members

def ValidItems (depth : Nat) : List Value → Prop
  | [] => True
  | v :: rest => Valid depth v ∧ ValidItems depth rest

def ValidMembers (depth : Nat) : Members → Prop
  | [] => True
  | (k, v) :: rest => (∃ s, k = .str s) ∧ Valid depth v ∧ ValidMembers depth rest
end

/-- The check of the depth, and then the check of the value. -/
theorem guarded_ok_iff {depth : Nat} {error : ProtocolError}
    {checked : Except ProtocolError Unit} :
    (if 32 < depth then .error error else checked) = .ok () ↔ depth ≤ 32 ∧ checked = .ok () := by
  by_cases deep : 32 < depth
  · rw [if_pos deep]
    exact iff_of_false (fun absurdly => by cases absurdly) fun both => absurd both.1 (by omega)
  · rw [if_neg deep]
    exact (and_iff_right (by omega)).symm

mutual
theorem validateJson_ok_iff (depth : Nat) :
    (v : Value) → (validateJson depth v = .ok () ↔ Valid depth v)
  | .null => by rw [validateJson, Valid, guarded_ok_iff, and_iff_left rfl]
  | .bool _ => by rw [validateJson, Valid, guarded_ok_iff, and_iff_left rfl]
  | .str _ => by rw [validateJson, Valid, guarded_ok_iff, and_iff_left rfl]
  | .float _ => by
      rw [validateJson, Valid, guarded_ok_iff]
      simp
  | .int n => by
      rw [validateJson, Valid, guarded_ok_iff]
      simp
  | .list items => by
      rw [validateJson, Valid, guarded_ok_iff, ← validateItems_ok_iff (depth + 1) items]
  | .dict members => by
      rw [validateJson, Valid, guarded_ok_iff, ← validateMembers_ok_iff (depth + 1) members]

theorem validateItems_ok_iff (depth : Nat) :
    (items : List Value) → (validateItems depth items = .ok () ↔ ValidItems depth items)
  | [] => by simp [validateItems, ValidItems]
  | v :: rest => by
      rw [validateItems, ValidItems, ← validateJson_ok_iff depth v,
        ← validateItems_ok_iff depth rest]
      cases validateJson depth v <;> simp

theorem validateMembers_ok_iff (depth : Nat) :
    (members : Members) → (validateMembers depth members = .ok () ↔ ValidMembers depth members)
  | [] => by simp [validateMembers, ValidMembers]
  | (k, v) :: rest => by
      rw [validateMembers, ValidMembers, ← validateJson_ok_iff depth v,
        ← validateMembers_ok_iff depth rest]
      cases k with
      | str s => cases validateJson depth v <;> simp [Key.isStr]
      | null | bool | int | float => simp [Key.isStr]
end

theorem validMembers_iff {depth : Nat} {members : Members} :
    ValidMembers depth members ↔ ∀ k v, (k, v) ∈ members → (∃ s, k = .str s) ∧ Valid depth v := by
  induction members with
  | nil => simp [ValidMembers]
  | cons entry rest ih =>
      obtain ⟨key, value⟩ := entry
      rw [ValidMembers, ih]
      constructor
      · rintro ⟨isStr, valid, below⟩ k v member
        rcases List.mem_cons.mp member with same | later
        · cases same
          exact ⟨isStr, valid⟩
        · exact below k v later
      · intro all
        obtain ⟨isStr, valid⟩ := all key value List.mem_cons_self
        exact ⟨isStr, valid, fun k v member => all k v (List.mem_cons_of_mem _ member)⟩

theorem joinedMembers_iff {members : Members} :
    JoinedMembers members ↔ ∀ k v, (k, v) ∈ members →
      Str.joinSurrogates k.text = k.text ∧ Joined v := by
  induction members with
  | nil => simp [JoinedMembers]
  | cons entry rest ih =>
      obtain ⟨key, value⟩ := entry
      rw [JoinedMembers, ih]
      constructor
      · rintro ⟨joined, first, below⟩ k v member
        rcases List.mem_cons.mp member with same | later
        · cases same
          exact ⟨joined, first⟩
        · exact below k v later
      · intro all
        obtain ⟨joined, first⟩ := all key value List.mem_cons_self
        exact ⟨joined, first, fun k v member => all k v (List.mem_cons_of_mem _ member)⟩

/-! Sorting keeps all of this. -/

mutual
theorem valid_sortKeys (depth : Nat) : (v : Value) → (Valid depth (sortKeys v) ↔ Valid depth v)
  | .null => Iff.rfl
  | .bool _ => Iff.rfl
  | .str _ => Iff.rfl
  | .int _ => Iff.rfl
  | .float _ => Iff.rfl
  | .list items => by rw [sortKeys, Valid, Valid, validItems_sortItems (depth + 1) items]
  | .dict members => by
      rw [sortKeys, Valid, Valid, ← validMembers_sortValues (depth + 1) members,
        validMembers_iff, validMembers_iff]
      simp only [(sortMembers_perm (sortValues members)).mem_iff]

private theorem validItems_sortItems (depth : Nat) :
    (items : List Value) → (ValidItems depth (sortItems items) ↔ ValidItems depth items)
  | [] => Iff.rfl
  | v :: rest => by
      rw [sortItems, ValidItems, ValidItems, valid_sortKeys depth v,
        validItems_sortItems depth rest]

private theorem validMembers_sortValues (depth : Nat) :
    (members : Members) → (ValidMembers depth (sortValues members) ↔ ValidMembers depth members)
  | [] => Iff.rfl
  | (k, v) :: rest => by
      rw [sortValues, ValidMembers, ValidMembers, valid_sortKeys depth v,
        validMembers_sortValues depth rest]
end

mutual
theorem joined_sortKeys : (v : Value) → (Joined (sortKeys v) ↔ Joined v)
  | .null => Iff.rfl
  | .bool _ => Iff.rfl
  | .str _ => Iff.rfl
  | .int _ => Iff.rfl
  | .float _ => Iff.rfl
  | .list items => by rw [sortKeys, Joined, Joined, joinedItems_sortItems items]
  | .dict members => by
      rw [sortKeys, Joined, Joined, ← joinedMembers_sortValues members, joinedMembers_iff,
        joinedMembers_iff]
      simp only [(sortMembers_perm (sortValues members)).mem_iff]

private theorem joinedItems_sortItems :
    (items : List Value) → (JoinedItems (sortItems items) ↔ JoinedItems items)
  | [] => Iff.rfl
  | v :: rest => by
      rw [sortItems, JoinedItems, JoinedItems, joined_sortKeys v, joinedItems_sortItems rest]

private theorem joinedMembers_sortValues :
    (members : Members) → (JoinedMembers (sortValues members) ↔ JoinedMembers members)
  | [] => Iff.rfl
  | (k, v) :: rest => by
      rw [sortValues, JoinedMembers, JoinedMembers, joined_sortKeys v,
        joinedMembers_sortValues rest]
end

/-! A valid value is a JSON value when its strings are joined. -/

mutual
theorem isJson_of_valid {depth : Nat} :
    (v : Value) → Valid depth v → Distinct v → Joined v → IsJson v
  | .null, _, _, _ => trivial
  | .bool _, _, _, _ => trivial
  | .int _, _, _, _ => trivial
  | .float _, _, _, _ => trivial
  | .str _, _, _, joined => joined
  | .list items, valid, distinct, joined => isJsonItems_of_valid items valid.2 distinct joined
  | .dict members, valid, distinct, joined =>
      ⟨distinct.1, isJsonMembers_of_valid members valid.2 distinct.2 joined⟩

private theorem isJsonItems_of_valid {depth : Nat} : (items : List Value) →
    ValidItems depth items → DistinctItems items → JoinedItems items → IsJsonItems items
  | [], _, _, _ => trivial
  | v :: rest, valid, distinct, joined =>
      ⟨isJson_of_valid v valid.1 distinct.1 joined.1,
        isJsonItems_of_valid rest valid.2 distinct.2 joined.2⟩

private theorem isJsonMembers_of_valid {depth : Nat} : (members : Members) →
    ValidMembers depth members → DistinctMembers members → JoinedMembers members →
      IsJsonMembers members
  | [], _, _, _ => trivial
  | (k, v) :: rest, valid, distinct, joined => by
      obtain ⟨s, rfl⟩ := valid.1
      exact ⟨⟨s, rfl, joined.1⟩, isJson_of_valid v valid.2.1 distinct.1 joined.2.1,
        isJsonMembers_of_valid rest valid.2.2 distinct.2 joined.2.2⟩
end

mutual
theorem joined_of_isJson : (v : Value) → IsJson v → Joined v
  | .null, _ => trivial
  | .bool _, _ => trivial
  | .int _, _ => trivial
  | .float _, _ => trivial
  | .str _, json => json
  | .list items, json => joinedItems_of_isJson items json
  | .dict members, json => joinedMembers_of_isJson members json.2

private theorem joinedItems_of_isJson :
    (items : List Value) → IsJsonItems items → JoinedItems items
  | [], _ => trivial
  | v :: rest, json => ⟨joined_of_isJson v json.1, joinedItems_of_isJson rest json.2⟩

private theorem joinedMembers_of_isJson :
    (members : Members) → IsJsonMembers members → JoinedMembers members
  | [], _ => trivial
  | (k, v) :: rest, json => by
      obtain ⟨s, rfl, joined⟩ := json.1
      exact ⟨joined, joined_of_isJson v json.2.1, joinedMembers_of_isJson rest json.2.2⟩
end

/-! Whatever is valid fits into the limits of `json.loads`. -/

theorem digitCount_le {n : Int} (low : -(2 ^ 63) ≤ n) (high : n < 2 ^ 63) :
    digitCount n ≤ maxDigits := by
  have short : (natText n.natAbs).length ≤ 20 := by
    apply length_natText_le (by decide)
    omega
  exact le_trans short (by decide)

mutual
theorem fits_of_valid {depth levels : Nat} (room : 33 ≤ depth + levels) :
    (v : Value) → Valid depth v → Fits levels v
  | .null, _ => by cases levels <;> trivial
  | .bool _, _ => by cases levels <;> trivial
  | .str _, _ => by cases levels <;> trivial
  | .float _, valid => valid.elim
  | .int n, valid => by cases levels <;> exact digitCount_le valid.2.1 valid.2.2
  | .list items, valid => by
      cases levels with
      | zero => exact absurd valid.1 (by omega)
      | succ below => exact fitsItems_of_valid (by omega) items valid.2
  | .dict members, valid => by
      cases levels with
      | zero => exact absurd valid.1 (by omega)
      | succ below => exact fitsMembers_of_valid (by omega) members valid.2

private theorem fitsItems_of_valid {depth levels : Nat} (room : 33 ≤ depth + levels) :
    (items : List Value) → ValidItems depth items → FitsItems levels items
  | [], _ => trivial
  | v :: rest, valid => ⟨fits_of_valid room v valid.1, fitsItems_of_valid room rest valid.2⟩

private theorem fitsMembers_of_valid {depth levels : Nat} (room : 33 ≤ depth + levels) :
    (members : Members) → ValidMembers depth members → FitsMembers levels members
  | [], _ => trivial
  | (_, v) :: rest, valid =>
      ⟨fits_of_valid room v valid.2.1, fitsMembers_of_valid room rest valid.2.2⟩
end

/-! Printable text in ASCII is the text in UTF-8. -/

theorem encode_printable {text : Text} (printable : Printable text) :
    encode text = text.map fun c => UInt8.ofNat c.toNat := by
  induction text with
  | nil => rfl
  | cons c rest ih =>
      obtain ⟨bounds, below⟩ := printable_cons.mp printable
      have single : String.utf8EncodeChar c = [UInt8.ofNat c.toNat] := by
        rw [String.utf8EncodeChar]
        exact if_pos (by have : c.val.toNat = c.toNat := rfl; omega)
      rw [encode, List.flatMap_cons, single, List.map_cons, ← ih below]
      rfl

theorem decodeAscii_encode {text : Text} (printable : Printable text) :
    decodeAscii (encode text) = some text := by
  have small : ∀ c ∈ text, (UInt8.ofNat c.toNat).toNat = c.toNat := by
    intro c member
    have := (printable c member).2
    rw [UInt8.toNat_ofNat']
    omega
  rw [encode_printable printable, decodeAscii, if_pos]
  · rw [List.map_map, Option.some.injEq]
    refine (List.map_congr_left ?_).trans (List.map_id text)
    intro c member
    rw [Function.comp_apply, small c member, Char.ofNat_toNat]
    rfl
  · rw [List.all_eq_true]
    intro byte member
    obtain ⟨c, isIn, rfl⟩ := List.mem_map.mp member
    have := (printable c isIn).2
    rw [decide_eq_true_eq, UInt8.lt_iff_toNat_lt, small c isIn]
    exact Nat.lt_of_le_of_lt this (by decide)

/-! The claims on the two functions. -/

/-- What is decoded is the object, up to the order of its members. -/
def RoundTrips (interpreter : Interpreter) (object : PyObject) : Prop :=
  ∀ data, encodeFrame object.value = .ok data →
    ∃ decoded, decodeFrame interpreter data = .ok decoded ∧
      sortKeys decoded = sortKeys object.value

def Accepted (object : PyObject) : Prop :=
  ∃ data, encodeFrame object.value = .ok data

/-- An object whose encoding is exactly the frame, or a protocol error. -/
def Answers (interpreter : Interpreter) (data : Bytes) : Prop :=
  (∃ value, decodeFrame interpreter data = .ok value ∧ value.isDict = true ∧
      encodeFrame value = .ok data) ∨
    ∃ error, decodeFrame interpreter data = .error (.protocol error)

/-- The scan of the frame stays within the limits of the interpreter. -/
def Scannable (interpreter : Interpreter) (data : Bytes) : Prop :=
  data ≠ [] → data.length ≤ maxFrameBytes → ∀ text, decodeAscii data = some text →
    loadsWithin interpreter text ≠ .error .digits ∧
      loadsWithin interpreter text ≠ .error .recursion

theorem encodeFrame_ok_iff {value : Value} {data : Bytes} :
    encodeFrame value = .ok data ↔
      canonicalJsonBytes value = .ok data ∧ data.length ≤ maxFrameBytes := by
  unfold encodeFrame
  cases canonicalJsonBytes value with
  | error e => simp
  | ok bytes =>
      dsimp only
      split
      · next long =>
          refine iff_of_false (fun absurdly => by cases absurdly) ?_
          rintro ⟨same, short⟩
          rw [Except.ok.inj same] at long
          omega
      · next short =>
          refine ⟨fun same => ⟨same, ?_⟩, fun both => both.1⟩
          rw [← Except.ok.inj same]
          omega

theorem valid_of_canonical {value : Value} {data : Bytes}
    (canonical : canonicalJsonBytes value = .ok data) :
    Valid 0 value ∧ ∃ text, dumpsSorted .compact value = some text ∧ data = encode text := by
  unfold canonicalJsonBytes at canonical
  cases checked : validateJson 0 value with
  | error e =>
      rw [checked] at canonical
      cases canonical
  | ok done =>
      rw [checked] at canonical
      refine ⟨(validateJson_ok_iff 0 value).mp checked, ?_⟩
      cases dumped : dumpsSorted .compact value with
      | none =>
          rw [dumped] at canonical
          cases canonical
      | some text =>
          rw [dumped] at canonical
          exact ⟨text, rfl, (Except.ok.inj canonical).symm⟩

theorem canonicalJsonBytes_of_isJson {value : Value} (valid : Valid 0 value)
    (json : IsJson value) :
    canonicalJsonBytes value = .ok (encode (render .compact (sortKeys value))) := by
  rw [canonicalJsonBytes, (validateJson_ok_iff 0 value).mpr valid, dumpsSorted_of_isJson json]

/-- The frame of a JSON value is read as the value with its keys sorted. -/
theorem decodeFrame_canonical (interpreter : Interpreter) {value : Value}
    (isDict : value.isDict = true) (valid : Valid 0 value) (json : IsJson value)
    (short : (encode (render .compact (sortKeys value))).length ≤ maxFrameBytes) :
    decodeFrame interpreter (encode (render .compact (sortKeys value))) =
      .ok (sortKeys value) := by
  have sorted := isJson_sortKeys value json
  have validSorted := (valid_sortKeys 0 value).mpr valid
  have room := interpreter.roomy
  have scanned : loadsWithin interpreter (render .compact (sortKeys value)) =
      .ok (sortKeys value) := by
    have parsed := parse_render .compact rfl (sortKeys value)
    rw [reread_of_isJson _ sorted] at parsed
    rw [loadsWithin_of_parse parsed (fits_of_valid (by omega) _ validSorted),
      build_of_isJson _ sorted]
  have filled : (encode (render .compact (sortKeys value))).isEmpty = false := by
    rw [encode_printable (printable_render _ rfl _), List.isEmpty_map]
    cases value with
    | dict members =>
        rw [sortKeys]
        cases sortMembers (sortValues members) <;> rfl
    | null | bool | int | float | str | list => cases isDict
  unfold decodeFrame
  rw [filled, decide_eq_false (Nat.not_lt.mpr short), Bool.or_false, if_neg Bool.false_ne_true,
    decodeAscii_encode (printable_render _ rfl _)]
  dsimp only
  rw [scanned]
  dsimp only
  rw [isDict_sortKeys, isDict, Bool.not_true, if_neg Bool.false_ne_true,
    canonicalJsonBytes_of_isJson validSorted sorted, sortKeys_sortKeys value json]
  dsimp only
  rw [if_neg (not_not_intro rfl)]

/-- The ways in which `decode_frame` ends. -/
theorem decodeFrame_cases (interpreter : Interpreter) (data : Bytes) :
    (∃ error, decodeFrame interpreter data = .error (.protocol error) ∧
        Scannable interpreter data) ∨
      (∃ value, decodeFrame interpreter data = .ok value ∧ IsJson value ∧
        value.isDict = true ∧ encodeFrame value = .ok data ∧ Scannable interpreter data) ∨
      (decodeFrame interpreter data = .error .valueError ∨
          decodeFrame interpreter data = .error .recursionError) ∧
        ¬ Scannable interpreter data := by
  unfold decodeFrame Scannable
  cases sized : data.isEmpty || maxFrameBytes < data.length with
  | true =>
      refine Or.inl ⟨_, if_pos rfl, ?_⟩
      intro filled short
      rcases Bool.or_eq_true_iff.mp sized with empty | long
      · exact absurd (List.isEmpty_iff.mp empty) filled
      · exact absurd (of_decide_eq_true long) (Nat.not_lt.mpr short)
  | false =>
      obtain ⟨notEmpty, notLong⟩ := Bool.or_eq_false_iff.mp sized
      have filled : data ≠ [] := by
        rintro rfl
        cases notEmpty
      have short : data.length ≤ maxFrameBytes := Nat.not_lt.mp (of_decide_eq_false notLong)
      rw [if_neg Bool.false_ne_true]
      cases isAscii : decodeAscii data with
      | none =>
          refine Or.inl ⟨_, rfl, ?_⟩
          rintro - - text ⟨⟩
      | some text =>
          dsimp only
          cases loaded : loadsWithin interpreter text with
          | error e =>
              cases e with
              | decode =>
                  refine Or.inl ⟨_, rfl, ?_⟩
                  rintro - - _ ⟨⟩
                  simp [loaded]
              | digits =>
                  refine Or.inr (Or.inr ⟨Or.inl rfl, ?_⟩)
                  intro scannable
                  exact (scannable filled short text rfl).1 loaded
              | recursion =>
                  refine Or.inr (Or.inr ⟨Or.inr rfl, ?_⟩)
                  intro scannable
                  exact (scannable filled short text rfl).2 loaded
          | ok value =>
              have scannable : data ≠ [] → data.length ≤ maxFrameBytes →
                  ∀ other, some text = some other →
                    loadsWithin interpreter other ≠ .error .digits ∧
                      loadsWithin interpreter other ≠ .error .recursion := by
                rintro - - _ ⟨⟩
                simp [loaded]
              dsimp only
              cases isDict : value.isDict with
              | false => exact Or.inl ⟨_, rfl, scannable⟩
              | true =>
                  rw [Bool.not_true, if_neg Bool.false_ne_true]
                  cases canonical : canonicalJsonBytes value with
                  | error e => exact Or.inl ⟨_, rfl, scannable⟩
                  | ok bytes =>
                      dsimp only
                      by_cases same : bytes = data
                      · rw [if_neg (not_not_intro same)]
                        rw [same] at canonical
                        exact Or.inr (Or.inl ⟨value, rfl,
                          isJson_loads (loads_of_loadsWithin loaded), isDict,
                          encodeFrame_ok_iff.mpr ⟨canonical, short⟩, scannable⟩)
                      · rw [if_pos same]
                        exact Or.inl ⟨_, rfl, scannable⟩

theorem roundTrips_iff (interpreter : Interpreter) (object : PyObject) :
    RoundTrips interpreter object ↔ (Accepted object → Joined object.value) := by
  constructor
  · rintro roundTrips ⟨data, encoded⟩
    obtain ⟨decoded, isDecoded, same⟩ := roundTrips data encoded
    rw [← joined_sortKeys, ← same, joined_sortKeys]
    rcases decodeFrame_cases interpreter data with
      ⟨error, failed, -⟩ | ⟨value, found, json, -⟩ | ⟨failed | failed, -⟩
    · rw [failed] at isDecoded
      cases isDecoded
    · rw [found, Except.ok.injEq] at isDecoded
      rw [← isDecoded]
      exact joined_of_isJson value json
    · rw [failed] at isDecoded
      cases isDecoded
    · rw [failed] at isDecoded
      cases isDecoded
  · intro joined data encoded
    obtain ⟨canonical, short⟩ := encodeFrame_ok_iff.mp encoded
    obtain ⟨valid, -⟩ := valid_of_canonical canonical
    have json := isJson_of_valid _ valid object.distinct (joined ⟨data, encoded⟩)
    rw [canonicalJsonBytes_of_isJson valid json, Except.ok.injEq] at canonical
    subst canonical
    exact ⟨_, decodeFrame_canonical interpreter rfl valid json short, sortKeys_sortKeys _ json⟩

theorem answers_iff (interpreter : Interpreter) (data : Bytes) :
    Answers interpreter data ↔ Scannable interpreter data := by
  rcases decodeFrame_cases interpreter data with
    ⟨error, failed, scannable⟩ | ⟨value, found, -, isDict, encoded, scannable⟩ | ⟨escapes, not⟩
  · exact iff_of_true (Or.inr ⟨error, failed⟩) scannable
  · exact iff_of_true (Or.inl ⟨value, found, isDict, encoded⟩) scannable
  · refine iff_of_false ?_ not
    rintro (⟨value, found, -⟩ | ⟨error, failed⟩)
    · rcases escapes with raised | raised <;>
      · rw [raised] at found
        cases found
    · rcases escapes with raised | raised <;>
      · rw [raised] at failed
        cases failed

/-- The codec is what it is meant to be for the objects without split surrogate pairs, and
on the frames whose scan meets no limit of the interpreter. -/
theorem codec_iff (interpreter : Interpreter) :
    (∀ object, RoundTrips interpreter object ↔ (Accepted object → Joined object.value)) ∧
      ∀ data, Answers interpreter data ↔ Scannable interpreter data :=
  ⟨roundTrips_iff interpreter, answers_iff interpreter⟩

/-- Brackets beyond the recursion limit, in a frame of an allowed size. -/
theorem not_scannable_brackets {interpreter : Interpreter} {count : Nat}
    (beyond : interpreter.nesting < count) (short : count ≤ maxFrameBytes) :
    ¬ Scannable interpreter (List.replicate count 91) := by
  intro scannable
  have filled : (List.replicate count 91 : Bytes) ≠ [] := by
    intro empty
    have := congrArg List.length empty
    rw [List.length_replicate, List.length_nil] at this
    omega
  have ascii : decodeAscii (List.replicate count 91) = some (List.replicate count '[') := by
    rw [decodeAscii, if_pos, List.map_replicate]
    · rfl
    · rw [List.all_eq_true]
      intro byte member
      rw [List.eq_of_mem_replicate member]
      rfl
  refine (scannable filled ?_ _ ascii).2 (loadsWithin_brackets beyond)
  rwa [List.length_replicate]

theorem not_answers_brackets :
    ¬ Answers ⟨1000, by decide⟩ (List.replicate 2000 91) := by
  rw [answers_iff]
  exact not_scannable_brackets (by decide) (by decide)

end SelfConnect.Provenance
