import SelfConnect.Python.Json.Nesting

namespace SelfConnect.Python.Json

/-! Python objects of which `json.dumps` can write some. -/

/-- Beside what JSON has, there is every other object, of which only `str` is known;
`none` is one that `str` refuses, or a dict or list that no dump can walk through. -/
inductive Datum
  | null
  | bool (b : Bool)
  | int (n : Int)
  | float (x : PyFloat)
  | str (s : Str)
  | list (items : List Datum)
  | dict (members : List (Key × Datum))
  | other (text : Option Str)

namespace Datum

def object (fields : List (String × Datum)) : Datum :=
  .dict (fields.map fun field => (Key.str (Str.lit field.1), field.2))

def lit (s : String) : Datum := .str (Str.lit s)

mutual
/-- What `json.dumps` sees where `default` takes the other objects. -/
def encoded (default : Option Str → Option Value) : Datum → Option Value
  | .null => some .null
  | .bool b => some (.bool b)
  | .int n => some (.int n)
  | .float x => some (.float x)
  | .str s => some (.str s)
  | .list items => (encodedItems default items).map .list
  | .dict members => (encodedMembers default members).map .dict
  | .other text => default text

def encodedItems (default : Option Str → Option Value) : List Datum → Option (List Value)
  | [] => some []
  | item :: rest =>
      (encoded default item).bind fun v => (encodedItems default rest).map (v :: ·)

def encodedMembers (default : Option Str → Option Value) : List (Key × Datum) → Option Members
  | [] => some []
  | (key, item) :: rest =>
      (encoded default item).bind fun v => (encodedMembers default rest).map ((key, v) :: ·)
end

/-- Without `default`; `none` is `TypeError`. -/
def plain (datum : Datum) : Option Value := datum.encoded fun _ => none

/-- With `default=str`. -/
def stringified (datum : Datum) : Option Value := datum.encoded fun text => text.map .str

mutual
def ofValue : Value → Datum
  | .null => .null
  | .bool b => .bool b
  | .int n => .int n
  | .float x => .float x
  | .str s => .str s
  | .list items => .list (ofItems items)
  | .dict members => .dict (ofMembers members)

def ofItems : List Value → List Datum
  | [] => []
  | v :: rest => ofValue v :: ofItems rest

def ofMembers : Members → List (Key × Datum)
  | [] => []
  | (key, v) :: rest => (key, ofValue v) :: ofMembers rest
end

mutual
@[simp] theorem plain_ofValue : (v : Value) → (ofValue v).plain = some v
  | .null => rfl
  | .bool _ => rfl
  | .int _ => rfl
  | .float _ => rfl
  | .str _ => rfl
  | .list items => by
      change (encodedItems _ (ofItems items)).map Value.list = _
      rw [plain_ofItems items]
      rfl
  | .dict members => by
      change (encodedMembers _ (ofMembers members)).map Value.dict = _
      rw [plain_ofMembers members]
      rfl

private theorem plain_ofItems :
    (items : List Value) → encodedItems (fun _ => none) (ofItems items) = some items
  | [] => rfl
  | v :: rest => by
      have first : (ofValue v).encoded (fun _ => none) = some v := plain_ofValue v
      rw [ofItems, encodedItems, first, Option.bind_some, plain_ofItems rest]
      rfl

private theorem plain_ofMembers :
    (members : Members) → encodedMembers (fun _ => none) (ofMembers members) = some members
  | [] => rfl
  | (key, v) :: rest => by
      have first : (ofValue v).encoded (fun _ => none) = some v := plain_ofValue v
      rw [ofMembers, encodedMembers, first, Option.bind_some, plain_ofMembers rest]
      rfl
end

mutual
/-- What can be written without `default` is written no other way with it. -/
theorem stringified_of_plain : (datum : Datum) → (v : Value) → datum.plain = some v →
    datum.stringified = some v
  | .null, _, isPlain => isPlain
  | .bool _, _, isPlain => isPlain
  | .int _, _, isPlain => isPlain
  | .float _, _, isPlain => isPlain
  | .str _, _, isPlain => isPlain
  | .list items, v, isPlain => by
      obtain ⟨values, found, rfl⟩ := Option.map_eq_some_iff.mp isPlain
      exact congrArg (Option.map Value.list) (stringifiedItems_of_plain items values found)
  | .dict members, v, isPlain => by
      obtain ⟨values, found, rfl⟩ := Option.map_eq_some_iff.mp isPlain
      exact congrArg (Option.map Value.dict) (stringifiedMembers_of_plain members values found)
  | .other _, _, isPlain => by cases isPlain

private theorem stringifiedItems_of_plain : (items : List Datum) → (values : List Value) →
    encodedItems (fun _ => none) items = some values →
      encodedItems (fun text => text.map .str) items = some values
  | [], _, isPlain => isPlain
  | item :: rest, values, isPlain => by
      obtain ⟨v, isItem, below⟩ := Option.bind_eq_some_iff.mp isPlain
      obtain ⟨others, isRest, rfl⟩ := Option.map_eq_some_iff.mp below
      have first : item.encoded (fun text => text.map .str) = some v :=
        stringified_of_plain item v isItem
      rw [encodedItems, first, Option.bind_some, stringifiedItems_of_plain rest others isRest]
      rfl

private theorem stringifiedMembers_of_plain : (members : List (Key × Datum)) →
    (values : Members) → encodedMembers (fun _ => none) members = some values →
      encodedMembers (fun text => text.map .str) members = some values
  | [], _, isPlain => isPlain
  | (key, item) :: rest, values, isPlain => by
      obtain ⟨v, isItem, below⟩ := Option.bind_eq_some_iff.mp isPlain
      obtain ⟨others, isRest, rfl⟩ := Option.map_eq_some_iff.mp below
      have first : item.encoded (fun text => text.map .str) = some v :=
        stringified_of_plain item v isItem
      rw [encodedMembers, first, Option.bind_some, stringifiedMembers_of_plain rest others isRest]
      rfl
end

/-- An object can be written when all its members can. -/
theorem plain_object {fields : List (String × Datum)} {values : List (String × Value)}
    (each : List.Forall₂ (fun field value => field.1 = value.1 ∧ field.2.plain = some value.2)
      fields values) : (object fields).plain = some (Value.object values) := by
  induction each with
  | nil => rfl
  | @cons field value fields values first _ ih =>
      obtain ⟨members, isRest, same⟩ := Option.map_eq_some_iff.mp ih
      have isField : field.2.encoded (fun _ => none) = some value.2 := first.2
      change (encodedMembers _ ((_, field.2) :: _)).map Value.dict = _
      rw [encodedMembers, isField, Option.bind_some, isRest, first.1]
      rw [Value.object, Value.dict.injEq] at same
      rw [Option.map_some, Option.map_some, same]
      rfl

theorem plain_object_of_none {fields : List (String × Datum)} {field : String × Datum}
    (member : field ∈ fields) (refused : field.2.plain = none) : (object fields).plain = none := by
  induction fields with
  | nil => cases member
  | cons first rest ih =>
      change (encodedMembers _ ((_, first.2) :: _)).map Value.dict = _
      rw [encodedMembers]
      rcases List.mem_cons.mp member with rfl | later
      · have isField : field.2.encoded (fun _ => none) = none := refused
        rw [isField]
        rfl
      · have below := Option.map_eq_none_iff.mp (ih later)
        cases first.2.encoded fun _ => none with
        | none => rfl
        | some v => rw [Option.bind_some, below, Option.map_none, Option.map_none]

end Datum

/-! `json.dumps` within the limits: every array and object takes one level. -/

mutual
def decidableFits : (levels : Nat) → (v : Value) → Decidable (Fits levels v)
  | 0, .null | _ + 1, .null => isTrue trivial
  | 0, .bool _ | _ + 1, .bool _ => isTrue trivial
  | 0, .int _ | _ + 1, .int _ => inferInstanceAs (Decidable (_ ≤ _))
  | 0, .float _ | _ + 1, .float _ => isTrue trivial
  | 0, .str _ | _ + 1, .str _ => isTrue trivial
  | 0, .list _ => isFalse id
  | levels + 1, .list items => decidableFitsItems levels items
  | 0, .dict _ => isFalse id
  | levels + 1, .dict members => decidableFitsMembers levels members

def decidableFitsItems : (levels : Nat) → (items : List Value) → Decidable (FitsItems levels items)
  | _, [] => isTrue trivial
  | levels, v :: rest =>
      have := decidableFits levels v
      have := decidableFitsItems levels rest
      inferInstanceAs (Decidable (_ ∧ _))

def decidableFitsMembers :
    (levels : Nat) → (members : Members) → Decidable (FitsMembers levels members)
  | _, [] => isTrue trivial
  | levels, (_, v) :: rest =>
      have := decidableFits levels v
      have := decidableFitsMembers levels rest
      inferInstanceAs (Decidable (_ ∧ _))
end

instance (levels : Nat) (v : Value) : Decidable (Fits levels v) := decidableFits levels v

/-- `json.dumps(value, separators=(",", ":"))`; `none` is an exception. -/
def dumpsWithin (levels : Nat) (datum : Datum) : Option Text :=
  (datum.plain.filter fun v => Fits levels v).map (render .compact)

/-- `json.dumps(value, sort_keys=True, separators=(",", ":"), default=str)`. -/
def dumpsSortedWithin (levels : Nat) (datum : Datum) : Option Text :=
  (datum.stringified.filter fun v => Fits levels v).bind (dumpsSorted .compact)

theorem dumpsWithin_eq_some {levels : Nat} {datum : Datum} {text : Text} :
    dumpsWithin levels datum = some text ↔
      ∃ v, datum.plain = some v ∧ Fits levels v ∧ render .compact v = text := by
  rw [dumpsWithin, Option.map_eq_some_iff]
  constructor
  · rintro ⟨v, found, rfl⟩
    obtain ⟨isPlain, fits⟩ := Option.filter_eq_some_iff.mp found
    exact ⟨v, isPlain, of_decide_eq_true fits, rfl⟩
  · rintro ⟨v, isPlain, fits, rfl⟩
    exact ⟨v, Option.filter_eq_some_iff.mpr ⟨isPlain, decide_eq_true fits⟩, rfl⟩

/-! More levels leave room for the same values. -/

mutual
theorem fits_mono {fewer more : Nat} (le : fewer ≤ more) :
    (v : Value) → Fits fewer v → Fits more v
  | .null, _ => by cases more <;> trivial
  | .bool _, _ => by cases more <;> trivial
  | .int _, fits => by cases fewer <;> cases more <;> exact fits
  | .float _, _ => by cases more <;> trivial
  | .str _, _ => by cases more <;> trivial
  | .list items, fits => by
      cases fewer with
      | zero => exact fits.elim
      | succ fewer =>
          cases more with
          | zero => omega
          | succ more => exact fitsItems_mono (Nat.le_of_succ_le_succ le) items fits
  | .dict members, fits => by
      cases fewer with
      | zero => exact fits.elim
      | succ fewer =>
          cases more with
          | zero => omega
          | succ more => exact fitsMembers_mono (Nat.le_of_succ_le_succ le) members fits

private theorem fitsItems_mono {fewer more : Nat} (le : fewer ≤ more) :
    (items : List Value) → FitsItems fewer items → FitsItems more items
  | [], _ => trivial
  | v :: rest, fits => ⟨fits_mono le v fits.1, fitsItems_mono le rest fits.2⟩

private theorem fitsMembers_mono {fewer more : Nat} (le : fewer ≤ more) :
    (members : Members) → FitsMembers fewer members → FitsMembers more members
  | [], _ => trivial
  | (_, v) :: rest, fits => ⟨fits_mono le v fits.1, fitsMembers_mono le rest fits.2⟩
end

theorem fitsItems_iff {levels : Nat} {items : List Value} :
    FitsItems levels items ↔ ∀ v ∈ items, Fits levels v := by
  induction items with
  | nil => simp [FitsItems]
  | cons first rest ih => rw [FitsItems, ih, List.forall_mem_cons]

theorem fits_object {levels : Nat} {fields : List (String × Value)} :
    Fits (levels + 1) (Value.object fields) ↔ ∀ field ∈ fields, Fits levels field.2 := by
  change FitsMembers levels _ ↔ _
  rw [fitsMembers_iff]
  constructor
  · intro all field member
    exact all _ _ (List.mem_map.mpr ⟨field, member, rfl⟩)
  · intro all k v member
    obtain ⟨field, found, same⟩ := List.mem_map.mp member
    cases same
    exact all field found

end SelfConnect.Python.Json
