import SelfConnect.Python.Float

namespace SelfConnect.Python

/-! The built-in values that `json.dumps` accepts. A dict keeps its insertion
order; its keys are the five kinds JSON coerces to strings. -/

inductive Key
  | str (s : Str)
  | int (n : Int)
  | float (x : PyFloat)
  | bool (b : Bool)
  | null
  deriving DecidableEq

inductive Value
  | null
  | bool (b : Bool)
  | int (n : Int)
  | float (x : PyFloat)
  | str (s : Str)
  | list (items : List Value)
  | dict (members : List (Key × Value))

abbrev Members := List (Key × Value)

/-! Numbers of all three kinds are compared by exact value. -/

inductive Number
  | nan
  | infinity (negative : Bool)
  | finite (q : ℚ)

namespace Number

def ofFloat : PyFloat → Number
  | .nan => .nan
  | .infinity negative => .infinity negative
  | .finite x =>
      let fraction := floatFraction x.toFloat
      let magnitude : ℚ := (fraction.1 : ℚ) / fraction.2
      .finite (if x.negative then -magnitude else magnitude)

def ofBool (b : Bool) : Number := .finite (if b then 1 else 0)

def eqv : Number → Number → Bool
  | .infinity first, .infinity second => first == second
  | .finite first, .finite second => decide (first = second)
  | _, _ => false

def lt : Number → Number → Bool
  | .nan, _ => false
  | _, .nan => false
  | .infinity first, .infinity second => first && !second
  | .infinity negative, .finite _ => negative
  | .finite _, .infinity negative => !negative
  | .finite first, .finite second => decide (first < second)

end Number

namespace Key

def number? : Key → Option Number
  | .int n => some (.finite n)
  | .float x => some (.ofFloat x)
  | .bool b => some (.ofBool b)
  | _ => none

/-- Equality of keys: `1 == 1.0 == True`, and `nan` equals nothing. -/
def eqv : Key → Key → Bool
  | .str first, .str second => first == second
  | .null, .null => true
  | first, second =>
      match first.number?, second.number? with
      | some x, some y => x.eqv y
      | _, _ => false

def isStr : Key → Bool
  | .str _ => true
  | _ => false

/-- `<` on keys that can be compared. -/
def lt : Key → Key → Bool
  | .str first, .str second => decide (first < second)
  | first, second =>
      match first.number?, second.number? with
      | some x, some y => x.lt y
      | _, _ => false

/-- Sorting raises `TypeError` exactly when two keys of different kinds, or two
that have no order, stand in one list. -/
def sortable (keys : List Key) : Bool :=
  decide (keys.length ≤ 1) || keys.all isStr || keys.all fun k => k.number?.isSome

/-- The string `json.dumps` writes for a key. -/
def text : Key → Str
  | .str s => s
  | .int n => Str.ofText (intText n)
  | .float x => Str.ofText x.text
  | .bool true => Str.lit "true"
  | .bool false => Str.lit "false"
  | .null => Str.lit "null"

end Key

namespace Members

def lookup (key : Str) : Members → Option Value
  | [] => none
  | (.str k, v) :: rest => if k = key then some v else lookup key rest
  | _ :: rest => lookup key rest

def lookupKey (key : Key) : Members → Option Value
  | [] => none
  | (k, v) :: rest => if k.eqv key then some v else lookupKey key rest

/-- Assignment `d[key] = value` for a string key: an existing entry keeps its
place. -/
def set (key : Str) (value : Value) : Members → Members
  | [] => [(.str key, value)]
  | (k, v) :: rest =>
      if k = .str key then (k, value) :: rest else (k, v) :: set key value rest

/-- Assignment for any key; keys that are equal share one entry. -/
def setKey (key : Key) (value : Value) (members : Members) : Members :=
  match key with
  | .str s => set s value members
  | key =>
      if members.any fun entry => entry.1.eqv key then
        members.map fun entry => if entry.1.eqv key then (entry.1, value) else entry
      else members ++ [(key, value)]

/-- `d.update(other)`. -/
def update (members other : Members) : Members :=
  other.foldl (fun members entry => setKey entry.1 entry.2 members) members

/-- The entries of a dict display with string keys. -/
def of (fields : List (String × Value)) : Members :=
  fields.map fun field => (Key.str (Str.lit field.1), field.2)

def erase (key : Str) (members : Members) : Members :=
  members.filter fun entry => entry.1 ≠ .str key

end Members

namespace Value

/-- `value.get(key)`; `none` when the key is absent or the value is no dict. -/
def get? (value : Value) (key : String) : Option Value :=
  match value with
  | .dict members => Members.lookup (Str.lit key) members
  | _ => none

/-- `value.get(key, default)`. -/
def getD (value : Value) (key : String) (default : Value) : Value :=
  (value.get? key).getD default

def isDict : Value → Bool
  | .dict _ => true
  | _ => false

def isStr : Value → Bool
  | .str _ => true
  | _ => false

/-- `isinstance(value, int)`; a bool is an int. -/
def isInt : Value → Bool
  | .int _ => true
  | .bool _ => true
  | _ => false

def toInt? : Value → Option Int
  | .int n => some n
  | .bool b => some (if b then 1 else 0)
  | _ => none

def str? : Value → Option Str
  | .str s => some s
  | _ => none

/-- `bool(value)`. -/
def truthy : Value → Bool
  | .null => false
  | .bool b => b
  | .int n => n ≠ 0
  | .float x =>
      match Number.ofFloat x with
      | .finite q => q ≠ 0
      | _ => true
  | .str s => !s.isEmpty
  | .list items => !items.isEmpty
  | .dict members => !members.isEmpty

def number? : Value → Option Number
  | .int n => some (.finite n)
  | .float x => some (.ofFloat x)
  | .bool b => some (.ofBool b)
  | _ => none

mutual
/-- Python `==`. -/
def eqv : Value → Value → Bool
  | .null, .null => true
  | .str first, .str second => first == second
  | .list first, .list second => eqvItems first second
  | .dict first, .dict second =>
      first.length == second.length && eqvMembers first second
  | first, second =>
      match first.number?, second.number? with
      | some x, some y => x.eqv y
      | _, _ => false

def eqvItems : List Value → List Value → Bool
  | [], [] => true
  | first :: front, second :: back => eqv first second && eqvItems front back
  | _, _ => false

def eqvMembers : Members → Members → Bool
  | [], _ => true
  | (k, v) :: rest, other =>
      (match other.lookupKey k with
      | some w => eqv v w
      | none => false) && eqvMembers rest other
end

mutual
/-- Python `<`; `none` when it raises `TypeError`. -/
def lt? : Value → Value → Option Bool
  | .str first, .str second => some (decide (first < second))
  | .list first, .list second => ltItems? first second
  | first, second =>
      match first.number?, second.number? with
      | some x, some y => some (x.lt y)
      | _, _ => none

def ltItems? : List Value → List Value → Option Bool
  | [], [] => some false
  | [], _ :: _ => some true
  | _ :: _, [] => some false
  | first :: front, second :: back =>
      if eqv first second then ltItems? front back else lt? first second
end

/-- A dict display with string keys. -/
def object (fields : List (String × Value)) : Value :=
  .dict (fields.map fun field => (Key.str (Str.lit field.1), field.2))

def lit (s : String) : Value := .str (Str.lit s)

@[simp] theorem get?_object_nil (key : String) : (object []).get? key = none := rfl

@[simp] theorem get?_object_cons (name key : String) (value : Value)
    (rest : List (String × Value)) :
    (object ((name, value) :: rest)).get? key =
      if name = key then some value else (object rest).get? key := by
  simp [object, get?, Members.lookup]

theorem eqv_str_iff {v : Value} {s : Str} : v.eqv (.str s) = true ↔ v = .str s := by
  cases v with
  | str text =>
      rw [eqv, beq_iff_eq]
      exact ⟨congrArg _, Value.str.inj⟩
  | null | bool _ | int _ | float _ | list _ | dict _ =>
      exact iff_of_false (fun same => by cases same) fun same => by cases same

theorem str_eqv_iff {v : Value} {s : Str} : (Value.str s).eqv v = true ↔ v = .str s := by
  cases v with
  | str text =>
      rw [eqv, beq_iff_eq]
      exact ⟨fun same => congrArg _ same.symm, fun same => (Value.str.inj same).symm⟩
  | null | bool _ | int _ | float _ | list _ | dict _ =>
      exact iff_of_false (fun same => by cases same) fun same => by cases same

theorem get?_dict (members : Members) (key : String) :
    (Value.dict members).get? key = Members.lookup (Str.lit key) members := rfl

end Value

namespace Members

theorem lookup_append (key : Str) (first second : Members) :
    lookup key (first ++ second) = (lookup key first).or (lookup key second) := by
  induction first with
  | nil => rfl
  | cons entry rest ih =>
      obtain ⟨k, v⟩ := entry
      cases k with
      | str s => by_cases equal : s = key <;> simp [lookup, equal, ih]
      | int | float | bool | null => simpa [lookup] using ih

@[simp] theorem erase_nil (key : Str) : erase key [] = [] := rfl

@[simp] theorem erase_cons_self (key : Str) (v : Value) (rest : Members) :
    erase key ((.str key, v) :: rest) = erase key rest := by
  simp [erase]

theorem erase_cons_of_ne {key : Str} {k : Key} (differs : k ≠ .str key) (v : Value)
    (rest : Members) : erase key ((k, v) :: rest) = (k, v) :: erase key rest := by
  simp [erase, differs]

theorem lookup_eq_none {key : Str} {members : Members}
    (absent : ∀ v, (Key.str key, v) ∉ members) : lookup key members = none := by
  induction members with
  | nil => rfl
  | cons entry rest ih =>
      obtain ⟨k, v⟩ := entry
      have tail := ih fun v member => absent v (by simp [member])
      cases k with
      | str s =>
          have differs : s ≠ key := by
            rintro rfl
            exact absent v (by simp)
          simp [lookup, differs, tail]
      | int | float | bool | null => simpa [lookup] using tail

theorem mem_of_lookup {key : Str} {members : Members} {v : Value}
    (found : lookup key members = some v) : (Key.str key, v) ∈ members := by
  induction members with
  | nil => simp [lookup] at found
  | cons entry rest ih =>
      obtain ⟨k, w⟩ := entry
      cases k with
      | str s =>
          by_cases equal : s = key
          · simp only [lookup, equal, if_true, Option.some.injEq] at found
            simp [equal, found]
          · simp only [lookup, equal, if_false] at found
            simp [ih found]
      | int | float | bool | null =>
          simp only [lookup] at found
          simp [ih found]

/-! What an assignment changes. -/

theorem set_fresh {key : Str} {value : Value} {members : Members}
    (fresh : Key.str key ∉ members.map Prod.fst) :
    set key value members = members ++ [(.str key, value)] := by
  induction members with
  | nil => rfl
  | cons entry rest ih =>
      obtain ⟨k, v⟩ := entry
      have differs : k ≠ .str key := by
        rintro rfl
        exact fresh (by simp)
      have tail : Key.str key ∉ rest.map Prod.fst := fun member => fresh (by simp [member])
      rw [set, if_neg differs, ih tail]
      rfl

theorem mem_set {key : Str} {value : Value} {members : Members}
    {k : Key} {v : Value} (member : (k, v) ∈ set key value members) :
    (k = .str key ∧ v = value) ∨ (k, v) ∈ members := by
  induction members with
  | nil => simpa [set] using member
  | cons entry rest ih =>
      obtain ⟨k', v'⟩ := entry
      rw [set] at member
      split at member
      · next equal =>
          rcases List.mem_cons.mp member with same | below
          · cases same
            exact Or.inl ⟨equal, rfl⟩
          · exact Or.inr (by simp [below])
      · rcases List.mem_cons.mp member with same | below
        · exact Or.inr (by simp [same])
        · rcases ih below with found | found
          · exact Or.inl found
          · exact Or.inr (by simp [found])

theorem nodup_set {key : Str} {value : Value} {members : Members}
    (distinct : (members.map Prod.fst).Nodup) :
    ((set key value members).map Prod.fst).Nodup := by
  induction members with
  | nil => simp [set]
  | cons entry rest ih =>
      obtain ⟨k, v⟩ := entry
      simp only [List.map_cons, List.nodup_cons] at distinct
      rw [set]
      split
      · simpa using distinct
      · next differs =>
          simp only [List.map_cons, List.nodup_cons]
          refine ⟨?_, ih distinct.2⟩
          intro member
          obtain ⟨⟨k', v'⟩, found, rfl⟩ := List.mem_map.mp member
          rcases mem_set found with ⟨equal, -⟩ | below
          · exact differs equal
          · exact distinct.1 (List.mem_map.mpr ⟨_, below, rfl⟩)

theorem erase_set_same (key : Str) (v : Value) (members : Members) :
    erase key (set key v members) = erase key members := by
  induction members with
  | nil => simp [set]
  | cons entry rest ih =>
      obtain ⟨k, w⟩ := entry
      rw [set]
      split
      · next same => simp [same]
      · next differs =>
          rw [erase_cons_of_ne differs, erase_cons_of_ne differs, ih]

theorem erase_set_other {key other : Str} (differs : other ≠ key) (v : Value)
    (members : Members) :
    erase key (set other v members) =
      set other v (erase key members) := by
  have otherKey : Key.str other ≠ .str key := by simpa using differs
  induction members with
  | nil => simp [set, erase_cons_of_ne otherKey]
  | cons entry rest ih =>
      obtain ⟨k, w⟩ := entry
      rw [set]
      by_cases same : k = .str other
      · rw [if_pos same, same, erase_cons_of_ne otherKey,
          erase_cons_of_ne otherKey, set, if_pos rfl]
      · rw [if_neg same]
        by_cases erased : k = .str key
        · rw [erased, erase_cons_self, erase_cons_self, ih]
        · rw [erase_cons_of_ne erased, erase_cons_of_ne erased, ih,
            set, if_neg same]

theorem lookup_set_self (key : Str) (v : Value) (members : Members) :
    lookup key (set key v members) = some v := by
  induction members with
  | nil => simp [set, lookup]
  | cons entry rest ih =>
      obtain ⟨k, w⟩ := entry
      rw [set]
      split
      · next same => simp [same, lookup]
      · next differs =>
          cases k with
          | str s =>
              have other : s ≠ key := by simpa using differs
              simp [lookup, other, ih]
          | int | float | bool | null => simpa [lookup] using ih

theorem lookup_set_other {key other : Str} (differs : other ≠ key) (v : Value)
    (members : Members) : lookup key (set other v members) = lookup key members := by
  induction members with
  | nil => simp [set, lookup, differs]
  | cons entry rest ih =>
      obtain ⟨k, w⟩ := entry
      rw [set]
      split
      · next same => simp [same, lookup, differs]
      · cases k with
        | str s => by_cases found : s = key <;> simp [lookup, found, ih]
        | int | float | bool | null => simpa [lookup] using ih

private theorem lookup_map_eqv {key : Key} (other : key.isStr = false) (s : Str) (v : Value)
    (members : Members) :
    lookup s (members.map fun entry => if entry.1.eqv key then (entry.1, v) else entry) =
      lookup s members := by
  induction members with
  | nil => rfl
  | cons entry rest ih =>
      obtain ⟨k, w⟩ := entry
      cases k with
      | str t =>
          have unequal : (Key.str t).eqv key = false := by
            cases key <;> first | rfl | cases other
          simp [lookup, unequal, ih]
      | int | float | bool | null =>
          rw [List.map_cons]
          split <;> exact ih

theorem lookup_setKey {key : Key} {s : Str} (differs : key ≠ .str s) (v : Value)
    (members : Members) : lookup s (setKey key v members) = lookup s members := by
  have other : key.isStr = false → lookup s (if members.any fun entry => entry.1.eqv key then
      members.map fun entry => if entry.1.eqv key then (entry.1, v) else entry
        else members ++ [(key, v)]) = lookup s members := by
    intro notStr
    split
    · exact lookup_map_eqv notStr s v members
    · rw [lookup_append]
      cases key with
      | str t => cases notStr
      | int | float | bool | null => exact Option.or_none
  cases key with
  | str t => exact lookup_set_other (by simpa using differs) v members
  | int | float | bool | null => exact other rfl

/-- An update leaves the keys alone that it does not mention. -/
theorem lookup_update {s : Str} {other : Members} (absent : ∀ v, (Key.str s, v) ∉ other)
    (members : Members) : lookup s (update members other) = lookup s members := by
  induction other generalizing members with
  | nil => rfl
  | cons entry rest ih =>
      have tail : ∀ v, (Key.str s, v) ∉ rest := fun v member => absent v (by simp [member])
      have differs : entry.1 ≠ .str s := by
        intro same
        exact absent entry.2 (by simp [← same])
      exact (ih tail _).trans (lookup_setKey differs _ _)

theorem absent_of_lookup_eq_none {key : Str} {members : Members}
    (absent : lookup key members = none) (v : Value) : (Key.str key, v) ∉ members := by
  induction members with
  | nil => simp
  | cons entry rest ih =>
      obtain ⟨k, w⟩ := entry
      cases k with
      | str s =>
          by_cases same : s = key
          · simp [lookup, same] at absent
          · simp only [lookup, same, if_false] at absent
            simp [Ne.symm same, ih absent]
      | int | float | bool | null =>
          simp only [lookup] at absent
          simp [ih absent]

theorem set_of_lookup_eq_none {key : Str} {members : Members}
    (absent : lookup key members = none) (v : Value) :
    set key v members = members ++ [(.str key, v)] := by
  apply set_fresh
  intro member
  obtain ⟨⟨k, w⟩, found, equal⟩ := List.mem_map.mp member
  dsimp only at equal
  rw [equal] at found
  exact absent_of_lookup_eq_none absent w found

theorem erase_of_lookup_eq_none {key : Str} {members : Members}
    (absent : lookup key members = none) : erase key members = members := by
  apply List.filter_eq_self.mpr
  rintro ⟨k, v⟩ member
  have differs : k ≠ .str key := by
    rintro rfl
    exact absent_of_lookup_eq_none absent v member
  simpa using differs

end Members

end SelfConnect.Python
