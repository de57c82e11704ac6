import SelfConnect.Python.Value

namespace SelfConnect.Python.Json

/-! `json.dumps`. The default separators put a blank after the comma and the
colon; `separators=(",", ":")` leaves it out. -/

structure Style where
  spaced : Bool
  ensureAscii : Bool

def Style.compact : Style := ⟨false, true⟩

def Style.default : Style := ⟨true, true⟩

def Style.compactUnicode : Style := ⟨false, false⟩

def Style.comma (style : Style) : Text :=
  if style.spaced then [',', ' '] else [',']

def Style.colon (style : Style) : Text :=
  if style.spaced then [':', ' '] else [':']

def escape (ensureAscii : Bool) (c : CodePoint) : Text :=
  if c.val = 0x22 then ['\\', '"']
  else if c.val = 0x5C then ['\\', '\\']
  else if c.val = 0x0A then ['\\', 'n']
  else if c.val = 0x0D then ['\\', 'r']
  else if c.val = 0x09 then ['\\', 't']
  else if c.val = 0x08 then ['\\', 'b']
  else if c.val = 0x0C then ['\\', 'f']
  else if 0x20 ≤ c.val ∧ (c.val ≤ 0x7E ∨ ensureAscii = false) then [Char.ofNat c.val]
  else c.units.flatMap fun unit => '\\' :: 'u' :: hexFour unit.val

def stringText (ensureAscii : Bool) (s : Str) : Text :=
  '"' :: (s.flatMap (escape ensureAscii) ++ ['"'])

mutual
def render (style : Style) : Value → Text
  | .null => ['n', 'u', 'l', 'l']
  | .bool true => ['t', 'r', 'u', 'e']
  | .bool false => ['f', 'a', 'l', 's', 'e']
  | .int n => intText n
  | .float x => x.text
  | .str s => stringText style.ensureAscii s
  | .list [] => ['[', ']']
  | .list (v :: rest) => '[' :: (render style v ++ renderItems style rest)
  | .dict [] => ['{', '}']
  | .dict ((k, v) :: rest) =>
      '{' :: (stringText style.ensureAscii k.text ++ style.colon ++
        render style v ++ renderMembers style rest)

def renderItems (style : Style) : List Value → Text
  | [] => [']']
  | v :: rest => style.comma ++ render style v ++ renderItems style rest

def renderMembers (style : Style) : Members → Text
  | [] => ['}']
  | (k, v) :: rest =>
      style.comma ++ stringText style.ensureAscii k.text ++ style.colon ++
        render style v ++ renderMembers style rest
end

/-! `sort_keys=True` sorts the entries of every dict before its keys become
strings. -/

def keyLe (first second : Key × Value) : Prop :=
  second.1.lt first.1 = false

instance : DecidableRel keyLe :=
  fun first second => inferInstanceAs (Decidable (second.1.lt first.1 = false))

def sortMembers (members : Members) : Members :=
  members.insertionSort keyLe

mutual
def sortKeys : Value → Value
  | .list items => .list (sortItems items)
  | .dict members => .dict (sortMembers (sortValues members))
  | v => v

def sortItems : List Value → List Value
  | [] => []
  | v :: rest => sortKeys v :: sortItems rest

def sortValues : Members → Members
  | [] => []
  | (k, v) :: rest => (k, sortKeys v) :: sortValues rest
end

mutual
/-- No dict inside mixes keys that have no common order. -/
def sortable : Value → Bool
  | .list items => sortableItems items
  | .dict members => Key.sortable (members.map Prod.fst) && sortableMembers members
  | _ => true

def sortableItems : List Value → Bool
  | [] => true
  | v :: rest => sortable v && sortableItems rest

def sortableMembers : Members → Bool
  | [] => true
  | (_, v) :: rest => sortable v && sortableMembers rest
end

/-- `json.dumps(value, sort_keys=True)`; `none` is `TypeError`. -/
def dumpsSorted (style : Style) (value : Value) : Option Text :=
  if sortable value then some (render style (sortKeys value)) else none

/-! What the other two arguments the code passes refuse: `allow_nan=False`
raises on a float that is no number, and encoding text that is not ASCII raises
on a surrogate. -/

def encodable (s : Str) : Bool :=
  s.all fun c => !c.isSurrogate

theorem encodable_ofText (text : Text) : encodable (Str.ofText text) = true := by
  apply List.all_eq_true.mpr
  intro c member
  obtain ⟨d, -, isChar⟩ := List.mem_map.mp member
  rw [← isChar, Str.ofChar_not_surrogate]
  rfl

theorem encodable_lit (text : String) : encodable (Str.lit text) = true :=
  encodable_ofText _

theorem not_surrogate_of_encodable {s : Str} (isEncodable : encodable s = true) :
    ∀ c ∈ s, c.isSurrogate = false := by
  intro c member
  simpa using List.all_eq_true.mp isEncodable c member

mutual
def strict : Value → Bool
  | .float x => x.isFinite
  | .str s => encodable s
  | .list items => strictItems items
  | .dict members => strictMembers members
  | _ => true

def strictItems : List Value → Bool
  | [] => true
  | v :: rest => strict v && strictItems rest

def strictMembers : Members → Bool
  | [] => true
  | (k, v) :: rest =>
      (match k with
      | .float x => x.isFinite
      | .str s => encodable s
      | _ => true) && strict v && strictMembers rest
end

/-- `json.dumps(value, sort_keys=True, ensure_ascii=False, allow_nan=False)`
followed by `.encode("utf-8")`. -/
def dumpsStrict (value : Value) : Option Text :=
  if sortable value && strict value then
    some (render .compactUnicode (sortKeys value))
  else none

end SelfConnect.Python.Json
