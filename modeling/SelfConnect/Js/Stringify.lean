import SelfConnect.Js.Json
import SelfConnect.Python.Codec

namespace SelfConnect.Js

open SelfConnect.Python (hexFour hexValue hexValue_digitChar encode decode decode_encode Bytes)

/-! `JSON.stringify` of strings, and `Buffer.from` of what comes out. A string may hold lone
halves of surrogate pairs; they are escaped, so the text is one of characters. -/

def isHigh (u : UInt16) : Bool := 0xD800 ≤ u && u ≤ 0xDBFF
def isLow (u : UInt16) : Bool := 0xDC00 ≤ u && u ≤ 0xDFFF
def isSurrogate (u : UInt16) : Bool := 0xD800 ≤ u && u ≤ 0xDFFF

def unitChar (u : UInt16) : Char := Char.ofNat u.toNat

def pairChar (high low : UInt16) : Char :=
  Char.ofNat (0x10000 + (high.toNat - 0xD800) * 0x400 + (low.toNat - 0xDC00))

/-- The escapes of one letter. -/
def shortEscapes : List (UInt16 × Char) :=
  [(0x22, '"'), (0x5C, '\\'), (0x08, 'b'), (0x09, 't'), (0x0A, 'n'), (0x0C, 'f'), (0x0D, 'r')]

def escaped (u : UInt16) : List Char :=
  match shortEscapes.find? fun entry => entry.1 = u with
  | some entry => ['\\', entry.2]
  | none =>
      if u < 0x20 || isSurrogate u then '\\' :: 'u' :: hexFour u.toNat else [unitChar u]

/-- What stands between the quotes, and the quote that ends it. -/
def stringify : Text → List Char
  | [] => ['"']
  | [u] => escaped u ++ ['"']
  | u :: v :: rest =>
      if isHigh u && isLow v then pairChar u v :: stringify rest
      else escaped u ++ stringify (v :: rest)

/-- `Buffer.from(string, 'utf8')` of any string: a lone half becomes U+FFFD. -/
def characters : Text → List Char
  | [] => []
  | [u] => [if isSurrogate u then Char.ofNat 0xFFFD else unitChar u]
  | u :: v :: rest =>
      if isHigh u && isLow v then pairChar u v :: characters rest
      else (if isSurrogate u then Char.ofNat 0xFFFD else unitChar u) :: characters (v :: rest)

def utf8 (value : Text) : Bytes := encode (characters value)

/-! The units that were written first can be read back. -/

def shortEscape (c : Char) : Option UInt16 :=
  (shortEscapes.find? fun entry => entry.2 = c).map Prod.fst

def hexUnit (digits : List Char) : Option UInt16 :=
  match digits.mapM hexValue with
  | none => none
  | some values => some (values.foldl (fun n digit => 16 * n + digit) 0).toUInt16

def readEscape : List Char → Option (Text × List Char)
  | [] => none
  | c :: rest =>
      if c = 'u' then (hexUnit (rest.take 4)).map fun u => ([u], rest.drop 4)
      else (shortEscape c).map fun u => ([u], rest)

def readFirst : List Char → Option (Text × List Char)
  | [] => none
  | c :: rest =>
      if c = '"' then none
      else if c = '\\' then readEscape rest
      else some (units c, rest)

theorem toNat_unitChar {u : UInt16} (scalar : isSurrogate u = false) :
    (unitChar u).toNat = u.toNat := by
  have bound := u.toNat_lt
  have valid : u.toNat.isValidChar := by
    simp only [isSurrogate, Bool.and_eq_false_iff, decide_eq_false_iff_not,
      UInt16.le_iff_toNat_le, UInt16.reduceToNat] at scalar
    unfold Nat.isValidChar
    omega
  rw [unitChar, Char.toNat_ofNat, if_pos valid]

theorem units_unitChar {u : UInt16} (scalar : isSurrogate u = false) :
    units (unitChar u) = [u] := by
  have bound := u.toNat_lt
  rw [units, toNat_unitChar scalar, if_pos (by omega)]
  simp

theorem toNat_pairChar {high low : UInt16} (isPair : (isHigh high && isLow low) = true) :
    (pairChar high low).toNat =
      0x10000 + (high.toNat - 0xD800) * 0x400 + (low.toNat - 0xDC00) := by
  simp only [isHigh, isLow, Bool.and_eq_true, decide_eq_true_eq, UInt16.le_iff_toNat_le,
    UInt16.reduceToNat] at isPair
  have valid : (0x10000 + (high.toNat - 0xD800) * 0x400 + (low.toNat - 0xDC00)).isValidChar := by
    unfold Nat.isValidChar
    omega
  rw [pairChar, Char.toNat_ofNat, if_pos valid]

theorem units_pairChar {high low : UInt16} (isPair : (isHigh high && isLow low) = true) :
    units (pairChar high low) = [high, low] := by
  have value := toNat_pairChar isPair
  simp only [isHigh, isLow, Bool.and_eq_true, decide_eq_true_eq, UInt16.le_iff_toNat_le,
    UInt16.reduceToNat] at isPair
  have first : 0xD800 + (0x10000 + (high.toNat - 0xD800) * 0x400 + (low.toNat - 0xDC00) -
      0x10000) / 0x400 = high.toNat := by omega
  have second : 0xDC00 + (0x10000 + (high.toNat - 0xD800) * 0x400 + (low.toNat - 0xDC00) -
      0x10000) % 0x400 = low.toNat := by omega
  rw [units, value, if_neg (by omega), first, second]
  simp

theorem hexUnit_hexFour (u : UInt16) : hexUnit (hexFour u.toNat) = some u := by
  have bound := u.toNat_lt
  simp only [hexUnit, hexFour, List.mapM_cons, List.mapM_nil,
    hexValue_digitChar (Nat.mod_lt _ (by decide : 0 < 16))]
  have value : 16 * (16 * (16 * (16 * 0 + u.toNat / 4096 % 16) + u.toNat / 256 % 16) +
      u.toNat / 16 % 16) + u.toNat % 16 = u.toNat := by omega
  simp only [Option.pure_def, Option.bind_eq_bind, Option.bind_some, List.foldl_cons,
    List.foldl_nil, value]
  simp

theorem readFirst_short {entry : UInt16 × Char} (member : entry ∈ shortEscapes)
    (rest : List Char) : readFirst ('\\' :: entry.2 :: rest) = some ([entry.1], rest) := by
  simp only [shortEscapes, List.mem_cons, List.not_mem_nil, or_false] at member
  rcases member with rfl | rfl | rfl | rfl | rfl | rfl | rfl <;> rfl

theorem readFirst_escaped (u : UInt16) (rest : List Char) :
    readFirst (escaped u ++ rest) = some ([u], rest) := by
  unfold escaped
  split
  · next entry found =>
      have same : entry.1 = u := by simpa using List.find?_some found
      rw [← same]
      exact readFirst_short (List.mem_of_find?_eq_some found) rest
  · next absent =>
      split
      · have four : (hexFour u.toNat ++ rest).take 4 = hexFour u.toNat := rfl
        have behind : (hexFour u.toNat ++ rest).drop 4 = rest := rfl
        change readEscape ('u' :: (hexFour u.toNat ++ rest)) = _
        rw [readEscape, if_pos rfl, four, behind, hexUnit_hexFour]
        rfl
      · next plain =>
          simp only [Bool.or_eq_true, not_or, Bool.not_eq_true] at plain
          have value := toNat_unitChar plain.2
          have none := List.find?_eq_none.mp absent
          have notQuote : unitChar u ≠ '"' := by
            intro same
            have isQuote : u = 0x22 := UInt16.toNat_inj.mp (by rw [← value, same]; rfl)
            exact none (0x22, '"') (by simp [shortEscapes]) (by simp [isQuote])
          have notBackslash : unitChar u ≠ '\\' := by
            intro same
            have isBackslash : u = 0x5C := UInt16.toNat_inj.mp (by rw [← value, same]; rfl)
            exact none (0x5C, '\\') (by simp [shortEscapes]) (by simp [isBackslash])
          rw [List.cons_append, List.nil_append, readFirst, if_neg notQuote,
            if_neg notBackslash, units_unitChar plain.2]

theorem readFirst_pair {high low : UInt16} (isPair : (isHigh high && isLow low) = true)
    (rest : List Char) : readFirst (pairChar high low :: rest) = some ([high, low], rest) := by
  have value := toNat_pairChar isPair
  have notAscii : ∀ c : Char, c.toNat < 0x10000 → pairChar high low ≠ c := by
    rintro c small rfl
    omega
  rw [readFirst, if_neg (notAscii _ (by decide)), if_neg (notAscii _ (by decide)),
    units_pairChar isPair]

/-- A text that is not empty is written with its first units in front. -/
theorem stringify_first {value : Text} (nonempty : value ≠ []) :
    ∃ first rest, value = first ++ rest ∧ rest.length < value.length ∧
      ∀ s, readFirst (stringify value ++ s) = some (first, stringify rest ++ s) := by
  rcases value with _ | ⟨u, _ | ⟨v, rest⟩⟩
  · exact absurd rfl nonempty
  · refine ⟨[u], [], rfl, by simp, fun s => ?_⟩
    change readFirst (escaped u ++ ['"'] ++ s) = some ([u], '"' :: s)
    rw [List.append_assoc, readFirst_escaped]
    rfl
  · cases isPair : isHigh u && isLow v with
    | true =>
        refine ⟨[u, v], rest, rfl, by simp, fun s => ?_⟩
        rw [stringify, isPair, if_pos rfl, List.cons_append, readFirst_pair isPair]
    | false =>
        refine ⟨[u], v :: rest, rfl, by simp, fun s => ?_⟩
        rw [stringify, isPair, if_neg Bool.false_ne_true, List.append_assoc, readFirst_escaped]

theorem readFirst_stringify_nil (s : List Char) : readFirst (stringify [] ++ s) = none := rfl

/-- What is written tells the text, and where it ends. -/
theorem stringify_inj {first second : Text} {s t : List Char}
    (same : stringify first ++ s = stringify second ++ t) : first = second ∧ s = t := by
  induction length : first.length using Nat.strong_induction_on generalizing first second with
  | _ n ih =>
      by_cases empty : first = []
      · by_cases empty' : second = []
        · subst empty empty'
          exact ⟨rfl, List.append_cancel_left same⟩
        · obtain ⟨front, rest, -, -, read⟩ := stringify_first empty'
          have reads := read t
          rw [← same, empty, readFirst_stringify_nil] at reads
          cases reads
      · obtain ⟨front, rest, split, shorter, read⟩ := stringify_first empty
        by_cases empty' : second = []
        · have reads := read s
          rw [same, empty', readFirst_stringify_nil] at reads
          cases reads
        · obtain ⟨front', rest', split', -, read'⟩ := stringify_first empty'
          have reads := (read s).symm.trans ((congrArg readFirst same).trans (read' t))
          simp only [Option.some.injEq, Prod.mk.injEq] at reads
          obtain ⟨sameRest, sameEnd⟩ := ih rest.length (by omega) reads.2 rfl
          exact ⟨by rw [split, split', reads.1, sameRest], sameEnd⟩

theorem encode_injective : Function.Injective encode := by
  intro first second same
  have decoded := congrArg decode same
  rw [decode_encode, decode_encode] at decoded
  exact Option.some.inj decoded

/-! What no lone half, and nothing like one, stands in is told by its bytes. -/

/-- Neither half a pair, nor what stands for one, nor zero. -/
def isPlain (u : UInt16) : Bool := u ≠ 0 && u ≠ 0xFFFD && !isSurrogate u

theorem isPlain_iff {u : UInt16} :
    isPlain u = true ↔ u ≠ 0 ∧ u ≠ 0xFFFD ∧ isSurrogate u = false := by
  simp [isPlain, and_assoc]

theorem unitChar_inj {u v : UInt16} (scalar : isSurrogate u = false)
    (scalar' : isSurrogate v = false) (same : unitChar u = unitChar v) : u = v := by
  have codes := congrArg Char.toNat same
  rw [toNat_unitChar scalar, toNat_unitChar scalar'] at codes
  exact UInt16.toNat_inj.mp codes

theorem unitChar_ne_replacement {u : UInt16} (plain : isPlain u = true) :
    unitChar u ≠ Char.ofNat 0xFFFD := by
  obtain ⟨-, other, scalar⟩ := isPlain_iff.mp plain
  exact fun same => other (unitChar_inj scalar (by decide) same)

theorem characters_of_plain {value : Text} (plain : ∀ u ∈ value, isPlain u = true) :
    characters value = value.map unitChar := by
  induction value using characters.induct with
  | case1 => rfl
  | case2 u =>
      rw [characters, (isPlain_iff.mp (plain u List.mem_cons_self)).2.2]
      rfl
  | case3 u v rest isPair ih =>
      have scalar := (isPlain_iff.mp (plain u List.mem_cons_self)).2.2
      simp only [isHigh, isLow, isSurrogate, Bool.and_eq_true, decide_eq_true_eq,
        Bool.and_eq_false_iff, decide_eq_false_iff_not, UInt16.le_iff_toNat_le,
        UInt16.reduceToNat] at isPair scalar
      omega
  | case4 u v rest isPair ih =>
      rw [characters, if_neg isPair, (isPlain_iff.mp (plain u List.mem_cons_self)).2.2,
        ih fun w member => plain w (List.mem_cons_of_mem _ member)]
      rfl

/-- No other string has the characters of a plain one. -/
theorem eq_of_characters_eq {value other : Text} (plain : ∀ u ∈ value, isPlain u = true)
    (same : characters other = characters value) : other = value := by
  rw [characters_of_plain plain] at same
  have single : ∀ {u w : UInt16}, isPlain w = true →
      (if isSurrogate u then Char.ofNat 0xFFFD else unitChar u) = unitChar w → u = w := by
    intro u w isPlain isSame
    split at isSame
    · exact absurd isSame.symm (unitChar_ne_replacement isPlain)
    · next scalar =>
      exact unitChar_inj (Bool.eq_false_iff.mpr scalar) (isPlain_iff.mp isPlain).2.2 isSame
  induction other using characters.induct generalizing value with
  | case1 => exact (List.map_eq_nil_iff.mp same.symm).symm
  | case2 u =>
      obtain ⟨w, rest, rfl, isFirst, isRest⟩ := List.map_eq_cons_iff.mp same.symm
      rw [List.map_eq_nil_iff.mp isRest, single (plain w List.mem_cons_self) isFirst.symm]
  | case3 u v rest isPair ih =>
      rw [characters, if_pos isPair] at same
      obtain ⟨w, after, rfl, isFirst, -⟩ := List.map_eq_cons_iff.mp same.symm
      have codes := congrArg Char.toNat isFirst
      rw [toNat_unitChar (isPlain_iff.mp (plain w List.mem_cons_self)).2.2,
        toNat_pairChar isPair] at codes
      have bound := w.toNat_lt
      omega
  | case4 u v rest isPair ih =>
      rw [characters, if_neg isPair] at same
      obtain ⟨w, after, rfl, isFirst, isRest⟩ := List.map_eq_cons_iff.mp same.symm
      rw [single (plain w List.mem_cons_self) isFirst.symm,
        ih (fun x member => plain x (List.mem_cons_of_mem _ member)) isRest.symm]

theorem zero_mem_utf8EncodeChar {c : Char} (member : 0 ∈ String.utf8EncodeChar c) :
    c.toNat = 0 := by
  have code : c.val.toNat = c.toNat := rfl
  have bound : c.toNat < 0x110000 := by
    rcases c.valid with low | high
    · have : c.toNat < 0xD800 := low
      omega
    · exact high.2
  have byte : ∀ {n : Nat}, (0 : UInt8) = UInt8.ofNat n → n % 256 = 0 := by
    intro n isZero
    have values := congrArg UInt8.toNat isZero
    rw [UInt8.toNat_ofNat'] at values
    exact values.symm
  rw [String.utf8EncodeChar, code] at member
  split_ifs at member <;> simp only [List.mem_cons, List.not_mem_nil, or_false] at member
  · have := byte member
    omega
  · rcases member with isByte | isByte <;> have := byte isByte <;> omega
  · rcases member with isByte | isByte | isByte <;> have := byte isByte <;> omega
  · rcases member with isByte | isByte | isByte | isByte <;> have := byte isByte <;> omega

theorem zero_not_mem_utf8 {value : Text} (plain : ∀ u ∈ value, isPlain u = true) :
    0 ∉ utf8 value := by
  rw [utf8, characters_of_plain plain, encode]
  intro member
  obtain ⟨c, isChar, isByte⟩ := List.mem_flatMap.mp member
  obtain ⟨u, isUnit, rfl⟩ := List.mem_map.mp isChar
  obtain ⟨nonzero, -, scalar⟩ := isPlain_iff.mp (plain u isUnit)
  have zero := zero_mem_utf8EncodeChar isByte
  rw [toNat_unitChar scalar] at zero
  exact nonzero (UInt16.toNat_inj.mp zero)

theorem eq_of_utf8_eq {value other : Text} (plain : ∀ u ∈ value, isPlain u = true)
    (same : utf8 other = utf8 value) : other = value :=
  eq_of_characters_eq plain (encode_injective same)

end SelfConnect.Js
