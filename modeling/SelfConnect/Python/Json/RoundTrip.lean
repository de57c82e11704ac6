import SelfConnect.Python.Json.Decode

namespace SelfConnect.Python.Json

/-! What a value becomes when its text is scanned again: keys are strings and
escaped surrogate pairs are joined. -/

mutual
def reread : Value → Value
  | .str s => .str (Str.joinSurrogates s)
  | .list items => .list (rereadItems items)
  | .dict members => .dict (rereadMembers members)
  | v => v

def rereadItems : List Value → List Value
  | [] => []
  | v :: rest => reread v :: rereadItems rest

def rereadMembers : Members → Members
  | [] => []
  | (k, v) :: rest =>
      (.str (Str.joinSurrogates k.text), reread v) :: rereadMembers rest
end

/-! Strings. -/

private theorem hexUnit_hexFour {n : Nat} (bound : n < 0x10000) :
    hexUnit (n / 4096 % 16).digitChar (n / 256 % 16).digitChar
      (n / 16 % 16).digitChar (n % 16).digitChar =
      some (Fin.ofNat 0x110000 n) := by
  simp only [hexUnit, hexValue_digitChar (Nat.mod_lt _ (by decide : 0 < 16))]
  congr 2
  omega

private theorem scanBody_unit {unit : CodePoint} (bound : unit.val < 0x10000)
    (tail : Text) :
    scanBody ('\\' :: 'u' :: (hexFour unit.val ++ tail)) =
      consPoint unit (scanBody tail) := by
  have value : (Fin.ofNat 0x110000 unit.val : CodePoint) = unit := by
    simp
  simp only [hexFour, List.cons_append, List.nil_append, scanBody,
    hexUnit_hexFour bound, value]

private theorem scanBody_raw {c : Char} (tail : Text) (notQuote : c ≠ '"')
    (notBackslash : c ≠ '\\') (printable : 0x20 ≤ c.toNat) :
    scanBody (c :: tail) = consPoint (CodePoint.ofChar c) (scanBody tail) := by
  rw [scanBody]
  · have : ¬ c.toNat < 0x20 := by omega
    simp [this, notBackslash]
  · exact notQuote
  · intro a b c' d rest backslash
    exact absurd backslash notBackslash
  · intro e rest backslash
    exact absurd backslash notBackslash

private theorem units_small {c : CodePoint} {bound : Nat} (small : c.val ≤ bound)
    (ascii : bound < 0x10000) : c.units = [c] :=
  CodePoint.units_of_lt (by omega)

/-- The scanner reads an escaped code point back as its UTF-16 units. -/
private theorem scanBody_escape (c : CodePoint) (tail : Text) :
    scanBody (escape true c ++ tail) =
      c.units.foldr consPoint (scanBody tail) := by
  have simple : ∀ {e d : Char}, c = CodePoint.ofChar d → escaped? e = some d →
      e ≠ 'u' → d.toNat < 0x80 →
      scanBody ('\\' :: e :: tail) = c.units.foldr consPoint (scanBody tail) := by
    intro e d equal isEscape notU small
    have one : c.units = [c] := by
      subst equal
      exact CodePoint.units_of_lt (Nat.lt_trans small (by decide))
    rw [scanBody, isEscape, one, equal]
    · rfl
    · intro a b c' d' rest isU
      exact absurd isU notU
  unfold escape
  split
  · next h => exact simple (d := '"') (Fin.ext h) rfl (by decide) (by decide)
  split
  · next h => exact simple (d := '\\') (Fin.ext h) rfl (by decide) (by decide)
  split
  · next h => exact simple (d := '\n') (Fin.ext h) rfl (by decide) (by decide)
  split
  · next h => exact simple (d := '\r') (Fin.ext h) rfl (by decide) (by decide)
  split
  · next h => exact simple (d := '\t') (Fin.ext h) rfl (by decide) (by decide)
  split
  · next h => exact simple (d := Char.ofNat 0x08) (Fin.ext h) rfl (by decide) (by decide)
  split
  · next h => exact simple (d := Char.ofNat 0x0C) (Fin.ext h) rfl (by decide) (by decide)
  split
  · next notQuote notBackslash _ _ _ _ _ printable =>
      have ascii : c.val ≤ 0x7E := by simpa using printable.2
      have scalar : c.isSurrogate = false := by
        rw [CodePoint.isSurrogate, Bool.and_eq_false_iff, decide_eq_false_iff_not]
        exact .inl (by omega)
      obtain ⟨point, value⟩ := CodePoint.ofChar_ofNat scalar
      rw [List.singleton_append, scanBody_raw, point, units_small ascii (by decide)]
      · rfl
      · intro isQuote
        rw [isQuote] at value
        exact notQuote value.symm
      · intro isBackslash
        rw [isBackslash] at value
        exact notBackslash value.symm
      · omega
  · by_cases small : c.val < 0x10000
    · rw [CodePoint.units_of_lt small]
      simpa using scanBody_unit small tail
    · obtain ⟨high, low, split, isHigh, isLow, -⟩ := CodePoint.units_of_ge small
      have highSmall : high.val < 0x10000 := by
        simp only [CodePoint.isHighSurrogate, Bool.and_eq_true,
          decide_eq_true_eq] at isHigh
        omega
      have lowSmall : low.val < 0x10000 := by
        simp only [CodePoint.isLowSurrogate, Bool.and_eq_true,
          decide_eq_true_eq] at isLow
        omega
      rw [split]
      simp only [List.flatMap_cons, List.flatMap_nil, List.append_nil,
        List.append_assoc, List.cons_append, List.foldr_cons, List.foldr_nil]
      rw [scanBody_unit highSmall, scanBody_unit lowSmall]

private theorem foldr_consPoint (points : Str) (s : Str) (rest : Text) :
    points.foldr consPoint (some (s, rest)) = some (points ++ s, rest) := by
  induction points with
  | nil => rfl
  | cons c points ih =>
      rw [List.foldr_cons, ih]
      rfl

private theorem scanBody_flatMap (s : Str) (rest : Text) :
    scanBody (s.flatMap (escape true) ++ '"' :: rest) =
      some (s.flatMap CodePoint.units, rest) := by
  induction s with
  | nil => simp [scanBody]
  | cons c tail ih =>
      rw [List.flatMap_cons, List.append_assoc, scanBody_escape, ih,
        foldr_consPoint, List.flatMap_cons]

/-! Where nothing but ASCII is written, other code points are escaped; where they are
written as they are, there must be no surrogate. -/

private theorem escape_of_ascii {c : CodePoint} (ascii : c.val ≤ 0x7E) (ensureAscii : Bool) :
    escape ensureAscii c = escape true c := by
  simp only [escape, ascii, true_or]

private theorem scanBody_scalar {c : CodePoint} (scalar : c.isSurrogate = false) (tail : Text) :
    scanBody (escape false c ++ tail) = consPoint c (scanBody tail) := by
  by_cases ascii : c.val ≤ 0x7E
  · rw [escape_of_ascii ascii, scanBody_escape, units_small ascii (by decide)]
    rfl
  · obtain ⟨point, value⟩ := CodePoint.ofChar_ofNat scalar
    have raw : escape false c = [Char.ofNat c.val] := by
      unfold escape
      rw [if_neg (by omega), if_neg (by omega), if_neg (by omega), if_neg (by omega),
        if_neg (by omega), if_neg (by omega), if_neg (by omega), if_pos (by simp; omega)]
    have differs : ∀ d : Char, d.toNat ≤ 0x7E → Char.ofNat c.val ≠ d := by
      rintro d small rfl
      omega
    rw [raw, List.singleton_append,
      scanBody_raw tail (differs _ (by decide)) (differs _ (by decide)) (by omega), point]

private theorem scanBody_scalars {s : Str} (scalar : ∀ c ∈ s, c.isSurrogate = false)
    (rest : Text) : scanBody (s.flatMap (escape false) ++ '"' :: rest) = some (s, rest) := by
  induction s with
  | nil => simp [scanBody]
  | cons c tail ih =>
      rw [List.flatMap_cons, List.append_assoc, scanBody_scalar (scalar c (by simp)),
        ih fun d member => scalar d (by simp [member])]
      rfl

theorem scanString_stringText {ensureAscii : Bool} {s : Str}
    (legible : ensureAscii = true ∨ encodable s = true) (rest : Text) :
    scanString (s.flatMap (escape ensureAscii) ++ '"' :: rest) =
      some (Str.joinSurrogates s, rest) := by
  cases ensureAscii with
  | true =>
      rw [scanString, scanBody_flatMap]
      simp [Str.joinSurrogates_flatMap_units]
  | false =>
      have scalar := not_surrogate_of_encodable (legible.resolve_left Bool.false_ne_true)
      rw [scanString, scanBody_scalars scalar]
      rfl

/-! Numbers. -/

/-- What follows a value inside a document. -/
def Delimited (rest : Text) : Prop :=
  ∀ c tail, rest = c :: tail → c = ',' ∨ c = ']' ∨ c = '}'

theorem delimited_nil : Delimited [] := by
  intro c tail equal
  cases equal

private theorem Delimited.not_digit {rest : Text} (delimited : Delimited rest) :
    ∀ c tail, rest = c :: tail → c.isDigit = false := by
  intro c tail equal
  rcases delimited c tail equal with rfl | rfl | rfl <;> decide

private theorem takeDigits_append {digits rest : Text}
    (allDigits : ∀ c ∈ digits, c.isDigit = true)
    (stop : ∀ c tail, rest = c :: tail → c.isDigit = false) :
    takeDigits (digits ++ rest) = (digits, rest) := by
  unfold takeDigits
  induction digits with
  | nil =>
      cases rest with
      | nil => rfl
      | cons c tail => simp [stop c tail rfl]
  | cons c digits ih =>
      have tail := ih fun d member => allDigits d (by simp [member])
      simp only [Prod.mk.injEq] at tail
      simp [allDigits c (by simp), tail.1, tail.2]

/-- The integer part of a number as the encoder writes it. -/
def IntegerPart (digits : Text) : Prop :=
  digits = ['0'] ∨
    ∃ c rest, digits = c :: rest ∧ c ≠ '0' ∧ ∀ d ∈ digits, d.isDigit = true

private theorem integerPart_natText (n : Nat) : IntegerPart (natText n) := by
  rcases natText_head n with zero | ⟨c, rest, equal, -, nonzero⟩
  · exact Or.inl zero
  · exact Or.inr ⟨c, rest, equal, nonzero, fun d member => isDigit_of_mem_natText member⟩

private theorem scanInteger_append {digits rest : Text} (shape : IntegerPart digits)
    (stop : ∀ c tail, rest = c :: tail → c.isDigit = false) :
    scanInteger (digits ++ rest) = some (digits, rest) := by
  rcases shape with rfl | ⟨c, front, rfl, nonzero, allDigits⟩
  · rfl
  · rw [scanInteger]
    · rw [takeDigits_append allDigits stop]
    · intro tail equal
      exact nonzero (List.cons.inj equal).1

/-- The optional fraction and exponent the encoder writes, with their digits. -/
private theorem scanNumber_parts (negative : Bool) (digits fraction power rest : Text)
    (sign : Char) (shape : IntegerPart digits)
    (fractionDigits : ∀ c ∈ fraction, c.isDigit = true)
    (powerDigits : ∀ c ∈ power, c.isDigit = true) (powerNonempty : power ≠ [])
    (isSign : sign = '-' ∨ sign = '+') (delimited : Delimited rest) :
    scanNumber negative
      (digits ++ ((if fraction = [] then [] else '.' :: fraction) ++
        'e' :: sign :: (power ++ rest))) =
      some (.float (.ofDecimal negative ⟨digitsValue (digits ++ fraction),
        (if sign = '-' then -(digitsValue power : Int) else digitsValue power) -
          fraction.length⟩), rest) := by
  have exponent : scanExponent ('e' :: sign :: (power ++ rest)) =
      some ((if sign = '-' then -(digitsValue power : Int) else digitsValue power),
        rest) := by
    have taken := takeDigits_append powerDigits delimited.not_digit
    obtain ⟨d, tail, rfl⟩ := List.exists_cons_of_ne_nil powerNonempty
    rcases isSign with rfl | rfl <;>
      simp only [scanExponent, scanPower, taken, decide_true, Bool.true_or, if_true,
        Char.reduceEq, if_false]
  have stop : ∀ c tail, (if fraction = [] then [] else '.' :: fraction) ++
      'e' :: sign :: (power ++ rest) = c :: tail → c.isDigit = false := by
    intro c tail equal
    split at equal <;> cases equal <;> decide
  rw [scanNumber, scanInteger_append shape stop]
  have fractionScan : scanFraction ((if fraction = [] then [] else '.' :: fraction) ++
      'e' :: sign :: (power ++ rest)) = (fraction, 'e' :: sign :: (power ++ rest)) := by
    split
    · next empty =>
        subst empty
        rfl
    · next nonempty =>
        obtain ⟨d, tail, rfl⟩ := List.exists_cons_of_ne_nil nonempty
        rw [List.cons_append, scanFraction, takeDigits_append fractionDigits]
        intro c after equal
        cases equal
        decide
  simp only [fractionScan, exponent]

private theorem scanNumber_fraction (negative : Bool) (digits fraction rest : Text)
    (shape : IntegerPart digits) (fractionDigits : ∀ c ∈ fraction, c.isDigit = true)
    (nonempty : fraction ≠ []) (delimited : Delimited rest) :
    scanNumber negative (digits ++ '.' :: (fraction ++ rest)) =
      some (.float (.ofDecimal negative ⟨digitsValue (digits ++ fraction),
        -(fraction.length : Int)⟩), rest) := by
  have stop : ∀ c tail, '.' :: (fraction ++ rest) = c :: tail → c.isDigit = false := by
    intro c tail equal
    cases equal
    decide
  have fractionScan : scanFraction ('.' :: (fraction ++ rest)) = (fraction, rest) := by
    obtain ⟨d, tail, rfl⟩ := List.exists_cons_of_ne_nil nonempty
    rw [scanFraction, takeDigits_append fractionDigits delimited.not_digit]
  have noExponent : scanExponent rest = none := by
    cases rest with
    | nil => rfl
    | cons c tail =>
        rcases delimited c tail rfl with rfl | rfl | rfl <;> rfl
  rw [scanNumber, scanInteger_append shape stop]
  obtain ⟨d, tail, rfl⟩ := List.exists_cons_of_ne_nil nonempty
  simp only [fractionScan, noExponent]

private theorem scanNumber_natText (negative : Bool) (n : Nat) {rest : Text}
    (delimited : Delimited rest) :
    scanNumber negative (natText n ++ rest) =
      some (.int (if negative then -(n : Int) else n), rest) := by
  have noFraction : scanFraction rest = ([], rest) := by
    cases rest with
    | nil => rfl
    | cons c tail =>
        rcases delimited c tail rfl with rfl | rfl | rfl <;> rfl
  have noExponent : scanExponent rest = none := by
    cases rest with
    | nil => rfl
    | cons c tail =>
        rcases delimited c tail rfl with rfl | rfl | rfl <;> rfl
  rw [scanNumber, scanInteger_append (integerPart_natText n) delimited.not_digit]
  simp only [noFraction, noExponent, digitsValue_natText]

private theorem integerPart_take {n count : Nat} (positive : 0 < count) :
    IntegerPart ((natText n).take count) := by
  obtain ⟨count, rfl⟩ := Nat.exists_eq_succ_of_ne_zero (by omega : count ≠ 0)
  rcases natText_head n with zero | ⟨c, rest, equal, digit, nonzero⟩
  · rw [zero]
    exact Or.inl (by simp)
  · refine Or.inr ⟨c, rest.take count, by rw [equal]; rfl, nonzero, ?_⟩
    intro d member
    exact isDigit_of_mem_natText (List.mem_of_mem_take member)

private theorem integerPart_padded {n zeros : Nat} (normal : n = 0 → zeros = 0) :
    IntegerPart (natText n ++ List.replicate zeros '0') := by
  rcases natText_head n with zero | ⟨c, rest, equal, digit, nonzero⟩
  · have isZero : n = 0 := by
      rw [← digitsValue_natText n, zero]
      decide
    rw [normal isZero, zero]
    exact Or.inl rfl
  · refine Or.inr ⟨c, rest ++ List.replicate zeros '0', by rw [equal]; rfl, nonzero, ?_⟩
    intro d member
    rcases List.mem_append.mp member with ofNumber | ofZeros
    · exact isDigit_of_mem_natText ofNumber
    · rw [List.eq_of_mem_replicate ofZeros]
      decide

private theorem isDigit_of_mem_zeros {count : Nat} {digits : Text} {c : Char}
    (allDigits : ∀ d ∈ digits, d.isDigit = true)
    (member : c ∈ List.replicate count '0' ++ digits) : c.isDigit = true := by
  rcases List.mem_append.mp member with zero | digit
  · rw [List.eq_of_mem_replicate zero]
    decide
  · exact allDigits c digit

/-! The four layouts of `repr`, each with what the scanner reads from it. -/

private theorem scanNumber_exponentLayout (negative : Bool) (n : Nat) (power : Int)
    {rest : Text} (delimited : Delimited rest) :
    scanNumber negative
      ((natText n).take 1 ++
        (if (natText n).length = 1 then [] else '.' :: (natText n).tail) ++
        'e' :: (if power < 0 then '-' else '+') :: zeroPadded 2 power.natAbs ++ rest) =
      some (.float (.ofDecimal negative
        ⟨n, power - ((natText n).length - 1 : Nat)⟩), rest) := by
  have nonempty : natText n ≠ [] := natText_ne_nil n
  have length : 0 < (natText n).length := List.length_pos_iff.mpr nonempty
  have split : (natText n).take 1 ++ (natText n).tail = natText n := by
    rw [← List.drop_one]
    exact List.take_append_drop 1 _
  have fraction : (if (natText n).length = 1 then []
      else '.' :: (natText n).tail) =
      if (natText n).tail = [] then [] else '.' :: (natText n).tail := by
    have : (natText n).tail = [] ↔ (natText n).length = 1 := by
      rw [← List.length_eq_zero_iff, List.length_tail]
      omega
    simp only [this]
  have scanned := scanNumber_parts negative ((natText n).take 1) (natText n).tail
    (zeroPadded 2 power.natAbs) rest (if power < 0 then '-' else '+')
    (integerPart_take (by decide))
    (fun c member => isDigit_of_mem_natText (List.mem_of_mem_tail member))
    (fun c member => isDigit_of_mem_zeroPadded member)
    (by
      intro empty
      rw [zeroPadded, List.append_eq_nil_iff] at empty
      exact natText_ne_nil _ empty.2)
    (by split <;> simp) delimited
  have value : (if (if power < 0 then '-' else '+') = '-' then
      -(power.natAbs : Int) else power.natAbs) = power := by
    by_cases below : power < 0
    · rw [if_pos below, if_pos rfl]
      omega
    · rw [if_neg below, if_neg (by decide)]
      omega
  rw [fraction]
  simp only [List.append_assoc, List.cons_append] at scanned ⊢
  rw [scanned, split, digitsValue_natText, digitsValue_zeroPadded, value,
    List.length_tail]

private theorem scanNumber_smallLayout (negative : Bool) (n zeros : Nat)
    {rest : Text} (delimited : Delimited rest) :
    scanNumber negative
      ('0' :: '.' :: (List.replicate zeros '0' ++ natText n) ++ rest) =
      some (.float (.ofDecimal negative
        ⟨n, -((zeros + (natText n).length : Nat) : Int)⟩), rest) := by
  have scanned := scanNumber_fraction negative ['0']
    (List.replicate zeros '0' ++ natText n) rest (Or.inl rfl)
    (fun c member => isDigit_of_mem_zeros
      (fun d digit => isDigit_of_mem_natText digit) member)
    (by simp [natText_ne_nil]) delimited
  have value : digitsValue (['0'] ++ (List.replicate zeros '0' ++ natText n)) = n := by
    rw [digitsValue_append, digitsValue_append]
    simp [show digitsValue ['0'] = 0 by decide]
  rw [value, List.length_append, List.length_replicate] at scanned
  exact scanned

private theorem scanNumber_insideLayout (negative : Bool) (n point : Nat)
    {rest : Text} (positive : 0 < point) (inside : point < (natText n).length)
    (delimited : Delimited rest) :
    scanNumber negative
      ((natText n).take point ++ '.' :: (natText n).drop point ++ rest) =
      some (.float (.ofDecimal negative
        ⟨n, -(((natText n).length - point : Nat) : Int)⟩), rest) := by
  have scanned := scanNumber_fraction negative ((natText n).take point)
    ((natText n).drop point) rest (integerPart_take positive)
    (fun c member => isDigit_of_mem_natText (List.mem_of_mem_drop member))
    (by
      rw [ne_eq, List.drop_eq_nil_iff]
      omega)
    delimited
  rw [List.take_append_drop, digitsValue_natText, List.length_drop] at scanned
  rw [List.append_assoc, List.cons_append, scanned]

private theorem scanNumber_wholeLayout (negative : Bool) (n zeros : Nat)
    {rest : Text} (normal : n = 0 → zeros = 0) (delimited : Delimited rest) :
    scanNumber negative
      (natText n ++ List.replicate zeros '0' ++ ['.', '0'] ++ rest) =
      some (.float (.ofDecimal negative ⟨n * 10 ^ (zeros + 1), -1⟩), rest) := by
  have scanned := scanNumber_fraction negative (natText n ++ List.replicate zeros '0')
    ['0'] rest (integerPart_padded normal) (by simp) (by simp) delimited
  have value : digitsValue (natText n ++ List.replicate zeros '0' ++ ['0']) =
      n * 10 ^ (zeros + 1) := by
    rw [digitsValue_append, digitsValue_append]
    simp [show digitsValue ['0'] = 0 by decide, pow_succ]
    ring
  rw [value] at scanned
  simpa using scanned

/-- Whatever layout `repr` chose, the scanner reads the same digits, padded by
some zeros. -/
private theorem scanNumber_decimalText (negative : Bool) {d : Decimal} {rest : Text}
    (isNormal : d.normal = true) (delimited : Delimited rest) :
    ∃ zeros : Nat, scanNumber negative (decimalText d ++ rest) =
      some (.float (.ofDecimal negative
        ⟨d.digits * 10 ^ zeros, d.exponent - zeros⟩), rest) := by
  obtain ⟨n, exponent⟩ := d
  have length : 0 < (natText n).length := List.length_pos_iff.mpr (natText_ne_nil n)
  unfold decimalText
  simp only
  generalize pointEq : (((natText n).length : Int) + exponent) = point
  split
  · refine ⟨0, ?_⟩
    rw [scanNumber_exponentLayout negative n (point - 1) delimited]
    have power : point - 1 - ((natText n).length - 1 : Nat) = exponent := by omega
    simp [power]
  split
  · refine ⟨0, ?_⟩
    rw [scanNumber_smallLayout negative n point.natAbs delimited]
    have power : -((point.natAbs + (natText n).length : Nat) : Int) = exponent := by
      omega
    rw [power]
    simp
  split
  · next inside =>
      refine ⟨0, ?_⟩
      rw [scanNumber_insideLayout negative n point.natAbs (by omega) inside delimited]
      have power : -(((natText n).length - point.natAbs : Nat) : Int) = exponent := by
        omega
      rw [power]
      simp
  · next outside =>
      refine ⟨point.natAbs - (natText n).length + 1, ?_⟩
      have normal : n = 0 → point.natAbs - (natText n).length = 0 := by
        rintro rfl
        have : exponent = 0 := by
          simpa [Decimal.normal] using isNormal
        omega
      rw [scanNumber_wholeLayout negative n _ normal delimited]
      have power : exponent - ((point.natAbs - (natText n).length + 1 : Nat) : Int) =
          -1 := by
        omega
      rw [power]

/-! Values. -/

private theorem scanAtom_digit {c : Char} (tail : Text) (digit : c.isDigit = true) :
    scanAtom (c :: tail) = scanNumber false (c :: tail) := by
  have not : ∀ e : Char, e.isDigit = false → c ≠ e := by
    rintro e notDigit rfl
    rw [digit] at notDigit
    exact Bool.false_ne_true notDigit.symm
  rw [scanAtom]
  · exact fun _ equal => not 'n' rfl (List.cons.inj equal).1
  · exact fun _ equal => not 't' rfl (List.cons.inj equal).1
  · exact fun _ equal => not 'f' rfl (List.cons.inj equal).1
  · exact fun _ equal => not 'N' rfl (List.cons.inj equal).1
  · exact fun _ equal => not 'I' rfl (List.cons.inj equal).1
  · exact fun _ equal => not '-' rfl (List.cons.inj equal).1
  · exact fun _ equal => not '-' rfl (List.cons.inj equal).1

private theorem scanAtom_minus {c : Char} (tail : Text) (digit : c.isDigit = true) :
    scanAtom ('-' :: c :: tail) = scanNumber true (c :: tail) := by
  rw [scanAtom]
  rintro rest equal
  cases equal
  revert digit
  decide

private theorem integerPart_head {digits : Text} (shape : IntegerPart digits) :
    ∃ c rest, digits = c :: rest ∧ c.isDigit = true := by
  rcases shape with rfl | ⟨c, rest, rfl, -, allDigits⟩
  · exact ⟨'0', [], rfl, rfl⟩
  · exact ⟨c, rest, rfl, allDigits c (by simp)⟩

private theorem scanAtom_intText (n : Int) {rest : Text} (delimited : Delimited rest) :
    scanAtom (intText n ++ rest) = some (.int n, rest) := by
  cases n with
  | ofNat n =>
      obtain ⟨c, tail, equal, digit⟩ := integerPart_head (integerPart_natText n)
      have scanned := scanNumber_natText false n delimited
      simp only [intText, equal, List.cons_append] at scanned ⊢
      rw [scanAtom_digit _ digit, scanned]
      rfl
  | negSucc n =>
      obtain ⟨c, tail, equal, digit⟩ := integerPart_head (integerPart_natText (n + 1))
      have scanned := scanNumber_natText true (n + 1) delimited
      simp only [intText, equal, List.cons_append] at scanned ⊢
      rw [scanAtom_minus _ digit, scanned]
      rfl

private theorem decimalText_head (d : Decimal) :
    ∃ c rest, decimalText d = c :: rest ∧ c.isDigit = true := by
  obtain ⟨c, tail, equal, digit⟩ := integerPart_head (integerPart_natText d.digits)
  unfold decimalText
  simp only
  split
  · exact ⟨c, _, by rw [equal]; rfl, digit⟩
  split
  · exact ⟨'0', _, rfl, rfl⟩
  split
  · next notSmall _ =>
      generalize pointEq : (((natText d.digits).length : Int) + d.exponent).natAbs = point
      obtain ⟨point, rfl⟩ := Nat.exists_eq_succ_of_ne_zero (by omega : point ≠ 0)
      exact ⟨c, _, by rw [equal]; rfl, digit⟩
  · exact ⟨c, _, by rw [equal]; rfl, digit⟩

private theorem scanAtom_floatText (x : PyFloat) {rest : Text}
    (delimited : Delimited rest) :
    scanAtom (x.text ++ rest) = some (.float x, rest) := by
  cases x with
  | nan => rfl
  | infinity negative => cases negative <;> rfl
  | finite x =>
      obtain ⟨zeros, scanned⟩ :=
        scanNumber_decimalText x.negative x.decimal_normal delimited
      rw [PyFloat.ofDecimal_shift] at scanned
      obtain ⟨c, tail, equal, digit⟩ := decimalText_head x.decimal
      simp only [PyFloat.text]
      rw [equal, List.cons_append] at scanned
      split
      · next isNegative =>
          rw [isNegative] at scanned
          rw [equal, List.cons_append, List.cons_append, scanAtom_minus _ digit, scanned]
      · next notNegative =>
          have isPositive : x.negative = false := by simpa using notNegative
          rw [isPositive] at scanned
          rw [equal, List.cons_append, scanAtom_digit _ digit, scanned]

/-- The characters with which the text of a value can start. -/
def StartsValue (c : Char) : Prop :=
  c.isDigit = true ∨ c ∈ ['-', 'n', 't', 'f', 'N', 'I', '"', '[', '{']

private theorem StartsValue.not_blank {c : Char} (starts : StartsValue c) :
    isBlank c = false := by
  rcases starts with digit | listed
  · by_contra blank
    simp only [isBlank, Bool.not_eq_false, Bool.or_eq_true, decide_eq_true_eq] at blank
    rcases blank with ((rfl | rfl) | rfl) | rfl <;> revert digit <;> decide
  · simp only [List.mem_cons, List.not_mem_nil, or_false] at listed
    rcases listed with rfl | rfl | rfl | rfl | rfl | rfl | rfl | rfl | rfl <;> rfl

private theorem StartsValue.not_close {c : Char} (starts : StartsValue c) : c ≠ ']' := by
  rintro rfl
  revert starts
  unfold StartsValue
  decide

private theorem render_head (style : Style) (v : Value) :
    ∃ c rest, render style v = c :: rest ∧ StartsValue c := by
  cases v with
  | null => exact ⟨_, _, rfl, Or.inr (by decide)⟩
  | bool b => cases b <;> exact ⟨_, _, rfl, Or.inr (by decide)⟩
  | int n =>
      cases n with
      | ofNat n =>
          obtain ⟨c, tail, equal, digit⟩ := integerPart_head (integerPart_natText n)
          exact ⟨c, tail, equal, Or.inl digit⟩
      | negSucc n => exact ⟨_, _, rfl, Or.inr (by decide)⟩
  | float x =>
      cases x with
      | nan => exact ⟨_, _, rfl, Or.inr (by decide)⟩
      | infinity negative =>
          cases negative <;> exact ⟨_, _, rfl, Or.inr (by decide)⟩
      | finite x =>
          obtain ⟨c, tail, equal, digit⟩ := decimalText_head x.decimal
          simp only [render, PyFloat.text]
          split
          · exact ⟨_, _, rfl, Or.inr (by decide)⟩
          · exact ⟨c, tail, equal, Or.inl digit⟩
  | str s => exact ⟨_, _, rfl, Or.inr (by decide)⟩
  | list items => cases items <;> exact ⟨_, _, rfl, Or.inr (by decide)⟩
  | dict members =>
      cases members with
      | nil => exact ⟨_, _, rfl, Or.inr (by decide)⟩
      | cons entry rest =>
          obtain ⟨k, v⟩ := entry
          exact ⟨_, _, rfl, Or.inr (by decide)⟩

private theorem skipBlanks_cons {c : Char} (tail : Text) (solid : isBlank c = false) :
    skipBlanks (c :: tail) = c :: tail := by
  simp [skipBlanks, solid]

private theorem skipBlanks_render (style : Style) (v : Value) (rest : Text) :
    skipBlanks (render style v ++ rest) = render style v ++ rest := by
  obtain ⟨c, tail, equal, starts⟩ := render_head style v
  rw [equal, List.cons_append, skipBlanks_cons _ starts.not_blank]

/-- After a comma or a colon the scanner skips the blank of the default style. -/
private theorem skipBlanks_gap (style : Style) (text : Text)
    (solid : skipBlanks text = text) :
    skipBlanks ((if style.spaced then [' '] else []) ++ text) = text := by
  split
  · rw [List.singleton_append, skipBlanks, List.dropWhile_cons_of_pos (by decide)]
    exact solid
  · exact solid

private theorem comma_eq (style : Style) :
    style.comma = ',' :: if style.spaced then [' '] else [] := by
  unfold Style.comma
  split <;> rfl

private theorem colon_eq (style : Style) :
    style.colon = ':' :: if style.spaced then [' '] else [] := by
  unfold Style.colon
  split <;> rfl

private theorem scanValue_atom (fuel : Nat) {text : Text} {result : Value × Text}
    (scanned : scanAtom text = some result) (notString : ∀ rest, text ≠ '"' :: rest)
    (notList : ∀ rest, text ≠ '[' :: rest) (notDict : ∀ rest, text ≠ '{' :: rest) :
    scanValue (fuel + 1) text = some result := by
  rw [scanValue]
  · exact scanned
  · exact notString
  · exact notList
  · exact notDict

private theorem number_head_ne {text rest : Text} {c : Char}
    (head : ∃ d tail, text = d :: tail ∧ (d.isDigit = true ∨ d = '-' ∨ d = 'N' ∨ d = 'I'))
    (other : c ∈ ['"', '[', '{']) : ∀ tail, text ++ rest ≠ c :: tail := by
  obtain ⟨d, front, rfl, cases⟩ := head
  intro tail equal
  cases equal
  rcases cases with digit | rfl | rfl | rfl
  · revert other digit
    simp only [List.mem_cons, List.not_mem_nil, or_false]
    rintro (rfl | rfl | rfl) <;> decide
  all_goals revert other; decide

private theorem intText_head (n : Int) :
    ∃ d tail, intText n = d :: tail ∧ (d.isDigit = true ∨ d = '-' ∨ d = 'N' ∨ d = 'I') := by
  cases n with
  | ofNat n =>
      obtain ⟨c, tail, equal, digit⟩ := integerPart_head (integerPart_natText n)
      exact ⟨c, tail, equal, Or.inl digit⟩
  | negSucc n => exact ⟨_, _, rfl, Or.inr (Or.inl rfl)⟩

private theorem floatText_head (x : PyFloat) :
    ∃ d tail, x.text = d :: tail ∧ (d.isDigit = true ∨ d = '-' ∨ d = 'N' ∨ d = 'I') := by
  cases x with
  | nan => exact ⟨_, _, rfl, by simp⟩
  | infinity negative => cases negative <;> exact ⟨_, _, rfl, by simp⟩
  | finite x =>
      obtain ⟨c, tail, equal, digit⟩ := decimalText_head x.decimal
      simp only [PyFloat.text]
      split
      · exact ⟨_, _, rfl, by simp⟩
      · exact ⟨c, tail, equal, Or.inl digit⟩

private theorem renderItems_length_pos (style : Style) (items : List Value) :
    0 < (renderItems style items).length := by
  cases items with
  | nil => simp [renderItems]
  | cons v rest =>
      simp only [renderItems, comma_eq, List.cons_append, List.length_cons]
      omega

private theorem renderMembers_length_pos (style : Style) (members : Members) :
    0 < (renderMembers style members).length := by
  cases members with
  | nil => simp [renderMembers]
  | cons entry rest =>
      obtain ⟨k, v⟩ := entry
      simp only [renderMembers, comma_eq, List.cons_append, List.length_cons]
      omega

private theorem render_length_pos (style : Style) (v : Value) :
    0 < (render style v).length := by
  obtain ⟨c, tail, equal, -⟩ := render_head style v
  simp [equal]

private theorem delimited_renderItems (style : Style) (items : List Value) (rest : Text) :
    Delimited (renderItems style items ++ rest) := by
  intro c tail equal
  cases items with
  | nil =>
      cases equal
      simp
  | cons v items =>
      simp only [renderItems, comma_eq, List.cons_append] at equal
      cases equal
      simp

private theorem delimited_renderMembers (style : Style) (members : Members) (rest : Text) :
    Delimited (renderMembers style members ++ rest) := by
  intro c tail equal
  cases members with
  | nil =>
      cases equal
      simp
  | cons entry members =>
      obtain ⟨k, v⟩ := entry
      simp only [renderMembers, comma_eq, List.cons_append] at equal
      cases equal
      simp

/-- The items of a list without its opening bracket. -/
private def itemsText (style : Style) : List Value → Text
  | [] => []
  | v :: rest => render style v ++ renderItems style rest

/-- The entries of a dict without its opening brace. -/
private def membersText (style : Style) : Members → Text
  | [] => []
  | (k, v) :: rest =>
      stringText style.ensureAscii k.text ++ style.colon ++ render style v ++
        renderMembers style rest

private theorem skipBlanks_itemsText (style : Style) {items : List Value}
    (nonempty : items ≠ []) (rest : Text) :
    skipBlanks (itemsText style items ++ rest) = itemsText style items ++ rest := by
  cases items with
  | nil => exact absurd rfl nonempty
  | cons v items => rw [itemsText, List.append_assoc, skipBlanks_render]

private theorem skipBlanks_membersText (style : Style) {members : Members}
    (nonempty : members ≠ []) (rest : Text) :
    skipBlanks (membersText style members ++ rest) = membersText style members ++ rest := by
  cases members with
  | nil => exact absurd rfl nonempty
  | cons entry members =>
      obtain ⟨k, v⟩ := entry
      rfl

private theorem renderItems_of_nonempty (style : Style) {items : List Value}
    (nonempty : items ≠ []) :
    renderItems style items = style.comma ++ itemsText style items := by
  cases items with
  | nil => exact absurd rfl nonempty
  | cons v items => rw [renderItems, itemsText, List.append_assoc]

private theorem renderMembers_of_nonempty (style : Style) {members : Members}
    (nonempty : members ≠ []) :
    renderMembers style members = style.comma ++ membersText style members := by
  cases members with
  | nil => exact absurd rfl nonempty
  | cons entry members =>
      obtain ⟨k, v⟩ := entry
      simp only [renderMembers, membersText, List.append_assoc]

section Scan

variable (style : Style)

/-- The text of every string inside can be scanned again. -/
def Legible (v : Value) : Prop :=
  style.ensureAscii = true ∨ strict v = true

private theorem legible_item {v : Value} {items : List Value}
    (legible : style.ensureAscii = true ∨ strictItems (v :: items) = true) :
    Legible style v ∧ (style.ensureAscii = true ∨ strictItems items = true) := by
  rcases legible with ascii | isStrict
  · exact ⟨.inl ascii, .inl ascii⟩
  · rw [strictItems, Bool.and_eq_true_iff] at isStrict
    exact ⟨.inr isStrict.1, .inr isStrict.2⟩

private theorem legible_member {k : Key} {v : Value} {members : Members}
    (legible : style.ensureAscii = true ∨ strictMembers ((k, v) :: members) = true) :
    (style.ensureAscii = true ∨ encodable k.text = true) ∧ Legible style v ∧
      (style.ensureAscii = true ∨ strictMembers members = true) := by
  rcases legible with ascii | isStrict
  · exact ⟨.inl ascii, .inl ascii, .inl ascii⟩
  · cases k with
    | str s =>
        simp only [strictMembers, Bool.and_eq_true_iff] at isStrict
        exact ⟨.inr isStrict.1.1, .inr isStrict.1.2, .inr isStrict.2⟩
    | int n =>
        simp only [strictMembers, Bool.and_eq_true_iff] at isStrict
        exact ⟨.inr (encodable_ofText _), .inr isStrict.1.2, .inr isStrict.2⟩
    | float x =>
        simp only [strictMembers, Bool.and_eq_true_iff] at isStrict
        exact ⟨.inr (encodable_ofText _), .inr isStrict.1.2, .inr isStrict.2⟩
    | bool b =>
        simp only [strictMembers, Bool.and_eq_true_iff] at isStrict
        refine ⟨.inr ?_, .inr isStrict.1.2, .inr isStrict.2⟩
        cases b <;> exact encodable_lit _
    | null =>
        simp only [strictMembers, Bool.and_eq_true_iff] at isStrict
        exact ⟨.inr (encodable_lit _), .inr isStrict.1.2, .inr isStrict.2⟩

mutual
private theorem scanValue_render :
    (v : Value) → (fuel : Nat) → (rest : Text) →
      (render style v).length ≤ fuel → Delimited rest → Legible style v →
      scanValue fuel (render style v ++ rest) = some (reread v, rest)
  | v, 0, rest, enough, _, _ => by
      have := render_length_pos style v
      omega
  | .null, fuel + 1, rest, _, _, _ => rfl
  | .bool true, fuel + 1, rest, _, _, _ => rfl
  | .bool false, fuel + 1, rest, _, _, _ => rfl
  | .int n, fuel + 1, rest, _, delimited, _ =>
      scanValue_atom fuel (scanAtom_intText n delimited)
        (number_head_ne (intText_head n) (by simp))
        (number_head_ne (intText_head n) (by simp))
        (number_head_ne (intText_head n) (by simp))
  | .float x, fuel + 1, rest, _, delimited, _ =>
      scanValue_atom fuel (scanAtom_floatText x delimited)
        (number_head_ne (floatText_head x) (by simp))
        (number_head_ne (floatText_head x) (by simp))
        (number_head_ne (floatText_head x) (by simp))
  | .str s, fuel + 1, rest, _, _, legible => by
      simp only [render, stringText, List.cons_append, List.append_assoc,
        List.nil_append, scanValue]
      rw [scanString_stringText legible]
      rfl
  | .list [], fuel + 1, rest, _, _, _ => rfl
  | .list (v :: items), fuel + 1, rest, enough, _, legible => by
      have bound : (itemsText style (v :: items)).length ≤ fuel := by
        simpa [render, itemsText] using enough
      have scanned := scanItems_itemsText (v :: items) fuel rest bound (by simp) legible
      have open_ : render style (.list (v :: items)) ++ rest =
          '[' :: (itemsText style (v :: items) ++ rest) := by
        simp [render, itemsText]
      rw [open_, scanValue, skipBlanks_itemsText style (by simp)]
      obtain ⟨c, tail, equal, starts⟩ := render_head style v
      split
      · next after close =>
          rw [itemsText, equal] at close
          exact absurd (List.cons.inj close).1 starts.not_close
      · rw [scanned]
        rfl
  | .dict [], fuel + 1, rest, _, _, _ => rfl
  | .dict ((k, v) :: members), fuel + 1, rest, enough, _, legible => by
      have bound : (membersText style ((k, v) :: members)).length ≤ fuel := by
        simpa [render, membersText] using enough
      have scanned :=
        scanMembers_membersText ((k, v) :: members) fuel rest bound (by simp) legible
      have open_ : render style (.dict ((k, v) :: members)) ++ rest =
          '{' :: (membersText style ((k, v) :: members) ++ rest) := by
        simp [render, membersText]
      rw [open_, scanValue, skipBlanks_membersText style (by simp)]
      split
      · next after close =>
          simp [membersText, stringText] at close
      · rw [scanned]
        rfl

private theorem scanItems_itemsText :
    (items : List Value) → (fuel : Nat) → (rest : Text) →
      (itemsText style items).length ≤ fuel → items ≠ [] →
      style.ensureAscii = true ∨ strictItems items = true →
      scanItems fuel (itemsText style items ++ rest) = some (rereadItems items, rest)
  | [], _, _, _, nonempty, _ => absurd rfl nonempty
  | v :: items, 0, rest, enough, _, _ => by
      have := render_length_pos style v
      simp only [itemsText, List.length_append] at enough
      omega
  | v :: items, fuel + 1, rest, enough, _, legible => by
      obtain ⟨first, others⟩ := legible_item style legible
      have tailLength := renderItems_length_pos style items
      simp only [itemsText, List.length_append] at enough
      rw [itemsText, List.append_assoc, scanItems,
        scanValue_render v fuel _ (by omega) (delimited_renderItems style items rest) first]
      by_cases last : items = []
      · subst last
        rfl
      · rw [renderItems_of_nonempty style last, comma_eq] at enough ⊢
        simp only [List.cons_append, List.append_assoc, List.length_cons,
          List.length_append] at enough ⊢
        rw [skipBlanks_cons _ (by decide)]
        simp only
        rw [skipBlanks_gap style _ (skipBlanks_itemsText style last rest),
          scanItems_itemsText items fuel rest
            (by have := render_length_pos style v; omega) last others]
        rfl

private theorem scanMembers_membersText :
    (members : Members) → (fuel : Nat) → (rest : Text) →
      (membersText style members).length ≤ fuel → members ≠ [] →
      style.ensureAscii = true ∨ strictMembers members = true →
      scanMembers fuel (membersText style members ++ rest) =
        some (rereadMembers members, rest)
  | [], _, _, _, nonempty, _ => absurd rfl nonempty
  | (k, v) :: members, 0, rest, enough, _, _ => by
      have := render_length_pos style v
      simp only [membersText, List.length_append] at enough
      omega
  | (k, v) :: members, fuel + 1, rest, enough, _, legible => by
      obtain ⟨isKey, first, others⟩ := legible_member style legible
      have tailLength := renderMembers_length_pos style members
      simp only [membersText, List.length_append] at enough
      have keyText : ∀ after : Text, stringText style.ensureAscii k.text ++ after =
          '"' :: (k.text.flatMap (escape style.ensureAscii) ++ '"' :: after) := by
        intro after
        simp [stringText]
      rw [membersText]
      simp only [List.append_assoc]
      rw [keyText, scanMembers, scanString_stringText isKey]
      simp only
      rw [colon_eq, List.cons_append, skipBlanks_cons _ (by decide)]
      simp only
      rw [skipBlanks_gap style _ (skipBlanks_render style v _),
        scanValue_render v fuel _ (by omega) (delimited_renderMembers style members rest) first]
      simp only
      by_cases last : members = []
      · subst last
        rfl
      · rw [renderMembers_of_nonempty style last, comma_eq] at enough ⊢
        simp only [List.cons_append, List.append_assoc, List.length_cons,
          List.length_append] at enough ⊢
        rw [skipBlanks_cons _ (by decide)]
        simp only
        rw [skipBlanks_gap style _ (skipBlanks_membersText style last rest),
          scanMembers_membersText members fuel rest
            (by have := render_length_pos style v; omega) last others]
        rfl
end

/-- Scanning the text of a value gives its syntax tree. -/
theorem parse_render_of_legible {v : Value} (legible : Legible style v) :
    parse (render style v) = some (reread v) := by
  have scanned := scanValue_render style v ((render style v).length + 1) []
    (by omega) delimited_nil legible
  have solid := skipBlanks_render style v []
  rw [List.append_nil] at scanned solid
  rw [parse, solid, scanned]
  rfl

theorem loads_render_of_legible {v : Value} (legible : Legible style v) :
    loads (render style v) = some (build (reread v)) := by
  rw [loads, parse_render_of_legible style legible]
  rfl

/-- The text determines the syntax tree. -/
theorem reread_eq_of_legible {v w : Value} (first : Legible style v) (second : Legible style w)
    (equal : render style v = render style w) : reread v = reread w := by
  have parsed := parse_render_of_legible style first
  rw [equal, parse_render_of_legible style second] at parsed
  exact (Option.some.inj parsed).symm

variable (ascii : style.ensureAscii = true)

include ascii

theorem parse_render (v : Value) : parse (render style v) = some (reread v) :=
  parse_render_of_legible style (.inl ascii)

theorem loads_render (v : Value) : loads (render style v) = some (build (reread v)) :=
  loads_render_of_legible style (.inl ascii)

theorem reread_eq_of_render_eq {v w : Value} (equal : render style v = render style w) :
    reread v = reread w :=
  reread_eq_of_legible style (.inl ascii) (.inl ascii) equal

end Scan

end SelfConnect.Python.Json
