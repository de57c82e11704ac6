import SelfConnect.Python.Str

namespace SelfConnect.Python

/-! Decimal and hexadecimal numerals as the interpreter prints them. -/

def natText (n : Nat) : Text :=
  Nat.toDigits 10 n

def intText : Int → Text
  | .ofNat n => natText n
  | .negSucc n => '-' :: natText (n + 1)

def digitsValue (digits : Text) : Nat :=
  Nat.ofDigitChars 10 digits 0

/-- `format(n, "0wd")`: decimal digits, padded on the left with zeros. -/
def zeroPadded (width n : Nat) : Text :=
  List.replicate (width - (natText n).length) '0' ++ natText n

@[simp] theorem digitsValue_natText (n : Nat) : digitsValue (natText n) = n :=
  Nat.ofDigitChars_ten_toDigits

theorem natText_ne_nil (n : Nat) : natText n ≠ [] :=
  Nat.toDigits_ne_nil

theorem isDigit_of_mem_natText {n : Nat} {c : Char} (member : c ∈ natText n) :
    c.isDigit = true :=
  Nat.isDigit_of_mem_toDigits (by decide) (by decide) member

theorem natText_injective : Function.Injective natText := by
  intro first second equal
  rw [← digitsValue_natText first, equal, digitsValue_natText]

theorem intText_ne_nil (n : Int) : intText n ≠ [] := by
  cases n with
  | ofNat n => exact natText_ne_nil n
  | negSucc n => simp [intText]

/-- A numeral other than `0` does not start with the digit zero. -/
theorem natText_head (n : Nat) :
    natText n = ['0'] ∨ ∃ c rest, natText n = c :: rest ∧ c.isDigit = true ∧ c ≠ '0' := by
  induction n using Nat.strong_induction_on with
  | _ n ih =>
      by_cases small : n < 10
      · rw [natText, Nat.toDigits_of_lt_base small]
        interval_cases n <;> simp [Nat.digitChar]
      · have split : natText n = natText (n / 10) ++ [(n % 10).digitChar] :=
          Nat.toDigits_of_base_le (by decide) (by omega)
        rcases ih (n / 10) (by omega) with zero | ⟨c, rest, equal, digit, nonzero⟩
        · have value := digitsValue_natText (n / 10)
          rw [zero, show digitsValue ['0'] = 0 by decide] at value
          omega
        · exact Or.inr ⟨c, rest ++ [(n % 10).digitChar],
            by rw [split, equal]; rfl, digit, nonzero⟩

theorem digitsValue_append (high low : Text) :
    digitsValue (high ++ low) = 10 ^ low.length * digitsValue high + digitsValue low := by
  unfold digitsValue
  rw [Nat.ofDigitChars_append, Nat.ofDigitChars_eq_ofDigitChars_zero]

@[simp] theorem digitsValue_replicate_zero (n : Nat) :
    digitsValue (List.replicate n '0') = 0 := by
  simp [digitsValue, Nat.ofDigitChars_replicate_zero]

@[simp] theorem digitsValue_zeroPadded (width n : Nat) :
    digitsValue (zeroPadded width n) = n := by
  simp [zeroPadded, digitsValue_append]

theorem isDigit_of_mem_zeroPadded {width n : Nat} {c : Char}
    (member : c ∈ zeroPadded width n) : c.isDigit = true := by
  rcases List.mem_append.mp member with zero | digit
  · rw [List.eq_of_mem_replicate zero]
    decide
  · exact isDigit_of_mem_natText digit

theorem length_natText_le {width n : Nat} (positive : 0 < width)
    (bound : n < 10 ^ width) : (natText n).length ≤ width :=
  (Nat.length_toDigits_le_iff (by decide) positive).mpr bound

theorem length_zeroPadded {width n : Nat} (positive : 0 < width)
    (bound : n < 10 ^ width) : (zeroPadded width n).length = width := by
  have := length_natText_le positive bound
  simp only [zeroPadded, List.length_append, List.length_replicate]
  omega

/-! Digit strings of one width are ordered as the numbers they name. -/

theorem digitsValue_lt (digits : Text)
    (allDigits : ∀ c ∈ digits, c.isDigit = true) :
    digitsValue digits < 10 ^ digits.length := by
  induction digits using List.reverseRecOn with
  | nil => decide
  | append_singleton front last ih =>
      have lastDigit := allDigits last (by simp)
      have frontDigits := ih fun c member => allDigits c (by simp [member])
      have lastValue : digitsValue [last] < 10 := by
        simp only [Char.isDigit, Bool.and_eq_true, decide_eq_true_eq] at lastDigit
        have upper : last.toNat ≤ 57 := lastDigit.2
        simp only [digitsValue, Nat.ofDigitChars_cons, Nat.ofDigitChars_nil]
        have zero : '0'.toNat = 48 := rfl
        omega
      rw [digitsValue_append]
      simp only [List.length_append, List.length_singleton, pow_succ]
      omega

theorem digitsValue_cons (c : Char) (rest : Text) :
    digitsValue (c :: rest) =
      10 ^ rest.length * digitsValue [c] + digitsValue rest := by
  rw [← List.singleton_append, digitsValue_append]

private theorem digitsValue_singleton_lt_iff {c d : Char}
    (first : c.isDigit = true) (second : d.isDigit = true) :
    digitsValue [c] < digitsValue [d] ↔ c < d := by
  simp only [Char.isDigit, Bool.and_eq_true, decide_eq_true_eq] at first second
  have firstLow : 48 ≤ c.toNat := first.1
  have secondLow : 48 ≤ d.toNat := second.1
  have zero : '0'.toNat = 48 := rfl
  have order : c < d ↔ c.toNat < d.toNat := Iff.rfl
  simp only [digitsValue, Nat.ofDigitChars_cons, Nat.ofDigitChars_nil, order]
  omega

theorem digits_lt_iff {first second : Text}
    (sameLength : first.length = second.length)
    (firstDigits : ∀ c ∈ first, c.isDigit = true)
    (secondDigits : ∀ c ∈ second, c.isDigit = true) :
    first < second ↔ digitsValue first < digitsValue second := by
  induction first generalizing second with
  | nil =>
      cases second with
      | nil => simp
      | cons d rest => simp at sameLength
  | cons c front ih =>
      cases second with
      | nil => simp at sameLength
      | cons d back =>
          have lengths : front.length = back.length := by simpa using sameLength
          have frontDigits : ∀ e ∈ front, e.isDigit = true :=
            fun e member => firstDigits e (by simp [member])
          have backDigits : ∀ e ∈ back, e.isDigit = true :=
            fun e member => secondDigits e (by simp [member])
          have frontBound := digitsValue_lt front frontDigits
          have backBound := digitsValue_lt back backDigits
          have heads := digitsValue_singleton_lt_iff
            (firstDigits c (by simp)) (secondDigits d (by simp))
          have headsSwap := digitsValue_singleton_lt_iff
            (secondDigits d (by simp)) (firstDigits c (by simp))
          rw [List.cons_lt_cons_iff, digitsValue_cons c, digitsValue_cons d,
            ih lengths frontDigits backDigits, ← heads, lengths]
          rw [lengths] at frontBound
          have trichotomy := lt_trichotomy (digitsValue [c]) (digitsValue [d])
          constructor
          · rintro (less | ⟨rfl, less⟩)
            · calc
                10 ^ back.length * digitsValue [c] + digitsValue front
                    < 10 ^ back.length * digitsValue [c] + 10 ^ back.length := by
                      omega
                _ = 10 ^ back.length * (digitsValue [c] + 1) := by ring
                _ ≤ 10 ^ back.length * digitsValue [d] :=
                      Nat.mul_le_mul_left _ less
                _ ≤ _ := Nat.le_add_right _ _
            · omega
          · intro less
            rcases trichotomy with smaller | equal | larger
            · exact Or.inl smaller
            · right
              have same : c = d := by
                rcases lt_trichotomy c.toNat d.toNat with below | same | above
                · exact absurd (heads.mpr below) (by omega)
                · exact Char.toNat_inj.mp same
                · exact absurd (headsSwap.mpr above) (by omega)
              refine ⟨same, ?_⟩
              rw [equal] at less
              omega
            · exfalso
              have scaled : 10 ^ back.length * (digitsValue [d] + 1) ≤
                  10 ^ back.length * digitsValue [c] :=
                Nat.mul_le_mul_left _ larger
              rw [Nat.mul_add, Nat.mul_one] at scaled
              omega

theorem zeroPadded_lt_iff {width first second : Nat} (positive : 0 < width)
    (firstBound : first < 10 ^ width) (secondBound : second < 10 ^ width) :
    zeroPadded width first < zeroPadded width second ↔ first < second := by
  rw [digits_lt_iff]
  · simp
  · rw [length_zeroPadded positive firstBound, length_zeroPadded positive secondBound]
  · exact fun c member => isDigit_of_mem_zeroPadded member
  · exact fun c member => isDigit_of_mem_zeroPadded member

/-! Hexadecimal numerals. -/

abbrev Bytes := List UInt8

def hexValue (c : Char) : Option Nat :=
  if '0' ≤ c ∧ c ≤ '9' then some (c.toNat - 48)
  else if 'a' ≤ c ∧ c ≤ 'f' then some (c.toNat - 87)
  else if 'A' ≤ c ∧ c ≤ 'F' then some (c.toNat - 55)
  else none

theorem hexValue_digitChar {n : Nat} (bound : n < 16) :
    hexValue n.digitChar = some n := by
  interval_cases n <;> rfl

/-- `format(n, "04x")` for a number below 65536. -/
def hexFour (n : Nat) : Text :=
  [(n / 4096 % 16).digitChar, (n / 256 % 16).digitChar,
    (n / 16 % 16).digitChar, (n % 16).digitChar]

/-- `bytes.hex()`. -/
def hexText : Bytes → Text
  | [] => []
  | b :: rest => (b.toNat / 16).digitChar :: (b.toNat % 16).digitChar :: hexText rest

def isHexSpace (c : CodePoint) : Bool :=
  c.val = 0x20 || (0x09 ≤ c.val && c.val ≤ 0x0D)

def hexValueOf (c : CodePoint) : Option Nat :=
  hexValue (Char.ofNat c.val)

/-- `bytes.fromhex`: pairs of digits of either case, blanks allowed between
pairs. -/
def fromHex : Str → Option Bytes
  | [] => some []
  | [c] => if isHexSpace c then some [] else none
  | c :: d :: rest =>
      if isHexSpace c then fromHex (d :: rest)
      else
        match hexValueOf c, hexValueOf d with
        | some high, some low =>
            (fromHex rest).map fun bytes => UInt8.ofNat (16 * high + low) :: bytes
        | _, _ => none

theorem fromHex_hexText (bytes : Bytes) :
    fromHex (Str.ofText (hexText bytes)) = some bytes := by
  induction bytes with
  | nil => rfl
  | cons b rest ih =>
      have bound := b.toNat_lt
      have high := hexValue_digitChar (n := b.toNat / 16) (by omega)
      have low := hexValue_digitChar (n := b.toNat % 16) (by omega)
      have notSpace : ∀ n, n < 16 →
          isHexSpace (CodePoint.ofChar n.digitChar) = false := by decide
      have back : ∀ c : Char, hexValueOf (CodePoint.ofChar c) = hexValue c := by
        intro c
        simp [hexValueOf, CodePoint.ofChar]
      have value : UInt8.ofNat (16 * (b.toNat / 16) + b.toNat % 16) = b := by
        rw [Nat.div_add_mod]
        exact UInt8.ofNat_toNat
      simp only [hexText, Str.ofText, List.map_cons]
      rw [fromHex, notSpace _ (by omega), if_neg Bool.false_ne_true, back, back,
        high, low]
      simp only [Str.ofText] at ih
      simp [ih, value]

end SelfConnect.Python
