import SelfConnect.Python.Json.Limits

namespace SelfConnect.Python

/-! `str.isdigit` and `int` on text of digits. The decimal digits are runs of ten code
points; `isdigit` also accepts superscripts and enclosed numbers, which `int` refuses. -/

namespace CodePoint

/-- The zeros of the runs of decimal digits outside ASCII, Unicode 14. -/
def otherZeros : List Nat :=
  [0x660, 0x6f0, 0x7c0, 0x966, 0x9e6, 0xa66, 0xae6, 0xb66, 0xbe6, 0xc66, 0xce6, 0xd66,
    0xde6, 0xe50, 0xed0, 0xf20, 0x1040, 0x1090, 0x17e0, 0x1810, 0x1946, 0x19d0, 0x1a80, 0x1a90,
    0x1b50, 0x1bb0, 0x1c40, 0x1c50, 0xa620, 0xa8d0, 0xa900, 0xa9d0, 0xa9f0, 0xaa50, 0xabf0,
    0xff10, 0x104a0, 0x10d30, 0x11066, 0x110f0, 0x11136, 0x111d0, 0x112f0, 0x11450, 0x114d0,
    0x11650, 0x116c0, 0x11730, 0x118e0, 0x11950, 0x11c50, 0x11d50, 0x11da0, 0x16a60, 0x16ac0,
    0x16b50, 0x1d7ce, 0x1d7d8, 0x1d7e2, 0x1d7ec, 0x1d7f6, 0x1e140, 0x1e2f0, 0x1e950, 0x1fbf0]

/-- The digits that are no decimal digits, as ranges. -/
def otherDigits : List (Nat × Nat) :=
  [(0xb2, 0xb3), (0xb9, 0xb9), (0x1369, 0x1371), (0x19da, 0x19da), (0x2070, 0x2070),
    (0x2074, 0x2079), (0x2080, 0x2089), (0x2460, 0x2468), (0x2474, 0x247c), (0x2488, 0x2490),
    (0x24ea, 0x24ea), (0x24f5, 0x24fd), (0x24ff, 0x24ff), (0x2776, 0x277e), (0x2780, 0x2788),
    (0x278a, 0x2792), (0x10a40, 0x10a43), (0x10e60, 0x10e68), (0x11052, 0x1105a),
    (0x1f100, 0x1f10a)]

def decimal (c : CodePoint) : Option Nat :=
  ((0x30 :: otherZeros).find? fun first => first ≤ c.val && c.val < first + 10).map
    fun first => c.val - first

def isDigit (c : CodePoint) : Bool :=
  c.decimal.isSome || otherDigits.any fun range => range.1 ≤ c.val && c.val ≤ range.2

def isAsciiDigit (c : CodePoint) : Bool :=
  0x30 ≤ c.val && c.val ≤ 0x39

theorem decimal_of_ascii {c : CodePoint} (ascii : c.isAsciiDigit = true) :
    c.decimal = some (c.val - 0x30) := by
  simp only [isAsciiDigit, Bool.and_eq_true, decide_eq_true_eq] at ascii
  have below : c.val < 0x30 + 10 := by omega
  simp [decimal, ascii.1, below]

theorem isDigit_of_ascii {c : CodePoint} (ascii : c.isAsciiDigit = true) : c.isDigit = true := by
  rw [isDigit, decimal_of_ascii ascii]
  rfl

end CodePoint

namespace Str

def isdigit (s : Str) : Bool :=
  !s.isEmpty && s.all CodePoint.isDigit

def asciiDigits (s : Str) : Bool :=
  s.all CodePoint.isAsciiDigit

/-- `int(s)` on text without sign, blanks and underscores. -/
def digitsInt (s : Str) : Option Nat :=
  match s.mapM CodePoint.decimal with
  | none => none
  | some digits =>
      if digits = [] ∨ Json.maxDigits < digits.length then none
      else some (digits.foldl (fun value digit => 10 * value + digit) 0)

/-! ASCII digits are the text of a numeral, up to zeros in front of it. -/

theorem asciiDigits_ofText {text : Text} (digits : ∀ c ∈ text, c.isDigit = true) :
    asciiDigits (ofText text) = true := by
  simp only [asciiDigits, ofText, List.all_map, List.all_eq_true]
  intro c member
  have digit := digits c member
  simp only [Char.isDigit, Bool.and_eq_true, decide_eq_true_eq] at digit
  have low : 0x30 ≤ c.toNat := digit.1
  have high : c.toNat ≤ 0x39 := digit.2
  simp [CodePoint.isAsciiDigit, CodePoint.ofChar, low, high]

theorem exists_text_of_asciiDigits {s : Str} (ascii : asciiDigits s = true) :
    ∃ text : Text, s = ofText text ∧ ∀ c ∈ text, c.isDigit = true := by
  induction s with
  | nil => exact ⟨[], rfl, by simp⟩
  | cons c rest ih =>
      simp only [asciiDigits, List.all_cons, Bool.and_eq_true] at ascii
      obtain ⟨text, equal, digits⟩ := ih ascii.2
      have range := ascii.1
      simp only [CodePoint.isAsciiDigit, Bool.and_eq_true, decide_eq_true_eq] at range
      have valid : c.val.isValidChar := Or.inl (by omega)
      have value : (Char.ofNat c.val).toNat = c.val := by
        rw [Char.toNat_ofNat, if_pos valid]
      refine ⟨Char.ofNat c.val :: text, ?_, ?_⟩
      · rw [equal]
        have head : c = CodePoint.ofChar (Char.ofNat c.val) := Fin.ext value.symm
        exact congrArg (· :: ofText text) head
      · intro d member
        rcases List.mem_cons.mp member with rfl | later
        · simp only [Char.isDigit, Bool.and_eq_true, decide_eq_true_eq]
          have low : (48 : Nat) ≤ (Char.ofNat c.val).toNat := by omega
          have high : (Char.ofNat c.val).toNat ≤ 57 := by omega
          exact ⟨low, high⟩
        · exact digits d later

private theorem digitsValue_foldl (text : Text) (value : Nat) :
    (text.map fun c => c.toNat - 0x30).foldl (fun value digit => 10 * value + digit) value =
      Nat.ofDigitChars 10 text value := by
  induction text generalizing value with
  | nil => rfl
  | cons c rest ih =>
      rw [List.map_cons, List.foldl_cons, ih, Nat.ofDigitChars_cons]
      rfl

theorem mapM_decimal_ofText {text : Text} (digits : ∀ c ∈ text, c.isDigit = true) :
    (ofText text).mapM CodePoint.decimal = some (text.map fun c => c.toNat - 0x30) := by
  induction text with
  | nil => rfl
  | cons c rest ih =>
      have ascii := asciiDigits_ofText digits
      simp only [asciiDigits, ofText, List.map_cons, List.all_cons, Bool.and_eq_true] at ascii
      have tail := ih fun d member => digits d (List.mem_cons_of_mem c member)
      rw [ofText] at tail
      simp only [ofText, List.map_cons, List.mapM_cons, CodePoint.decimal_of_ascii ascii.1, tail]
      rfl

theorem digitsInt_ofText {text : Text} (digits : ∀ c ∈ text, c.isDigit = true) {value : Nat}
    (read : digitsInt (ofText text) = some value) : value = digitsValue text := by
  simp only [digitsInt, mapM_decimal_ofText digits] at read
  split at read
  · cases read
  · rw [digitsValue_foldl] at read
    exact (Option.some.inj read).symm

end Str

theorem zeroPadded_digitsValue {text : Text} (nonempty : text ≠ [])
    (digits : ∀ c ∈ text, c.isDigit = true) :
    zeroPadded text.length (digitsValue text) = text := by
  have bound := digitsValue_lt text digits
  have positive : 0 < text.length := List.length_pos_iff.mpr nonempty
  have sameLength := length_zeroPadded positive bound
  have padded : ∀ c ∈ zeroPadded text.length (digitsValue text), c.isDigit = true :=
    fun c member => isDigit_of_mem_zeroPadded member
  rcases lt_trichotomy (zeroPadded text.length (digitsValue text)) text with less | equal | more
  · have := (digits_lt_iff sameLength padded digits).mp less
    simp at this
  · exact equal
  · have := (digits_lt_iff sameLength.symm digits padded).mp more
    simp at this

namespace Str

/-- What `int` reads from ASCII digits, written again with as many zeros in front. -/
theorem eq_zeroPadded_of_digitsInt {s : Str} {value : Nat} (ascii : asciiDigits s = true)
    (read : digitsInt s = some value) : s = ofText (zeroPadded s.length value) := by
  obtain ⟨text, rfl, digits⟩ := exists_text_of_asciiDigits ascii
  have nonempty : text ≠ [] := by
    rintro rfl
    cases read
  rw [digitsInt_ofText digits read, show (ofText text).length = text.length from
    List.length_map _, zeroPadded_digitsValue nonempty digits]

end Str

end SelfConnect.Python
