import SelfConnect.Python.Numeral

namespace SelfConnect.Python

/-! Texts and strings are both ordered by code point. -/

theorem CodePoint.ofChar_lt {c d : Char} : CodePoint.ofChar c < CodePoint.ofChar d ↔ c < d :=
  Iff.rfl

theorem Str.ofText_lt {first second : Text} :
    Str.ofText first < Str.ofText second ↔ first < second := by
  induction first generalizing second with
  | nil =>
      cases second with
      | nil => simp [Str.ofText]
      | cons d rest => simp [Str.ofText]
  | cons c front ih =>
      cases second with
      | nil => simp [Str.ofText]
      | cons d back =>
          have tails : front.map CodePoint.ofChar < back.map CodePoint.ofChar ↔ front < back :=
            ih
          simp only [Str.ofText, List.map_cons, List.cons_lt_cons_iff, tails,
            CodePoint.ofChar_lt, CodePoint.ofChar_injective.eq_iff]

theorem append_lt_append_iff {first second : Text} (lengths : first.length = second.length)
    (front back : Text) :
    first ++ front < second ++ back ↔ first < second ∨ (first = second ∧ front < back) := by
  induction first generalizing second with
  | nil =>
      cases second with
      | nil => simp
      | cons d rest => simp at lengths
  | cons c tail ih =>
      cases second with
      | nil => simp at lengths
      | cons d rest =>
          have sameLength : tail.length = rest.length := by simpa using lengths
          simp only [List.cons_append, List.cons_lt_cons_iff, ih sameLength, List.cons.injEq]
          tauto

/-- Padded numerals of one width decide a comparison before what follows them. -/
theorem zeroPadded_append_lt_iff {width first second : Nat} (positive : 0 < width)
    (firstBound : first < 10 ^ width) (secondBound : second < 10 ^ width)
    (front back : Text) :
    zeroPadded width first ++ front < zeroPadded width second ++ back ↔
      first < second ∨ (first = second ∧ front < back) := by
  have injective : zeroPadded width first = zeroPadded width second ↔ first = second := by
    constructor
    · intro equal
      rw [← digitsValue_zeroPadded width first, equal, digitsValue_zeroPadded]
    · exact congrArg _
  rw [append_lt_append_iff, zeroPadded_lt_iff positive firstBound secondBound, injective]
  rw [length_zeroPadded positive firstBound, length_zeroPadded positive secondBound]

/-- An aware datetime in UTC. -/
structure Datetime where
  year : Nat
  month : Nat
  day : Nat
  hour : Nat
  minute : Nat
  second : Nat
  microsecond : Nat
  inRange : year < 10 ^ 4 ∧ month < 10 ^ 2 ∧ day < 10 ^ 2 ∧ hour < 10 ^ 2 ∧
    minute < 10 ^ 2 ∧ second < 10 ^ 2 ∧ microsecond < 10 ^ 6
  deriving DecidableEq

namespace Datetime

def fields (t : Datetime) : List Nat :=
  [t.year, t.month, t.day, t.hour, t.minute, t.second, t.microsecond]

/-- Datetimes in one time zone are compared field by field. -/
instance : Preorder Datetime :=
  Preorder.lift fields

instance : DecidableRel (α := Datetime) (· ≤ ·) :=
  fun first second => inferInstanceAs (Decidable (first.fields ≤ second.fields))

def fraction (t : Datetime) : Text :=
  if t.microsecond = 0 then [] else '.' :: zeroPadded 6 t.microsecond

/-- `t.isoformat()`, which leaves the fraction out when it is zero. -/
def isoformat (t : Datetime) : Text :=
  zeroPadded 4 t.year ++ '-' :: (zeroPadded 2 t.month ++ '-' :: (zeroPadded 2 t.day ++
    'T' :: (zeroPadded 2 t.hour ++ ':' :: (zeroPadded 2 t.minute ++
      ':' :: (zeroPadded 2 t.second ++ (t.fraction ++ ['+', '0', '0', ':', '0', '0']))))))

private theorem fraction_lt_iff (first second : Datetime) :
    first.fraction ++ ['+', '0', '0', ':', '0', '0'] <
        second.fraction ++ ['+', '0', '0', ':', '0', '0'] ↔
      first.microsecond < second.microsecond := by
  have firstBound := first.inRange.2.2.2.2.2.2
  have secondBound := second.inRange.2.2.2.2.2.2
  -- the sign of the offset sorts before the point
  have signFirst : ∀ tail, ['+', '0', '0', ':', '0', '0'] < '.' :: tail := by
    intro tail
    rw [List.cons_lt_cons_iff]
    exact Or.inl (by decide)
  have pointLast : ∀ tail, ¬ '.' :: tail < ['+', '0', '0', ':', '0', '0'] := by
    intro tail
    rw [List.cons_lt_cons_iff]
    simp only [not_or, not_and]
    exact ⟨by decide, fun equal => absurd equal (by decide)⟩
  unfold fraction
  by_cases firstWhole : first.microsecond = 0
  · by_cases secondWhole : second.microsecond = 0
    · simp [firstWhole, secondWhole]
    · rw [if_pos firstWhole, if_neg secondWhole, List.nil_append, List.cons_append]
      exact iff_of_true (signFirst _) (by omega)
  · by_cases secondWhole : second.microsecond = 0
    · rw [if_neg firstWhole, if_pos secondWhole, List.nil_append, List.cons_append]
      exact iff_of_false (pointLast _) (by omega)
    · rw [if_neg firstWhole, if_neg secondWhole, List.cons_append, List.cons_append,
        List.cons_lt_cons_iff, zeroPadded_append_lt_iff (by decide) firstBound secondBound]
      simp

/-- The text of a datetime grows with the time, fraction or not. -/
theorem isoformat_lt_iff (first second : Datetime) :
    first.isoformat < second.isoformat ↔ first.fields < second.fields := by
  obtain ⟨year, month, day, hour, minute, second', -⟩ := first.inRange
  obtain ⟨year', month', day', hour', minute', second'', -⟩ := second.inRange
  simp only [isoformat, fields, List.cons_lt_cons_iff, fraction_lt_iff,
    zeroPadded_append_lt_iff (by decide : 0 < 4) year year',
    zeroPadded_append_lt_iff (by decide : 0 < 2) month month',
    zeroPadded_append_lt_iff (by decide : 0 < 2) day day',
    zeroPadded_append_lt_iff (by decide : 0 < 2) hour hour',
    zeroPadded_append_lt_iff (by decide : 0 < 2) minute minute',
    zeroPadded_append_lt_iff (by decide : 0 < 2) second' second'']
  simp

/-- A later clock reading never sorts before an earlier one. -/
theorem not_isoformat_lt_of_le {first second : Datetime} (later : first ≤ second) :
    ¬ Str.ofText second.isoformat < Str.ofText first.isoformat := by
  rw [Str.ofText_lt, isoformat_lt_iff]
  exact not_lt_of_ge later

theorem isoformat_ne_nil (t : Datetime) : t.isoformat ≠ [] := by
  simp [isoformat]

end Datetime

end SelfConnect.Python
