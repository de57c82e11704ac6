import Mathlib

namespace SelfConnect.Python

/-! Python strings are sequences of code points in which a lone surrogate is a
legal element. File text is a sequence of Unicode scalar values, so it is kept
apart as a list of characters. -/

abbrev CodePoint := Fin 0x110000

abbrev Str := List CodePoint

abbrev Text := List Char

namespace CodePoint

instance : NeZero (0x110000 : Nat) := ⟨by decide⟩

theorem toNat_lt_of_char (c : Char) : c.toNat < 0x110000 := by
  rcases c.valid with low | high
  · exact Nat.lt_trans low (by decide)
  · exact high.2

def ofChar (c : Char) : CodePoint :=
  ⟨c.toNat, toNat_lt_of_char c⟩

theorem ofChar_injective : Function.Injective ofChar := by
  intro first second equal
  have values : first.toNat = second.toNat := by
    simpa [ofChar] using equal
  exact Char.toNat_inj.mp values

def isHighSurrogate (c : CodePoint) : Bool :=
  0xD800 ≤ c.val && c.val ≤ 0xDBFF

def isLowSurrogate (c : CodePoint) : Bool :=
  0xDC00 ≤ c.val && c.val ≤ 0xDFFF

def isSurrogate (c : CodePoint) : Bool :=
  0xD800 ≤ c.val && c.val ≤ 0xDFFF

/-- A code point that is no surrogate is a character. -/
theorem ofChar_ofNat {c : CodePoint} (scalar : c.isSurrogate = false) :
    ofChar (Char.ofNat c.val) = c ∧ (Char.ofNat c.val).toNat = c.val := by
  have valid : c.val.isValidChar := by
    simp only [isSurrogate, Bool.and_eq_false_iff, decide_eq_false_iff_not] at scalar
    have := c.isLt
    unfold Nat.isValidChar
    omega
  have value : (Char.ofNat c.val).toNat = c.val := by
    rw [Char.ofNat, dif_pos valid]
    rfl
  exact ⟨Fin.ext value, value⟩

/-- The code point named by a surrogate pair. -/
def ofSurrogates (high low : CodePoint) : CodePoint :=
  Fin.ofNat 0x110000
    (0x10000 + (high.val - 0xD800) * 0x400 + (low.val - 0xDC00))

/-- The UTF-16 code units of a code point. -/
def units (c : CodePoint) : Str :=
  if c.val < 0x10000 then [c]
  else
    [Fin.ofNat 0x110000 (0xD800 + (c.val - 0x10000) / 0x400),
      Fin.ofNat 0x110000 (0xDC00 + (c.val - 0x10000) % 0x400)]

theorem units_of_lt {c : CodePoint} (small : c.val < 0x10000) :
    c.units = [c] := by
  simp [units, small]

theorem isLowSurrogate_eq_false_of_high {c : CodePoint}
    (high : c.isHighSurrogate = true) : c.isLowSurrogate = false := by
  simp only [isHighSurrogate, isLowSurrogate, Bool.and_eq_true,
    decide_eq_true_eq, Bool.and_eq_false_iff, decide_eq_false_iff_not] at *
  omega

/-- Splitting a supplementary code point gives a pair that joins back to it. -/
theorem units_of_ge {c : CodePoint} (large : ¬ c.val < 0x10000) :
    ∃ high low, c.units = [high, low] ∧ high.isHighSurrogate = true ∧
      low.isLowSurrogate = true ∧ ofSurrogates high low = c := by
  have bound := c.isLt
  refine ⟨_, _, if_neg large, ?_, ?_, ?_⟩
  · simp only [isHighSurrogate, Fin.ofNat, Bool.and_eq_true, decide_eq_true_eq]
    omega
  · simp only [isLowSurrogate, Fin.ofNat, Bool.and_eq_true, decide_eq_true_eq]
    omega
  · apply Fin.ext
    simp only [ofSurrogates, Fin.ofNat]
    omega

end CodePoint

namespace Str

def ofText (text : Text) : Str :=
  text.map CodePoint.ofChar

def lit (s : String) : Str :=
  ofText s.toList

theorem ofText_injective : Function.Injective ofText :=
  List.map_injective_iff.mpr CodePoint.ofChar_injective

@[simp] theorem lit_inj (s t : String) : lit s = lit t ↔ s = t := by
  constructor
  · intro equal
    exact String.toList_injective (ofText_injective equal)
  · rintro rfl
    rfl

@[simp] theorem ofText_append (first second : Text) :
    ofText (first ++ second) = ofText first ++ ofText second := by
  simp [ofText]

/-! A JSON decoder joins an escaped surrogate pair into one code point. -/

def joinSurrogates : Str → Str
  | [] => []
  | [c] => [c]
  | first :: second :: rest =>
      if first.isHighSurrogate && second.isLowSurrogate then
        CodePoint.ofSurrogates first second :: joinSurrogates rest
      else
        first :: joinSurrogates (second :: rest)

def startsLow : Str → Bool
  | [] => false
  | c :: _ => c.isLowSurrogate

@[simp] theorem joinSurrogates_nil : joinSurrogates [] = [] := rfl

theorem joinSurrogates_cons_of_not {c : CodePoint} {rest : Str}
    (apart : ¬ (c.isHighSurrogate = true ∧ startsLow rest = true)) :
    joinSurrogates (c :: rest) = c :: joinSurrogates rest := by
  cases rest with
  | nil => rfl
  | cons second tail =>
      rw [joinSurrogates, if_neg]
      simpa [startsLow] using apart

theorem joinSurrogates_pair {high low : CodePoint} (rest : Str)
    (isHigh : high.isHighSurrogate = true) (isLow : low.isLowSurrogate = true) :
    joinSurrogates (high :: low :: rest) =
      CodePoint.ofSurrogates high low :: joinSurrogates rest := by
  simp [joinSurrogates, isHigh, isLow]

private theorem not_high_of_large {c : CodePoint} (large : ¬ c.val < 0x10000) :
    c.isHighSurrogate = false := by
  simp only [CodePoint.isHighSurrogate, Bool.and_eq_false_iff,
    decide_eq_false_iff_not]
  omega

private theorem not_low_of_large {c : CodePoint} (large : ¬ c.val < 0x10000) :
    c.isLowSurrogate = false := by
  simp only [CodePoint.isLowSurrogate, Bool.and_eq_false_iff,
    decide_eq_false_iff_not]
  omega

theorem startsLow_flatMap_units (s : Str) :
    startsLow (s.flatMap CodePoint.units) = startsLow s := by
  cases s with
  | nil => rfl
  | cons c rest =>
      by_cases small : c.val < 0x10000
      · simp [CodePoint.units_of_lt small, startsLow]
      · obtain ⟨high, low, split, isHigh, -, -⟩ := CodePoint.units_of_ge small
        simp [split, startsLow, not_low_of_large small,
          CodePoint.isLowSurrogate_eq_false_of_high isHigh]

/-- Writing a string as UTF-16 units and joining the pairs loses exactly what
joining its own pairs loses. -/
theorem joinSurrogates_flatMap_units (s : Str) :
    joinSurrogates (s.flatMap CodePoint.units) = joinSurrogates s := by
  induction s using joinSurrogates.induct with
  | case1 => rfl
  | case2 c =>
      by_cases small : c.val < 0x10000
      · simp [CodePoint.units_of_lt small]
      · obtain ⟨high, low, split, isHigh, isLow, joined⟩ :=
          CodePoint.units_of_ge small
        simp only [List.flatMap_cons, List.flatMap_nil, List.append_nil, split]
        rw [joinSurrogates_pair _ isHigh isLow, joined]
        rfl
  | case3 first second rest pair ih =>
      simp only [Bool.and_eq_true] at pair
      have firstSmall : first.val < 0x10000 := by
        by_contra large
        rw [not_high_of_large large] at pair
        exact Bool.false_ne_true pair.1
      have secondSmall : second.val < 0x10000 := by
        by_contra large
        rw [not_low_of_large large] at pair
        exact Bool.false_ne_true pair.2
      simp only [List.flatMap_cons, CodePoint.units_of_lt firstSmall,
        CodePoint.units_of_lt secondSmall, List.singleton_append]
      rw [joinSurrogates_pair _ pair.1 pair.2, joinSurrogates_pair _ pair.1 pair.2,
        ih]
  | case4 first second rest apart ih =>
      have apart' : ¬ (first.isHighSurrogate = true ∧
          startsLow (second :: rest) = true) := by
        simpa [startsLow] using apart
      rw [joinSurrogates_cons_of_not apart']
      by_cases small : first.val < 0x10000
      · rw [List.flatMap_cons, CodePoint.units_of_lt small,
          List.singleton_append, joinSurrogates_cons_of_not, ih]
        rwa [startsLow_flatMap_units]
      · obtain ⟨high, low, split, isHigh, isLow, joined⟩ :=
          CodePoint.units_of_ge small
        rw [List.flatMap_cons, split, List.cons_append, List.singleton_append,
          joinSurrogates_pair _ isHigh isLow, joined, ih]

private theorem startsLow_joinSurrogates_cons (c : CodePoint) (rest : Str)
    (notHigh : ¬ (c.isHighSurrogate = true ∧ startsLow rest = true)) :
    startsLow (joinSurrogates (c :: rest)) = c.isLowSurrogate := by
  rw [joinSurrogates_cons_of_not notHigh]
  rfl

private theorem ofSurrogates_large (high low : CodePoint)
    (isHigh : high.isHighSurrogate = true) (isLow : low.isLowSurrogate = true) :
    ¬ (CodePoint.ofSurrogates high low).val < 0x10000 := by
  simp only [CodePoint.isHighSurrogate, CodePoint.isLowSurrogate,
    Bool.and_eq_true, decide_eq_true_eq] at isHigh isLow
  simp only [CodePoint.ofSurrogates, Fin.ofNat]
  omega

private theorem startsLow_joinSurrogates (s : Str) (notLow : startsLow s = false) :
    startsLow (joinSurrogates s) = false := by
  induction s using joinSurrogates.induct with
  | case1 => rfl
  | case2 c => simpa [joinSurrogates] using notLow
  | case3 first second rest pair _ =>
      simp only [Bool.and_eq_true] at pair
      rw [joinSurrogates_pair _ pair.1 pair.2]
      exact not_low_of_large (ofSurrogates_large first second pair.1 pair.2)
  | case4 first second rest apart _ =>
      rw [startsLow_joinSurrogates_cons]
      · exact notLow
      · simpa [startsLow] using apart

/-- A decoded string is not changed by decoding it again. -/
theorem joinSurrogates_idem (s : Str) :
    joinSurrogates (joinSurrogates s) = joinSurrogates s := by
  induction s using joinSurrogates.induct with
  | case1 => rfl
  | case2 c => rfl
  | case3 first second rest pair ih =>
      simp only [Bool.and_eq_true] at pair
      rw [joinSurrogates_pair _ pair.1 pair.2, joinSurrogates_cons_of_not, ih]
      rintro ⟨isHigh, -⟩
      rw [not_high_of_large (ofSurrogates_large first second pair.1 pair.2)] at isHigh
      exact Bool.false_ne_true isHigh
  | case4 first second rest apart ih =>
      have apart' : ¬ (first.isHighSurrogate = true ∧
          startsLow (second :: rest) = true) := by
        simpa [startsLow] using apart
      rw [joinSurrogates_cons_of_not apart', joinSurrogates_cons_of_not, ih]
      rintro ⟨isHigh, isLow⟩
      have notLow : startsLow (second :: rest) = false := by
        simpa [isHigh] using apart'
      rw [startsLow_joinSurrogates _ notLow] at isLow
      exact Bool.false_ne_true isLow

/-- A decoded string without supplementary code points was not joined at all. -/
theorem eq_of_joinSurrogates_small {s t : Str} (small : ∀ c ∈ t, c.val < 0x10000)
    (joined : joinSurrogates s = t) : s = t := by
  induction s using joinSurrogates.induct generalizing t with
  | case1 => exact joined
  | case2 c => exact joined
  | case3 first second rest pair _ =>
      simp only [Bool.and_eq_true] at pair
      rw [joinSurrogates_pair _ pair.1 pair.2] at joined
      subst joined
      exact absurd (small _ (by simp)) (ofSurrogates_large first second pair.1 pair.2)
  | case4 first second rest apart ih =>
      rw [joinSurrogates, if_neg apart] at joined
      subst joined
      rw [← ih (fun c member => small c (by simp [member])) rfl]

/-- No element is a surrogate, so nothing can be joined. -/
theorem joinSurrogates_of_scalar {s : Str}
    (scalar : ∀ c ∈ s, c.isSurrogate = false) : joinSurrogates s = s := by
  induction s with
  | nil => rfl
  | cons c rest ih =>
      rw [joinSurrogates_cons_of_not, ih fun d member => scalar d (by simp [member])]
      rintro ⟨isHigh, -⟩
      have := scalar c (by simp)
      simp only [CodePoint.isSurrogate, CodePoint.isHighSurrogate,
        Bool.and_eq_true, decide_eq_true_eq, Bool.and_eq_false_iff,
        decide_eq_false_iff_not] at this isHigh
      omega

theorem joinSurrogates_scalar_append {s : Str} (scalar : ∀ c ∈ s, c.isSurrogate = false)
    (t : Str) : joinSurrogates (s ++ t) = s ++ joinSurrogates t := by
  induction s with
  | nil => rfl
  | cons c rest ih =>
      have isScalar := scalar c List.mem_cons_self
      rw [List.cons_append, joinSurrogates_cons_of_not,
        ih fun d member => scalar d (List.mem_cons_of_mem c member), List.cons_append]
      intro pair
      have isHigh := pair.1
      simp only [CodePoint.isSurrogate, CodePoint.isHighSurrogate,
        Bool.and_eq_true, decide_eq_true_eq, Bool.and_eq_false_iff,
        decide_eq_false_iff_not] at isScalar isHigh
      omega

theorem joinSurrogates_append_scalar (s : Str) {t : Str}
    (scalar : ∀ c ∈ t, c.isSurrogate = false) :
    joinSurrogates (s ++ t) = joinSurrogates s ++ t := by
  have notLow : startsLow t = false := by
    cases t with
    | nil => rfl
    | cons c rest =>
        have isScalar := scalar c List.mem_cons_self
        simp only [startsLow, CodePoint.isSurrogate, CodePoint.isLowSurrogate, Bool.and_eq_false_iff,
          decide_eq_false_iff_not] at isScalar ⊢
        omega
  induction s using joinSurrogates.induct with
  | case1 => exact joinSurrogates_of_scalar scalar
  | case2 c =>
      rw [List.singleton_append, joinSurrogates_cons_of_not, joinSurrogates_of_scalar scalar]
      · rfl
      · intro pair
        rw [notLow] at pair
        cases pair.2
  | case3 first second rest pair ih =>
      rw [joinSurrogates, if_pos pair, List.cons_append, List.cons_append, List.cons_append,
        joinSurrogates, if_pos pair, ih]
  | case4 first second rest apart ih =>
      rw [joinSurrogates, if_neg apart, List.cons_append, List.cons_append, joinSurrogates,
        if_neg apart, ← List.cons_append, ih, List.cons_append]

theorem ofChar_not_surrogate (c : Char) :
    (CodePoint.ofChar c).isSurrogate = false := by
  change (decide (0xD800 ≤ c.toNat) && decide (c.toNat ≤ 0xDFFF)) = false
  simp only [Bool.and_eq_false_iff, decide_eq_false_iff_not]
  have range : c.toNat < 0xD800 ∨ 0xDFFF < c.toNat ∧ c.toNat < 0x110000 := c.valid
  omega

theorem joinSurrogates_ofText (text : Text) :
    joinSurrogates (ofText text) = ofText text := by
  apply joinSurrogates_of_scalar
  intro c member
  obtain ⟨d, -, rfl⟩ := List.mem_map.mp member
  exact ofChar_not_surrogate d

@[simp] theorem joinSurrogates_lit (s : String) :
    joinSurrogates (lit s) = lit s :=
  joinSurrogates_ofText _

end Str

end SelfConnect.Python
