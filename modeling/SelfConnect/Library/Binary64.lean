import Mathlib.Algebra.Order.Field.Rat
import Mathlib.Data.Int.Log
import Mathlib.Data.Rat.Floor
import Mathlib.Tactic.Linarith
import Mathlib.Tactic.Ring

namespace SelfConnect.Library.Binary64

/-! The rationals rounded to binary64, to nearest and ties to even. Overflow is left
out: no magnitude is too large. -/

def nearestEven (x : ℚ) : ℤ :=
  if Int.fract x < 1 / 2 then ⌊x⌋
  else if 1 / 2 < Int.fract x then ⌊x⌋ + 1
  else if ⌊x⌋ % 2 = 0 then ⌊x⌋ else ⌊x⌋ + 1

/-- The exponent of the last of the 53 digits of `x`; subnormal numbers have fewer. -/
def lastPlace (x : ℚ) : ℤ := max (Int.log 2 |x| - 52) (-1074)

def round (x : ℚ) : ℚ := nearestEven (x / 2 ^ lastPlace x) * 2 ^ lastPlace x

/-- Towards zero. -/
def trunc (x : ℚ) : ℤ := if x < 0 then -⌊-x⌋ else ⌊x⌋

theorem nearestEven_intCast (k : ℤ) : nearestEven k = k := by
  simp [nearestEven]

theorem floor_le_nearestEven (x : ℚ) : ⌊x⌋ ≤ nearestEven x := by
  unfold nearestEven
  split_ifs <;> omega

theorem nearestEven_le_floor_add_one (x : ℚ) : nearestEven x ≤ ⌊x⌋ + 1 := by
  unfold nearestEven
  split_ifs <;> omega

theorem nearestEven_mono {x y : ℚ} (le : x ≤ y) : nearestEven x ≤ nearestEven y := by
  rcases (Int.floor_le_floor le).lt_or_eq with below | same
  · calc
      nearestEven x ≤ ⌊x⌋ + 1 := nearestEven_le_floor_add_one x
      _ ≤ ⌊y⌋ := below
      _ ≤ nearestEven y := floor_le_nearestEven y
  · have fract : Int.fract x ≤ Int.fract y := by
      rw [Int.fract, Int.fract, same]
      linarith
    unfold nearestEven
    rw [same]
    split_ifs <;> first | omega | linarith

theorem nearestEven_neg (x : ℚ) : nearestEven (-x) = -nearestEven x := by
  by_cases whole : Int.fract x = 0
  · obtain ⟨k, isInt⟩ := Int.fract_eq_zero_iff.mp whole
    rw [← isInt, ← Int.cast_neg, nearestEven_intCast, nearestEven_intCast]
  · have fract : Int.fract (-x) = 1 - Int.fract x := Int.fract_neg whole
    have floor : ⌊-x⌋ = -⌊x⌋ - 1 := by
      have sum := Int.floor_add_fract x
      have negSum := Int.floor_add_fract (-x)
      rw [fract] at negSum
      have cast : ((⌊-x⌋ : ℤ) : ℚ) = ((-⌊x⌋ - 1 : ℤ) : ℚ) := by
        push_cast
        linarith
      exact_mod_cast cast
    unfold nearestEven
    rw [floor, fract]
    split_ifs <;> first | omega | linarith

theorem lastPlace_neg (x : ℚ) : lastPlace (-x) = lastPlace x := by
  rw [lastPlace, abs_neg, lastPlace]

theorem round_neg (x : ℚ) : round (-x) = -round x := by
  rw [round, lastPlace_neg, neg_div, nearestEven_neg, Int.cast_neg, neg_mul, round]

theorem place_pos (e : ℤ) : (0 : ℚ) < 2 ^ e :=
  zpow_pos two_pos e

theorem power_log_le {x : ℚ} (positive : 0 < x) : (2 : ℚ) ^ Int.log 2 x ≤ x :=
  Int.zpow_log_le_self (by decide : 1 < 2) positive

theorem lt_power_log (x : ℚ) : x < (2 : ℚ) ^ (Int.log 2 x + 1) :=
  Int.lt_zpow_succ_log_self (by decide : 1 < 2) x

theorem round_nonneg {x : ℚ} (nonneg : 0 ≤ x) : 0 ≤ round x := by
  have scaled : 0 ≤ x / 2 ^ lastPlace x := div_nonneg nonneg (place_pos _).le
  have rounded : 0 ≤ nearestEven (x / 2 ^ lastPlace x) := by
    have mono := nearestEven_mono scaled
    rwa [← Int.cast_zero, nearestEven_intCast] at mono
  exact mul_nonneg (by exact_mod_cast rounded) (place_pos _).le

theorem round_nonpos {x : ℚ} (nonpos : x ≤ 0) : round x ≤ 0 := by
  have negated := round_nonneg (neg_nonneg.mpr nonpos)
  rw [round_neg] at negated
  linarith

/-- Rounding does not cross a multiple of the last place. -/
theorem round_le_of_multiple {x : ℚ} {k : ℤ} (le : x ≤ k * 2 ^ lastPlace x) :
    round x ≤ k * 2 ^ lastPlace x := by
  have scaled : x / 2 ^ lastPlace x ≤ k := (div_le_iff₀ (place_pos _)).mpr le
  have rounded := nearestEven_mono scaled
  rw [nearestEven_intCast] at rounded
  exact mul_le_mul_of_nonneg_right (by exact_mod_cast rounded) (place_pos _).le

theorem le_round_of_multiple {x : ℚ} {k : ℤ} (le : k * 2 ^ lastPlace x ≤ x) :
    k * 2 ^ lastPlace x ≤ round x := by
  have scaled : (k : ℚ) ≤ x / 2 ^ lastPlace x := (le_div_iff₀ (place_pos _)).mpr le
  have rounded := nearestEven_mono scaled
  rw [nearestEven_intCast] at rounded
  exact mul_le_mul_of_nonneg_right (by exact_mod_cast rounded) (place_pos _).le

theorem round_eq_self_of_multiple {x : ℚ} {k : ℤ} (same : x = k * 2 ^ lastPlace x) :
    round x = x := by
  apply le_antisymm
  · calc
      round x ≤ k * 2 ^ lastPlace x := round_le_of_multiple same.le
      _ = x := same.symm
  · calc
      x = k * 2 ^ lastPlace x := same
      _ ≤ round x := le_round_of_multiple same.ge

theorem place_eq_multiple {low high : ℤ} (le : low ≤ high) :
    ∃ k : ℤ, (2 : ℚ) ^ high = k * 2 ^ low := by
  obtain ⟨n, isDifference⟩ := Int.eq_ofNat_of_zero_le (sub_nonneg.mpr le)
  refine ⟨2 ^ n, ?_⟩
  have split : high = n + low := by omega
  rw [split, zpow_add₀ two_ne_zero, zpow_natCast]
  push_cast
  rfl

theorem lastPlace_mono {x y : ℚ} (positive : 0 < x) (le : x ≤ y) :
    lastPlace x ≤ lastPlace y := by
  have log : Int.log 2 |x| ≤ Int.log 2 |y| := by
    rw [abs_of_pos positive, abs_of_pos (positive.trans_le le)]
    exact Int.log_mono_right positive le
  unfold lastPlace
  omega

theorem round_mono_of_pos {x y : ℚ} (positive : 0 < x) (le : x ≤ y) : round x ≤ round y := by
  rcases (lastPlace_mono positive le).lt_or_eq with below | same
  · -- A power of two lies between the two, and is a multiple of either last place.
    have log : lastPlace y = Int.log 2 |y| - 52 := by
      have bound : -1074 ≤ lastPlace x := le_max_right _ _
      unfold lastPlace at below bound ⊢
      omega
    have atMost : (2 : ℚ) ^ (lastPlace y + 52) ≤ y := by
      rw [log, sub_add_cancel, abs_of_pos (positive.trans_le le)]
      exact power_log_le (positive.trans_le le)
    have above : x ≤ (2 : ℚ) ^ (lastPlace y + 52) := by
      have exponent : Int.log 2 x + 1 ≤ lastPlace y + 52 := by
        have bound : Int.log 2 |x| - 52 ≤ lastPlace x := le_max_left _ _
        rw [abs_of_pos positive] at bound
        omega
      calc
        x ≤ (2 : ℚ) ^ (Int.log 2 x + 1) := (lt_power_log x).le
        _ ≤ (2 : ℚ) ^ (lastPlace y + 52) := zpow_le_zpow_right₀ one_le_two exponent
    obtain ⟨k, isMultiple⟩ := @place_eq_multiple (lastPlace x) (lastPlace y + 52) (by omega)
    obtain ⟨l, isMultiple'⟩ := @place_eq_multiple (lastPlace y) (lastPlace y + 52) (by omega)
    calc
      round x ≤ k * 2 ^ lastPlace x := round_le_of_multiple (isMultiple ▸ above)
      _ = 2 ^ (lastPlace y + 52) := isMultiple.symm
      _ = l * 2 ^ lastPlace y := isMultiple'
      _ ≤ round y := le_round_of_multiple (isMultiple' ▸ atMost)
  · have scaled : x / 2 ^ lastPlace y ≤ y / 2 ^ lastPlace y :=
      div_le_div_of_nonneg_right le (place_pos _).le
    unfold round
    rw [same]
    exact mul_le_mul_of_nonneg_right (by exact_mod_cast nearestEven_mono scaled)
      (place_pos _).le

theorem round_mono {x y : ℚ} (le : x ≤ y) : round x ≤ round y := by
  rcases lt_or_ge 0 x with positive | nonpos
  · exact round_mono_of_pos positive le
  · rcases lt_or_ge y 0 with negative | nonneg
    · have mirrored := round_mono_of_pos (neg_pos.mpr negative) (neg_le_neg le)
      rw [round_neg, round_neg] at mirrored
      linarith
    · exact (round_nonpos nonpos).trans (round_nonneg nonneg)

private theorem round_eq_self_of_lt {x : ℚ} {k e : ℤ} (isScaled : x = k * 2 ^ e)
    (digits : |k| < 2 ^ 53) (bound : -1074 ≤ e) : round x = x := by
  by_cases zero : x = 0
  · rw [zero]
    exact le_antisymm (round_nonpos le_rfl) (round_nonneg le_rfl)
  · have low : lastPlace x ≤ e := by
      have size : |x| < 2 ^ (53 + e) := by
        rw [isScaled, abs_mul, abs_of_pos (place_pos e), zpow_add₀ two_ne_zero]
        apply mul_lt_mul_of_pos_right _ (place_pos e)
        exact_mod_cast digits
      have exponent : Int.log 2 |x| < 53 + e := by
        apply (zpow_lt_zpow_iff_right₀ (one_lt_two : (1 : ℚ) < 2)).mp
        calc
          (2 : ℚ) ^ Int.log 2 |x| ≤ |x| := power_log_le (abs_pos.mpr zero)
          _ < 2 ^ (53 + e) := size
      unfold lastPlace
      omega
    obtain ⟨l, isMultiple⟩ := place_eq_multiple low
    apply @round_eq_self_of_multiple x (k * l)
    rw [Int.cast_mul, mul_assoc, ← isMultiple]
    exact isScaled

/-- A number of 53 digits is a binary64 number. -/
theorem round_eq_self {x : ℚ} {k e : ℤ} (isScaled : x = k * 2 ^ e) (digits : |k| ≤ 2 ^ 53)
    (bound : -1074 ≤ e) : round x = x := by
  rcases digits.lt_or_eq with below | same
  · exact round_eq_self_of_lt isScaled below bound
  · have next : x = ((k / 2 : ℤ) : ℚ) * 2 ^ (e + 1) := by
      have even : k = 2 * (k / 2) := by
        rcases abs_choice k with isAbs | isAbs <;> omega
      rw [isScaled, zpow_add₀ two_ne_zero, zpow_one]
      nth_rewrite 1 [even]
      push_cast
      ring
    apply round_eq_self_of_lt next _ (by omega)
    rw [abs_lt]
    rcases abs_choice k with isAbs | isAbs <;> omega

theorem exists_digits (x : ℚ) :
    ∃ k : ℤ, round x = k * 2 ^ lastPlace x ∧ |k| ≤ 2 ^ 53 := by
  have size : |x / 2 ^ lastPlace x| ≤ ((2 ^ 53 : ℤ) : ℚ) := by
    rw [abs_div, abs_of_pos (place_pos (lastPlace x)), div_le_iff₀ (place_pos _)]
    have exponent : Int.log 2 |x| + 1 ≤ 53 + lastPlace x := by
      have bound : Int.log 2 |x| - 52 ≤ lastPlace x := le_max_left _ _
      omega
    calc
      |x| ≤ 2 ^ (Int.log 2 |x| + 1) := (lt_power_log |x|).le
      _ ≤ 2 ^ (53 + lastPlace x) := zpow_le_zpow_right₀ one_le_two exponent
      _ = ((2 ^ 53 : ℤ) : ℚ) * 2 ^ lastPlace x := by
        rw [zpow_add₀ two_ne_zero]
        norm_num
  refine ⟨nearestEven (x / 2 ^ lastPlace x), rfl, abs_le.mpr ?_⟩
  obtain ⟨below, above⟩ := abs_le.mp size
  have low := nearestEven_mono below
  have high := nearestEven_mono above
  rw [← Int.cast_neg, nearestEven_intCast] at low
  rw [nearestEven_intCast] at high
  exact ⟨low, high⟩

theorem round_round (x : ℚ) : round (round x) = round x := by
  obtain ⟨k, isScaled, digits⟩ := exists_digits x
  exact round_eq_self isScaled digits (le_max_right _ _)

theorem trunc_intCast (k : ℤ) : trunc k = k := by
  unfold trunc
  rw [← Int.cast_neg, Int.floor_intCast, Int.floor_intCast]
  split <;> omega

theorem abs_trunc_le (x : ℚ) : |(trunc x : ℚ)| ≤ |x| := by
  unfold trunc
  split_ifs with negative
  · have floor := Int.floor_le (-x)
    have nonneg : (0 : ℚ) ≤ ⌊-x⌋ := by
      exact_mod_cast Int.floor_nonneg.mpr (by linarith)
    rw [Int.cast_neg, abs_neg, abs_of_nonneg nonneg, abs_of_neg negative]
    exact floor
  · have floor := Int.floor_le x
    have nonneg : (0 : ℚ) ≤ ⌊x⌋ := by
      exact_mod_cast Int.floor_nonneg.mpr (by linarith)
    rw [abs_of_nonneg nonneg, abs_of_nonneg (by linarith)]
    exact floor

/-- The integer part of a binary64 number is one. -/
theorem round_trunc_round (x : ℚ) : round (trunc (round x)) = trunc (round x) := by
  obtain ⟨k, isScaled, digits⟩ := exists_digits x
  rcases le_or_gt 0 (lastPlace x) with whole | small
  · obtain ⟨l, isMultiple⟩ := place_eq_multiple whole
    have isInt : round x = ((k * l : ℤ) : ℚ) := by
      rw [isScaled, isMultiple]
      push_cast
      ring
    rw [isInt, trunc_intCast, ← isInt, round_round]
  · have size : |(trunc (round x) : ℚ)| ≤ ((2 ^ 53 : ℤ) : ℚ) := by
      have place : (2 : ℚ) ^ lastPlace x ≤ 1 := by
        rw [← zpow_zero (2 : ℚ)]
        exact zpow_le_zpow_right₀ one_le_two small.le
      calc
        |(trunc (round x) : ℚ)| ≤ |round x| := abs_trunc_le _
        _ = |(k : ℚ)| * 2 ^ lastPlace x := by
          rw [isScaled, abs_mul, abs_of_pos (place_pos _)]
        _ ≤ |(k : ℚ)| * 1 := mul_le_mul_of_nonneg_left place (abs_nonneg _)
        _ = |(k : ℚ)| := mul_one _
        _ ≤ ((2 ^ 53 : ℤ) : ℚ) := by exact_mod_cast digits
    apply @round_eq_self _ (trunc (round x)) 0 _ _ (by decide)
    · rw [zpow_zero, mul_one]
    · exact_mod_cast size

/-- Below `2 ^ (53 + e)` nothing that ends at place `e` is rounded, and nothing is rounded
to below from above. -/
theorem le_of_round_le {x b : ℚ} {k e : ℤ} (isScaled : x = k * 2 ^ e) (bound : -1074 ≤ e)
    (nonneg : 0 ≤ b) (small : b < 2 ^ (53 + e)) (le : round x ≤ b) : x ≤ b := by
  have split : (2 : ℚ) ^ (53 + e) = ((2 ^ 53 : ℤ) : ℚ) * 2 ^ e := by
    rw [zpow_add₀ two_ne_zero]
    norm_num
  rcases le_or_gt x 0 with nonpos | positive
  · exact nonpos.trans nonneg
  rcases lt_or_ge x (2 ^ (53 + e)) with below | above
  · have digits : |k| ≤ 2 ^ 53 := by
      rw [isScaled, split] at below
      rw [isScaled] at positive
      have low : (0 : ℚ) < k := pos_of_mul_pos_left positive (place_pos e).le
      have high := lt_of_mul_lt_mul_right below (place_pos e).le
      rw [abs_of_pos (by exact_mod_cast low)]
      exact (by exact_mod_cast high : k < 2 ^ 53).le
    rwa [round_eq_self isScaled digits bound] at le
  · have rounded := round_mono above
    rw [round_eq_self split (by norm_num) bound] at rounded
    linarith

theorem abs_le_of_abs_round_le {x b : ℚ} {k e : ℤ} (isScaled : x = k * 2 ^ e)
    (bound : -1074 ≤ e) (nonneg : 0 ≤ b) (small : b < 2 ^ (53 + e)) (le : |round x| ≤ b) :
    |x| ≤ b := by
  obtain ⟨low, high⟩ := abs_le.mp le
  have mirrored : -x = (-k : ℤ) * 2 ^ e := by
    rw [isScaled]
    push_cast
    ring
  have below : -x ≤ b := by
    apply le_of_round_le mirrored bound nonneg small
    rw [round_neg]
    linarith
  exact abs_le.mpr ⟨by linarith, le_of_round_le isScaled bound nonneg small high⟩

theorem scaled_of_den_dvd {x : ℚ} {n : ℕ} (whole : x.den ∣ 2 ^ n) :
    ∃ k : ℤ, x = k * 2 ^ (-n : ℤ) := by
  obtain ⟨m, isMultiple⟩ := whole
  refine ⟨x.num * m, ?_⟩
  have cast : (2 : ℚ) ^ n = x.den * m := by exact_mod_cast isMultiple
  have factor : (m : ℚ) ≠ 0 := by
    intro zero
    rw [zero, mul_zero] at cast
    exact pow_ne_zero n two_ne_zero cast
  rw [zpow_neg, zpow_natCast, cast, ← div_eq_mul_inv]
  push_cast
  rw [mul_div_mul_right _ _ factor, Rat.num_div_den]

/-- An integer less a number that ends at some place ends there too. -/
theorem intCast_sub_scaled {x : ℚ} {k : ℤ} {n : ℕ} (isScaled : x = k * 2 ^ (-n : ℤ)) (m : ℤ) :
    m - x = ((m * 2 ^ n - k : ℤ) : ℚ) * 2 ^ (-n : ℤ) := by
  have nonzero : (2 : ℚ) ^ n ≠ 0 := pow_ne_zero n two_ne_zero
  rw [isScaled, zpow_neg, zpow_natCast]
  push_cast
  rw [sub_mul, mul_assoc, mul_inv_cancel₀ nonzero, mul_one]

/-- A difference that is no larger than one of the numbers, and ends where it does, is
exact. -/
private theorem round_sub_of_le {x y : ℚ} {k l e f : ℤ} (isScaled : x = k * 2 ^ e)
    (digits : |k| ≤ 2 ^ 53) (bound : -1074 ≤ e) (isScaled' : y = l * 2 ^ f) (le : e ≤ f)
    (small : |x - y| ≤ |x|) : round (x - y) = x - y := by
  obtain ⟨m, isMultiple⟩ := place_eq_multiple le
  have difference : x - y = (k - l * m : ℤ) * 2 ^ e := by
    rw [isScaled, isScaled', isMultiple]
    push_cast
    ring
  apply round_eq_self difference _ bound
  rw [difference, isScaled, abs_mul, abs_mul, abs_of_pos (place_pos e)] at small
  have fewer := le_of_mul_le_mul_right small (place_pos e)
  exact le_trans (by exact_mod_cast fewer) digits

/-- Numbers within a factor of two of each other are subtracted exactly. -/
theorem round_sub {x y : ℚ} (isDouble : round x = x) (isDouble' : round y = y)
    (low : y ≤ 2 * x) (high : x ≤ 2 * y) : round (x - y) = x - y := by
  obtain ⟨k, isScaled, digits⟩ := exists_digits x
  obtain ⟨l, isScaled', digits'⟩ := exists_digits y
  rw [isDouble] at isScaled
  rw [isDouble'] at isScaled'
  rcases le_total (lastPlace x) (lastPlace y) with le | ge
  · apply round_sub_of_le isScaled digits (le_max_right _ _) isScaled' le
    rw [abs_of_nonneg (by linarith : 0 ≤ x)]
    exact abs_le.mpr ⟨by linarith, by linarith⟩
  · have mirrored : round (y - x) = y - x := by
      apply round_sub_of_le isScaled' digits' (le_max_right _ _) isScaled ge
      rw [abs_of_nonneg (by linarith : 0 ≤ y)]
      exact abs_le.mpr ⟨by linarith, by linarith⟩
    rw [← neg_sub, round_neg, mirrored]

/-- Below an integer a difference is not rounded past the half above it. -/
theorem lt_add_half_of_round_le {x : ℚ} {n : ℕ} (small : n < 2 ^ 52) (le : round x ≤ n) :
    x < n + 1 / 2 := by
  by_contra above
  have half : ((2 * n + 1 : ℤ) : ℚ) * 2 ^ (-1 : ℤ) = n + 1 / 2 := by
    rw [zpow_neg_one]
    push_cast
    ring
  have rounded := round_mono (not_lt.mp above)
  rw [round_eq_self half.symm (by rw [abs_of_nonneg (by omega)]; omega) (by decide)] at rounded
  linarith

end SelfConnect.Library.Binary64
