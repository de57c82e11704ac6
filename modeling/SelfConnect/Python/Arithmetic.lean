import Mathlib.Order.WithBot
import SelfConnect.Library.Binary64
import SelfConnect.Python.Value

namespace SelfConnect.Python.Number

open SelfConnect.Library

/-! Differences of floats, by the numbers the floats stand for. -/

/-- `2 ** 1024`, which no float reaches. -/
def beyond : ℚ := 2 ^ 1024

/-- The float that an exact result is rounded to. -/
def rounded (q : ℚ) : Number :=
  if beyond ≤ Binary64.round q then .infinity false
  else if Binary64.round q ≤ -beyond then .infinity true
  else .finite (Binary64.round q)

/-- `x - y`. -/
def minus : Number → Number → Number
  | .finite x, .finite y => rounded (x - y)
  | .nan, _ => .nan
  | _, .nan => .nan
  | .infinity first, .infinity second => if first = second then .nan else .infinity first
  | .infinity negative, .finite _ => .infinity negative
  | .finite _, .infinity negative => .infinity (!negative)

/-- `x <= y`. -/
def le (x y : Number) : Bool := x.lt y || x.eqv y

/-- Where a number lies between the infinities. -/
def point : Number → Option (WithBot (WithTop ℚ))
  | .nan => none
  | .infinity true => some ⊥
  | .infinity false => some ((⊤ : WithTop ℚ) : WithBot (WithTop ℚ))
  | .finite q => some ((q : WithTop ℚ) : WithBot (WithTop ℚ))

variable {x y z : Number}

theorem lt_iff : x.lt y = true ↔ ∃ a b, x.point = some a ∧ y.point = some b ∧ a < b := by
  rcases x with _ | (_ | _) | p <;> rcases y with _ | (_ | _) | q <;>
    simp [lt, point, WithBot.bot_lt_coe, -WithBot.coe_top, WithTop.coe_lt_top]

theorem eqv_iff : x.eqv y = true ↔ ∃ a, x.point = some a ∧ y.point = some a := by
  rcases x with _ | (_ | _) | p <;> rcases y with _ | (_ | _) | q <;>
    simp [eqv, point, eq_comm]

theorem le_iff : x.le y = true ↔ ∃ a b, x.point = some a ∧ y.point = some b ∧ a ≤ b := by
  rw [le, Bool.or_eq_true, lt_iff, eqv_iff]
  constructor
  · rintro (⟨a, b, isX, isY, lt⟩ | ⟨a, isX, isY⟩)
    · exact ⟨a, b, isX, isY, lt.le⟩
    · exact ⟨a, a, isX, isY, le_rfl⟩
  · rintro ⟨a, b, isX, isY, le⟩
    rcases le.lt_or_eq with lt | rfl
    · exact .inl ⟨a, b, isX, isY, lt⟩
    · exact .inr ⟨a, isX, isY⟩

theorem lt_of_lt_of_le (lt : x.lt y = true) (le : y.le z = true) : x.lt z = true := by
  obtain ⟨a, b, isX, isY, below⟩ := lt_iff.mp lt
  obtain ⟨b', c, isY', isZ, upTo⟩ := le_iff.mp le
  cases isY.symm.trans isY'
  exact lt_iff.mpr ⟨a, c, isX, isZ, below.trans_le upTo⟩

theorem lt_of_le_of_lt (le : x.le y = true) (lt : y.lt z = true) : x.lt z = true := by
  obtain ⟨a, b, isX, isY, upTo⟩ := le_iff.mp le
  obtain ⟨b', c, isY', isZ, below⟩ := lt_iff.mp lt
  cases isY.symm.trans isY'
  exact lt_iff.mpr ⟨a, c, isX, isZ, upTo.trans_lt below⟩

theorem rounded_mono {p q : ℚ} (le : p ≤ q) : (rounded p).le (rounded q) = true := by
  have mono := Binary64.round_mono le
  unfold rounded
  generalize Binary64.round p = p at mono
  generalize Binary64.round q = q at mono
  generalize beyond = bound
  split
  · next above => rw [if_pos (above.trans mono)]; rfl
  · next notAbove =>
      split
      · split
        · rfl
        · split
          · rfl
          · rfl
      · next notBelow =>
          split
          · rfl
          · rw [if_neg fun below => notBelow (mono.trans below)]
            simp [Number.le, lt, eqv, mono.lt_or_eq]

theorem lt_nan : x.lt .nan = false := by
  rcases x with _ | _ | _ <;> rfl

theorem lt_bottom : x.lt (.infinity true) = false := by
  rcases x with _ | (_ | _) | _ <;> rfl

theorem lt_top (lt : x.lt y = true) : x.lt (.infinity false) = true := by
  obtain ⟨a, b, isX, -, below⟩ := lt_iff.mp lt
  refine lt_iff.mpr ⟨a, _, isX, rfl, below.trans_le ?_⟩
  exact le_top

/-- A later reading is at least the number that an earlier one was. -/
theorem le_cases (le : y.le z = true) :
    z = .infinity false ∨ y = .infinity true ∨ ∃ p q, y = .finite p ∧ z = .finite q ∧ p ≤ q := by
  rcases y with _ | (_ | _) | p
  · cases le
  · rcases z with _ | (_ | _) | q
    · cases le
    · exact .inl rfl
    · cases le
    · cases le
  · exact .inr (.inl rfl)
  · rcases z with _ | (_ | _) | q
    · cases le
    · exact .inl rfl
    · cases le
    · refine .inr (.inr ⟨p, q, rfl, rfl, ?_⟩)
      simpa [Number.le, lt, eqv, ← le_iff_lt_or_eq] using le

/-- What lies before a difference lies before a later one. -/
theorem lt_minus {w : Number} (lt : x.lt (y.minus w) = true) (le : y.le z = true) :
    x.lt (z.minus w) = true := by
  rcases w with _ | (_ | _) | w
  · rcases y with _ | _ | p
    all_goals exact absurd lt (by simp [minus, lt_nan])
  · rcases y with _ | (_ | _) | p
    all_goals exact absurd lt (by simp [minus, lt_nan, lt_bottom])
  · rcases le_cases le with rfl | rfl | ⟨p, q, rfl, rfl, -⟩
    · exact lt_top lt
    · exact absurd lt (by simp [minus, lt_nan])
    · exact lt
  · rcases le_cases le with rfl | rfl | ⟨p, q, rfl, rfl, ordered⟩
    · exact lt_top lt
    · exact absurd lt (by simp [minus, lt_bottom])
    · exact lt_of_lt_of_le lt (rounded_mono (sub_le_sub_right ordered w))

end SelfConnect.Python.Number
