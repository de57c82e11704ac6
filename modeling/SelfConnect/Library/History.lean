import Mathlib.Data.List.Basic

namespace SelfConnect.Library

/-! Histories: lists that only grow at their end. -/

/-- Every entry of a history stands well after those before it. -/
def Each {α : Type} (holds : List α → α → Prop) (history : List α) : Prop :=
  ∀ front entry rest, history = front ++ entry :: rest → holds front entry

namespace Each

variable {α : Type} {holds : List α → α → Prop}

theorem nil : Each holds [] := by
  intro front entry rest split
  cases front <;> cases split

theorem snoc {history : List α} (each : Each holds history) {entry : α}
    (last : holds history entry) : Each holds (history ++ [entry]) := by
  intro front other rest split
  rcases List.eq_nil_or_concat rest with isNil | ⟨shorter, final, isConcat⟩
  · rw [isNil] at split
    obtain ⟨same, isLast⟩ := List.append_inj' split rfl
    cases isLast
    rw [← same]
    exact last
  · rw [isConcat, List.concat_eq_append, ← List.cons_append, ← List.append_assoc] at split
    exact each front other shorter (List.append_inj' split rfl).1

theorem mono {holds' : List α → α → Prop} {history : List α} (each : Each holds history)
    (weaker : ∀ front entry rest, history = front ++ entry :: rest → holds front entry →
      holds' front entry) : Each holds' history :=
  fun front entry rest split => weaker front entry rest split (each front entry rest split)

end Each

end SelfConnect.Library
