import Mathlib.Logic.Basic

namespace SelfConnect.Library

/-! Computations that return or raise: what a bind returned, and two of them side by
side. -/

theorem bind_eq_ok {ε α β : Type} {e : Except ε α} {f : α → Except ε β} {b : β} :
    e >>= f = .ok b ↔ ∃ a, e = .ok a ∧ f a = .ok b := by
  cases e with
  | error raised =>
      constructor
      · intro found
        cases found
      · intro found
        obtain ⟨a, same, -⟩ := found
        cases same
  | ok a =>
      constructor
      · exact fun found => ⟨a, rfl, found⟩
      · intro found
        obtain ⟨a', same, found⟩ := found
        cases same
        exact found

theorem bind_eq_error {ε α β : Type} {e : Except ε α} {f : α → Except ε β} {raised : ε} :
    e >>= f = .error raised ↔ e = .error raised ∨ ∃ a, e = .ok a ∧ f a = .error raised := by
  cases e with
  | error other =>
      constructor
      · intro found
        cases found
        exact Or.inl rfl
      · rintro (found | ⟨a, same, -⟩)
        · cases found
          rfl
        · cases same
  | ok a =>
      constructor
      · exact fun found => Or.inr ⟨a, rfl, found⟩
      · rintro (found | ⟨a', same, found⟩)
        · cases found
        · cases same
          exact found

def insist {ε : Type} (condition : Bool) (e : ε) : Except ε Unit :=
  if condition then .ok () else .error e

def present {ε α : Type} (result : Option α) (e : ε) : Except ε α :=
  match result with
  | some a => .ok a
  | none => .error e

theorem insist_eq_ok {ε : Type} {condition : Bool} {e : ε} {u : Unit} :
    insist condition e = .ok u ↔ condition = true := by
  cases condition with
  | false => exact iff_of_false (fun same => by cases same) Bool.false_ne_true
  | true => exact iff_of_true rfl rfl

theorem present_eq_ok {ε α : Type} {result : Option α} {e : ε} {a : α} :
    present result e = .ok a ↔ result = some a := by
  cases result with
  | none => exact iff_of_false (fun same => by cases same) fun same => by cases same
  | some b => exact ⟨fun same => by cases same; rfl, fun same => by cases same; rfl⟩

theorem mapError_eq_ok {ε δ α : Type} {e : Except ε α} {f : ε → δ} {a : α} :
    e.mapError f = .ok a ↔ e = .ok a := by
  cases e with
  | error raised => exact iff_of_false (fun same => by cases same) fun same => by cases same
  | ok b => exact ⟨fun same => by cases same; rfl, fun same => by cases same; rfl⟩

theorem insist_eq_error {ε : Type} {condition : Bool} {e raised : ε} :
    insist condition e = .error raised ↔ condition = false ∧ raised = e := by
  cases condition with
  | false => exact ⟨fun same => by cases same; exact ⟨rfl, rfl⟩, fun both => by rw [both.2]; rfl⟩
  | true => exact iff_of_false (fun same => by cases same) fun both => by cases both.1

theorem present_eq_error {ε α : Type} {result : Option α} {e raised : ε} :
    present result e = .error raised ↔ result = none ∧ raised = e := by
  cases result with
  | none => exact ⟨fun same => by cases same; exact ⟨rfl, rfl⟩, fun both => by rw [both.2]; rfl⟩
  | some a => exact iff_of_false (fun same => by cases same) fun both => by cases both.1

/-- Both raise the same, or both return and the results are related. -/
def Agrees {ε α β : Type} (related : α → β → Prop) : Except ε α → Except ε β → Prop
  | .ok first, .ok second => related first second
  | .error first, .error second => first = second
  | _, _ => False

theorem Agrees.bind {ε α β γ δ : Type} {related : α → β → Prop} {related' : γ → δ → Prop}
    {first : Except ε α} {second : Except ε β} (agrees : Agrees related first second)
    {next : α → Except ε γ} {next' : β → Except ε δ}
    (further : ∀ a b, related a b → Agrees related' (next a) (next' b)) :
    Agrees related' (first >>= next) (second >>= next') := by
  cases first with
  | error raised =>
      cases second with
      | error raised' => exact agrees
      | ok b => cases agrees
  | ok a =>
      cases second with
      | error raised' => cases agrees
      | ok b => exact further a b agrees

theorem agrees_of_eq {ε α : Type} {first second : Except ε α} (equal : first = second) :
    Agrees Eq first second := by
  rw [equal]
  cases second <;> exact rfl

end SelfConnect.Library
