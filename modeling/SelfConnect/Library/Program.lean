import Mathlib.Logic.Basic

namespace SelfConnect.Library

/-! Programs over a state that may raise. The state a program has reached when
it raises is kept, as the attributes of an object are. -/

def Program (σ ε α : Type) : Type :=
  σ → Except ε α × σ

namespace Program

variable {σ ε α β : Type}

instance : Monad (Program σ ε) where
  pure a := fun s => (.ok a, s)
  bind p f := fun s =>
    match p s with
    | (.ok a, t) => f a t
    | (.error e, t) => (.error e, t)

def raise (e : ε) : Program σ ε α :=
  fun s => (.error e, s)

def get : Program σ ε σ :=
  fun s => (.ok s, s)

def modify (f : σ → σ) : Program σ ε Unit :=
  fun s => (.ok (), f s)

/-- Raise unless the condition holds. -/
def require (condition : Bool) (e : ε) : Program σ ε Unit :=
  if condition then pure () else raise e

/-- Run a program when the condition holds. -/
def when (condition : Bool) (p : Program σ ε Unit) : Program σ ε Unit :=
  if condition then p else pure ()

/-- Run a program and hand its exception to the caller as a value. -/
def attempt (p : Program σ ε α) : Program σ ε (Except ε α) :=
  fun s => (.ok (p s).1, (p s).2)

/-- Return a value that is already known, or raise. -/
def ofExcept : Except ε α → Program σ ε α
  | .ok a => pure a
  | .error e => raise e

/-- The weakest precondition: what must hold before, for the outcome and the
state after to be as wanted. -/
def wp (p : Program σ ε α) (post : Except ε α → σ → Prop) (s : σ) : Prop :=
  post (p s).1 (p s).2

theorem wp_mono {p : Program σ ε α} {post post' : Except ε α → σ → Prop} {s : σ}
    (holds : wp p post s) (weaker : ∀ r t, post r t → post' r t) : wp p post' s :=
  weaker _ _ holds

theorem wp_and {p : Program σ ε α} {post post' : Except ε α → σ → Prop} {s : σ}
    (first : wp p post s) (second : wp p post' s) :
    wp p (fun r t => post r t ∧ post' r t) s :=
  ⟨first, second⟩

@[simp] theorem wp_pure (a : α) (post : Except ε α → σ → Prop) (s : σ) :
    wp (pure a) post s ↔ post (.ok a) s := Iff.rfl

@[simp] theorem wp_raise (e : ε) (post : Except ε α → σ → Prop) (s : σ) :
    wp (raise e) post s ↔ post (.error e) s := Iff.rfl

@[simp] theorem wp_get (post : Except ε σ → σ → Prop) (s : σ) :
    wp get post s ↔ post (.ok s) s := Iff.rfl

@[simp] theorem wp_modify (f : σ → σ) (post : Except ε Unit → σ → Prop) (s : σ) :
    wp (modify f) post s ↔ post (.ok ()) (f s) := Iff.rfl

@[simp] theorem wp_attempt (p : Program σ ε α) (post : Except ε (Except ε α) → σ → Prop)
    (s : σ) : wp (attempt p) post s ↔ wp p (fun r t => post (.ok r) t) s := Iff.rfl

/-- What runs after a program: its continuation, or nothing when it raised. -/
def andThen (f : α → Program σ ε β) (post : Except ε β → σ → Prop) :
    Except ε α → σ → Prop
  | .ok a, t => wp (f a) post t
  | .error e, t => post (.error e) t

@[simp] theorem andThen_ok (f : α → Program σ ε β) (post : Except ε β → σ → Prop) (a : α)
    (t : σ) : andThen f post (.ok a) t ↔ wp (f a) post t := Iff.rfl

@[simp] theorem andThen_error (f : α → Program σ ε β) (post : Except ε β → σ → Prop) (e : ε)
    (t : σ) : andThen f post (.error e) t ↔ post (.error e) t := Iff.rfl

@[simp] theorem wp_bind (p : Program σ ε α) (f : α → Program σ ε β)
    (post : Except ε β → σ → Prop) (s : σ) :
    wp (p >>= f) post s ↔ wp p (andThen f post) s := by
  change post (bind p f s).1 (bind p f s).2 ↔ andThen f post (p s).1 (p s).2
  simp only [bind]
  split
  · next a t equal => simp [equal, wp]
  · next e t equal => simp [equal]

theorem wp_require (condition : Bool) (e : ε) (post : Except ε Unit → σ → Prop) (s : σ) :
    wp (require condition e) post s ↔
      (condition = true → post (.ok ()) s) ∧ (condition = false → post (.error e) s) := by
  cases condition <;> simp [require]

theorem wp_when (condition : Bool) (p : Program σ ε Unit) (post : Except ε Unit → σ → Prop)
    (s : σ) :
    wp (when condition p) post s ↔
      (condition = true → wp p post s) ∧ (condition = false → post (.ok ()) s) := by
  cases condition <;> simp [when]

@[simp] theorem wp_ofExcept (r : Except ε α) (post : Except ε α → σ → Prop) (s : σ) :
    wp (ofExcept r) post s ↔ post r s := by
  cases r <;> rfl

theorem wp_ite {condition : Prop} [Decidable condition] (p q : Program σ ε α)
    (post : Except ε α → σ → Prop) (s : σ) :
    wp (if condition then p else q) post s ↔
      (condition → wp p post s) ∧ (¬ condition → wp q post s) := by
  by_cases holds : condition <;> simp [holds]

/-- An invariant survives a program, whether it returns or raises. -/
def Keeps (inv : σ → Prop) (p : Program σ ε α) : Prop :=
  ∀ s, inv s → wp p (fun _ => inv) s

namespace Keeps

variable {inv : σ → Prop}

theorem pure (a : α) : Keeps inv (Pure.pure a : Program σ ε α) :=
  fun _ holds => holds

theorem raise (e : ε) : Keeps inv (Program.raise e : Program σ ε α) :=
  fun _ holds => holds

theorem bind {p : Program σ ε α} {f : α → Program σ ε β} (first : Keeps inv p)
    (second : ∀ a, Keeps inv (f a)) : Keeps inv (p >>= f) := by
  intro s holds
  rw [wp_bind]
  refine wp_mono (first s holds) ?_
  intro r t after
  cases r with
  | ok a => exact second a t after
  | error e => exact after

theorem attempt {p : Program σ ε α} (keeps : Keeps inv p) : Keeps inv (Program.attempt p) :=
  keeps

theorem modify {f : σ → σ} (keeps : ∀ s, inv s → inv (f s)) :
    Keeps inv (Program.modify f : Program σ ε Unit) :=
  keeps

theorem require (condition : Bool) (e : ε) :
    Keeps inv (Program.require condition e : Program σ ε Unit) := by
  intro s holds
  exact (wp_require _ _ _ _).mpr ⟨fun _ => holds, fun _ => holds⟩

theorem when (condition : Bool) {p : Program σ ε Unit} (keeps : Keeps inv p) :
    Keeps inv (Program.when condition p) := by
  intro s holds
  exact (wp_when _ _ _ _).mpr ⟨fun _ => keeps s holds, fun _ => holds⟩

theorem ofExcept (r : Except ε α) : Keeps inv (Program.ofExcept r : Program σ ε α) := by
  intro s holds
  exact (wp_ofExcept _ _ _).mpr holds

theorem get : Keeps inv (Program.get : Program σ ε σ) :=
  fun _ holds => holds

theorem ite {condition : Prop} [Decidable condition] {p q : Program σ ε α}
    (first : condition → Keeps inv p) (second : ¬ condition → Keeps inv q) :
    Keeps inv (if condition then p else q) := by
  by_cases holds : condition
  · rw [if_pos holds]
    exact first holds
  · rw [if_neg holds]
    exact second holds

end Keeps

end Program

end SelfConnect.Library
