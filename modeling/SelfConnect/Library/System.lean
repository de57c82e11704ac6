import Mathlib.Logic.Relation

namespace SelfConnect.Library

/-! Labelled transition systems, their runs and their invariants. -/

structure System (State Label : Type) where
  initial : State → Prop
  next : State → Label → State → Prop

namespace System

variable {State Label : Type} (system : System State Label)

/-- A run from an initial state, with the labels it took in order. -/
inductive Run : List Label → State → Prop
  | start {s : State} : system.initial s → Run [] s
  | step {labels : List Label} {s t : State} {label : Label} :
      Run labels s → system.next s label t → Run (labels ++ [label]) t

def Reachable (s : State) : Prop :=
  ∃ labels, system.Run labels s

/-- The same system, from one state on. -/
def since (s : State) : System State Label := { system with initial := fun t => t = s }

/-- The same system, where only the steps that meet a condition are taken. -/
def under (guard : State → Label → Prop) : System State Label :=
  { system with next := fun s label t => guard s label ∧ system.next s label t }

variable {system}

theorem Run.initial {s : State} (run : system.Run [] s) : system.initial s := by
  generalize isNil : [] = labels at run
  cases run with
  | start first => exact first
  | step before next => simp at isNil

/-- What holds initially and after every step holds in every state reached. -/
theorem Run.invariant {inv : State → Prop} (initially : ∀ s, system.initial s → inv s)
    (preserved : ∀ s label t, inv s → system.next s label t → inv t)
    {labels : List Label} {s : State} (run : system.Run labels s) : inv s := by
  induction run with
  | start first => exact initially _ first
  | step _ next ih => exact preserved _ _ _ ih next

/-- An invariant that needs the labels of the run to be as wanted. -/
theorem Run.invariant_of {inv : State → Prop} {wanted : Label → Prop}
    (initially : ∀ s, system.initial s → inv s)
    (preserved : ∀ s label t, inv s → wanted label → system.next s label t → inv t)
    {labels : List Label} {s : State} (run : system.Run labels s)
    (all : ∀ label ∈ labels, wanted label) : inv s := by
  induction run with
  | start first => exact initially _ first
  | @step labels s t label _ next ih =>
      exact preserved _ _ _ (ih fun other member => all other (by simp [member]))
        (all label (by simp)) next

/-- Every step of a run is taken from a state in which its label is allowed. -/
def Guarded (system : System State Label) (guard : State → Label → Prop)
    (labels : List Label) : Prop :=
  ∀ front label rest s, labels = front ++ label :: rest → system.Run front s → guard s label

theorem Guarded.of_forall {guard : State → Label → Prop} {labels : List Label}
    (allowed : ∀ s, ∀ label ∈ labels, guard s label) : system.Guarded guard labels := by
  intro front label rest s split _
  refine allowed s label ?_
  rw [split]
  exact List.mem_append_right _ List.mem_cons_self

theorem Guarded.front {guard : State → Label → Prop} {labels : List Label} {label : Label}
    (guarded : system.Guarded guard (labels ++ [label])) : system.Guarded guard labels := by
  intro front other rest s split run
  refine guarded front other (rest ++ [label]) s ?_ run
  rw [split, List.append_assoc, List.cons_append]

theorem Guarded.nil {guard : State → Label → Prop} : system.Guarded guard [] := by
  intro front label rest s split _
  cases front <;> cases split

theorem Guarded.snoc {guard : State → Label → Prop} {labels : List Label} {label : Label}
    (guarded : system.Guarded guard labels) (last : ∀ s, system.Run labels s → guard s label) :
    system.Guarded guard (labels ++ [label]) := by
  intro front other rest s split run
  rcases List.eq_nil_or_concat rest with isNil | ⟨shorter, final, isConcat⟩
  · rw [isNil] at split
    obtain ⟨same, isLast⟩ := List.append_inj' split rfl
    cases isLast
    rw [← same] at run
    exact last s run
  · rw [isConcat, List.concat_eq_append, ← List.cons_append, ← List.append_assoc] at split
    exact guarded front other shorter s (List.append_inj' split rfl).1 run

/-- An invariant that needs the steps of the run to be guarded. -/
theorem Run.invariant_guarded {inv : State → Prop} {guard : State → Label → Prop}
    (initially : ∀ s, system.initial s → inv s)
    (preserved : ∀ s label t, inv s → guard s label → system.next s label t → inv t)
    {labels : List Label} {s : State} (run : system.Run labels s)
    (guarded : system.Guarded guard labels) : inv s := by
  induction run with
  | start first => exact initially _ first
  | @step labels s t label before next ih =>
      exact preserved _ _ _ (ih guarded.front) (guarded labels label [] s rfl before) next

theorem Run.of_under {guard : State → Label → Prop} {labels : List Label} {s : State}
    (run : (system.under guard).Run labels s) : system.Run labels s := by
  induction run with
  | start first => exact .start first
  | step _ next ih => exact ih.step next.2

theorem Run.nil (s : State) : (system.since s).Run [] s := .start rfl

/-- A run from the next state on is one from this state on. -/
theorem Run.cons {s t last : State} {label : Label} {labels : List Label}
    (next : system.next s label t) (run : (system.since t).Run labels last) :
    (system.since s).Run (label :: labels) last := by
  induction run with
  | start isFirst => exact isFirst ▸ (Run.nil s).step next
  | step _ next ih => exact ih.step next

theorem Run.of_since {s t : State} {labels : List Label} (first : system.initial s)
    (run : (system.since s).Run labels t) : system.Run labels t := by
  induction run with
  | start isFirst => exact .start (isFirst ▸ first)
  | step _ next ih => exact ih.step next

/-- A run goes on from where another ends. -/
theorem Run.append {front labels : List Label} {s t : State} (run : system.Run front s)
    (further : (system.since s).Run labels t) : system.Run (front ++ labels) t := by
  induction further with
  | start isFirst =>
      rw [List.append_nil]
      exact isFirst ▸ run
  | step _ next ih =>
      rw [← List.append_assoc]
      exact ih.step next

/-- A run can be computed where a function finds the next state. -/
theorem Run.fold {find : State → Label → Option State}
    (finds : ∀ s label t, find s label = some t → system.next s label t)
    {front labels : List Label} {s t : State} (run : system.Run front s)
    (found : labels.foldlM find s = some t) : system.Run (front ++ labels) t := by
  induction labels generalizing front s with
  | nil =>
      cases found
      rw [List.append_nil]
      exact run
  | cons label rest ih =>
      rw [List.foldlM_cons] at found
      obtain ⟨u, isNext, rest_found⟩ := Option.bind_eq_some_iff.mp found
      rw [List.append_cons]
      exact ih (run.step (finds s label u isNext)) rest_found

end System

end SelfConnect.Library
