import Mathlib.Data.List.DropRight

namespace SelfConnect.Library

/-! A window that slides over a sequence. An element leaves it when it has expired, and the
oldest leave it when there are too many. -/

variable {α : Type}

/-- The window after one more element. -/
def slide (expired : α → α → Bool) (most : Nat) (window : List α) (now : α) : List α :=
  ((window ++ [now]).dropWhile (expired now)).rtake most

/-- What is older expires first, and what has expired stays so. -/
structure Aging (le : α → α → Prop) (expired : α → α → Bool) : Prop where
  older : ∀ {now x y}, le x y → expired now y = true → expired now x = true
  later : ∀ {now after x}, le now after → expired now x = true → expired after x = true

section Drop

variable {p q : α → Bool}

theorem dropWhile_eq_self {xs : List α} (fresh : ∀ x ∈ xs, p x = false) : xs.dropWhile p = xs := by
  cases xs with
  | nil => rfl
  | cons x rest => rw [List.dropWhile_cons_of_neg (by simp [fresh x List.mem_cons_self])]

/-- What a weaker test has dropped, a stronger one drops as well. -/
theorem dropWhile_dropWhile {xs : List α} (implies : ∀ x ∈ xs, p x = true → q x = true) :
    (xs.dropWhile p).dropWhile q = xs.dropWhile q := by
  induction xs with
  | nil => rfl
  | cons x rest ih =>
      cases isP : p x with
      | true =>
          rw [List.dropWhile_cons_of_pos isP,
            List.dropWhile_cons_of_pos (implies x List.mem_cons_self isP)]
          exact ih fun y member => implies y (List.mem_cons_of_mem _ member)
      | false => rw [List.dropWhile_cons_of_neg (by simp [isP])]

theorem dropWhile_eq_filter {le : α → α → Prop} {xs : List α} (sorted : xs.Pairwise le)
    (older : ∀ {x y}, le x y → p y = true → p x = true) :
    xs.dropWhile p = xs.filter fun x => !p x := by
  induction xs with
  | nil => rfl
  | cons x rest ih =>
      obtain ⟨first, restSorted⟩ := List.pairwise_cons.mp sorted
      cases isP : p x with
      | true =>
          rw [List.dropWhile_cons_of_pos isP, List.filter_cons_of_neg (by simp [isP])]
          exact ih restSorted
      | false =>
          have fresh (y : α) (member : y ∈ x :: rest) : p y = false := by
            rcases List.mem_cons.mp member with same | later
            · rw [same, isP]
            · exact Bool.eq_false_iff.mpr fun gone =>
                absurd (older (first y later) gone) (by simp [isP])
          rw [List.dropWhile_cons_of_neg (by simp [isP])]
          exact (List.filter_eq_self.mpr fun y member => by simp [fresh y member]).symm

theorem rtake_append {xs ys : List α} {most : Nat} (fits : most ≤ ys.length) :
    (xs ++ ys).rtake most = ys.rtake most := by
  unfold List.rtake
  rw [List.length_append, Nat.add_sub_assoc fits, List.drop_append]
  simp

theorem length_rtake (xs : List α) (most : Nat) : (xs.rtake most).length = min most xs.length := by
  unfold List.rtake
  rw [List.length_drop]
  omega

theorem rtake_eq_self {xs : List α} {most : Nat} (fits : xs.length ≤ most) :
    xs.rtake most = xs := by
  unfold List.rtake
  rw [Nat.sub_eq_zero_of_le fits, List.drop_zero]

/-- Elements in front of enough others make no difference to what is left at the end. -/
theorem rtake_dropWhile_append {le : α → α → Prop} {xs ys : List α} {most : Nat}
    (sorted : (xs ++ ys).Pairwise le) (older : ∀ {x y}, le x y → p y = true → p x = true)
    (fits : most ≤ ys.length) :
    ((xs ++ ys).dropWhile p).rtake most = (ys.dropWhile p).rtake most := by
  rw [List.dropWhile_append]
  split
  · rfl
  · next isLeft =>
      have isSome : xs.dropWhile p ≠ [] := fun none => isLeft (List.isEmpty_iff.mpr none)
      obtain ⟨x, rest, isRest⟩ := List.exists_cons_of_ne_nil isSome
      have isFresh : p x = false := by
        have head := List.head_dropWhile_not p isSome
        simpa [isRest] using head
      have member : x ∈ xs := (List.dropWhile_sublist p).mem (isRest ▸ List.mem_cons_self)
      have fresh (y : α) (isLater : y ∈ ys) : p y = false :=
        Bool.eq_false_iff.mpr fun gone => absurd
          (older ((List.pairwise_append.mp sorted).2.2 x member y isLater) gone) (by simp [isFresh])
      rw [rtake_append fits, dropWhile_eq_self fresh]

end Drop

variable {le : α → α → Prop} {expired : α → α → Bool} {most : Nat}

theorem slide_slide (aging : Aging le expired) {xs : List α} {now after : α}
    (isLater : le now after) (sorted : (xs ++ [after]).Pairwise le) :
    slide expired most ((xs.dropWhile (expired now)).rtake most) after =
      ((xs ++ [after]).dropWhile (expired after)).rtake most := by
  have same : (xs ++ [after]).dropWhile (expired after) =
      (xs.dropWhile (expired now) ++ [after]).dropWhile (expired after) := by
    rw [List.dropWhile_append, List.dropWhile_append,
      dropWhile_dropWhile fun x _ gone => aging.later isLater gone]
  rw [same]
  unfold slide
  have freshSorted : (xs.dropWhile (expired now) ++ [after]).Pairwise le :=
    sorted.sublist ((List.dropWhile_sublist _).append_right _)
  generalize xs.dropWhile (expired now) = fresh at freshSorted
  rcases Nat.le_total fresh.length most with fits | tooMany
  · rw [rtake_eq_self fits]
  · have isSplit : fresh ++ [after] =
        fresh.take (fresh.length - most) ++ (fresh.rtake most ++ [after]) := by
      rw [← List.append_assoc]
      exact congrArg (· ++ [after]) (List.take_append_drop ..).symm
    have fits : most ≤ (fresh.rtake most ++ [after]).length := by
      rw [List.length_append, length_rtake, Nat.min_eq_left tooMany]
      exact Nat.le_add_right ..
    rw [isSplit] at freshSorted
    rw [isSplit]
    exact (rtake_dropWhile_append freshSorted (fun le gone => aging.older le gone) fits).symm

/-- The window is the end of what has not expired of the whole sequence. -/
theorem foldl_slide (aging : Aging le expired) {xs : List α} {now : α}
    (sorted : (xs ++ [now]).Pairwise le) :
    (xs ++ [now]).foldl (slide expired most) [] =
      ((xs ++ [now]).filter fun x => !expired now x).rtake most := by
  rw [← dropWhile_eq_filter sorted aging.older]
  induction xs using List.reverseRecOn generalizing now with
  | nil => rfl
  | append_singleton front last ih =>
      rw [List.foldl_append, ih (sorted.sublist (List.sublist_append_left ..))]
      have isLater : le last now :=
        (List.pairwise_append.mp sorted).2.2 last (by simp) now List.mem_cons_self
      exact slide_slide aging isLater sorted

end SelfConnect.Library
