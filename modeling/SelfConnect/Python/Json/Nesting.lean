import SelfConnect.Python.Json.Limits

namespace SelfConnect.Python.Json

/-! What `json.loads` gives within the limits leaves the same room to `json.dumps`. -/

def isAtom : Value → Bool
  | .null | .bool _ | .int _ | .float _ => true
  | .str _ | .list _ | .dict _ => false

theorem isAtom_expect {word text rest : Text} {v w : Value} (atom : isAtom v = true)
    (scanned : expect word v text = some (w, rest)) : isAtom w = true := by
  rw [expect] at scanned
  split at scanned <;> cases scanned
  exact atom

theorem isAtom_scanNumber {negative : Bool} {text rest : Text} {v : Value}
    (scanned : scanNumber negative text = some (v, rest)) : isAtom v = true := by
  rw [scanNumber] at scanned
  split at scanned
  · cases scanned
  · dsimp only at scanned
    split at scanned
    · cases scanned
      rfl
    · split at scanned <;>
      · cases scanned
        rfl

theorem isAtom_scanAtom {text rest : Text} {v : Value}
    (scanned : scanAtom text = some (v, rest)) : isAtom v = true := by
  rw [scanAtom.eq_def] at scanned
  split at scanned
  · exact isAtom_expect rfl scanned
  · exact isAtom_expect rfl scanned
  · exact isAtom_expect rfl scanned
  · exact isAtom_expect rfl scanned
  · exact isAtom_expect rfl scanned
  · exact isAtom_expect rfl scanned
  · exact isAtom_scanNumber scanned
  · exact isAtom_scanNumber scanned

theorem fits_scanAtomWithin {levels : Nat} {text : Text} {result : Value × Text}
    (scanned : scanAtomWithin text = .ok result) : Fits levels result.1 := by
  unfold scanAtomWithin at scanned
  split at scanned
  · cases scanned
  · next n rest found =>
      split at scanned
      · cases scanned
      · next short =>
          cases scanned
          cases levels <;> exact Nat.not_lt.mp short
  · next other notInt found =>
      cases scanned
      obtain ⟨v, rest⟩ := result
      have atom := isAtom_scanAtom found
      cases v with
      | int n => exact absurd rfl (notInt n rest)
      | null | bool | float => cases levels <;> trivial
      | str | list | dict => cases atom

/-- Whatever was scanned within the limits fits into them. -/
structure Fitting (fuel : Nat) : Prop where
  value : ∀ levels text result, scanValueWithin fuel levels text = .ok result →
    Fits levels result.1
  items : ∀ levels text result, scanItemsWithin fuel levels text = .ok result →
    FitsItems levels result.1
  members : ∀ levels text result, scanMembersWithin fuel levels text = .ok result →
    FitsMembers levels result.1

theorem fitting_zero : Fitting 0 where
  value _ _ _ scanned := by cases scanned
  items _ _ _ scanned := by cases scanned
  members _ _ _ scanned := by cases scanned

theorem map_eq_ok {ε α β : Type} {result : Except ε α} {f : α → β} {b : β}
    (mapped : result.map f = .ok b) : ∃ a, result = .ok a ∧ f a = b := by
  cases result with
  | error e => cases mapped
  | ok a => exact ⟨a, rfl, Except.ok.inj mapped⟩

theorem fitting_succ {fuel : Nat} (below : Fitting fuel) : Fitting (fuel + 1) where
  value levels text result scanned := by
    rw [scanValueWithin.eq_def] at scanned
    dsimp only at scanned
    split at scanned
    · split at scanned <;> cases scanned
      cases levels <;> trivial
    · cases levels with
      | zero => cases scanned
      | succ levels =>
          dsimp only at scanned
          split at scanned
          · cases scanned
            trivial
          · obtain ⟨items, found, rfl⟩ := map_eq_ok scanned
            exact below.items _ _ _ found
    · cases levels with
      | zero => cases scanned
      | succ levels =>
          dsimp only at scanned
          split at scanned
          · cases scanned
            trivial
          · obtain ⟨members, found, rfl⟩ := map_eq_ok scanned
            exact below.members _ _ _ found
    · exact fits_scanAtomWithin scanned
  items levels text result scanned := by
    rw [scanItemsWithin] at scanned
    split at scanned
    · cases scanned
    · next item after found =>
        have fits := below.value _ _ _ found
        split at scanned
        · cases scanned
          exact ⟨fits, trivial⟩
        · obtain ⟨items, rest, rfl⟩ := map_eq_ok scanned
          exact ⟨fits, below.items _ _ _ rest⟩
        · cases scanned
  members levels text result scanned := by
    rw [scanMembersWithin.eq_def] at scanned
    dsimp only at scanned
    split at scanned
    · split at scanned
      · cases scanned
      · split at scanned
        · split at scanned
          · cases scanned
          · next value after found =>
              have fits := below.value _ _ _ found
              split at scanned
              · cases scanned
                exact ⟨fits, trivial⟩
              · obtain ⟨members, rest, rfl⟩ := map_eq_ok scanned
                exact ⟨fits, below.members _ _ _ rest⟩
              · cases scanned
        · cases scanned
    · cases scanned

theorem fitting (fuel : Nat) : Fitting fuel := by
  induction fuel with
  | zero => exact fitting_zero
  | succ fuel ih => exact fitting_succ ih

/-! Building the dicts keeps the room. -/

theorem fitsMembers_set {levels : Nat} {key : Str} {v : Value} {members : Members}
    (fits : Fits levels v) (all : FitsMembers levels members) :
    FitsMembers levels (Members.set key v members) := by
  induction members with
  | nil => exact ⟨fits, trivial⟩
  | cons entry rest ih =>
      obtain ⟨k, w⟩ := entry
      rw [Members.set]
      split
      · exact ⟨fits, all.2⟩
      · exact ⟨all.1, ih all.2⟩

theorem fitsMembers_setAll {levels : Nat} {members entries : Members}
    (before : FitsMembers levels members) (all : FitsMembers levels entries) :
    FitsMembers levels (setAll members entries) := by
  induction entries generalizing members with
  | nil => exact before
  | cons entry rest ih =>
      obtain ⟨k, v⟩ := entry
      cases k with
      | str s => exact ih (fitsMembers_set all.1 before) all.2
      | null | bool | int | float => exact ih before all.2

mutual
theorem fits_build (levels : Nat) : (v : Value) → Fits levels v → Fits levels (build v)
  | .null, fits => fits
  | .bool _, fits => fits
  | .int _, fits => fits
  | .float _, fits => fits
  | .str _, fits => fits
  | .list items, fits => by
      cases levels with
      | zero => exact fits
      | succ below => exact fitsItems_build below items fits
  | .dict members, fits => by
      cases levels with
      | zero => exact fits
      | succ below => exact fitsMembers_setAll trivial (fitsMembers_build below members fits)

private theorem fitsItems_build (levels : Nat) :
    (items : List Value) → FitsItems levels items → FitsItems levels (buildItems items)
  | [], _ => trivial
  | v :: rest, fits => ⟨fits_build levels v fits.1, fitsItems_build levels rest fits.2⟩

private theorem fitsMembers_build (levels : Nat) :
    (members : Members) → FitsMembers levels members → FitsMembers levels (buildMembers members)
  | [], _ => trivial
  | (_, v) :: rest, fits => ⟨fits_build levels v fits.1, fitsMembers_build levels rest fits.2⟩
end

theorem fits_of_loadsWithin {interpreter : Interpreter} {text : Text} {v : Value}
    (loaded : loadsWithin interpreter text = .ok v) : Fits interpreter.nesting v := by
  obtain ⟨tree, parsed, rfl⟩ := map_eq_ok loaded
  rw [parseWithin] at parsed
  split at parsed
  · next value rest scanned =>
      split at parsed <;> cases parsed
      exact fits_build _ _ ((fitting _).value _ _ _ scanned)
  · cases parsed

theorem fitsMembers_iff {levels : Nat} {members : Members} :
    FitsMembers levels members ↔ ∀ k v, (k, v) ∈ members → Fits levels v := by
  induction members with
  | nil => simp [FitsMembers]
  | cons entry rest ih =>
      obtain ⟨key, value⟩ := entry
      rw [FitsMembers, ih]
      constructor
      · rintro ⟨first, below⟩ k v member
        rcases List.mem_cons.mp member with same | later
        · cases same
          exact first
        · exact below k v later
      · intro all
        exact ⟨all key value List.mem_cons_self,
          fun k v member => all k v (List.mem_cons_of_mem _ member)⟩

/-- A member takes one level less than the dict it is in. -/
theorem fits_get? {levels : Nat} {v w : Value} {key : String} (fits : Fits (levels + 1) v)
    (found : v.get? key = some w) : Fits levels w := by
  cases v with
  | dict members => exact fitsMembers_iff.mp fits _ _ (Members.mem_of_lookup found)
  | null | bool | int | float | str | list => cases found

end SelfConnect.Python.Json
