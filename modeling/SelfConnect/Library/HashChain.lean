import Mathlib.Data.List.Basic

namespace SelfConnect.Library

/-! Hash-chained logs: every entry carries the hash of the entry before it, and
the first one a fixed genesis hash. -/

structure HashChain (Entry Hash : Type) where
  genesis : Hash
  previous : Entry → Hash
  hash : Entry → Hash

namespace HashChain

variable {Entry Hash : Type} (chain : HashChain Entry Hash)

/-- The entries follow one another, the first of them after `tip`. -/
def Linked : Hash → List Entry → Prop
  | _, [] => True
  | tip, entry :: rest => chain.previous entry = tip ∧ Linked (chain.hash entry) rest

/-- The hash the next entry has to carry. -/
def tipAfter (tip : Hash) (entries : List Entry) : Hash :=
  entries.foldl (fun _ entry => chain.hash entry) tip

@[simp] theorem tipAfter_nil (tip : Hash) : chain.tipAfter tip [] = tip := rfl

@[simp] theorem tipAfter_cons (tip : Hash) (entry : Entry) (rest : List Entry) :
    chain.tipAfter tip (entry :: rest) = chain.tipAfter (chain.hash entry) rest := rfl

@[simp] theorem tipAfter_snoc (tip : Hash) (entries : List Entry) (entry : Entry) :
    chain.tipAfter tip (entries ++ [entry]) = chain.hash entry := by
  simp [tipAfter]

theorem linked_append (tip : Hash) (first second : List Entry) :
    chain.Linked tip (first ++ second) ↔
      chain.Linked tip first ∧ chain.Linked (chain.tipAfter tip first) second := by
  induction first generalizing tip with
  | nil => simp [Linked]
  | cons entry rest ih => simp [Linked, ih, and_assoc]

theorem linked_snoc (tip : Hash) (entries : List Entry) (entry : Entry) :
    chain.Linked tip (entries ++ [entry]) ↔
      chain.Linked tip entries ∧ chain.previous entry = chain.tipAfter tip entries := by
  simp [linked_append, Linked]

end HashChain

/-- The sequence numbers of the first `n` entries. -/
def numbering (n : Nat) : List Int :=
  (List.range n).map fun i : Nat => (i : Int) + 1

theorem numbering_succ (n : Nat) : numbering (n + 1) = numbering n ++ [(n : Int) + 1] := by
  simp [numbering, List.range_succ]

@[simp] theorem length_numbering (n : Nat) : (numbering n).length = n := by
  simp [numbering]

theorem mem_numbering {n : Nat} {number : Int} :
    number ∈ numbering n ↔ 1 ≤ number ∧ number ≤ n := by
  simp only [numbering, List.mem_map, List.mem_range]
  constructor
  · rintro ⟨i, bound, rfl⟩
    omega
  · rintro ⟨low, high⟩
    exact ⟨(number - 1).toNat, by omega, by omega⟩

theorem numbering_ascending (n : Nat) : (numbering n).Pairwise (· < ·) := by
  rw [numbering, List.pairwise_map]
  exact List.pairwise_lt_range.imp fun before => by omega

end SelfConnect.Library
