import Mathlib.Data.List.Basic
import Mathlib.Data.List.Nodup

namespace SelfConnect.Python

/-! Python dicts: a key keeps the place at which it was first set. -/

structure Dict (κ ν : Type) where
  entries : List (κ × ν)
  nodup : (entries.map Prod.fst).Nodup

namespace Dict

variable {κ ν : Type} [DecidableEq κ]

def empty : Dict κ ν := ⟨[], List.nodup_nil⟩

def keys (dict : Dict κ ν) : List κ := dict.entries.map Prod.fst

def values (dict : Dict κ ν) : List ν := dict.entries.map Prod.snd

def get? (dict : Dict κ ν) (key : κ) : Option ν :=
  (dict.entries.find? fun entry => entry.1 = key).map Prod.snd

def getD (dict : Dict κ ν) (key : κ) (default : ν) : ν := (dict.get? key).getD default

def replaced (entries : List (κ × ν)) (key : κ) (value : ν) : List (κ × ν) :=
  entries.map fun entry => if entry.1 = key then (key, value) else entry

theorem keys_replaced (entries : List (κ × ν)) (key : κ) (value : ν) :
    (replaced entries key value).map Prod.fst = entries.map Prod.fst := by
  rw [replaced, List.map_map]
  apply List.map_congr_left
  intro entry _
  rw [Function.comp_apply]
  split
  · next same => exact same.symm
  · rfl

def set (dict : Dict κ ν) (key : κ) (value : ν) : Dict κ ν :=
  if present : key ∈ dict.keys then
    ⟨replaced dict.entries key value, by rw [keys_replaced]; exact dict.nodup⟩
  else
    ⟨dict.entries ++ [(key, value)], by
      rw [List.map_append]
      apply List.nodup_append.mpr
      refine ⟨dict.nodup, List.nodup_singleton _, ?_⟩
      intro first firstMember second secondMember same
      rw [List.mem_singleton.mp secondMember] at same
      rw [same] at firstMember
      exact present firstMember⟩

/-- `del` of every key that is not kept. -/
def filter (dict : Dict κ ν) (keeps : κ → ν → Bool) : Dict κ ν where
  entries := dict.entries.filter fun entry => keeps entry.1 entry.2
  nodup := dict.nodup.sublist (List.filter_sublist.map Prod.fst)

def mapValues {μ : Type} (dict : Dict κ ν) (f : ν → μ) : Dict κ μ where
  entries := dict.entries.map fun entry => (entry.1, f entry.2)
  nodup := by
    rw [List.map_map]
    exact dict.nodup

variable {dict : Dict κ ν} {key other : κ} {value : ν}

theorem get?_eq_some_iff : dict.get? key = some value ↔ (key, value) ∈ dict.entries := by
  constructor
  · intro found
    obtain ⟨entry, isFound, isValue⟩ := Option.map_eq_some_iff.mp found
    have isKey : entry.1 = key := by simpa using List.find?_some isFound
    have same : entry = (key, value) := Prod.ext isKey isValue
    rw [← same]
    exact List.mem_of_find?_eq_some isFound
  · intro member
    cases found : dict.entries.find? fun entry => entry.1 = key with
    | none =>
        have absent := List.find?_eq_none.mp found _ member
        simp at absent
    | some entry =>
        have isKey : entry.1 = key := by simpa using List.find?_some found
        have same : entry = (key, value) :=
          List.inj_on_of_nodup_map dict.nodup (List.mem_of_find?_eq_some found) member isKey
        rw [get?, found, same]
        rfl

theorem get?_eq_none_iff : dict.get? key = none ↔ key ∉ dict.keys := by
  constructor
  · intro absent present
    obtain ⟨entry, member, isKey⟩ := List.mem_map.mp present
    have found : dict.get? key = some entry.2 := by
      rw [← isKey]
      exact get?_eq_some_iff.mpr member
    rw [absent] at found
    cases found
  · intro absent
    cases found : dict.get? key with
    | none => rfl
    | some value =>
        exact absurd (List.mem_map_of_mem (get?_eq_some_iff.mp found)) absent

@[simp] theorem get?_empty : (empty : Dict κ ν).get? key = none := rfl

theorem get?_set (dict : Dict κ ν) (key other : κ) (value : ν) :
    (dict.set key value).get? other = if other = key then some value else dict.get? other := by
  by_cases present : key ∈ dict.keys
  · have entries : (dict.set key value).entries = replaced dict.entries key value := by
      rw [set, dif_pos present]
    by_cases same : other = key
    · rw [if_pos same, same]
      apply get?_eq_some_iff.mpr
      rw [entries]
      obtain ⟨entry, member, isKey⟩ := List.mem_map.mp present
      exact List.mem_map.mpr ⟨entry, member, if_pos isKey⟩
    · rw [if_neg same]
      ext v
      rw [get?_eq_some_iff, get?_eq_some_iff, entries, replaced, List.mem_map]
      constructor
      · intro changed
        obtain ⟨entry, member, isEntry⟩ := changed
        split at isEntry
        · cases isEntry
          exact absurd rfl same
        · rw [← isEntry]
          exact member
      · exact fun member => ⟨_, member, if_neg same⟩
  · have entries : (dict.set key value).entries = dict.entries ++ [(key, value)] := by
      rw [set, dif_neg present]
    ext v
    rw [get?_eq_some_iff, entries, List.mem_append, List.mem_singleton]
    by_cases same : other = key
    · rw [if_pos same, same]
      constructor
      · intro member
        rcases member with earlier | last
        · exact absurd (List.mem_map_of_mem earlier) present
        · cases last
          rfl
      · intro isValue
        cases isValue
        exact .inr rfl
    · rw [if_neg same, get?_eq_some_iff]
      constructor
      · intro member
        rcases member with earlier | last
        · exact earlier
        · cases last
          exact absurd rfl same
      · exact .inl

@[simp] theorem get?_set_self : (dict.set key value).get? key = some value := by
  rw [get?_set, if_pos rfl]

theorem get?_set_of_ne (differs : other ≠ key) :
    (dict.set key value).get? other = dict.get? other := by
  rw [get?_set, if_neg differs]

theorem get?_filter (keeps : κ → ν → Bool) :
    (dict.filter keeps).get? key = (dict.get? key).filter (keeps key) := by
  ext value
  rw [get?_eq_some_iff, filter, List.mem_filter, Option.filter_eq_some_iff, get?_eq_some_iff]

theorem get?_mapValues {μ : Type} (f : ν → μ) :
    (dict.mapValues f).get? key = (dict.get? key).map f := by
  rw [get?, mapValues, List.find?_map, get?, Option.map_map, Option.map_map]
  rfl

end Dict

end SelfConnect.Python
