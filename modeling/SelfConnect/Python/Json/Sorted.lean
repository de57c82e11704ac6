import SelfConnect.Python.Json.Document

namespace SelfConnect.Python.Json

/-! Documents that were dumped with sorted keys. Sorting the keys of a document once
more changes nothing, and neither does the order its entries were in before. -/

theorem sortValues_eq_map (members : Members) :
    sortValues members = members.map fun entry => (entry.1, sortKeys entry.2) := by
  induction members with
  | nil => rfl
  | cons entry rest ih =>
      obtain ⟨k, v⟩ := entry
      rw [sortValues, ih]
      rfl

theorem sortValues_sortMembers (members : Members) :
    sortValues (sortMembers members) = sortMembers (sortValues members) := by
  rw [sortValues_eq_map, sortValues_eq_map]
  apply List.map_insertionSort
  intro first _ second _
  exact Iff.rfl

/-- Entries with distinct string keys have one sorted order. -/
theorem sortMembers_eq_of_perm {members other : Members} (strings : StringKeys members)
    (distinct : (members.map Prod.fst).Nodup) (perm : members.Perm other) :
    sortMembers members = sortMembers other := by
  have keys : (members.map keyStr).map Key.str = members.map Prod.fst := by
    rw [List.map_map]
    apply List.map_congr_left
    intro entry member
    obtain ⟨s, isStr⟩ := strings.exists_str (v := entry.2) member
    exact (congrArg (fun k : Key => Key.str k.text) isStr).trans isStr.symm
  have nodup : (members.map keyStr).Nodup := by
    rw [← keys] at distinct
    exact distinct.of_map _
  have ascends : ∀ {entries : Members}, entries.Perm members →
      (sortMembers entries).Pairwise fun first second => keyStr first < keyStr second := by
    intro entries same
    rw [← List.pairwise_map (f := keyStr) (R := (· < ·))]
    apply ascending_sortMembers
    · intro k v member
      exact strings.exists_str (same.subset member)
    · exact (same.map keyStr).nodup_iff.mpr nodup
  exact (((sortMembers_perm _).trans perm).trans (sortMembers_perm _).symm).eq_of_pairwise
    (fun _ _ _ _ before after => absurd after (not_lt_of_gt before)) (ascends (List.Perm.refl _))
    (ascends perm.symm)

theorem IsJson.stringKeys {members : Members} (json : IsJson (.dict members)) :
    StringKeys members := by
  intro entry member
  obtain ⟨⟨s, isStr, -⟩, -⟩ := isJsonMembers_iff.mp json.2 entry.1 entry.2 member
  rw [isStr]
  rfl

theorem isJson_object {fields : List (String × Value)} (distinct : (fields.map Prod.fst).Nodup)
    (values : ∀ field ∈ fields, IsJson field.2) : IsJson (Value.object fields) := by
  have keys : (fields.map fun field => (Key.str (Str.lit field.1), field.2)).map Prod.fst =
      (fields.map Prod.fst).map fun name => Key.str (Str.lit name) := by
    rw [List.map_map, List.map_map]
    rfl
  refine ⟨?_, isJsonMembers_iff.mpr fun k v member => ?_⟩
  · rw [keys]
    exact distinct.map fun first second equal => by simpa using equal
  · obtain ⟨field, found, equal⟩ := List.mem_map.mp member
    cases equal
    exact ⟨⟨_, rfl, Str.joinSurrogates_lit _⟩, values field found⟩

mutual
theorem isJson_sortKeys : (v : Value) → IsJson v → IsJson (sortKeys v)
  | .null, _ => trivial
  | .bool _, _ => trivial
  | .int _, _ => trivial
  | .float _, _ => trivial
  | .str _, json => json
  | .list items, json => isJsonItems_sortItems items json
  | .dict members, json => by
      have perm := sortMembers_perm (sortValues members)
      refine ⟨?_, isJsonMembers_iff.mpr fun k v member => ?_⟩
      · rw [(perm.map Prod.fst).nodup_iff, keys_sortValues]
        exact json.1
      · exact isJsonMembers_iff.mp (isJsonMembers_sortValues members json.2) k v
          (perm.subset member)

private theorem isJsonItems_sortItems :
    (items : List Value) → IsJsonItems items → IsJsonItems (sortItems items)
  | [], _ => trivial
  | v :: rest, json => ⟨isJson_sortKeys v json.1, isJsonItems_sortItems rest json.2⟩

private theorem isJsonMembers_sortValues :
    (members : Members) → IsJsonMembers members → IsJsonMembers (sortValues members)
  | [], _ => trivial
  | (_, v) :: rest, json =>
      ⟨json.1, isJson_sortKeys v json.2.1, isJsonMembers_sortValues rest json.2.2⟩
end

mutual
theorem sortKeys_sortKeys : (v : Value) → IsJson v → sortKeys (sortKeys v) = sortKeys v
  | .null, _ => rfl
  | .bool _, _ => rfl
  | .int _, _ => rfl
  | .float _, _ => rfl
  | .str _, _ => rfl
  | .list items, json => congrArg Value.list (sortItems_sortItems items json)
  | .dict members, json => by
      have sorted := isJson_sortKeys (.dict members) json
      rw [sortKeys, sortKeys, sortValues_sortMembers, sortValues_sortValues members json.2]
      congr 1
      exact sortMembers_eq_of_perm sorted.stringKeys sorted.1 (sortMembers_perm _)

private theorem sortItems_sortItems :
    (items : List Value) → IsJsonItems items → sortItems (sortItems items) = sortItems items
  | [], _ => rfl
  | v :: rest, json => by
      simp only [sortItems]
      rw [sortKeys_sortKeys v json.1, sortItems_sortItems rest json.2]

private theorem sortValues_sortValues : (members : Members) → IsJsonMembers members →
    sortValues (sortValues members) = sortValues members
  | [], _ => rfl
  | (k, v) :: rest, json => by
      simp only [sortValues]
      rw [sortKeys_sortKeys v json.2.1, sortValues_sortValues rest json.2.2]
end

/-- What was dumped with sorted keys is read back with sorted keys. -/
theorem loads_render_sortKeys {style : Style} (ascii : style.ensureAscii = true) {v : Value}
    (json : IsJson v) : loads (render style (sortKeys v)) = some (sortKeys v) :=
  loads_render_of_isJson ascii (isJson_sortKeys v json)

/-! Looking up and removing entries of a sorted dict. -/

theorem isDict_sortKeys (v : Value) : (sortKeys v).isDict = v.isDict := by
  cases v <;> rfl

theorem dumpsSorted_of_isJson {v : Value} (json : IsJson v) :
    dumpsSorted .compact v = some (render .compact (sortKeys v)) := by
  rw [dumpsSorted, if_pos (sortable_of_stringKeyed _ (stringKeyed_of_isJson _ json))]

theorem lookup_of_mem {members : Members} (distinct : (members.map Prod.fst).Nodup) {key : Str}
    {v : Value} (member : (Key.str key, v) ∈ members) : Members.lookup key members = some v := by
  induction members with
  | nil => cases member
  | cons entry rest ih =>
      obtain ⟨k, w⟩ := entry
      obtain ⟨absent, distinctRest⟩ := List.nodup_cons.mp distinct
      rcases List.mem_cons.mp member with same | below
      · cases same
        simp [Members.lookup]
      · have differs : k ≠ .str key := by
          rintro rfl
          exact absent (List.mem_map.mpr ⟨_, below, rfl⟩)
        have found := ih distinctRest below
        cases k with
        | str s =>
            have other : s ≠ key := by simpa using differs
            simp [Members.lookup, other, found]
        | int | float | bool | null => simpa [Members.lookup] using found

theorem get?_sortKeys {v : Value} (json : IsJson v) (key : String) :
    (sortKeys v).get? key = (v.get? key).map sortKeys := by
  cases v with
  | dict members =>
      have sorted := isJson_sortKeys (.dict members) json
      change Members.lookup _ (sortMembers (sortValues members)) = _
      cases found : Members.lookup (Str.lit key) members with
      | some w =>
          have member := Members.mem_of_lookup found
          rw [Value.get?_dict, found]
          refine lookup_of_mem sorted.1 ((sortMembers_perm _).mem_iff.mpr ?_)
          rw [sortValues_eq_map]
          exact List.mem_map.mpr ⟨_, member, rfl⟩
      | none =>
          rw [Value.get?_dict, found]
          apply Members.lookup_eq_none
          intro w member
          have below := (sortMembers_perm _).subset member
          rw [sortValues_eq_map] at below
          obtain ⟨entry, other, equal⟩ := List.mem_map.mp below
          refine Members.absent_of_lookup_eq_none found entry.2 ?_
          have isKey : entry.1 = Key.str (Str.lit key) := (Prod.mk.inj equal).1
          rw [← isKey]
          exact other
  | null | bool | int | float | str | list => rfl

theorem isJson_erase {members : Members} (json : IsJson (.dict members)) (key : Str) :
    IsJson (.dict (Members.erase key members)) := by
  refine ⟨?_, isJsonMembers_iff.mpr fun k v member => ?_⟩
  · exact json.1.sublist (List.filter_sublist.map _)
  · exact isJsonMembers_iff.mp json.2 k v (List.mem_filter.mp member).1

/-- Removing an entry before the dump or after the load leaves the same sorted text. -/
theorem sortKeys_erase_sorted {members : Members} (json : IsJson (.dict members)) (key : Str) :
    sortKeys (.dict (Members.erase key (sortMembers (sortValues members)))) =
      sortKeys (.dict (Members.erase key members)) := by
  have commutes : ∀ entries : Members,
      sortValues (Members.erase key entries) = Members.erase key (sortValues entries) := by
    intro entries
    rw [sortValues_eq_map, sortValues_eq_map, Members.erase, Members.erase, List.filter_map]
    rfl
  have keys : (Members.erase key (sortValues members)).map Prod.fst =
      (Members.erase key members).map Prod.fst := by
    rw [← commutes, keys_sortValues]
  have erased := isJson_erase json key
  rw [sortKeys, sortKeys, commutes, commutes, sortValues_sortMembers,
    sortValues_sortValues members json.2]
  congr 1
  have perm : (Members.erase key (sortValues members)).Perm
      (Members.erase key (sortMembers (sortValues members))) :=
    ((sortMembers_perm _).filter _).symm
  refine (sortMembers_eq_of_perm ?_ ?_ perm).symm
  · intro entry member
    have isKey := List.mem_map_of_mem (f := Prod.fst) member
    rw [keys] at isKey
    obtain ⟨other, found, equal⟩ := List.mem_map.mp isKey
    rw [← equal]
    exact erased.stringKeys other found
  · rw [keys]
    exact erased.1

end SelfConnect.Python.Json
