import SelfConnect.Python.Json.Lines

namespace SelfConnect.Python.Json

/-! Looking up and removing one entry of a dict with string keys, before and
after a dump and load. -/

def StringKeys (members : Members) : Prop :=
  ∀ entry ∈ members, entry.1.isStr = true

theorem stringKeys_cons {entry : Key × Value} {rest : Members} :
    StringKeys (entry :: rest) ↔ entry.1.isStr = true ∧ StringKeys rest := by
  simp [StringKeys]

theorem stringKeys_append {first second : Members} :
    StringKeys (first ++ second) ↔ StringKeys first ∧ StringKeys second := by
  simp only [StringKeys, List.mem_append, or_imp, forall_and]

theorem StringKeys.exists_str {members : Members} (strings : StringKeys members)
    {k : Key} {v : Value} (member : (k, v) ∈ members) : ∃ s, k = .str s := by
  have isStr := strings (k, v) member
  cases k with
  | str s => exact ⟨s, rfl⟩
  | int | float | bool | null => cases isStr

/-- A dict that can be sorted and has one string key has only string keys. -/
theorem stringKeys_of_sortable {members : Members} {s : Str} {v : Value}
    (sorts : sortable (.dict members) = true) (member : (Key.str s, v) ∈ members) :
    StringKeys members := by
  simp only [sortable, Key.sortable, Bool.and_eq_true, Bool.or_eq_true,
    decide_eq_true_eq] at sorts
  rcases sorts.1 with (short | strings) | numbers
  · intro entry other
    match members, member, other, short with
    | [single], found, other, _ =>
        simp only [List.mem_singleton] at found other
        rw [other, ← found]
        rfl
  · rw [List.all_eq_true] at strings
    exact fun entry other => strings entry.1 (List.mem_map.mpr ⟨entry, other, rfl⟩)
  · rw [List.all_eq_true] at numbers
    have := numbers (Key.str s) (List.mem_map.mpr ⟨_, member, rfl⟩)
    cases this

/-- No character of the key needs a surrogate pair. -/
def plain (key : String) : Bool :=
  key.toList.all fun c => decide (c.toNat < 0x10000)

theorem joinSurrogates_eq_lit_iff {key : String} (isPlain : plain key = true) {s : Str} :
    Str.joinSurrogates s = Str.lit key ↔ s = Str.lit key := by
  constructor
  · refine Str.eq_of_joinSurrogates_small ?_
    intro c member
    obtain ⟨d, below, rfl⟩ := List.mem_map.mp member
    have small := List.all_eq_true.mp isPlain d below
    rw [decide_eq_true_eq] at small
    exact small
  · rintro rfl
    exact Str.joinSurrogates_lit key

theorem lookup_rereadMembers {key : String} (isPlain : plain key = true) {members : Members}
    (strings : StringKeys members) :
    Members.lookup (Str.lit key) (rereadMembers members) =
      (Members.lookup (Str.lit key) members).map reread := by
  induction members with
  | nil => rfl
  | cons entry rest ih =>
      obtain ⟨k, v⟩ := entry
      obtain ⟨isStr, tail⟩ := stringKeys_cons.mp strings
      cases k with
      | str s =>
          simp only [rereadMembers, Key.text, Members.lookup, joinSurrogates_eq_lit_iff isPlain]
          split
          · rfl
          · exact ih tail
      | int | float | bool | null => cases isStr

theorem erase_rereadMembers {key : String} (isPlain : plain key = true) {members : Members}
    (strings : StringKeys members) :
    Members.erase (Str.lit key) (rereadMembers members) =
      rereadMembers (Members.erase (Str.lit key) members) := by
  induction members with
  | nil => rfl
  | cons entry rest ih =>
      obtain ⟨k, v⟩ := entry
      obtain ⟨isStr, tail⟩ := stringKeys_cons.mp strings
      cases k with
      | str s =>
          by_cases same : s = Str.lit key
          · subst same
            simp only [rereadMembers, Key.text, Str.joinSurrogates_lit,
              Members.erase_cons_self]
            exact ih tail
          · have before : Key.str s ≠ .str (Str.lit key) := by simpa using same
            have after : Key.str (Str.joinSurrogates s) ≠ .str (Str.lit key) := by
              simpa [joinSurrogates_eq_lit_iff isPlain] using same
            simp only [rereadMembers, Key.text, Members.erase_cons_of_ne before,
              Members.erase_cons_of_ne after, ih tail]
      | int | float | bool | null => cases isStr

private theorem erase_setAll (key : Str) (members entries : Members) :
    Members.erase key (setAll members entries) =
      setAll (Members.erase key members) (Members.erase key entries) := by
  induction entries generalizing members with
  | nil => rfl
  | cons entry rest ih =>
      obtain ⟨k, v⟩ := entry
      cases k with
      | str s =>
          rw [setAll, ih]
          by_cases same : s = key
          · rw [same, Members.erase_set_same, Members.erase_cons_self]
          · have differs : Key.str s ≠ .str key := by simpa using same
            rw [Members.erase_set_other same, Members.erase_cons_of_ne differs, setAll]
      | int | float | bool | null =>
          rw [Members.erase_cons_of_ne (by simp)]
          exact ih members

private theorem erase_buildMembers (key : Str) (members : Members) :
    Members.erase key (buildMembers members) = buildMembers (Members.erase key members) := by
  induction members with
  | nil => rfl
  | cons entry rest ih =>
      obtain ⟨k, v⟩ := entry
      rw [buildMembers]
      by_cases same : k = .str key
      · rw [same, Members.erase_cons_self, Members.erase_cons_self, ih]
      · rw [Members.erase_cons_of_ne same, Members.erase_cons_of_ne same, buildMembers, ih]

/-- The entries a dict holds once its text is loaded. -/
def loadedMembers (members : Members) : Members :=
  setAll [] (buildMembers (rereadMembers members))

theorem build_reread_dict (members : Members) :
    build (reread (.dict members)) = .dict (loadedMembers members) := rfl

private theorem setAll_snoc (members entries : Members) (key : Str) (v : Value) :
    setAll members (entries ++ [(.str key, v)]) =
      Members.set key v (setAll members entries) := by
  induction entries generalizing members with
  | nil => rfl
  | cons entry rest ih =>
      obtain ⟨k, w⟩ := entry
      cases k <;> exact ih _

private theorem buildMembers_append (first second : Members) :
    buildMembers (first ++ second) = buildMembers first ++ buildMembers second := by
  induction first with
  | nil => rfl
  | cons entry rest ih => simp only [List.cons_append, buildMembers, ih]

/-- An entry added last is added last by the load. -/
theorem loadedMembers_set {key : Str} (joined : Str.joinSurrogates key = key)
    {members : Members} (absent : Members.lookup key members = none) (v : Value) :
    loadedMembers (Members.set key v members) =
      Members.set key (build (reread v)) (loadedMembers members) := by
  rw [Members.set_of_lookup_eq_none absent, loadedMembers, rereadMembers_eq_map,
    List.map_append, List.map_singleton, ← rereadMembers_eq_map, buildMembers_append,
    loadedMembers, ← setAll_snoc]
  change setAll [] (_ ++ [(.str (Str.joinSurrogates key), build (reread v))]) = _
  rw [joined]

/-- Removing an entry before the dump or after the load is the same. -/
theorem erase_loadedMembers {key : String} (isPlain : plain key = true) {members : Members}
    (strings : StringKeys members) :
    Members.erase (Str.lit key) (loadedMembers members) =
      loadedMembers (Members.erase (Str.lit key) members) := by
  rw [loadedMembers, erase_setAll, erase_buildMembers, erase_rereadMembers isPlain strings]
  rfl

theorem loadedMembers_of_keysStable {members : Members}
    (stable : keysStable (.dict members) = true) :
    loadedMembers members = rereadMembers members := by
  have unchanged := build_of_isJson _ (isJson_reread_of_keysStable (.dict members) stable)
  exact Value.dict.inj unchanged

theorem stringKeys_loadedMembers (members : Members) : StringKeys (loadedMembers members) := by
  have json : IsJson (.dict (loadedMembers members)) := isJson_build_reread (.dict members)
  intro entry member
  obtain ⟨⟨s, equal, -⟩, -⟩ := isJsonMembers_iff.mp json.2 entry.1 entry.2 member
  rw [equal]
  rfl

/-- What was read back can always be sorted again. -/
theorem sortable_build_reread (v : Value) : sortable (build (reread v)) = true :=
  sortable_of_stringKeyed _ (stringKeyed_of_isJson _ (isJson_build_reread v))

/-! Dict displays. -/

theorem stringKeys_object (fields : List (String × Value)) :
    StringKeys (fields.map fun field => (Key.str (Str.lit field.1), field.2)) := by
  intro entry member
  obtain ⟨field, -, rfl⟩ := List.mem_map.mp member
  rfl

@[simp] theorem reread_object (fields : List (String × Value)) :
    reread (Value.object fields) =
      Value.object (fields.map fun field => (field.1, reread field.2)) := by
  rw [Value.object, reread, rereadMembers_eq_map, Value.object, List.map_map, List.map_map]
  congr 1
  apply List.map_congr_left
  intro field _
  simp [rereadKey, keyStr, Key.text]

private theorem nodup_object {fields : List (String × Value)}
    (distinct : (fields.map Prod.fst).Nodup) :
    ((fields.map fun field => (Key.str (Str.lit field.1), field.2)).map Prod.fst).Nodup := by
  have keys : (fields.map fun field => (Key.str (Str.lit field.1), field.2)).map Prod.fst =
      (fields.map Prod.fst).map fun name => Key.str (Str.lit name) := by
    rw [List.map_map, List.map_map]
    rfl
  rw [keys]
  exact distinct.map fun first second equal => by simpa using equal

theorem build_reread_object {fields : List (String × Value)}
    (distinct : (fields.map Prod.fst).Nodup) :
    build (reread (Value.object fields)) =
      Value.object (fields.map fun field => (field.1, build (reread field.2))) := by
  have built : ∀ entries : List (String × Value),
      buildMembers (entries.map fun field => (Key.str (Str.lit field.1), field.2)) =
        (entries.map fun field => (field.1, build field.2)).map
          fun field => (Key.str (Str.lit field.1), field.2) := by
    intro entries
    induction entries with
    | nil => rfl
    | cons field rest ih => simp only [List.map_cons, buildMembers, ih]
  have keys : ((fields.map fun field => (field.1, build (reread field.2))).map
      Prod.fst).Nodup := by
    rw [List.map_map]
    exact distinct
  have composed : (fields.map fun field => (field.1, reread field.2)).map
      (fun field => (field.1, build field.2)) =
        fields.map fun field => (field.1, build (reread field.2)) := by
    rw [List.map_map]
    rfl
  rw [reread_object, Value.object, build, built, composed, setAll_fresh, List.nil_append]
  · rfl
  · intro k v member
    exact (stringKeys_object _).exists_str member
  · exact nodup_object keys

theorem erase_object (key : String) (fields : List (String × Value)) :
    Members.erase (Str.lit key) (fields.map fun field => (Key.str (Str.lit field.1), field.2)) =
      (fields.filter fun field => decide (field.1 ≠ key)).map
        fun field => (Key.str (Str.lit field.1), field.2) := by
  rw [Members.erase, List.filter_map]
  congr 1
  apply List.filter_congr
  intro field _
  simp

theorem keysStable_object_iff {fields : List (String × Value)}
    (distinct : (fields.map Prod.fst).Nodup) :
    keysStable (Value.object fields) = true ↔
      ∀ field ∈ fields, keysStable field.2 = true := by
  rw [Value.object, keysStable_object (nodup_object distinct)]
  · constructor
    · intro all field member
      exact all _ _ (List.mem_map.mpr ⟨field, member, rfl⟩)
    · intro all k v member
      obtain ⟨field, below, equal⟩ := List.mem_map.mp member
      cases equal
      exact all field below
  · intro k v member
    obtain ⟨field, -, equal⟩ := List.mem_map.mp member
    cases equal
    exact ⟨_, rfl, Str.joinSurrogates_lit _⟩

theorem sortable_object_iff {fields : List (String × Value)} :
    sortable (Value.object fields) = true ↔ ∀ field ∈ fields, sortable field.2 = true := by
  have strings : ((fields.map fun field => (Key.str (Str.lit field.1), field.2)).map
      Prod.fst).all Key.isStr = true := by
    rw [List.all_eq_true]
    intro k member
    obtain ⟨entry, found, rfl⟩ := List.mem_map.mp member
    exact stringKeys_object fields entry found
  rw [Value.object, sortable, Key.sortable, strings, Bool.or_true, Bool.true_or, Bool.true_and]
  induction fields with
  | nil => simp [sortableMembers]
  | cons field rest ih =>
      have tail := ih (by
        rw [List.all_eq_true] at strings ⊢
        exact fun k member => strings k (by
          rw [List.map_cons, List.map_cons]
          exact List.mem_cons_of_mem _ member))
      simp only [List.map_cons, sortableMembers, Bool.and_eq_true, tail, List.forall_mem_cons]

theorem stringKeyed_object {fields : List (String × Value)}
    (distinct : (fields.map Prod.fst).Nodup)
    (values : ∀ field ∈ fields, StringKeyed field.2) : StringKeyed (Value.object fields) := by
  refine ⟨nodup_object distinct, stringKeyedMembers_iff.mpr ?_⟩
  intro k v member
  obtain ⟨field, found, equal⟩ := List.mem_map.mp member
  cases equal
  exact ⟨⟨_, rfl, Str.joinSurrogates_lit _⟩, values field found⟩

theorem stringKeyed_set {key : Str} {value : Value} {members : Members}
    (joined : Str.joinSurrogates key = key) (keyedValue : StringKeyed value)
    (keyed : StringKeyed (.dict members)) :
    StringKeyed (.dict (Members.set key value members)) := by
  refine ⟨Members.nodup_set keyed.1, stringKeyedMembers_iff.mpr ?_⟩
  intro k v member
  rcases Members.mem_set member with ⟨rfl, rfl⟩ | below
  · exact ⟨⟨key, rfl, joined⟩, keyedValue⟩
  · exact stringKeyedMembers_iff.mp keyed.2 k v below

theorem stringKeyed_update {members other : Members} (keyed : StringKeyed (.dict members))
    (otherKeyed : StringKeyed (.dict other)) :
    StringKeyed (.dict (Members.update members other)) := by
  have entries := stringKeyedMembers_iff.mp otherKeyed.2
  clear otherKeyed
  induction other generalizing members with
  | nil => exact keyed
  | cons entry rest ih =>
      obtain ⟨k, v⟩ := entry
      obtain ⟨⟨s, rfl, joined⟩, value⟩ := entries k v (by simp)
      exact ih (stringKeyed_set joined value keyed) fun k' v' member =>
        entries k' v' (by simp [member])

end SelfConnect.Python.Json
