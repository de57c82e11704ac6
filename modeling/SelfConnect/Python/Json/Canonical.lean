import SelfConnect.Python.Json.RoundTrip

namespace SelfConnect.Python.Json

/-! The values `json.loads` returns: strings hold no surrogate pair, and keys are
distinct strings. -/

mutual
def IsJson : Value → Prop
  | .str s => Str.joinSurrogates s = s
  | .list items => IsJsonItems items
  | .dict members => (members.map Prod.fst).Nodup ∧ IsJsonMembers members
  | _ => True

def IsJsonItems : List Value → Prop
  | [] => True
  | v :: rest => IsJson v ∧ IsJsonItems rest

def IsJsonMembers : Members → Prop
  | [] => True
  | (k, v) :: rest =>
      (∃ s, k = .str s ∧ Str.joinSurrogates s = s) ∧ IsJson v ∧ IsJsonMembers rest
end

theorem isJsonMembers_iff {members : Members} :
    IsJsonMembers members ↔ ∀ k v, (k, v) ∈ members →
      (∃ s, k = .str s ∧ Str.joinSurrogates s = s) ∧ IsJson v := by
  induction members with
  | nil => simp [IsJsonMembers]
  | cons entry rest ih =>
      obtain ⟨k, v⟩ := entry
      constructor
      · rintro ⟨key, value, tail⟩ k' v' member
        rcases List.mem_cons.mp member with same | below
        · cases same
          exact ⟨key, value⟩
        · exact ih.mp tail k' v' below
      · intro all
        exact ⟨(all k v (by simp)).1, (all k v (by simp)).2,
          ih.mpr fun k' v' member => all k' v' (by simp [member])⟩

theorem isJsonItems_iff {items : List Value} :
    IsJsonItems items ↔ ∀ v ∈ items, IsJson v := by
  induction items with
  | nil => simp [IsJsonItems]
  | cons v rest ih => simp [IsJsonItems, ih]

mutual
theorem reread_of_isJson : (v : Value) → IsJson v → reread v = v
  | .null, _ => rfl
  | .bool _, _ => rfl
  | .int _, _ => rfl
  | .float _, _ => rfl
  | .str _, json => congrArg Value.str json
  | .list items, json => congrArg Value.list (rereadItems_of_isJson items json)
  | .dict members, json => congrArg Value.dict (rereadMembers_of_isJson members json.2)

private theorem rereadItems_of_isJson :
    (items : List Value) → IsJsonItems items → rereadItems items = items
  | [], _ => rfl
  | v :: rest, json => by
      rw [rereadItems, reread_of_isJson v json.1, rereadItems_of_isJson rest json.2]

private theorem rereadMembers_of_isJson :
    (members : Members) → IsJsonMembers members → rereadMembers members = members
  | [], _ => rfl
  | (k, v) :: rest, json => by
      obtain ⟨⟨s, rfl, joined⟩, value, tail⟩ := json
      rw [rereadMembers, reread_of_isJson v value, rereadMembers_of_isJson rest tail,
        Key.text, joined]
end

/-! Building dicts from their scanned entries. -/

theorem setAll_fresh (members entries : Members)
    (strings : ∀ k v, (k, v) ∈ entries → ∃ s, k = .str s)
    (distinct : ((members ++ entries).map Prod.fst).Nodup) :
    setAll members entries = members ++ entries := by
  induction entries generalizing members with
  | nil => simp [setAll]
  | cons entry rest ih =>
      obtain ⟨k, v⟩ := entry
      obtain ⟨s, rfl⟩ := strings k v (by simp)
      have fresh : Key.str s ∉ members.map Prod.fst := by
        intro member
        rw [List.map_append, List.nodup_append] at distinct
        exact distinct.2.2 _ member _ (by simp) rfl
      rw [setAll, Members.set_fresh fresh, ih]
      · simp
      · exact fun k' v' member => strings k' v' (by simp [member])
      · simpa using distinct

mutual
theorem build_of_isJson : (v : Value) → IsJson v → build v = v
  | .null, _ => rfl
  | .bool _, _ => rfl
  | .int _, _ => rfl
  | .float _, _ => rfl
  | .str _, _ => rfl
  | .list items, json => congrArg Value.list (buildItems_of_isJson items json)
  | .dict members, json => by
      rw [build, buildMembers_of_isJson members json.2, setAll_fresh]
      · rfl
      · intro k v member
        obtain ⟨⟨s, equal, -⟩, -⟩ := isJsonMembers_iff.mp json.2 k v member
        exact ⟨s, equal⟩
      · simpa using json.1

private theorem buildItems_of_isJson :
    (items : List Value) → IsJsonItems items → buildItems items = items
  | [], _ => rfl
  | v :: rest, json => by
      rw [buildItems, build_of_isJson v json.1, buildItems_of_isJson rest json.2]

private theorem buildMembers_of_isJson :
    (members : Members) → IsJsonMembers members → buildMembers members = members
  | [], _ => rfl
  | (k, v) :: rest, json => by
      rw [buildMembers, build_of_isJson v json.2.1, buildMembers_of_isJson rest json.2.2]
end

/-- A JSON value survives one dump and load unchanged. -/
theorem loads_render_of_isJson {style : Style} (ascii : style.ensureAscii = true)
    {v : Value} (json : IsJson v) : loads (render style v) = some v := by
  rw [loads_render style ascii, reread_of_isJson v json, build_of_isJson v json]

private theorem isJsonMembers_set {key : Str} {value : Value} {members : Members}
    (joined : Str.joinSurrogates key = key) (json : IsJson value)
    (membersJson : IsJsonMembers members) :
    IsJsonMembers (Members.set key value members) := by
  rw [isJsonMembers_iff] at membersJson ⊢
  intro k v member
  rcases Members.mem_set member with ⟨rfl, rfl⟩ | below
  · exact ⟨⟨key, rfl, joined⟩, json⟩
  · exact membersJson k v below

theorem IsJson.set {key : Str} {value : Value} {members : Members}
    (joined : Str.joinSurrogates key = key) (json : IsJson value)
    (membersJson : IsJson (.dict members)) : IsJson (.dict (Members.set key value members)) :=
  ⟨Members.nodup_set membersJson.1, isJsonMembers_set joined json membersJson.2⟩

private theorem isJson_setAll (members entries : Members)
    (distinct : (members.map Prod.fst).Nodup) (membersJson : IsJsonMembers members)
    (entriesJson : IsJsonMembers entries) : IsJson (.dict (setAll members entries)) := by
  induction entries generalizing members with
  | nil => exact ⟨distinct, membersJson⟩
  | cons entry rest ih =>
      obtain ⟨k, v⟩ := entry
      obtain ⟨⟨s, rfl, joined⟩, value, tail⟩ := entriesJson
      exact ih _ (Members.nodup_set distinct) (isJsonMembers_set joined value membersJson) tail

mutual
/-- Whatever was written, the value read back is a JSON value. -/
theorem isJson_build_reread : (v : Value) → IsJson (build (reread v))
  | .null => trivial
  | .bool _ => trivial
  | .int _ => trivial
  | .float _ => trivial
  | .str s => Str.joinSurrogates_idem s
  | .list items => isJsonItems_build_reread items
  | .dict members =>
      isJson_setAll [] _ (by simp) trivial (isJsonMembers_build_reread members)

private theorem isJsonItems_build_reread :
    (items : List Value) → IsJsonItems (buildItems (rereadItems items))
  | [] => trivial
  | v :: rest => ⟨isJson_build_reread v, isJsonItems_build_reread rest⟩

private theorem isJsonMembers_build_reread :
    (members : Members) → IsJsonMembers (buildMembers (rereadMembers members))
  | [] => trivial
  | (k, v) :: rest =>
      ⟨⟨_, rfl, Str.joinSurrogates_idem k.text⟩, isJson_build_reread v,
        isJsonMembers_build_reread rest⟩
end

/-! What was scanned holds no surrogate pair, and once built it is a JSON value. -/

private theorem joined_scanString {text : Text} {scanned : Str × Text}
    (found : scanString text = some scanned) : Str.joinSurrogates scanned.1 = scanned.1 := by
  obtain ⟨body, -, isScanned⟩ := Option.map_eq_some_iff.mp found
  rw [← isScanned]
  exact Str.joinSurrogates_idem _

private theorem reread_expect {word : Text} {value : Value} {text : Text}
    (stable : reread value = value) {scanned : Value × Text}
    (found : expect word value text = some scanned) : reread scanned.1 = scanned.1 := by
  unfold expect at found
  split at found
  · cases found
    exact stable
  · cases found

private theorem reread_scanNumber {negative : Bool} {text : Text} {scanned : Value × Text}
    (found : scanNumber negative text = some scanned) : reread scanned.1 = scanned.1 := by
  unfold scanNumber at found
  split at found
  · cases found
  · dsimp only at found
    split at found
    · cases found
      rfl
    · split at found <;> cases found <;> rfl

private theorem reread_scanAtom {text : Text} {scanned : Value × Text}
    (found : scanAtom text = some scanned) : reread scanned.1 = scanned.1 := by
  unfold scanAtom at found
  split at found
  · exact reread_expect rfl found
  · exact reread_expect rfl found
  · exact reread_expect rfl found
  · exact reread_expect rfl found
  · exact reread_expect rfl found
  · exact reread_expect rfl found
  · exact reread_scanNumber found
  · exact reread_scanNumber found

private theorem reread_scan (fuel : Nat) :
    (∀ text scanned, scanValue fuel text = some scanned → reread scanned.1 = scanned.1) ∧
    (∀ text scanned, scanItems fuel text = some scanned → rereadItems scanned.1 = scanned.1) ∧
    (∀ text scanned, scanMembers fuel text = some scanned →
      rereadMembers scanned.1 = scanned.1) := by
  induction fuel with
  | zero =>
      refine ⟨?_, ?_, ?_⟩ <;>
      · intro text scanned found
        cases found
  | succ fuel ih =>
      obtain ⟨value, items, members⟩ := ih
      refine ⟨?_, ?_, ?_⟩
      · intro text scanned found
        unfold scanValue at found
        split at found
        · obtain ⟨body, isBody, isScanned⟩ := Option.map_eq_some_iff.mp found
          rw [← isScanned]
          exact congrArg Value.str (joined_scanString isBody)
        · split at found
          · cases found
            rfl
          · obtain ⟨body, isBody, isScanned⟩ := Option.map_eq_some_iff.mp found
            rw [← isScanned]
            exact congrArg Value.list (items _ _ isBody)
        · split at found
          · cases found
            rfl
          · obtain ⟨body, isBody, isScanned⟩ := Option.map_eq_some_iff.mp found
            rw [← isScanned]
            exact congrArg Value.dict (members _ _ isBody)
        · exact reread_scanAtom found
      · intro text scanned found
        unfold scanItems at found
        split at found
        · cases found
        · next item after isItem =>
            have stable : reread item = item := value _ _ isItem
            split at found
            · cases found
              exact congrArg (· :: []) stable
            · obtain ⟨body, isBody, isScanned⟩ := Option.map_eq_some_iff.mp found
              rw [← isScanned, rereadItems, stable, items _ _ isBody]
            · cases found
      · intro text scanned found
        unfold scanMembers at found
        split at found
        · split at found
          · cases found
          · next key after isKey =>
              have joined : Str.joinSurrogates key = key := joined_scanString isKey
              split at found
              · split at found
                · cases found
                · next item afterItem isItem =>
                    have stable : reread item = item := value _ _ isItem
                    have entry : (Key.str (Str.joinSurrogates (Key.str key).text), reread item) =
                        (Key.str key, item) := by
                      rw [stable]
                      exact congrArg (fun s => (Key.str s, item)) joined
                    split at found
                    · cases found
                      exact congrArg (· :: []) entry
                    · obtain ⟨body, isBody, isScanned⟩ := Option.map_eq_some_iff.mp found
                      rw [← isScanned, rereadMembers, entry, members _ _ isBody]
                    · cases found
              · cases found
        · cases found

/-- What `json.loads` returns is a JSON value. -/
theorem isJson_loads {text : Text} {v : Value} (isLoaded : loads text = some v) : IsJson v := by
  obtain ⟨tree, isParsed, isBuilt⟩ := Option.map_eq_some_iff.mp isLoaded
  have stable : reread tree = tree := by
    unfold parse at isParsed
    split at isParsed
    · next value rest isScanned =>
        split at isParsed
        · cases isParsed
          exact (reread_scan _).1 _ _ isScanned
        · cases isParsed
    · cases isParsed
  rw [← isBuilt, ← stable]
  exact isJson_build_reread tree

/-! Sorting. On string keys the order of entries is the order of code points. -/

private theorem keyLe_str {first second : Str} {v w : Value} :
    keyLe (.str first, v) (.str second, w) ↔ first ≤ second := by
  simp [keyLe, Key.lt]

def keyStr : Key × Value → Str
  | (k, _) => k.text

private theorem keyStr_sortMembers {members : Members}
    (strings : ∀ k v, (k, v) ∈ members → ∃ s, k = .str s) :
    (sortMembers members).map keyStr = (members.map keyStr).insertionSort (· ≤ ·) := by
  unfold sortMembers
  apply List.map_insertionSort
  rintro ⟨k, v⟩ first ⟨k', v'⟩ second
  obtain ⟨s, rfl⟩ := strings k v first
  obtain ⟨s', rfl⟩ := strings k' v' second
  exact keyLe_str

theorem sortMembers_perm (members : Members) : (sortMembers members).Perm members :=
  List.perm_insertionSort keyLe members

theorem ascending_sortMembers {members : Members}
    (strings : ∀ k v, (k, v) ∈ members → ∃ s, k = .str s)
    (distinct : (members.map keyStr).Nodup) :
    ((sortMembers members).map keyStr).Pairwise (· < ·) := by
  rw [keyStr_sortMembers strings]
  have sorted := List.sortedLE_insertionSort (l := members.map keyStr)
  have nodup : ((members.map keyStr).insertionSort (· ≤ ·)).Nodup :=
    (List.perm_insertionSort _ _).nodup_iff.mpr distinct
  exact (sorted.pairwise.and nodup).imp fun both => lt_of_le_of_ne both.1 both.2

@[simp] theorem keys_sortValues (members : Members) :
    (sortValues members).map Prod.fst = members.map Prod.fst := by
  induction members with
  | nil => rfl
  | cons entry rest ih =>
      obtain ⟨k, v⟩ := entry
      simp [sortValues, ih]

end SelfConnect.Python.Json
