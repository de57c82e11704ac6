import SelfConnect.Python.Json.Canonical

namespace SelfConnect.Python.Json

/-! When the sorted text of a value is also the sorted text of the value read
back. Keys are sorted before they become strings, so the two agree exactly when
the strings of each dict, taken in the order of its sorted keys, ascend. -/

def rereadKey (entry : Key × Value) : Str :=
  Str.joinSurrogates (keyStr entry)

mutual
def ascending : Value → Bool
  | .list items => ascendingItems items
  | .dict members =>
      decide ((members.map rereadKey).Pairwise (· < ·)) && ascendingMembers members
  | _ => true

def ascendingItems : List Value → Bool
  | [] => true
  | v :: rest => ascending v && ascendingItems rest

def ascendingMembers : Members → Bool
  | [] => true
  | (_, v) :: rest => ascending v && ascendingMembers rest
end

/-- The order of keys survives their coercion to strings, in every dict inside. -/
def keysStable (v : Value) : Bool :=
  ascending (sortKeys v)

@[simp] theorem keysStable_null : keysStable .null = true := rfl

@[simp] theorem keysStable_bool (b : Bool) : keysStable (.bool b) = true := rfl

@[simp] theorem keysStable_int (n : Int) : keysStable (.int n) = true := rfl

@[simp] theorem keysStable_float (x : PyFloat) : keysStable (.float x) = true := rfl

@[simp] theorem keysStable_str (s : Str) : keysStable (.str s) = true := rfl

private theorem ascendingItems_iff {items : List Value} :
    ascendingItems items = true ↔ ∀ v ∈ items, ascending v = true := by
  induction items with
  | nil => simp [ascendingItems]
  | cons v rest ih => simp [ascendingItems, ih]

private theorem ascendingMembers_iff {members : Members} :
    ascendingMembers members = true ↔ ∀ k v, (k, v) ∈ members → ascending v = true := by
  induction members with
  | nil => simp [ascendingMembers]
  | cons entry rest ih =>
      obtain ⟨k, v⟩ := entry
      constructor
      · intro both k' v' member
        simp only [ascendingMembers, Bool.and_eq_true] at both
        rcases List.mem_cons.mp member with same | below
        · cases same
          exact both.1
        · exact ih.mp both.2 k' v' below
      · intro all
        simp only [ascendingMembers, Bool.and_eq_true]
        exact ⟨all k v (by simp), ih.mpr fun k' v' member => all k' v' (by simp [member])⟩

private theorem mem_sortValues {members : Members} {k : Key} {w : Value} :
    (k, w) ∈ sortValues members ↔ ∃ v, (k, v) ∈ members ∧ sortKeys v = w := by
  induction members with
  | nil => simp [sortValues]
  | cons entry rest ih =>
      obtain ⟨k', v'⟩ := entry
      simp only [sortValues, List.mem_cons, Prod.mk.injEq, ih]
      constructor
      · rintro (⟨rfl, rfl⟩ | ⟨v, member, equal⟩)
        · exact ⟨v', Or.inl ⟨rfl, rfl⟩, rfl⟩
        · exact ⟨v, Or.inr member, equal⟩
      · rintro ⟨v, ⟨rfl, rfl⟩ | member, equal⟩
        · exact Or.inl ⟨rfl, equal.symm⟩
        · exact Or.inr ⟨v, member, equal⟩

theorem keysStable_list {items : List Value} :
    keysStable (.list items) = true ↔ ∀ v ∈ items, keysStable v = true := by
  simp only [keysStable, sortKeys, ascending]
  induction items with
  | nil => simp [sortItems, ascendingItems]
  | cons v rest ih => simp [sortItems, ascendingItems, ih]

theorem keysStable_dict {members : Members} :
    keysStable (.dict members) = true ↔
      ((sortMembers (sortValues members)).map rereadKey).Pairwise (· < ·) ∧
        ∀ k v, (k, v) ∈ members → keysStable v = true := by
  simp only [keysStable, sortKeys, ascending, Bool.and_eq_true, decide_eq_true_eq,
    ascendingMembers_iff]
  refine and_congr Iff.rfl ⟨fun all k v member => ?_, fun all k w member => ?_⟩
  · exact all k (sortKeys v) ((sortMembers_perm _).mem_iff.mpr
      (mem_sortValues.mpr ⟨v, member, rfl⟩))
  · obtain ⟨v, below, rfl⟩ := mem_sortValues.mp ((sortMembers_perm _).mem_iff.mp member)
    exact all k v below

/-! Joining surrogates leaves the escaped text of a string as it is. -/

private theorem units_ofSurrogates {high low : CodePoint}
    (isHigh : high.isHighSurrogate = true) (isLow : low.isLowSurrogate = true) :
    (CodePoint.ofSurrogates high low).units = [high, low] := by
  simp only [CodePoint.isHighSurrogate, CodePoint.isLowSurrogate, Bool.and_eq_true,
    decide_eq_true_eq] at isHigh isLow
  have value : (CodePoint.ofSurrogates high low).val =
      0x10000 + (high.val - 0xD800) * 0x400 + (low.val - 0xDC00) := by
    simp only [CodePoint.ofSurrogates, Fin.ofNat]
    omega
  have first : (Fin.ofNat 0x110000 (0xD800 +
      ((CodePoint.ofSurrogates high low).val - 0x10000) / 0x400) : CodePoint) = high := by
    apply Fin.ext
    rw [value]
    simp only [Fin.ofNat]
    omega
  have second : (Fin.ofNat 0x110000 (0xDC00 +
      ((CodePoint.ofSurrogates high low).val - 0x10000) % 0x400) : CodePoint) = low := by
    apply Fin.ext
    rw [value]
    simp only [Fin.ofNat]
    omega
  rw [CodePoint.units, if_neg (by omega), first, second]

private theorem escape_of_large {c : CodePoint} (large : 0x7E < c.val) :
    escape true c = c.units.flatMap fun unit => '\\' :: 'u' :: hexFour unit.val := by
  unfold escape
  rw [if_neg (by omega), if_neg (by omega), if_neg (by omega), if_neg (by omega),
    if_neg (by omega), if_neg (by omega), if_neg (by omega), if_neg]
  rintro ⟨-, ascii | unicode⟩
  · omega
  · exact Bool.false_ne_true unicode.symm

private theorem escape_ofSurrogates {high low : CodePoint}
    (isHigh : high.isHighSurrogate = true) (isLow : low.isLowSurrogate = true) :
    escape true (CodePoint.ofSurrogates high low) = escape true high ++ escape true low := by
  have units := units_ofSurrogates isHigh isLow
  simp only [CodePoint.isHighSurrogate, CodePoint.isLowSurrogate, Bool.and_eq_true,
    decide_eq_true_eq] at isHigh isLow
  have large : 0x7E < (CodePoint.ofSurrogates high low).val := by
    simp only [CodePoint.ofSurrogates, Fin.ofNat]
    omega
  rw [escape_of_large large, units, escape_of_large (by omega : 0x7E < high.val),
    escape_of_large (by omega : 0x7E < low.val),
    CodePoint.units_of_lt (by omega : high.val < 0x10000),
    CodePoint.units_of_lt (by omega : low.val < 0x10000)]
  simp

private theorem flatMap_escape_joinSurrogates (s : Str) :
    (Str.joinSurrogates s).flatMap (escape true) = s.flatMap (escape true) := by
  induction s using Str.joinSurrogates.induct with
  | case1 => rfl
  | case2 c => rfl
  | case3 first second rest pair ih =>
      simp only [Bool.and_eq_true] at pair
      rw [Str.joinSurrogates_pair _ pair.1 pair.2]
      simp only [List.flatMap_cons, ih, escape_ofSurrogates pair.1 pair.2,
        List.append_assoc]
  | case4 first second rest apart ih =>
      rw [Str.joinSurrogates, if_neg apart, List.flatMap_cons, ih, ← List.flatMap_cons]

section Render

variable (style : Style) (ascii : style.ensureAscii = true)

set_option linter.unusedSectionVars false

include ascii

private theorem stringText_joinSurrogates (s : Str) :
    stringText style.ensureAscii (Str.joinSurrogates s) = stringText style.ensureAscii s := by
  rw [ascii, stringText, flatMap_escape_joinSurrogates]
  rfl

mutual
theorem render_reread : (v : Value) → render style (reread v) = render style v
  | .null => rfl
  | .bool _ => rfl
  | .int _ => rfl
  | .float _ => rfl
  | .str s => by
      simp only [reread, render, stringText_joinSurrogates style ascii]
  | .list [] => rfl
  | .list (v :: rest) => by
      simp only [reread, rereadItems, render, render_reread v, renderItems_reread rest]
  | .dict [] => rfl
  | .dict ((k, v) :: rest) => by
      simp only [reread, rereadMembers, render, Key.text,
        stringText_joinSurrogates style ascii, render_reread v,
        renderMembers_reread rest]

private theorem renderItems_reread :
    (items : List Value) → renderItems style (rereadItems items) = renderItems style items
  | [] => rfl
  | v :: rest => by
      simp only [rereadItems, renderItems, render_reread v, renderItems_reread rest]

private theorem renderMembers_reread :
    (members : Members) →
      renderMembers style (rereadMembers members) = renderMembers style members
  | [] => rfl
  | (k, v) :: rest => by
      simp only [rereadMembers, renderMembers, Key.text,
        stringText_joinSurrogates style ascii, render_reread v,
        renderMembers_reread rest]
end

end Render

/-! Reading back and sorting. -/

theorem rereadMembers_eq_map (members : Members) :
    rereadMembers members =
      members.map fun entry => (Key.str (rereadKey entry), reread entry.2) := by
  induction members with
  | nil => rfl
  | cons entry rest ih =>
      obtain ⟨k, v⟩ := entry
      rw [rereadMembers, ih]
      rfl

private theorem keyStr_rereadMembers (members : Members) :
    (rereadMembers members).map keyStr = members.map rereadKey := by
  rw [rereadMembers_eq_map, List.map_map]
  rfl

private theorem rereadKey_rereadMembers (members : Members) :
    (rereadMembers members).map rereadKey = members.map rereadKey := by
  rw [rereadMembers_eq_map, List.map_map]
  apply List.map_congr_left
  intro entry _
  exact Str.joinSurrogates_idem _

mutual
private theorem ascending_reread : (v : Value) → ascending (reread v) = ascending v
  | .null => rfl
  | .bool _ => rfl
  | .int _ => rfl
  | .float _ => rfl
  | .str _ => rfl
  | .list items => ascendingItems_reread items
  | .dict members => by
      simp only [reread, ascending, rereadKey_rereadMembers, ascendingMembers_reread]

private theorem ascendingItems_reread :
    (items : List Value) → ascendingItems (rereadItems items) = ascendingItems items
  | [] => rfl
  | v :: rest => by
      simp only [rereadItems, ascendingItems, ascending_reread v,
        ascendingItems_reread rest]

private theorem ascendingMembers_reread :
    (members : Members) →
      ascendingMembers (rereadMembers members) = ascendingMembers members
  | [] => rfl
  | (k, v) :: rest => by
      simp only [rereadMembers, ascendingMembers, ascending_reread v,
        ascendingMembers_reread rest]
end

/-! A stable value is read back as it stands, up to its strings. -/

private theorem keyStr_eq_rereadKey {members : Members} (json : IsJsonMembers members) :
    members.map keyStr = members.map rereadKey := by
  apply List.map_congr_left
  rintro ⟨k, v⟩ member
  obtain ⟨⟨s, rfl, joined⟩, -⟩ := isJsonMembers_iff.mp json k v member
  exact joined.symm

private theorem rereadKey_sortValues (members : Members) :
    (sortValues members).map rereadKey = members.map rereadKey := by
  have keys := congrArg (List.map fun k : Key => Str.joinSurrogates k.text)
    (keys_sortValues members)
  rw [List.map_map, List.map_map] at keys
  exact keys

private theorem rereadKey_nodup {members : Members}
    (stable : keysStable (.dict members) = true) : (members.map rereadKey).Nodup := by
  have ascends := (keysStable_dict.mp stable).1
  have sameKeys : ((sortMembers (sortValues members)).map rereadKey).Perm
      (members.map rereadKey) := by
    rw [← rereadKey_sortValues members]
    exact (sortMembers_perm _).map _
  exact sameKeys.nodup_iff.mp (ascends.imp ne_of_lt)

mutual
theorem isJson_reread_of_keysStable :
    (v : Value) → keysStable v = true → IsJson (reread v)
  | .null, _ => trivial
  | .bool _, _ => trivial
  | .int _, _ => trivial
  | .float _, _ => trivial
  | .str s, _ => Str.joinSurrogates_idem s
  | .list items, stable => isJsonItems_reread_of_keysStable items (keysStable_list.mp stable)
  | .dict members, stable => by
      refine ⟨?_, isJsonMembers_reread_of_keysStable members (keysStable_dict.mp stable).2⟩
      have distinct := rereadKey_nodup stable
      rw [rereadMembers_eq_map, List.map_map]
      have keys : members.map (Prod.fst ∘ fun entry => (Key.str (rereadKey entry),
          reread entry.2)) = (members.map rereadKey).map Key.str := by
        rw [List.map_map]
        rfl
      rw [keys]
      exact distinct.map fun _ _ equal => Key.str.inj equal

private theorem isJsonItems_reread_of_keysStable :
    (items : List Value) → (∀ v ∈ items, keysStable v = true) →
      IsJsonItems (rereadItems items)
  | [], _ => trivial
  | v :: rest, stable =>
      ⟨isJson_reread_of_keysStable v (stable v (by simp)),
        isJsonItems_reread_of_keysStable rest fun w member => stable w (by simp [member])⟩

private theorem isJsonMembers_reread_of_keysStable :
    (members : Members) → (∀ k v, (k, v) ∈ members → keysStable v = true) →
      IsJsonMembers (rereadMembers members)
  | [], _ => trivial
  | (k, v) :: rest, stable =>
      ⟨⟨_, rfl, Str.joinSurrogates_idem k.text⟩,
        isJson_reread_of_keysStable v (stable k v (by simp)),
        isJsonMembers_reread_of_keysStable rest
          fun k' w member => stable k' w (by simp [member])⟩
end

private theorem sortMembers_rereadMembers {members : Members}
    (ascends : ((sortMembers members).map rereadKey).Pairwise (· < ·)) :
    sortMembers (rereadMembers members) = rereadMembers (sortMembers members) := by
  have distinct : (members.map rereadKey).Nodup :=
    ((sortMembers_perm members).map rereadKey).nodup_iff.mp (ascends.imp ne_of_lt)
  have strings : ∀ k v, (k, v) ∈ rereadMembers members → ∃ s, k = .str s := by
    intro k v member
    rw [rereadMembers_eq_map] at member
    obtain ⟨entry, -, equal⟩ := List.mem_map.mp member
    cases equal
    exact ⟨_, rfl⟩
  have left : (sortMembers (rereadMembers members)).Pairwise
      fun first second => keyStr first < keyStr second := by
    rw [← List.pairwise_map (f := keyStr) (R := (· < ·))]
    apply ascending_sortMembers strings
    rwa [keyStr_rereadMembers]
  have right : (rereadMembers (sortMembers members)).Pairwise
      fun first second => keyStr first < keyStr second := by
    rw [← List.pairwise_map (f := keyStr) (R := (· < ·)), keyStr_rereadMembers]
    exact ascends
  have samePerm : (sortMembers (rereadMembers members)).Perm
      (rereadMembers (sortMembers members)) := by
    refine (sortMembers_perm _).trans ?_
    rw [rereadMembers_eq_map, rereadMembers_eq_map]
    exact (sortMembers_perm members).symm.map _
  exact samePerm.eq_of_pairwise
    (fun _ _ _ _ before after => absurd after (not_lt_of_gt before)) left right

mutual
theorem sortKeys_reread : (v : Value) → keysStable v = true →
    sortKeys (reread v) = reread (sortKeys v)
  | .null, _ => rfl
  | .bool _, _ => rfl
  | .int _, _ => rfl
  | .float _, _ => rfl
  | .str _, _ => rfl
  | .list items, stable =>
      congrArg Value.list (sortItems_rereadItems items (keysStable_list.mp stable))
  | .dict members, stable => by
      obtain ⟨ascends, values⟩ := keysStable_dict.mp stable
      simp only [reread, sortKeys]
      rw [sortValues_rereadMembers members values, sortMembers_rereadMembers ascends]

private theorem sortItems_rereadItems :
    (items : List Value) → (∀ v ∈ items, keysStable v = true) →
      sortItems (rereadItems items) = rereadItems (sortItems items)
  | [], _ => rfl
  | v :: rest, stable => by
      simp only [rereadItems, sortItems]
      rw [sortKeys_reread v (stable v (by simp)),
        sortItems_rereadItems rest fun w member => stable w (by simp [member])]

private theorem sortValues_rereadMembers :
    (members : Members) → (∀ k v, (k, v) ∈ members → keysStable v = true) →
      sortValues (rereadMembers members) = rereadMembers (sortValues members)
  | [], _ => rfl
  | (k, v) :: rest, stable => by
      simp only [rereadMembers, sortValues]
      rw [sortKeys_reread v (stable k v (by simp)),
        sortValues_rereadMembers rest fun k' w member => stable k' w (by simp [member])]
end

theorem keysStable_object {members : Members} (distinct : (members.map Prod.fst).Nodup)
    (strings : ∀ k v, (k, v) ∈ members → ∃ s, k = .str s ∧ Str.joinSurrogates s = s) :
    keysStable (.dict members) = true ↔
      ∀ k v, (k, v) ∈ members → keysStable v = true := by
  rw [keysStable_dict]
  refine and_iff_right ?_
  have strings' : ∀ k v, (k, v) ∈ sortValues members →
      ∃ s, k = .str s ∧ Str.joinSurrogates s = s := by
    intro k w member
    obtain ⟨v, below, -⟩ := mem_sortValues.mp member
    exact strings k v below
  have sameKeys : (sortMembers (sortValues members)).map rereadKey =
      (sortMembers (sortValues members)).map keyStr := by
    apply List.map_congr_left
    rintro ⟨k, v⟩ member
    obtain ⟨s, rfl, joined⟩ := strings' k v ((sortMembers_perm _).mem_iff.mp member)
    exact joined
  rw [sameKeys]
  apply ascending_sortMembers
  · intro k v member
    obtain ⟨s, equal, -⟩ := strings' k v member
    exact ⟨s, equal⟩
  · have texts : (sortValues members).map keyStr = (members.map Prod.fst).map Key.text := by
      rw [← keys_sortValues members, List.map_map]
      rfl
    rw [texts]
    refine distinct.map_on ?_
    intro first firstIn second secondIn equal
    obtain ⟨⟨k, v⟩, found, rfl⟩ := List.mem_map.mp firstIn
    obtain ⟨⟨k', v'⟩, found', rfl⟩ := List.mem_map.mp secondIn
    obtain ⟨s, rfl, -⟩ := strings k v found
    obtain ⟨s', rfl, -⟩ := strings k' v' found'
    exact congrArg Key.str equal

/-! Values whose dicts have string keys, none of them with a surrogate pair left
apart, are stable whatever their strings hold. -/

mutual
def StringKeyed : Value → Prop
  | .list items => StringKeyedItems items
  | .dict members => (members.map Prod.fst).Nodup ∧ StringKeyedMembers members
  | _ => True

def StringKeyedItems : List Value → Prop
  | [] => True
  | v :: rest => StringKeyed v ∧ StringKeyedItems rest

def StringKeyedMembers : Members → Prop
  | [] => True
  | (k, v) :: rest =>
      (∃ s, k = .str s ∧ Str.joinSurrogates s = s) ∧ StringKeyed v ∧
        StringKeyedMembers rest
end

theorem stringKeyedMembers_iff {members : Members} :
    StringKeyedMembers members ↔ ∀ k v, (k, v) ∈ members →
      (∃ s, k = .str s ∧ Str.joinSurrogates s = s) ∧ StringKeyed v := by
  induction members with
  | nil => simp [StringKeyedMembers]
  | cons entry rest ih =>
      obtain ⟨k, v⟩ := entry
      constructor
      · rintro ⟨key, value, tail⟩ k' v' member
        rcases List.mem_cons.mp member with same | below
        · cases same
          exact ⟨key, value⟩
        · exact ih.mp tail k' v' below
      · intro all
        exact ⟨(all k v (by simp)).1, (all k v (by simp)).2,
          ih.mpr fun k' v' member => all k' v' (by simp [member])⟩

mutual
theorem stringKeyed_of_isJson : (v : Value) → IsJson v → StringKeyed v
  | .null, _ => trivial
  | .bool _, _ => trivial
  | .int _, _ => trivial
  | .float _, _ => trivial
  | .str _, _ => trivial
  | .list items, json => stringKeyedItems_of_isJsonItems items json
  | .dict members, json => ⟨json.1, stringKeyedMembers_of_isJsonMembers members json.2⟩

private theorem stringKeyedItems_of_isJsonItems :
    (items : List Value) → IsJsonItems items → StringKeyedItems items
  | [], _ => trivial
  | v :: rest, json =>
      ⟨stringKeyed_of_isJson v json.1, stringKeyedItems_of_isJsonItems rest json.2⟩

private theorem stringKeyedMembers_of_isJsonMembers :
    (members : Members) → IsJsonMembers members → StringKeyedMembers members
  | [], _ => trivial
  | (_, v) :: rest, json =>
      ⟨json.1, stringKeyed_of_isJson v json.2.1,
        stringKeyedMembers_of_isJsonMembers rest json.2.2⟩
end

mutual
theorem keysStable_of_stringKeyed : (v : Value) → StringKeyed v → keysStable v = true
  | .null, _ => rfl
  | .bool _, _ => rfl
  | .int _, _ => rfl
  | .float _, _ => rfl
  | .str _, _ => rfl
  | .list items, keyed => keysStable_list.mpr (keysStable_of_stringKeyedItems items keyed)
  | .dict members, keyed =>
      (keysStable_object keyed.1 fun k v member =>
        (stringKeyedMembers_iff.mp keyed.2 k v member).1).mpr
          (keysStable_of_stringKeyedMembers members keyed.2)

private theorem keysStable_of_stringKeyedItems :
    (items : List Value) → StringKeyedItems items → ∀ v ∈ items, keysStable v = true
  | [], _, _, member => absurd member (by simp)
  | v :: rest, keyed, w, member => by
      rcases List.mem_cons.mp member with same | below
      · rw [same]
        exact keysStable_of_stringKeyed v keyed.1
      · exact keysStable_of_stringKeyedItems rest keyed.2 w below

private theorem keysStable_of_stringKeyedMembers :
    (members : Members) → StringKeyedMembers members →
      ∀ k v, (k, v) ∈ members → keysStable v = true
  | [], _, _, _, member => absurd member (by simp)
  | (k, v) :: rest, keyed, k', w, member => by
      rcases List.mem_cons.mp member with same | below
      · cases same
        exact keysStable_of_stringKeyed v keyed.2.1
      · exact keysStable_of_stringKeyedMembers rest keyed.2.2 k' w below
end

theorem keysStable_of_isJson {v : Value} (json : IsJson v) : keysStable v = true :=
  keysStable_of_stringKeyed v (stringKeyed_of_isJson v json)

mutual
/-- String keys always have a common order. -/
theorem sortable_of_stringKeyed : (v : Value) → StringKeyed v → sortable v = true
  | .null, _ => rfl
  | .bool _, _ => rfl
  | .int _, _ => rfl
  | .float _, _ => rfl
  | .str _, _ => rfl
  | .list items, keyed => sortableItems_of_stringKeyed items keyed
  | .dict members, keyed => by
      have strings : (members.map Prod.fst).all Key.isStr = true := by
        rw [List.all_eq_true]
        intro k member
        obtain ⟨⟨k, v⟩, found, rfl⟩ := List.mem_map.mp member
        obtain ⟨⟨s, rfl, -⟩, -⟩ := stringKeyedMembers_iff.mp keyed.2 k v found
        rfl
      simp only [sortable, Key.sortable, strings, Bool.or_true, Bool.true_or,
        Bool.true_and]
      exact sortableMembers_of_stringKeyed members keyed.2

private theorem sortableItems_of_stringKeyed :
    (items : List Value) → StringKeyedItems items → sortableItems items = true
  | [], _ => rfl
  | v :: rest, keyed => by
      rw [sortableItems, sortable_of_stringKeyed v keyed.1,
        sortableItems_of_stringKeyed rest keyed.2]
      rfl

private theorem sortableMembers_of_stringKeyed :
    (members : Members) → StringKeyedMembers members → sortableMembers members = true
  | [], _ => rfl
  | (_, v) :: rest, keyed => by
      rw [sortableMembers, sortable_of_stringKeyed v keyed.2.1,
        sortableMembers_of_stringKeyed rest keyed.2.2]
      rfl
end

/-- The sorted text survives a dump and load exactly when the keys are stable. -/
theorem render_sortKeys_build_reread_iff (style : Style) (ascii : style.ensureAscii = true)
    (v : Value) :
    render style (sortKeys (build (reread v))) = render style (sortKeys v) ↔
      keysStable v = true := by
  constructor
  · intro equal
    have stable := keysStable_of_isJson (isJson_build_reread v)
    rw [keysStable, ← ascending_reread, reread_eq_of_render_eq style ascii equal,
      ascending_reread] at stable
    exact stable
  · intro stable
    rw [build_of_isJson _ (isJson_reread_of_keysStable v stable), sortKeys_reread v stable,
      render_reread style ascii]

end SelfConnect.Python.Json
