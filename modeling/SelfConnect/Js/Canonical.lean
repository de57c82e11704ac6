import Mathlib.Data.List.Sort
import SelfConnect.Js.Json

namespace SelfConnect.Js

/-! Values up to the order of their members. -/

variable {α β : Type}

abbrev ByKey (first second : Text × α) : Prop := first.1 ≤ second.1

def orderMembers (members : List (Text × α)) : List (Text × α) :=
  members.insertionSort ByKey

theorem orderMembers_perm (members : List (Text × α)) : (orderMembers members).Perm members :=
  List.perm_insertionSort ByKey members

namespace Json

mutual

/-- The members of every object in the order of their keys. -/
def normal : Json → Json
  | .arr items => .arr (normalItems items)
  | .obj members => .obj (orderMembers (normalMembers members))
  | value => value

def normalItems : List Json → List Json
  | [] => []
  | item :: rest => normal item :: normalItems rest

def normalMembers : List (Text × Json) → List (Text × Json)
  | [] => []
  | (key, value) :: rest => (key, normal value) :: normalMembers rest

end

theorem normalMembers_eq_map (members : List (Text × Json)) :
    normalMembers members = members.map fun member => (member.1, member.2.normal) := by
  induction members with
  | nil => rfl
  | cons member rest ih => exact congrArg (_ :: ·) ih

end Json

instance : Std.Total (@ByKey α) := ⟨fun first second => List.le_total first.1 second.1⟩

instance : IsTrans (Text × α) ByKey := ⟨fun _ _ _ => List.le_trans⟩

theorem orderMembers_ordered (members : List (Text × α)) :
    (orderMembers members).Pairwise ByKey :=
  List.pairwise_insertionSort ByKey members

theorem orderMembers_of_ordered {members : List (Text × α)} (ordered : members.Pairwise ByKey) :
    orderMembers members = members :=
  ordered.insertionSort_eq

/-- Members of one key keep their order. -/
theorem filter_orderMembers (members : List (Text × α)) (key : Text) :
    (orderMembers members).filter (fun member => member.1 = key) =
      members.filter (fun member => member.1 = key) := by
  have ordered : (members.filter fun member => member.1 = key).Pairwise ByKey := by
    refine List.pairwise_of_forall_mem_list fun first isFirst second isSecond => ?_
    have sameFirst := of_decide_eq_true (List.mem_filter.mp isFirst).2
    have sameSecond := of_decide_eq_true (List.mem_filter.mp isSecond).2
    change first.1 ≤ second.1
    rw [sameFirst, sameSecond]
    exact List.le_refl key
  have sublist := (List.sublist_insertionSort ordered List.filter_sublist).filter
    (fun member : Text × α => member.1 = key)
  rw [List.filter_filter] at sublist
  simp only [Bool.and_self] at sublist
  exact (sublist.eq_of_length (((orderMembers_perm members).filter _).length_eq).symm).symm

theorem lookup_eq_head (members : List (Text × α)) (key : Text) :
    members.lookup key = (members.filter fun member => member.1 = key).head?.map (·.2) := by
  induction members with
  | nil => rfl
  | cons member rest ih =>
      by_cases same : member.1 = key
      · rw [List.filter_cons_of_pos (by simpa using same), ← same, List.lookup_cons_self]
        rfl
      · have differs : (key == member.1) = false := beq_false_of_ne (Ne.symm same)
        rw [List.filter_cons_of_neg (by simpa using same), ← ih, List.lookup_cons, differs]

theorem lookup_orderMembers (members : List (Text × α)) (key : Text) :
    (orderMembers members).lookup key = members.lookup key := by
  rw [lookup_eq_head, filter_orderMembers, ← lookup_eq_head]

namespace Json

theorem normalMembers_of_normal {members : List (Text × Json)}
    (isNormal : ∀ member ∈ members, member.2.normal = member.2) :
    normalMembers members = members := by
  have same : ∀ member ∈ members, (member.1, member.2.normal) = id member :=
    fun member inside => Prod.ext rfl (isNormal member inside)
  rw [normalMembers_eq_map]
  exact (List.map_congr_left same).trans (List.map_id members)

mutual

theorem normal_normal : ∀ value : Json, value.normal.normal = value.normal
  | .null => rfl
  | .bool _ => rfl
  | .num _ => rfl
  | .str _ => rfl
  | .arr items => congrArg arr (normalItems_normalItems items)
  | .obj members => by
      have isNormal : ∀ member ∈ orderMembers (normalMembers members),
          member.2.normal = member.2 := fun member inside =>
        normal_of_mem_normalMembers members member ((orderMembers_perm _).subset inside)
      have same := normalMembers_of_normal isNormal
      change Json.obj (orderMembers (normalMembers (orderMembers (normalMembers members)))) = _
      rw [same, orderMembers_of_ordered (orderMembers_ordered _)]
      rfl

theorem normalItems_normalItems : ∀ items : List Json,
    normalItems (normalItems items) = normalItems items
  | [] => rfl
  | item :: rest => congrArg₂ List.cons (normal_normal item) (normalItems_normalItems rest)

theorem normal_of_mem_normalMembers : ∀ (members : List (Text × Json)),
    ∀ member ∈ normalMembers members, member.2.normal = member.2
  | [] => fun member inside => by cases inside
  | (key, value) :: rest => fun member inside => by
      rcases List.mem_cons.mp inside with same | later
      · rw [same]
        exact normal_normal value
      · exact normal_of_mem_normalMembers rest member later

end

theorem lookup_normalMembers (members : List (Text × Json)) (key : Text) :
    (normalMembers members).lookup key = (members.lookup key).map normal := by
  induction members with
  | nil => rfl
  | cons member rest ih =>
      change ((member.1, member.2.normal) :: normalMembers rest).lookup key = _
      rw [List.lookup_cons, List.lookup_cons, ih]
      split <;> rfl

theorem get?_normal (value : Json) (key : String) :
    value.normal.get? key = (value.get? key).map normal := by
  cases value with
  | obj members => exact (lookup_orderMembers _ _).trans (lookup_normalMembers _ _)
  | _ => rfl

theorem keys_normal (members : List (Text × Json)) :
    ((orderMembers (normalMembers members)).map (·.1)).Perm (members.map (·.1)) := by
  refine ((orderMembers_perm _).map _).trans ?_
  rw [normalMembers_eq_map, List.map_map]
  rfl

/-! The text of a value without numbers. -/

mutual

def noNumbers : Json → Bool
  | .num _ => false
  | .arr items => noNumbersItems items
  | .obj members => noNumbersMembers members
  | _ => true

def noNumbersItems : List Json → Bool
  | [] => true
  | item :: rest => noNumbers item && noNumbersItems rest

def noNumbersMembers : List (Text × Json) → Bool
  | [] => true
  | (_, value) :: rest => noNumbers value && noNumbersMembers rest

end

/-- The text between quotes, and the quote that ends it. -/
def quoted : Text → Text
  | [] => [0x22]
  | u :: rest => if u = 0x22 ∨ u = 0x5C then 0x5C :: u :: quoted rest else u :: quoted rest

mutual

def render : Json → Text
  | .null => text "null"
  | .bool true => text "true"
  | .bool false => text "false"
  | .num _ => []
  | .str value => 0x22 :: quoted value
  | .arr [] => [0x5B, 0x5D]
  | .arr (item :: rest) => 0x5B :: (render item ++ renderItems rest)
  | .obj [] => [0x7B, 0x7D]
  | .obj ((key, value) :: rest) =>
      0x7B :: 0x22 :: (quoted key ++ 0x3A :: (render value ++ renderMembers rest))

def renderItems : List Json → Text
  | [] => [0x5D]
  | item :: rest => 0x2C :: (render item ++ renderItems rest)

def renderMembers : List (Text × Json) → Text
  | [] => [0x7D]
  | (key, value) :: rest =>
      0x2C :: 0x22 :: (quoted key ++ 0x3A :: (render value ++ renderMembers rest))

end

theorem quoted_inj {first second s t : Text} (same : quoted first ++ s = quoted second ++ t) :
    first = second ∧ s = t := by
  induction first generalizing second with
  | nil =>
      cases second with
      | nil => exact ⟨rfl, List.tail_eq_of_cons_eq same⟩
      | cons v rest =>
          unfold quoted at same
          split at same
          · simp at same
          · next plain =>
              simp only [List.cons_append, List.cons.injEq] at same
              exact absurd (.inl same.1.symm) plain
  | cons u rest ih =>
      cases second with
      | nil =>
          unfold quoted at same
          split at same
          · simp at same
          · next plain =>
              simp only [List.cons_append, List.cons.injEq] at same
              exact absurd (.inl same.1) plain
      | cons v rest' =>
          rw [quoted, quoted] at same
          split at same
          · split at same
            · simp only [List.cons_append, List.cons.injEq, true_and] at same
              obtain ⟨sameRest, sameEnd⟩ := ih same.2
              exact ⟨congrArg₂ List.cons same.1 sameRest, sameEnd⟩
            · next plain =>
                simp only [List.cons_append, List.cons.injEq] at same
                exact absurd (.inr same.1.symm) plain
          · next plain =>
              split at same
              · simp only [List.cons_append, List.cons.injEq] at same
                exact absurd (.inr same.1) plain
              · simp only [List.cons_append, List.cons.injEq] at same
                obtain ⟨sameRest, sameEnd⟩ := ih same.2
                exact ⟨congrArg₂ List.cons same.1 sameRest, sameEnd⟩

def lead : Json → UInt16
  | .null => 0x6E
  | .bool true => 0x74
  | .bool false => 0x66
  | .num _ => 0
  | .str _ => 0x22
  | .arr _ => 0x5B
  | .obj _ => 0x7B

theorem render_eq_lead {value : Json} (plain : value.noNumbers = true) :
    ∃ rest, render value = lead value :: rest := by
  cases value with
  | null => exact ⟨_, rfl⟩
  | bool value => cases value <;> exact ⟨_, rfl⟩
  | num value => cases plain
  | str value => exact ⟨_, rfl⟩
  | arr items =>
      cases items with
      | nil => exact ⟨_, rfl⟩
      | cons item rest => exact ⟨_, rfl⟩
  | obj members =>
      cases members with
      | nil => exact ⟨_, rfl⟩
      | cons member rest => exact ⟨_, rfl⟩

theorem lead_ne_close {value : Json} : lead value ≠ 0x5D := by
  cases value with
  | bool value => cases value <;> decide
  | _ => simp [lead]

theorem lead_inj {first second : Json} {s t : Text} (plain : first.noNumbers = true)
    (plain' : second.noNumbers = true) (same : render first ++ s = render second ++ t) :
    lead first = lead second := by
  obtain ⟨rest, isFirst⟩ := render_eq_lead plain
  obtain ⟨rest', isSecond⟩ := render_eq_lead plain'
  rw [isFirst, isSecond] at same
  exact List.head_eq_of_cons_eq same

mutual

/-- No text begins another. -/
theorem render_inj : ∀ {first second : Json} {s t : Text}, first.noNumbers = true →
    second.noNumbers = true → render first ++ s = render second ++ t → first = second ∧ s = t
  | .null, second, s, t, plain, plain', same => by
      have leads := lead_inj plain plain' same
      cases second with
      | null => exact ⟨rfl, List.append_cancel_left same⟩
      | bool value => cases value <;> simp [lead] at leads
      | _ => simp [lead] at leads
  | .bool value, second, s, t, plain, plain', same => by
      have leads := lead_inj plain plain' same
      cases second with
      | bool value' =>
          cases value <;> cases value'
          · exact ⟨rfl, List.append_cancel_left same⟩
          · simp [lead] at leads
          · simp [lead] at leads
          · exact ⟨rfl, List.append_cancel_left same⟩
      | _ => cases value <;> simp [lead] at leads
  | .num value, second, s, t, plain, plain', same => by cases plain
  | .str value, second, s, t, plain, plain', same => by
      have leads := lead_inj plain plain' same
      cases second with
      | str value' =>
          obtain ⟨sameText, sameEnd⟩ := quoted_inj (List.tail_eq_of_cons_eq same)
          exact ⟨congrArg str sameText, sameEnd⟩
      | bool value' => cases value' <;> simp [lead] at leads
      | _ => simp [lead] at leads
  | .arr items, second, s, t, plain, plain', same => by
      have leads := lead_inj plain plain' same
      cases second with
      | arr items' =>
          obtain ⟨sameItems, sameEnd⟩ := renderFirst_inj plain plain' same
          exact ⟨congrArg arr sameItems, sameEnd⟩
      | bool value' => cases value' <;> simp [lead] at leads
      | _ => simp [lead] at leads
  | .obj members, second, s, t, plain, plain', same => by
      have leads := lead_inj plain plain' same
      cases second with
      | obj members' =>
          obtain ⟨sameMembers, sameEnd⟩ := renderObject_inj plain plain' same
          exact ⟨congrArg obj sameMembers, sameEnd⟩
      | bool value' => cases value' <;> simp [lead] at leads
      | _ => simp [lead] at leads

theorem renderFirst_inj : ∀ {first second : List Json} {s t : Text},
    noNumbersItems first = true → noNumbersItems second = true →
    render (.arr first) ++ s = render (.arr second) ++ t → first = second ∧ s = t
  | [], [], s, t, _, _, same => ⟨rfl, List.append_cancel_left same⟩
  | [], item :: rest, s, t, _, plain', same => by
      simp only [noNumbersItems, Bool.and_eq_true] at plain'
      obtain ⟨later, isItem⟩ := render_eq_lead plain'.1
      simp only [render, isItem, List.cons_append] at same
      exact absurd (List.cons.inj (List.cons.inj same).2).1.symm lead_ne_close
  | item :: rest, [], s, t, plain, _, same => by
      simp only [noNumbersItems, Bool.and_eq_true] at plain
      obtain ⟨later, isItem⟩ := render_eq_lead plain.1
      simp only [render, isItem, List.cons_append] at same
      exact absurd (List.cons.inj (List.cons.inj same).2).1 lead_ne_close
  | item :: rest, item' :: rest', s, t, plain, plain', same => by
      simp only [noNumbersItems, Bool.and_eq_true] at plain plain'
      simp only [render, List.cons_append, List.append_assoc, List.cons.injEq, true_and] at same
      obtain ⟨sameItem, same⟩ := render_inj plain.1 plain'.1 same
      obtain ⟨sameRest, sameEnd⟩ := renderItems_inj plain.2 plain'.2 same
      exact ⟨congrArg₂ List.cons sameItem sameRest, sameEnd⟩

theorem renderItems_inj : ∀ {first second : List Json} {s t : Text},
    noNumbersItems first = true → noNumbersItems second = true →
    renderItems first ++ s = renderItems second ++ t → first = second ∧ s = t
  | [], [], s, t, _, _, same => ⟨rfl, List.append_cancel_left same⟩
  | [], item :: rest, s, t, _, _, same => by
      have heads := (List.cons.inj same).1
      simp at heads
  | item :: rest, [], s, t, _, _, same => by
      have heads := (List.cons.inj same).1
      simp at heads
  | item :: rest, item' :: rest', s, t, plain, plain', same => by
      simp only [noNumbersItems, Bool.and_eq_true] at plain plain'
      simp only [renderItems, List.cons_append, List.append_assoc, List.cons.injEq,
        true_and] at same
      obtain ⟨sameItem, same⟩ := render_inj plain.1 plain'.1 same
      obtain ⟨sameRest, sameEnd⟩ := renderItems_inj plain.2 plain'.2 same
      exact ⟨congrArg₂ List.cons sameItem sameRest, sameEnd⟩

theorem renderObject_inj : ∀ {first second : List (Text × Json)} {s t : Text},
    noNumbersMembers first = true → noNumbersMembers second = true →
    render (.obj first) ++ s = render (.obj second) ++ t → first = second ∧ s = t
  | [], [], s, t, _, _, same => ⟨rfl, List.append_cancel_left same⟩
  | [], (key, value) :: rest, s, t, _, _, same => by
      have heads := (List.cons.inj (List.cons.inj same).2).1
      simp at heads
  | (key, value) :: rest, [], s, t, _, _, same => by
      have heads := (List.cons.inj (List.cons.inj same).2).1
      simp at heads
  | (key, value) :: rest, (key', value') :: rest', s, t, plain, plain', same => by
      simp only [noNumbersMembers, Bool.and_eq_true] at plain plain'
      simp only [render, List.cons_append, List.append_assoc, List.cons.injEq, true_and] at same
      obtain ⟨sameKey, same⟩ := quoted_inj same
      obtain ⟨sameValue, same⟩ := render_inj plain.1 plain'.1 (List.cons.inj same).2
      obtain ⟨sameRest, sameEnd⟩ := renderMembers_inj plain.2 plain'.2 same
      exact ⟨congrArg₂ List.cons (congrArg₂ Prod.mk sameKey sameValue) sameRest, sameEnd⟩

theorem renderMembers_inj : ∀ {first second : List (Text × Json)} {s t : Text},
    noNumbersMembers first = true → noNumbersMembers second = true →
    renderMembers first ++ s = renderMembers second ++ t → first = second ∧ s = t
  | [], [], s, t, _, _, same => ⟨rfl, List.append_cancel_left same⟩
  | [], (key, value) :: rest, s, t, _, _, same => by
      have heads := (List.cons.inj same).1
      simp at heads
  | (key, value) :: rest, [], s, t, _, _, same => by
      have heads := (List.cons.inj same).1
      simp at heads
  | (key, value) :: rest, (key', value') :: rest', s, t, plain, plain', same => by
      simp only [noNumbersMembers, Bool.and_eq_true] at plain plain'
      simp only [renderMembers, List.cons_append, List.append_assoc, List.cons.injEq,
        true_and] at same
      obtain ⟨sameKey, same⟩ := quoted_inj same
      obtain ⟨sameValue, same⟩ := render_inj plain.1 plain'.1 (List.cons.inj same).2
      obtain ⟨sameRest, sameEnd⟩ := renderMembers_inj plain.2 plain'.2 same
      exact ⟨congrArg₂ List.cons (congrArg₂ Prod.mk sameKey sameValue) sameRest, sameEnd⟩

end

theorem noNumbersMembers_eq_all (members : List (Text × Json)) :
    noNumbersMembers members = members.all fun member => member.2.noNumbers := by
  induction members with
  | nil => rfl
  | cons member rest ih => exact congrArg (member.2.noNumbers && ·) ih

mutual

theorem noNumbers_normal : ∀ value : Json, value.normal.noNumbers = value.noNumbers
  | .null => rfl
  | .bool _ => rfl
  | .num _ => rfl
  | .str _ => rfl
  | .arr items => noNumbersItems_normal items
  | .obj members => by
      change noNumbersMembers (orderMembers (normalMembers members)) = noNumbersMembers members
      rw [noNumbersMembers_eq_all, (orderMembers_perm _).all_eq, ← noNumbersMembers_eq_all]
      exact noNumbersMembers_normal members

theorem noNumbersItems_normal : ∀ items : List Json,
    noNumbersItems (normalItems items) = noNumbersItems items
  | [] => rfl
  | item :: rest => congrArg₂ and (noNumbers_normal item) (noNumbersItems_normal rest)

theorem noNumbersMembers_normal : ∀ members : List (Text × Json),
    noNumbersMembers (normalMembers members) = noNumbersMembers members
  | [] => rfl
  | (_, value) :: rest => congrArg₂ and (noNumbers_normal value) (noNumbersMembers_normal rest)

end

def canonicalText (value : Json) : Option Text :=
  if value.noNumbers then some value.normal.render else none

theorem canonicalText_normal (value : Json) : canonicalText value.normal = canonicalText value := by
  unfold canonicalText
  rw [noNumbers_normal, normal_normal]

theorem normal_eq_of_canonicalText {first second : Json} {found : Text}
    (isFirst : canonicalText first = some found) (isSecond : canonicalText second = some found) :
    first.normal = second.normal := by
  obtain ⟨plain, isFirst⟩ := Option.ite_none_right_eq_some.mp isFirst
  obtain ⟨plain', isSecond⟩ := Option.ite_none_right_eq_some.mp isSecond
  rw [← noNumbers_normal] at plain plain'
  have same : first.normal.render ++ [] = second.normal.render ++ [] := by
    rw [Option.some.inj isFirst, Option.some.inj isSecond]
  exact (render_inj plain plain' same).1

end Json

end SelfConnect.Js
