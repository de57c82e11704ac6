import SelfConnect.Python.Hashlib
import SelfConnect.Python.Json.Encode
import SelfConnect.Python.Json.Decode

namespace SelfConnect.Python

/-! UTF-8, and JSON as bytes. -/

/-- `payload.decode("utf-8")`; `none` is `UnicodeDecodeError`. -/
def decode (bytes : Bytes) : Option Text :=
  bytes.toByteArray.utf8Decode?.map Array.toList

theorem decode_encode (text : Text) : decode (encode text) = some text := by
  have decoded : (encode text).toByteArray.utf8Decode? = some text.toArray :=
    List.utf8Decode?_utf8Encode
  rw [decode, decoded]
  rfl

/-- The text of a string that UTF-8 can encode. -/
def Str.toText? (s : Str) : Option Text :=
  if Json.encodable s then some (s.map fun c => Char.ofNat c.val) else none

theorem Str.toText?_ofText (text : Text) : (Str.ofText text).toText? = some text := by
  rw [Str.toText?, if_pos (Json.encodable_ofText text), Str.ofText, List.map_map]
  refine congrArg some ((List.map_congr_left ?_).trans (List.map_id text))
  intro c _
  exact Char.ofNat_toNat c

theorem Str.ofText_of_toText? {s : Str} {text : Text} (isText : s.toText? = some text) :
    Str.ofText text = s := by
  rw [Str.toText?] at isText
  split at isText
  · next isEncodable =>
    cases isText
    rw [Str.ofText, List.map_map]
    refine (List.map_congr_left ?_).trans (List.map_id s)
    intro c member
    exact (CodePoint.ofChar_ofNat (Json.not_surrogate_of_encodable isEncodable c member)).1
  · cases isText

/-- `json.loads(payload.decode("utf-8"))`. -/
def Json.loadBytes (bytes : Bytes) : Option Value :=
  (decode bytes).bind Json.loads

/-! What is read can be sorted. -/

namespace Json

theorem sortableMembers_iff {members : Members} :
    sortableMembers members = true ↔ ∀ entry ∈ members, sortable entry.2 = true := by
  induction members with
  | nil => exact iff_of_true rfl fun _ absurdly => by cases absurdly
  | cons entry rest ih => rw [sortableMembers, Bool.and_eq_true_iff, ih, List.forall_mem_cons]

private theorem sortable_setAll {members entries : Members}
    (strings : ∀ entry ∈ members, entry.1.isStr = true)
    (values : ∀ entry ∈ members, sortable entry.2 = true)
    (added : ∀ entry ∈ entries, sortable entry.2 = true) :
    sortable (.dict (setAll members entries)) = true := by
  induction entries generalizing members with
  | nil =>
      have isString : (members.map Prod.fst).all Key.isStr = true := by
        rw [List.all_map]
        exact List.all_eq_true.mpr strings
      change (Key.sortable (members.map Prod.fst) && sortableMembers members) = true
      rw [Key.sortable, isString, sortableMembers_iff.mpr values]
      simp
  | cons entry rest ih =>
      obtain ⟨key, value⟩ := entry
      have isSortable := added _ List.mem_cons_self
      have further : ∀ entry ∈ rest, sortable entry.2 = true :=
        fun entry member => added entry (List.mem_cons_of_mem _ member)
      cases key with
      | str text =>
          apply ih _ _ further
          · intro other member
            rcases Members.mem_set member with ⟨isKey, -⟩ | before
            · rw [isKey]
              rfl
            · exact strings other before
          · intro other member
            rcases Members.mem_set member with ⟨-, isValue⟩ | before
            · rw [isValue]
              exact isSortable
            · exact values other before
      | null | bool _ | int _ | float _ => exact ih strings values further

mutual
theorem sortable_build : (v : Value) → sortable (build v) = true
  | .null => rfl
  | .bool _ => rfl
  | .int _ => rfl
  | .float _ => rfl
  | .str _ => rfl
  | .list items => sortableItems_build items
  | .dict members => sortable_setAll (fun _ absurdly => by cases absurdly)
      (fun _ absurdly => by cases absurdly)
      (sortableMembers_iff.mp (sortableMembers_build members))

private theorem sortableItems_build :
    (items : List Value) → sortableItems (buildItems items) = true
  | [] => rfl
  | v :: rest => by
      rw [buildItems, sortableItems, sortable_build v, sortableItems_build rest]
      rfl

private theorem sortableMembers_build :
    (members : Members) → sortableMembers (buildMembers members) = true
  | [] => rfl
  | (_, v) :: rest => by
      rw [buildMembers, sortableMembers, sortable_build v, sortableMembers_build rest]
      rfl
end

theorem sortable_loadBytes {bytes : Bytes} {v : Value} (isLoaded : loadBytes bytes = some v) :
    sortable v = true := by
  obtain ⟨text, -, isText⟩ := Option.bind_eq_some_iff.mp isLoaded
  obtain ⟨parsed, -, isBuilt⟩ := Option.map_eq_some_iff.mp isText
  rw [← isBuilt]
  exact sortable_build parsed

end Json

end SelfConnect.Python
