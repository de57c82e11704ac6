import SelfConnect.Python.Json.Document
import SelfConnect.Identity

namespace SelfConnect.Ledger

open SelfConnect.Python SelfConnect.Python.Json

def genesisHash : Text := List.replicate 64 '0'

/-- `_RESERVED_ENTRY_FIELDS`, in order. -/
def reservedEntryFields : List String :=
  ["action", "agent_id", "algo", "prev_hash", "result", "seq", "sig", "ts"]

inductive Classification
  | unclassified
  | cui
  | secret
  | topSecret
  deriving DecidableEq

def Classification.name : Classification → String
  | .unclassified => "UNCLASSIFIED"
  | .cui => "CUI"
  | .secret => "SECRET"
  | .topSecret => "TOP_SECRET"

/-- The caveats of a label are a set; their order here means nothing. -/
structure LabelEnvelope where
  classification : Classification
  caveats : List Str
  originator : Str
  ts : PyFloat

def sortStrings (strings : List Str) : List Str :=
  strings.insertionSort fun first second => ¬ second < first

def LabelEnvelope.toDict (label : LabelEnvelope) : Members :=
  Members.of
    [("classification", Value.lit label.classification.name),
      ("caveats", .list ((sortStrings label.caveats).map Value.str)),
      ("originator", .str label.originator),
      ("label_ts", .float label.ts)]

/-- What a caller of `log` hands over. -/
structure Request where
  action : Str
  result : Str
  metadata : Option Members
  label : Option LabelEnvelope

namespace Request

/-- The reserved fields that the metadata would overwrite. -/
def collisions (request : Request) : List String :=
  reservedEntryFields.filter fun name =>
    (request.metadata.getD []).any fun entry => entry.1 = .str (Str.lit name)

def isDeny (request : Request) : Bool :=
  request.result == Str.lit "denied" ||
    match request.metadata.bind (Members.lookup (Str.lit "decision")) with
    | some (.str decision) => decision == Str.lit "deny"
    | _ => false

end Request

/-- An entry before it is signed. -/
structure Entry where
  seq : Int
  agentId : Str
  now : PyFloat
  prevHash : Text
  request : Request
  redacted : Bool

/-- The bytes an entry is signed and hashed over, as text. -/
def signedText (entry : Value) : Option Text :=
  match entry with
  | .dict members => dumpsSorted .compact (.dict (Members.erase (Str.lit "sig") members))
  | _ => none

namespace Entry

def head (entry : Entry) : Members :=
  Members.of
    [("seq", .int entry.seq),
      ("agent_id", .str entry.agentId),
      ("action", .str entry.request.action),
      ("result", .str entry.request.result),
      ("ts", .float entry.now),
      ("prev_hash", .str (Str.ofText entry.prevHash))]

/-- A denial that is redacted keeps nothing of its metadata. -/
def extra (entry : Entry) : List Members :=
  if entry.redacted then
    [Members.of [("decision", Value.lit "deny"), ("redacted", .bool true)]]
  else entry.request.metadata.toList ++ (entry.request.label.map LabelEnvelope.toDict).toList

def unsigned (entry : Entry) : Members :=
  entry.extra.foldl Members.update entry.head

/-- The entry as it is written and returned. -/
def record (entry : Entry) (signature : Bytes) : Value :=
  .dict (Members.set (Str.lit "sig") (.str (Str.ofText (hexText signature))) entry.unsigned)

/-- The request was not refused for overwriting a reserved field. -/
def Admitted (entry : Entry) : Prop :=
  entry.request.collisions = []

/-! Reserved fields are what the ledger put there. -/

private theorem absent_of {fields : List (String × Value)} {name : String}
    (other : name ∉ fields.map Prod.fst) (v : Value) :
    (Key.str (Str.lit name), v) ∉ Members.of fields := by
  intro member
  obtain ⟨field, found, equal⟩ := List.mem_map.mp member
  simp only [Prod.mk.injEq, Key.str.injEq, Str.lit_inj] at equal
  exact other (List.mem_map.mpr ⟨field, found, equal.1⟩)

theorem extra_unreserved {entry : Entry} (admitted : entry.Admitted) {name : String}
    (reserved : name ∈ reservedEntryFields) {members : Members} (isExtra : members ∈ entry.extra)
    (v : Value) : (Key.str (Str.lit name), v) ∉ members := by
  unfold extra at isExtra
  split at isExtra
  · rw [List.mem_singleton.mp isExtra]
    refine absent_of ?_ v
    revert name
    decide
  · rcases List.mem_append.mp isExtra with isMetadata | isLabel
    · intro member
      have given := Option.mem_toList.mp isMetadata
      have collides := List.filter_eq_nil_iff.mp admitted name reserved
      rw [Option.mem_def.mp given] at collides
      apply collides
      rw [Option.getD_some, List.any_eq_true]
      exact ⟨_, member, by simp⟩
    · obtain ⟨label, -, rfl⟩ := Option.map_eq_some_iff.mp (Option.mem_toList.mp isLabel)
      refine absent_of ?_ v
      simp only [List.map_cons, List.map_nil]
      revert name
      decide

theorem lookup_unsigned {entry : Entry} (admitted : entry.Admitted) {name : String}
    (reserved : name ∈ reservedEntryFields) :
    Members.lookup (Str.lit name) entry.unsigned = Members.lookup (Str.lit name) entry.head := by
  unfold unsigned
  have unreserved : ∀ members ∈ entry.extra, ∀ v, (Key.str (Str.lit name), v) ∉ members :=
    fun _ isExtra => extra_unreserved admitted reserved isExtra
  generalize entry.extra = extra at unreserved
  generalize entry.head = head
  induction extra generalizing head with
  | nil => rfl
  | cons members rest ih =>
      rw [List.foldl_cons, ih fun other member => unreserved other (by simp [member])]
      exact Members.lookup_update (unreserved members (by simp)) head

theorem lookup_sig {entry : Entry} (admitted : entry.Admitted) :
    Members.lookup (Str.lit "sig") entry.unsigned = none := by
  rw [lookup_unsigned admitted (by decide)]
  simp [head, Members.of, Members.lookup]

/-! What is signed, before the entry is written and after it is read back. -/

theorem signedText_record {entry : Entry} (admitted : entry.Admitted) (signature : Bytes) :
    signedText (entry.record signature) = dumpsSorted .compact (.dict entry.unsigned) := by
  rw [record, signedText, Members.erase_set_same,
    Members.erase_of_lookup_eq_none (lookup_sig admitted)]

theorem seq_mem (entry : Entry) (admitted : entry.Admitted) :
    (Key.str (Str.lit "seq"), Value.int entry.seq) ∈ entry.unsigned := by
  apply Members.mem_of_lookup
  rw [lookup_unsigned admitted (by decide)]
  simp [head, Members.of, Members.lookup]

/-- The text signed is recomputed from the entry read back exactly when the keys of
the entry are stable. -/
theorem signedText_build_reread_iff {entry : Entry} (admitted : entry.Admitted)
    (sorts : sortable (.dict entry.unsigned) = true) (signature : Bytes) :
    signedText (build (reread (entry.record signature))) =
        signedText (entry.record signature) ↔
      keysStable (.dict entry.unsigned) = true := by
  have strings : StringKeys entry.unsigned :=
    stringKeys_of_sortable sorts (entry.seq_mem admitted)
  have signedStrings : StringKeys (Members.set (Str.lit "sig")
      (.str (Str.ofText (hexText signature))) entry.unsigned) := by
    rintro ⟨k, v⟩ member
    rcases Members.mem_set member with ⟨rfl, -⟩ | below
    · rfl
    · exact strings _ below
  have erased : signedText (build (reread (entry.record signature))) =
      some (render .compact (sortKeys (build (reread (.dict entry.unsigned))))) := by
    rw [record, build_reread_dict, signedText, erase_loadedMembers (by decide) signedStrings,
      Members.erase_set_same, Members.erase_of_lookup_eq_none (lookup_sig admitted),
      ← build_reread_dict]
    exact if_pos (sortable_build_reread _)
  rw [erased, signedText_record admitted, dumpsSorted, if_pos sorts, Option.some.injEq,
    render_sortKeys_build_reread_iff .compact rfl]

/-! String-keyed metadata makes a string-keyed entry. -/

private theorem stringKeyed_strings (strings : List Str) :
    StringKeyed (.list (strings.map Value.str)) := by
  change StringKeyedItems _
  induction strings with
  | nil => trivial
  | cons s rest ih => exact ⟨trivial, ih⟩

theorem stringKeyed_toDict (label : LabelEnvelope) : StringKeyed (.dict label.toDict) := by
  refine stringKeyed_object (by simp) ?_
  intro field member
  simp only [List.mem_cons, List.not_mem_nil, or_false] at member
  rcases member with rfl | rfl | rfl | rfl
  · trivial
  · exact stringKeyed_strings _
  · trivial
  · trivial

theorem stringKeyed_unsigned {entry : Entry}
    (keyed : ∀ members, entry.request.metadata = some members → StringKeyed (.dict members)) :
    StringKeyed (.dict entry.unsigned) := by
  have headKeyed : StringKeyed (.dict entry.head) := by
    refine stringKeyed_object (by simp) ?_
    intro field member
    simp only [List.mem_cons, List.not_mem_nil, or_false] at member
    rcases member with rfl | rfl | rfl | rfl | rfl | rfl <;> trivial
  have extraKeyed : ∀ members ∈ entry.extra, StringKeyed (.dict members) := by
    intro members isExtra
    unfold extra at isExtra
    split at isExtra
    · rw [List.mem_singleton.mp isExtra]
      refine stringKeyed_object (by simp) ?_
      intro field member
      simp only [List.mem_cons, List.not_mem_nil, or_false] at member
      rcases member with rfl | rfl <;> trivial
    · rcases List.mem_append.mp isExtra with isMetadata | isLabel
      · exact keyed members (Option.mem_toList.mp isMetadata)
      · obtain ⟨label, -, rfl⟩ := Option.map_eq_some_iff.mp (Option.mem_toList.mp isLabel)
        exact stringKeyed_toDict label
  unfold unsigned
  generalize entry.extra = extra at extraKeyed
  generalize entry.head = head at headKeyed
  induction extra generalizing head with
  | nil => exact headKeyed
  | cons members rest ih =>
      exact ih (fun other member => extraKeyed other (by simp [member])) _
        (stringKeyed_update headKeyed (extraKeyed members (by simp)))

end Entry

end SelfConnect.Ledger
