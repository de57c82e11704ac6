import SelfConnect.Ledger.Snapshot
import SelfConnect.Ledger.Log
import SelfConnect.Python.Datetime

namespace SelfConnect.Ledger

open SelfConnect.Python SelfConnect.Python.Json SelfConnect.Library

/-! How the entries of a ledger lie in its files. -/

/-- The name a part is sealed under. -/
def partName (part : List SignedEntry) : Text :=
  match part.head?, part.getLast? with
  | some first, some last => segmentName first.entry.seq last.entry.seq last.entry.hash
  | _, _ => []

def sealedPart (part : List SignedEntry) : Segment :=
  ⟨partName part, entriesText part⟩

section

variable (verify : Ed25519Verify)

/-- The archives hold the sealed parts in the order they were sealed, and the active
file holds the rest. -/
structure Layout (w : World) (parts : List (List SignedEntry)) (rest : List SignedEntry) :
    Prop where
  archives : w.disk.archives = parts.map sealedPart
  active : w.disk.active.getD [] = entriesText rest
  filled : ∀ part ∈ parts, part ≠ []
  accepted : Accepted verify w.config.identity (parts.flatten ++ rest)
  seq : w.seq = (parts.flatten ++ rest).length
  prevHash : w.prevHash = headHash (parts.flatten ++ rest)
  returned : w.returned = (parts.flatten ++ rest).map SignedEntry.value

end

/-! Names order segments by their first number, as long as twenty digits hold it. -/

private theorem append_dash_inj {first second front back : Text}
    (firstDigits : ∀ c ∈ first, c.isDigit = true) (secondDigits : ∀ c ∈ second, c.isDigit = true)
    (equal : first ++ '-' :: front = second ++ '-' :: back) : first = second := by
  have stop : ∀ {digits tail : Text}, (∀ c ∈ digits, c.isDigit = true) →
      (digits ++ '-' :: tail).takeWhile Char.isDigit = digits := by
    intro digits tail all
    rw [List.takeWhile_append_of_pos all, List.takeWhile_cons_of_neg (by decide), List.append_nil]
  rw [← stop firstDigits, equal, stop secondDigits]

theorem segmentName_first {first last first' last' : Int} {hash hash' : Text}
    (same : segmentName first last hash = segmentName first' last' hash') :
    first.toNat = first'.toNat := by
  have padded := append_dash_inj (fun _ member => isDigit_of_mem_zeroPadded member)
    (fun _ member => isDigit_of_mem_zeroPadded member) (List.append_cancel_left same)
  rw [← digitsValue_zeroPadded 20 first.toNat, padded, digitsValue_zeroPadded]

theorem segmentName_lt {first last first' last' : Int} (hash hash' : Text)
    (positive : 0 ≤ first) (before : first < first') (bound : first' < 10 ^ 20) :
    segmentName first last hash < segmentName first' last' hash' := by
  have toNat : first.toNat < first'.toNat := by omega
  have small : first'.toNat < 10 ^ 20 := by omega
  unfold segmentName
  rw [append_lt_append_iff rfl]
  refine Or.inr ⟨rfl, ?_⟩
  rw [zeroPadded_append_lt_iff (by decide) (toNat.trans small) small]
  exact Or.inl toNat

variable {verify : Ed25519Verify} {identity : AgentIdentity}

theorem Accepted.ascending {entries : List SignedEntry}
    (accepted : Accepted verify identity entries) :
    entries.Pairwise fun first second => first.entry.seq < second.entry.seq := by
  have ascends := numbering_ascending entries.length
  rw [← accepted.numbered, List.pairwise_map] at ascends
  exact ascends

theorem Accepted.seq_bounds {entries : List SignedEntry}
    (accepted : Accepted verify identity entries) {signed : SignedEntry}
    (member : signed ∈ entries) :
    1 ≤ signed.entry.seq ∧ signed.entry.seq ≤ entries.length := by
  apply mem_numbering.mp
  rw [← accepted.numbered]
  exact List.mem_map.mpr ⟨signed, member, rfl⟩

theorem partName_of_filled {part : List SignedEntry} (filled : part ≠ []) :
    ∃ first ∈ part, ∃ last ∈ part, partName part =
      segmentName first.entry.seq last.entry.seq last.entry.hash := by
  refine ⟨part.head filled, List.head_mem filled, part.getLast filled,
    List.getLast_mem filled, ?_⟩
  rw [partName, List.head?_eq_some_head filled, List.getLast?_eq_some_getLast filled]

/-- Sealed parts are listed in the order of their numbers. -/
theorem parts_ascending {parts : List (List SignedEntry)}
    (filled : ∀ part ∈ parts, part ≠ []) (accepted : Accepted verify identity parts.flatten)
    (bounded : parts.flatten.length < 10 ^ 20) :
    (parts.map sealedPart).Pairwise fun first second => first.name < second.name := by
  rw [List.pairwise_map]
  refine (List.pairwise_flatten.mp accepted.ascending).2.imp_of_mem ?_
  intro first second firstPart secondPart before
  obtain ⟨x, xMember, y, -, firstName⟩ := partName_of_filled (filled first firstPart)
  obtain ⟨x', xMember', y', -, secondName⟩ := partName_of_filled (filled second secondPart)
  have xBounds := accepted.seq_bounds (List.mem_flatten.mpr ⟨first, firstPart, xMember⟩)
  have xBounds' := accepted.seq_bounds (List.mem_flatten.mpr ⟨second, secondPart, xMember'⟩)
  rw [sealedPart, sealedPart, firstName, secondName]
  exact segmentName_lt _ _ (by omega) (before x xMember x' xMember') (by omega)

theorem archivePaths_of_ascending {disk : Disk}
    (ascending : disk.archives.Pairwise fun first second => first.name < second.name) :
    disk.archivePaths = disk.archives :=
  List.Pairwise.insertionSort_eq (ascending.imp fun before => le_of_lt before)

theorem entriesText_append (first second : List SignedEntry) :
    entriesText (first ++ second) = entriesText first ++ entriesText second := by
  rw [entriesText, List.map_append, fileText_append]
  rfl

theorem entriesText_eq_nil {entries : List SignedEntry} :
    entriesText entries = [] ↔ entries = [] := by
  constructor
  · intro empty
    cases entries with
    | nil => rfl
    | cons signed rest => simp [entriesText, fileText, lineText] at empty
  · rintro rfl
    rfl

theorem nonblankLines_entriesText (entries : List SignedEntry) {boundary : Char → Bool}
    (isBoundary : Boundary boundary) :
    nonblankLines boundary isSpace (entriesText entries) =
      (entries.map SignedEntry.value).map (render .default) := by
  rw [nonblankLines, entriesText, splitLines_fileText rfl isBoundary]
  apply List.filter_eq_self.mpr
  intro line member
  obtain ⟨v, found, rfl⟩ := List.mem_map.mp member
  obtain ⟨signed, -, rfl⟩ := List.mem_map.mp found
  have stripped : stripText isSpace (render .default signed.value) =
      render .default signed.value := stripText_render_dict _ rfl rfl _
  rw [stripped, filled_value]
  rfl

/-! The tail found again in the files. -/

private theorem findSome_loads (entries : List SignedEntry) :
    ((entries.map SignedEntry.value).map (render .default)).reverse.findSome? loads =
      entries.getLast?.map SignedEntry.loaded := by
  cases entries using List.reverseRecOn with
  | nil => rfl
  | append_singleton front last =>
      simp [loads_value]

theorem lastEntry_of_holds {disk : Disk} {parts : List (List SignedEntry)}
    (holds : Holds disk.ledgerPaths parts) :
    lastEntry disk = parts.flatten.getLast?.map SignedEntry.loaded := by
  unfold lastEntry
  generalize disk.ledgerPaths = paths at holds
  induction paths using List.reverseRecOn generalizing parts with
  | nil =>
      cases parts with
      | nil => rfl
      | cons part rest => cases holds
  | append_singleton paths path ih =>
      cases parts using List.reverseRecOn with
      | nil => simp [Holds] at holds
      | append_singleton front part =>
          rw [Holds, List.map_append, List.map_append] at holds
          obtain ⟨frontHolds, same⟩ := List.append_inj' holds rfl
          rw [List.reverse_append, List.reverse_singleton, List.singleton_append,
            List.findSome?_cons, (List.cons.inj same).1,
            nonblankLines_entriesText part boundary_isLineBoundary, findSome_loads,
            List.flatten_append, List.flatten_singleton]
          cases part using List.reverseRecOn with
          | nil =>
              rw [List.append_nil]
              exact ih frontHolds
          | append_singleton before last => simp

theorem SignedEntry.truthy_loaded {signed : SignedEntry}
    (sound : signed.Sound verify identity) : signed.loaded.truthy = true := by
  have found := SignedEntry.seq_loaded sound
  rw [SignedEntry.loaded_eq sound] at found ⊢
  cases members : Members.set (Str.lit "sig") (.str (Str.ofText (hexText signed.signature)))
      (rereadMembers signed.entry.unsigned) with
  | nil =>
      rw [members] at found
      cases found
  | cons entry rest => rfl

theorem SignedEntry.isDict_loaded {signed : SignedEntry}
    (sound : signed.Sound verify identity) : signed.loaded.isDict = true := by
  rw [SignedEntry.loaded_eq sound]
  rfl

theorem toIndex_int (n : Int) : toIndex (.int n) = .ok n := by
  simp [toIndex, Value.number?]

theorem loadLastSeq_of_holds {disk : Disk} {parts : List (List SignedEntry)}
    (holds : Holds disk.ledgerPaths parts) (accepted : Accepted verify identity parts.flatten) :
    loadLastSeq disk = .ok parts.flatten.length := by
  unfold loadLastSeq
  rw [lastEntry_of_holds holds]
  generalize parts.flatten = entries at accepted
  cases entries using List.reverseRecOn with
  | nil => rfl
  | append_singleton front last =>
      obtain ⟨-, sound, -, seq⟩ := accepted_snoc.mp accepted
      simp only [List.getLast?_concat, Option.map_some, last.truthy_loaded sound,
        last.isDict_loaded sound, Bool.not_true, Bool.false_eq_true, if_false, Value.getD,
        SignedEntry.seq_loaded sound, Option.getD_some, toIndex_int, seq, List.length_append,
        List.length_singleton]
      push_cast
      rfl

theorem loadLastHash_of_holds {disk : Disk} {parts : List (List SignedEntry)}
    (holds : Holds disk.ledgerPaths parts) (accepted : Accepted verify identity parts.flatten) :
    loadLastHash disk = .ok (headHash parts.flatten) := by
  unfold loadLastHash
  rw [lastEntry_of_holds holds]
  generalize parts.flatten = entries at accepted
  cases entries using List.reverseRecOn with
  | nil => rfl
  | append_singleton front last =>
      obtain ⟨-, sound, -, -⟩ := accepted_snoc.mp accepted
      simp only [List.getLast?_concat, Option.map_some, last.truthy_loaded sound,
        Bool.not_true, Bool.false_eq_true, if_false, SignedEntry.signedText_loaded sound,
        headHash, ledgerChain.tipAfter_snoc]
      rfl

/-! The files of a layout. -/

namespace Layout

variable {w : World} {parts : List (List SignedEntry)} {rest : List SignedEntry}

theorem ledgerPaths (layout : Layout verify w parts rest)
    (bounded : parts.flatten.length < 10 ^ 20) :
    ∃ all, Holds w.disk.ledgerPaths all ∧ all.flatten = parts.flatten ++ rest := by
  have ascending := parts_ascending layout.filled (accepted_front layout.accepted) bounded
  rw [← layout.archives] at ascending
  have archives : w.disk.archives.map Segment.text = parts.map entriesText := by
    rw [layout.archives, List.map_map]
    rfl
  rw [Disk.ledgerPaths, archivePaths_of_ascending ascending]
  cases active : w.disk.active with
  | none =>
      have empty : rest = [] := by
        have same := layout.active
        rw [active, Option.getD_none, eq_comm] at same
        exact entriesText_eq_nil.mp same
      refine ⟨parts, ?_, by rw [empty, List.append_nil]⟩
      rw [Holds, Option.map_none, Option.toList_none, List.append_nil, archives]
  | some text =>
      have same := layout.active
      rw [active, Option.getD_some] at same
      refine ⟨parts ++ [rest], ?_, by rw [List.flatten_append, List.flatten_singleton]⟩
      rw [Holds, List.map_append, archives, List.map_append, same]
      rfl

theorem verifies (layout : Layout verify w parts rest)
    (bounded : parts.flatten.length < 10 ^ 20) :
    (verifySnapshot verify w.config.identity w.disk).valid = true ∧
      (verifySnapshot verify w.config.identity w.disk).count = (parts.flatten ++ rest).length ∧
      (verifySnapshot verify w.config.identity w.disk).entries =
        (parts.flatten ++ rest).map SignedEntry.loaded := by
  obtain ⟨all, holds, flat⟩ := layout.ledgerPaths bounded
  have accepted := layout.accepted
  rw [← flat] at accepted ⊢
  exact verifySnapshot_of_holds holds accepted

theorem tail (layout : Layout verify w parts rest) (bounded : parts.flatten.length < 10 ^ 20) :
    loadLastSeq w.disk = .ok (parts.flatten ++ rest).length ∧
      loadLastHash w.disk = .ok (headHash (parts.flatten ++ rest)) := by
  obtain ⟨all, holds, flat⟩ := layout.ledgerPaths bounded
  have accepted := layout.accepted
  rw [← flat] at accepted ⊢
  exact ⟨loadLastSeq_of_holds holds accepted, loadLastHash_of_holds holds accepted⟩

end Layout

end SelfConnect.Ledger
