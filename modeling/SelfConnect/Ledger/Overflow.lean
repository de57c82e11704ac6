import SelfConnect.Ledger.Runs

namespace SelfConnect.Ledger

open SelfConnect.Python SelfConnect.Python.Json SelfConnect.Library

/-! Twenty digits order the segments of fewer than 10^20 entries only: the segment
that begins with entry 10^20 sorts into the middle of the earlier ones. -/

section Order

variable {verify : Ed25519Verify} {identity : AgentIdentity}

/-- What the verification has seen of some entries between two places. -/
structure Counted (from_ to_ : Int) (entries : List SignedEntry) : Prop where
  forward : from_ ≤ to_
  bounds : ∀ signed ∈ entries, from_ ≤ signed.entry.seq ∧ signed.entry.seq < to_
  ascending : entries.Pairwise fun first second => first.entry.seq < second.entry.seq

theorem Counted.append {start middle stop : Int} {first second : List SignedEntry}
    (front : Counted start middle first) (back : Counted middle stop second) :
    Counted start stop (first ++ second) where
  forward := front.forward.trans back.forward
  bounds := by
    intro signed member
    have := front.forward
    have := back.forward
    rcases List.mem_append.mp member with early | late
    · have := front.bounds signed early
      omega
    · have := back.bounds signed late
      omega
  ascending := by
    rw [List.pairwise_append]
    refine ⟨front.ascending, back.ascending, ?_⟩
    intro signed early other late
    have := front.bounds signed early
    have := back.bounds other late
    omega

private theorem checkEntry_counts {signed : SignedEntry} (sound : signed.Sound verify identity)
    {file : Text} {line : Nat} {cursor next : Cursor}
    (checked : checkEntry verify identity file line signed.loaded cursor = .ok next) :
    Counted cursor.expectedSeq next.expectedSeq [signed] := by
  have seqFound := SignedEntry.lookup_reread sound (by decide : "seq" ∈ reservedEntryFields)
  simp only [Entry.head, Members.of, List.map_cons, List.map_nil, Members.lookup, Str.lit_inj,
    if_true, Option.map_some, reread] at seqFound
  rw [SignedEntry.loaded_eq sound] at checked
  unfold checkEntry at checked
  simp only [Members.lookup_set_self, SignedEntry.erase_sig sound, Option.getD_some,
    seqFound] at checked
  split at checked
  · cases checked
  · next same =>
      have equal : signed.entry.seq = cursor.expectedSeq := by
        simpa [Value.eqv, Value.number?, Number.eqv] using same
      have advanced : next.expectedSeq = cursor.expectedSeq + 1 := by
        split at checked
        · cases checked
        split at checked
        · cases checked
        split at checked
        · cases checked
        split at checked
        · cases checked
        · cases checked
          rfl
      refine ⟨by omega, ?_, List.pairwise_singleton _ _⟩
      intro other member
      rw [List.mem_singleton.mp member]
      omega

private theorem checkLine_counts {signed : SignedEntry} (sound : signed.Sound verify identity)
    {file : Text} {line : Nat} {cursor next : Cursor}
    (checked : checkLine verify identity file cursor (render .default signed.value, line) =
      .ok next) : Counted cursor.expectedSeq next.expectedSeq [signed] := by
  have stripped : stripText isAsciiSpace (render .default signed.value) =
      render .default signed.value := stripText_render_dict _ rfl rfl _
  unfold checkLine at checked
  simp only [stripped, filled_value, Bool.false_eq_true, if_false, loads_value] at checked
  cases result : checkEntry verify identity file line signed.loaded cursor with
  | error finding =>
      rw [result] at checked
      cases checked
  | ok cursor' =>
      rw [result] at checked
      cases checked
      exact checkEntry_counts sound result

private theorem checkLines_count {file : Text} {entries : List SignedEntry}
    (sound : ∀ signed ∈ entries, signed.Sound verify identity) {line : Nat}
    {cursor next : Cursor}
    (checked : (((entries.map SignedEntry.value).map (render .default)).zipIdx line).foldlM
      (checkLine verify identity file) cursor = .ok next) :
    Counted cursor.expectedSeq next.expectedSeq entries := by
  induction entries generalizing cursor line with
  | nil =>
      cases checked
      exact ⟨le_rfl, by simp, List.Pairwise.nil⟩
  | cons signed rest ih =>
      rw [List.map_cons, List.map_cons, List.zipIdx_cons, List.foldlM_cons] at checked
      cases first : checkLine verify identity file cursor (render .default signed.value, line) with
      | error found =>
          rw [first] at checked
          cases checked
      | ok middle =>
          rw [first] at checked
          exact (checkLine_counts (sound signed (by simp)) first).append
            (ih (fun other member => sound other (by simp [member])) checked)

/-- Files that verify hold their entries in ascending order. -/
theorem counted_of_checked {paths : List Segment} {parts : List (List SignedEntry)}
    (holds : Holds paths parts) (sound : ∀ signed ∈ parts.flatten, signed.Sound verify identity)
    {cursor next : Cursor}
    (checked : paths.foldlM (checkSegment verify identity) cursor = .ok next) :
    Counted cursor.expectedSeq next.expectedSeq parts.flatten := by
  induction paths generalizing parts cursor with
  | nil =>
      cases parts with
      | nil =>
          cases checked
          exact ⟨le_rfl, by simp, List.Pairwise.nil⟩
      | cons part rest => cases holds
  | cons path paths ih =>
      cases parts with
      | nil => cases holds
      | cons part rest =>
          obtain ⟨same, tail⟩ := List.cons.inj holds
          rw [List.foldlM_cons] at checked
          cases first : checkSegment verify identity cursor path with
          | error found =>
              rw [first] at checked
              cases checked
          | ok middle =>
              rw [first] at checked
              rw [List.flatten_cons]
              refine Counted.append ?_ (ih tail (fun signed member => sound signed
                (List.mem_append_right _ member)) checked)
              unfold checkSegment at first
              rw [same, entriesText, splitLines_fileText rfl boundary_isNewline] at first
              exact checkLines_count (fun signed member => sound signed
                (List.mem_append_left _ member)) first

theorem ascending_of_valid {disk : Disk} {parts : List (List SignedEntry)}
    (holds : Holds disk.ledgerPaths parts)
    (sound : ∀ signed ∈ parts.flatten, signed.Sound verify identity)
    (valid : (verifySnapshot verify identity disk).valid = true) :
    parts.flatten.Pairwise fun first second => first.entry.seq < second.entry.seq := by
  unfold verifySnapshot at valid
  cases paths : disk.ledgerPaths with
  | nil =>
      rw [paths] at holds
      cases parts with
      | nil => exact List.Pairwise.nil
      | cons part rest => cases holds
  | cons path rest =>
      rw [paths] at holds
      simp only [paths] at valid
      cases checked : (path :: rest).foldlM (checkSegment verify identity) Cursor.initial with
      | error found => simp [checked] at valid
      | ok cursor => exact (counted_of_checked holds sound checked).ascending

/-! Segments of one entry each. -/

private theorem padded_twenty : zeroPadded 20 ((10 : Int) ^ 19 + 1).toNat =
    "1000000000000000000".toList ++ ['1'] := by decide +kernel

private theorem padded_twentyOne : zeroPadded 20 ((10 : Int) ^ 20).toNat =
    "1000000000000000000".toList ++ ['0', '0'] := by decide +kernel

private theorem segmentName_twentyOne (last last' : Int) (hash hash' : Text) :
    segmentName (10 ^ 20) last hash < segmentName (10 ^ 19 + 1) last' hash' := by
  unfold segmentName
  rw [padded_twenty, padded_twentyOne, append_lt_append_iff rfl]
  refine Or.inr ⟨rfl, ?_⟩
  rw [List.append_assoc, List.append_assoc, append_lt_append_iff rfl]
  refine Or.inr ⟨rfl, ?_⟩
  simp only [List.cons_append, List.nil_append, List.cons_lt_cons_iff]
  exact Or.inl (by decide)

instance : Std.Total fun first second : Segment => first.name ≤ second.name :=
  ⟨fun first second => le_total first.name second.name⟩

instance : IsTrans Segment fun first second => first.name ≤ second.name :=
  ⟨fun _ _ _ => le_trans⟩

private def nameOrder (first second : List SignedEntry) : Prop :=
  (sealedPart first).name ≤ (sealedPart second).name

private instance : DecidableRel nameOrder :=
  fun first second => inferInstanceAs
    (Decidable ((sealedPart first).name ≤ (sealedPart second).name))

private instance : Std.Total nameOrder :=
  ⟨fun first second => le_total (sealedPart first).name (sealedPart second).name⟩

private instance : IsTrans (List SignedEntry) nameOrder :=
  ⟨fun _ _ _ => le_trans⟩

/-- The files of a layout in the order of their names, whatever the names are. -/
private theorem ledgerPaths_sorted {w : World} {parts : List (List SignedEntry)}
    {rest : List SignedEntry} (layout : Layout verify w parts rest) :
    ∃ last, last ⊆ [rest] ∧
      Holds w.disk.ledgerPaths (parts.insertionSort nameOrder ++ last) := by
  have archives : w.disk.archivePaths =
      (parts.insertionSort nameOrder).map sealedPart := by
    rw [Disk.archivePaths, layout.archives]
    exact (List.map_insertionSort nameOrder _ sealedPart parts fun _ _ _ _ => Iff.rfl).symm
  rw [Disk.ledgerPaths, archives]
  cases active : w.disk.active with
  | none =>
      refine ⟨[], by simp, ?_⟩
      rw [Holds, Option.map_none, Option.toList_none, List.append_nil, List.append_nil,
        List.map_map]
      rfl
  | some text =>
      have same := layout.active
      rw [active, Option.getD_some] at same
      refine ⟨[rest], by simp, ?_⟩
      rw [Holds, List.map_append, List.map_append, List.map_map, same]
      rfl

/-- An archive that holds entries 10^19 + 1 and 10^20 in segments of their own does
not verify. -/
theorem invalid_of_twentyOne {w : World} {parts : List (List SignedEntry)}
    {rest : List SignedEntry} (layout : Layout verify w parts rest) {first second : SignedEntry}
    (firstPart : [first] ∈ parts) (secondPart : [second] ∈ parts)
    (isFirst : first.entry.seq = 10 ^ 19 + 1) (isSecond : second.entry.seq = 10 ^ 20) :
    (verifySnapshot verify w.config.identity w.disk).valid = false := by
  apply Bool.eq_false_iff.mpr
  intro valid
  obtain ⟨last, inRest, holds⟩ := ledgerPaths_sorted layout
  have sound : ∀ signed ∈ (parts.insertionSort nameOrder ++ last).flatten,
      signed.Sound verify w.config.identity := by
    intro signed member
    obtain ⟨part, isPart, inPart⟩ := List.mem_flatten.mp member
    apply layout.accepted.sound
    rcases List.mem_append.mp isPart with isSealed | isLast
    · exact List.mem_append_left _
        (List.mem_flatten.mpr ⟨part, (List.mem_insertionSort nameOrder).mp isSealed, inPart⟩)
    · rw [List.mem_singleton.mp (inRest isLast)] at inPart
      exact List.mem_append_right _ inPart
  -- the files ascend by number as well as by name
  have ascending := ascending_of_valid holds sound valid
  rw [List.flatten_append, List.pairwise_append] at ascending
  have byNumber := (List.pairwise_flatten.mp ascending.1).2
  have byName := List.pairwise_insertionSort nameOrder parts
  have ordered := byNumber.and byName
  have either : (parts.insertionSort nameOrder).Pairwise fun one other =>
      (∀ x ∈ one, ∀ y ∈ other, x.entry.seq < y.entry.seq) ∧ nameOrder one other ∨
      (∀ x ∈ other, ∀ y ∈ one, x.entry.seq < y.entry.seq) ∧ nameOrder other one :=
    ordered.imp Or.inl
  have symmetric : Std.Symm fun one other : List SignedEntry =>
      (∀ x ∈ one, ∀ y ∈ other, x.entry.seq < y.entry.seq) ∧ nameOrder one other ∨
      (∀ x ∈ other, ∀ y ∈ one, x.entry.seq < y.entry.seq) ∧ nameOrder other one :=
    ⟨fun _ _ => Or.symm⟩
  have differs : [first] ≠ [second] := by
    intro same
    rw [(List.cons.inj same).1, isSecond] at isFirst
    omega
  rcases either.forall ((List.mem_insertionSort nameOrder).mpr firstPart)
    ((List.mem_insertionSort nameOrder).mpr secondPart) differs with ⟨-, names⟩ | ⟨numbers, -⟩
  · have before : partName [second] < partName [first] := by
      change segmentName second.entry.seq _ _ < segmentName first.entry.seq _ _
      rw [isFirst, isSecond]
      exact segmentName_twentyOne _ _ _ _
    exact absurd before (not_lt_of_ge names)
  · have := numbers second (by simp) first (by simp)
    omega

end Order

/-! A run that seals every entry in a segment of its own. -/

/-- Single entries are sealed, and one may be open. -/
structure Singles (w : World) (n : Nat) (parts : List (List SignedEntry))
    (rest : List SignedEntry) : Prop where
  layout : Layout digestVerify w parts rest
  config : w.config = singleConfig
  total : (parts.flatten ++ rest).length = n
  singles : ∀ part ∈ parts, part.length = 1
  last : rest.length = min n 1

private theorem singles_log {w : World} {n : Nat} {parts : List (List SignedEntry)}
    {rest : List SignedEntry} (before : Singles w n parts rest) (bounded : n ≤ 10 ^ 20) :
    ∃ parts' rest',
      Singles ((Call.log steadyTurn bareRequest).run digestVerify w) (n + 1) parts' rest' := by
  obtain ⟨layout, config, total, singles, last⟩ := before
  have small : parts.flatten.length < 10 ^ 20 := by
    rw [List.length_append] at total
    omega
  have logged : ∀ v, rotateIfNeeded digestVerify steadyTurn w = (.ok (), v) →
      (Call.log steadyTurn bareRequest).run digestVerify w =
        (appendEntry digestVerify steadyTurn bareRequest v).2 := by
    intro v rotated
    change (Ledger.log digestVerify steadyTurn bareRequest w).2 = _
    change Program.wp (Ledger.log digestVerify steadyTurn bareRequest) (fun _ t => t = _) w
    unfold Ledger.log
    rw [Program.wp_bind, Program.wp_require]
    refine ⟨fun _ => ?_, fun raised => by cases raised⟩
    rw [Program.andThen_ok, Program.wp_bind]
    unfold Program.wp
    rw [rotated]
    rfl
  have append : ∀ v parts' rest', v.config = singleConfig → Layout digestVerify v parts' rest' →
      (appendEntry digestVerify steadyTurn bareRequest v).2 =
          v.appended (nextSigned v steadyTurn bareRequest) ∧
        Layout digestVerify (v.appended (nextSigned v steadyTurn bareRequest)) parts'
          (rest' ++ [nextSigned v steadyTurn bareRequest]) := by
    intro v parts' rest' isSingle layout'
    have keyed : StringKeyed (.dict (nextEntry v steadyTurn bareRequest).unsigned) :=
      Entry.stringKeyed_unsigned fun members given => by cases given
    have sorts := sortable_of_stringKeyed _ keyed
    have signs : v.config.identity.Signs digestVerify := isSingle ▸ singleConfig_signs
    refine ⟨?_, layout'.appended
      (sound_next signs rfl sorts (keysStable_of_stringKeyed _ keyed))⟩
    rw [appendEntry_eq layout' sorts fun raised => by cases raised]
    rfl
  have rotation := rotateIfNeeded_eq layout small steadyTurn
  by_cases empty : rest = []
  · rw [if_pos (Or.inl empty)] at rotation
    obtain ⟨run, layout'⟩ := append w parts rest config layout
    refine ⟨parts, rest ++ [nextSigned w steadyTurn bareRequest], ?_⟩
    rw [logged w rotation, run]
    refine ⟨layout', config, ?_, singles, ?_⟩
    · rw [← List.append_assoc, List.length_append, total, List.length_singleton]
    · rw [empty, List.nil_append, List.length_singleton]
      omega
  · have one : rest.length = 1 := by
      have := List.length_pos_iff.mpr empty
      omega
    have full : w.config.isFull (entriesText rest) = true := by
      rw [config, Config.isFull, nonblankLines_entriesText rest boundary_isNewline,
        List.length_map, List.length_map, one]
      rfl
    rw [if_neg (by simp [empty, full]), if_neg (by decide)] at rotation
    obtain ⟨run, layout'⟩ := append (w.rotated rest) _ _ config (layout.rotated empty)
    refine ⟨parts ++ [rest], [] ++ [nextSigned (w.rotated rest) steadyTurn bareRequest], ?_⟩
    rw [logged _ rotation, run]
    refine ⟨layout', config, ?_, ?_, ?_⟩
    · rw [List.flatten_append, List.flatten_singleton, List.nil_append, List.length_append,
        total, List.length_singleton]
    · intro part member
      rcases List.mem_append.mp member with early | late
      · exact singles part early
      · rw [List.mem_singleton.mp late]
        exact one
    · rw [List.nil_append, List.length_singleton]
      omega

theorem singles_run (n : Nat) (bounded : n ≤ 10 ^ 20 + 1) :
    ∃ w parts rest,
      (ledgerSystem digestVerify singleConfig []).Run
        (List.replicate n (.log steadyTurn bareRequest)) w ∧ Singles w n parts rest := by
  induction n with
  | zero =>
      exact ⟨_, [], [], .start rfl,
        ⟨⟨rfl, rfl, by simp, accepted_nil, rfl, rfl, rfl⟩, rfl, rfl, by simp, rfl⟩⟩
  | succ n ih =>
      obtain ⟨w, parts, rest, run, singles⟩ := ih (by omega)
      obtain ⟨parts', rest', after⟩ := singles_log singles (by omega)
      refine ⟨_, parts', rest', ?_, after⟩
      rw [List.replicate_succ']
      exact run.step rfl

end SelfConnect.Ledger
