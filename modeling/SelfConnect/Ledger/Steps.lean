import SelfConnect.Ledger.Layout

namespace SelfConnect.Ledger

open SelfConnect.Python SelfConnect.Python.Json SelfConnect.Library

/-! What rotation, append, recovery and resumption do to a layout. -/

variable {verify : Ed25519Verify} {w : World} {parts : List (List SignedEntry)}
  {rest : List SignedEntry}

/-- The part that is appended to, sealed. -/
def World.rotated (w : World) (rest : List SignedEntry) : World :=
  { w with disk := w.disk.archive (partName rest) (entriesText rest) }

theorem Layout.rotated (layout : Layout verify w parts rest) (filled : rest ≠ []) :
    Layout verify (w.rotated rest) (parts ++ [rest]) [] where
  archives := by
    rw [List.map_append, ← layout.archives]
    rfl
  active := rfl
  filled := by
    intro part member
    rcases List.mem_append.mp member with before | last
    · exact layout.filled part before
    · rw [List.mem_singleton.mp last]
      exact filled
  accepted := by
    rw [List.flatten_append, List.flatten_singleton, List.append_nil]
    exact layout.accepted
  seq := by
    rw [List.flatten_append, List.flatten_singleton, List.append_nil]
    exact layout.seq
  prevHash := by
    rw [List.flatten_append, List.flatten_singleton, List.append_nil]
    exact layout.prevHash
  returned := by
    rw [List.flatten_append, List.flatten_singleton, List.append_nil]
    exact layout.returned

private theorem mapM_loads (entries : List SignedEntry) :
    ((entries.map SignedEntry.value).map (render .default)).mapM loads =
      some (entries.map SignedEntry.loaded) := by
  induction entries with
  | nil => rfl
  | cons signed rest ih =>
      rw [List.map_cons, List.map_cons, List.mapM_cons, loads_value, ih]
      rfl

theorem entrySeq_loaded {identity : AgentIdentity} {signed : SignedEntry}
    (sound : signed.Sound verify identity) : entrySeq signed.loaded = .ok signed.entry.seq := by
  rw [entrySeq, SignedEntry.seq_loaded sound]
  exact toIndex_int _

theorem headHash_append (front : List SignedEntry) (filled : rest ≠ []) :
    headHash (front ++ rest) = (rest.getLast filled).entry.hash := by
  cases rest using List.reverseRecOn with
  | nil => exact absurd rfl filled
  | append_singleton before last =>
      rw [headHash, ← List.append_assoc, ledgerChain.tipAfter_snoc, List.getLast_concat]
      rfl

/-- No sealed part has the name of one sealed later. -/
private theorem target_is_new (layout : Layout verify w parts rest) (filled : rest ≠ []) :
    (w.disk.archives.any fun segment => segment.name = partName rest) = false := by
  rw [layout.archives, List.any_eq_false]
  intro segment member
  obtain ⟨part, isPart, rfl⟩ := List.mem_map.mp member
  rw [decide_eq_true_eq]
  intro same
  obtain ⟨first, inPart, _, -, partIs⟩ := partName_of_filled (layout.filled part isPart)
  obtain ⟨first', inRest, _, -, restIs⟩ := partName_of_filled filled
  rw [sealedPart, partIs, restIs] at same
  have numbers := segmentName_first same
  have before := (List.pairwise_append.mp layout.accepted.ascending).2.2 first
    (List.mem_flatten.mpr ⟨part, isPart, inPart⟩) first' inRest
  have bounds := layout.accepted.seq_bounds (List.mem_append_left rest
    (List.mem_flatten.mpr ⟨part, isPart, inPart⟩))
  omega

/-- A full part is sealed, unless the rename fails. -/
theorem rotateIfNeeded_eq (layout : Layout verify w parts rest)
    (bounded : parts.flatten.length < 10 ^ 20) (turn : Turn) :
    rotateIfNeeded verify turn w =
      if rest = [] ∨ w.config.isFull (entriesText rest) = false then (.ok (), w)
      else if turn.replaceFails then (.error .osError, w)
      else (.ok (), w.rotated rest) := by
  change Program.wp (rotateIfNeeded verify turn) (fun r t => (r, t) = _) w
  unfold rotateIfNeeded
  rw [Program.wp_bind, Program.wp_get, Program.andThen_ok]
  cases active : w.disk.active with
  | none =>
      have empty : rest = [] := by
        have same := layout.active
        rw [active, Option.getD_none, eq_comm] at same
        exact entriesText_eq_nil.mp same
      rw [if_pos (Or.inl empty)]
      rfl
  | some text =>
      have same := layout.active
      rw [active, Option.getD_some] at same
      subst same
      dsimp only
      rw [Program.wp_ite]
      refine ⟨fun idle => ?_, fun busy => ?_⟩
      · rw [if_pos]
        · rfl
        · simpa [entriesText_eq_nil] using idle
      · have filled : rest ≠ [] := by
          rintro rfl
          exact busy rfl
        have full : w.config.isFull (entriesText rest) = true := by
          cases isFull : w.config.isFull (entriesText rest) with
          | true => rfl
          | false => simp [isFull] at busy
        rw [if_neg (by simp [filled, full])]
        have sound : ∀ signed ∈ rest, signed.Sound verify w.config.identity :=
          fun signed member => layout.accepted.sound signed (by simp [member])
        have named : segmentName (rest.head filled).entry.seq (rest.getLast filled).entry.seq
            w.prevHash = partName rest := by
          rw [layout.prevHash, partName, List.head?_eq_some_head filled,
            List.getLast?_eq_some_getLast filled]
          rw [headHash_append _ filled]
        simp only [Program.wp_bind, Program.wp_require, Program.andThen_ok, Program.andThen_error,
          (layout.verifies bounded).1, nonblankLines_entriesText rest boundary_isLineBoundary,
          mapM_loads, List.head?_map, List.getLast?_map, List.head?_eq_some_head filled,
          List.getLast?_eq_some_getLast filled, Option.map_some, Program.wp_ofExcept,
          entrySeq_loaded (sound _ (List.head_mem filled)),
          entrySeq_loaded (sound _ (List.getLast_mem filled)), named,
          target_is_new layout filled, Program.wp_modify]
        cases turn.replaceFails <;> simp [World.rotated]

/-! Appending one entry. -/

def nextSigned (w : World) (turn : Turn) (request : Request) : SignedEntry :=
  ⟨nextEntry w turn request, w.config.identity.sign (encode (nextEntry w turn request).text)⟩

theorem sound_next {turn : Turn} {request : Request} (signs : w.config.identity.Signs verify)
    (admitted : request.collisions = [])
    (sorts : sortable (.dict (nextEntry w turn request).unsigned) = true)
    (stable : keysStable (.dict (nextEntry w turn request).unsigned) = true) :
    (nextSigned w turn request).Sound verify w.config.identity :=
  ⟨admitted, rfl, sorts, stable, signs _⟩

/-- The state once the entry is durable. -/
def World.appended (w : World) (signed : SignedEntry) : World :=
  { w with
    disk := w.disk.append .durable (lineText .default signed.value)
    seq := signed.entry.seq
    prevHash := signed.entry.hash
    returned := w.returned ++ [signed.value] }

theorem Layout.appended (layout : Layout verify w parts rest) {turn : Turn} {request : Request}
    (sound : (nextSigned w turn request).Sound verify w.config.identity) :
    Layout verify (w.appended (nextSigned w turn request)) parts
      (rest ++ [nextSigned w turn request]) where
  archives := layout.archives
  active := by
    rw [entriesText_append, ← layout.active]
    simp [World.appended, Disk.append, Write.kept, entriesText, fileText]
  filled := layout.filled
  accepted := by
    rw [← List.append_assoc]
    refine accepted_snoc.mpr ⟨layout.accepted, sound, layout.prevHash, ?_⟩
    change w.seq + 1 = _
    rw [layout.seq]
  seq := by
    change w.seq + 1 = _
    rw [layout.seq]
    simp only [List.length_append, List.length_singleton]
    push_cast
    ring
  prevHash := by
    rw [← List.append_assoc, headHash, ledgerChain.tipAfter_snoc]
    rfl
  returned := by
    rw [← List.append_assoc, List.map_append, ← layout.returned]
    rfl

/-- The state after a write that raised and the recovery that cut the file back. -/
def World.restored (w : World) (write : Write) (text : Text) : World :=
  { w with disk := (w.disk.append write text).truncate (w.disk.active.getD []).length }

theorem Layout.restored (layout : Layout verify w parts rest) (write : Write) (text : Text) :
    Layout verify (w.restored write text) parts rest where
  archives := by
    rw [← layout.archives]
    cases write <;> rfl
  active := by
    rw [← layout.active]
    cases write with
    | durable => simp [World.restored, Disk.append, Disk.truncate]
    | refused =>
        cases active : w.disk.active <;> simp [World.restored, Disk.append, Disk.truncate, active]
    | raised written => simp [World.restored, Disk.append, Disk.truncate]
  filled := layout.filled
  accepted := layout.accepted
  seq := layout.seq
  prevHash := layout.prevHash
  returned := layout.returned

/-- A recovery that can cut the file back finds the tail it had. -/
theorem recover_spec (layout : Layout verify w parts rest)
    (bounded : parts.flatten.length < 10 ^ 20) {turn : Turn} (works : turn.recoveryFails = false)
    (text : Text) :
    recover verify turn (w.disk.active.getD []).length
        { w with disk := w.disk.append turn.write text } =
      (.ok (), w.restored turn.write text) := by
  have after := layout.restored turn.write text
  obtain ⟨seq, prevHash⟩ := after.tail bounded
  change Program.wp (recover verify turn _) (fun r t => (r, t) = _) _
  unfold recover
  simp only [Program.wp_bind, Program.wp_require, Program.andThen_ok, Program.andThen_error,
    Program.wp_modify, Program.wp_get, Program.wp_ofExcept, works, Bool.not_false]
  refine ⟨fun _ => ⟨fun _ => ?_, fun invalid => ?_⟩, fun failed => by cases failed⟩
  · change Program.andThen _ _ ((loadLastSeq (w.restored turn.write text).disk).mapError _) _
    rw [seq, Except.mapError, Program.andThen_ok]
    simp only [Program.wp_bind, Program.wp_ofExcept]
    change Program.andThen _ _ ((loadLastHash (w.restored turn.write text).disk).mapError _) _
    rw [prevHash, Except.mapError, Program.andThen_ok, Program.wp_modify, ← layout.seq,
      ← layout.prevHash]
    rfl
  · have valid := (after.verifies bounded).1
    change (verifySnapshot verify w.config.identity (w.restored turn.write text).disk).valid =
      false at invalid
    change (verifySnapshot verify w.config.identity (w.restored turn.write text).disk).valid =
      true at valid
    rw [valid] at invalid
    cases invalid

theorem appendEntry_eq (layout : Layout verify w parts rest) {turn : Turn} {request : Request}
    (sorts : sortable (.dict (nextEntry w turn request).unsigned) = true)
    (recovers : turn.write.isDurable = false →
      turn.recoveryFails = false ∧ parts.flatten.length < 10 ^ 20) :
    appendEntry verify turn request w =
      if turn.signFails then (.error .signing, w)
      else if turn.write.isDurable then
        (.ok (nextSigned w turn request).value, w.appended (nextSigned w turn request))
      else
        (.error .osError, w.restored turn.write
          (lineText .default (nextSigned w turn request).value)) := by
  have dumped : dumpsSorted .compact (.dict (nextEntry w turn request).unsigned) =
      some (nextEntry w turn request).text := if_pos sorts
  change Program.wp (appendEntry verify turn request) (fun r t => (r, t) = _) w
  unfold appendEntry
  simp only [Program.wp_bind, Program.wp_get, Program.andThen_ok, Program.wp_ofExcept, dumped,
    Option.elim_some, Program.wp_require, Program.andThen_error, Program.wp_modify]
  refine ⟨fun works => ?_, fun fails => ?_⟩
  · have signer : turn.signFails = false := by simpa using works
    rw [signer, if_neg Bool.false_ne_true, Program.wp_ite]
    refine ⟨fun durable => ?_, fun raised => ?_⟩
    · have write : turn.write = .durable := by
        cases equal : turn.write <;> simp [equal, Write.isDurable] at durable ⊢
      rw [if_pos durable]
      simp only [Program.wp_bind, Program.wp_modify, Program.andThen_ok, Program.wp_pure, write]
      rfl
    · have notDurable : turn.write.isDurable = false := by simpa using raised
      obtain ⟨recovery, bounded⟩ := recovers notDurable
      have recovered := recover_spec layout bounded recovery
        (lineText .default (nextSigned w turn request).value)
      rw [if_neg raised, Program.wp_bind]
      change Program.andThen _ _ (recover verify turn _ _).1 (recover verify turn _ _).2
      erw [recovered]
      rfl
  · have signer : turn.signFails = true := by simpa using fails
    rw [signer, if_pos rfl]

end SelfConnect.Ledger
