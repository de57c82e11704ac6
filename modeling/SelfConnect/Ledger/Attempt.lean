import SelfConnect.Ledger.Steps

namespace SelfConnect.Ledger

open SelfConnect.Python SelfConnect.Python.Json SelfConnect.Library

/-! How far a call of `log` gets, told from the state before it. -/

section

variable (w : World) (turn : Turn) (request : Request)

/-- The active file is full and cannot be sealed. -/
def World.rotationFails : Bool :=
  match w.disk.active with
  | none => false
  | some text => !text.isEmpty && w.config.isFull text && turn.replaceFails

/-- The call gets as far as writing its line. -/
def World.writes : Bool :=
  request.collisions.isEmpty && !w.rotationFails turn &&
    sortable (.dict (nextEntry w turn request).unsigned) && !turn.signFails

def World.nextLine : Text :=
  lineText .default (nextSigned w turn request).value

/-- The line becomes durable. -/
def World.appends : Bool :=
  w.writes turn request && turn.write.isDurable

/-- The write raises, and what it left in the file is not cut back. -/
def World.tears : Bool :=
  w.writes turn request && !turn.write.isDurable && turn.recoveryFails &&
    !(turn.write.kept (w.nextLine turn request)).isEmpty

end

variable {verify : Ed25519Verify} {w : World} {parts : List (List SignedEntry)}
  {rest : List SignedEntry} {turn : Turn} {request : Request}

theorem appendEntry_of_unsortable
    (mixed : sortable (.dict (nextEntry w turn request).unsigned) = false) :
    appendEntry verify turn request w = (.error .typeError, w) := by
  have refused : dumpsSorted .compact (.dict (nextEntry w turn request).unsigned) = none :=
    if_neg (Bool.eq_false_iff.mp mixed)
  change Program.wp (appendEntry verify turn request) (fun r t => (r, t) = _) w
  unfold appendEntry
  simp only [Program.wp_bind, Program.wp_get, Program.andThen_ok, Program.wp_ofExcept, refused,
    Option.elim_none, Program.andThen_error]

/-- A recovery that fails leaves what the write left. -/
theorem appendEntry_of_unrestored
    (sorts : sortable (.dict (nextEntry w turn request).unsigned) = true)
    (signer : turn.signFails = false) (raises : turn.write.isDurable = false)
    (fails : turn.recoveryFails = true) :
    appendEntry verify turn request w =
      (.error .tailNotRestored,
        { w with disk := w.disk.append turn.write (w.nextLine turn request) }) := by
  have dumped : dumpsSorted .compact (.dict (nextEntry w turn request).unsigned) =
      some (nextEntry w turn request).text := if_pos sorts
  change Program.wp (appendEntry verify turn request) (fun r t => (r, t) = _) w
  unfold appendEntry
  simp only [Program.wp_bind, Program.wp_get, Program.andThen_ok, Program.wp_ofExcept, dumped,
    Option.elim_some, Program.wp_require, Program.andThen_error, Program.wp_modify, signer, raises,
    Bool.not_false, Bool.false_eq_true, if_false]
  refine ⟨fun _ => ?_, fun failed => by cases failed⟩
  unfold recover
  simp only [Program.wp_bind, Program.wp_require, fails, Bool.not_true]
  exact ⟨fun impossible => (by cases impossible), fun _ => rfl⟩

theorem appendEntry_of_unsigned
    (sorts : sortable (.dict (nextEntry w turn request).unsigned) = true)
    (signer : turn.signFails = true) :
    appendEntry verify turn request w = (.error .signing, w) := by
  have dumped : dumpsSorted .compact (.dict (nextEntry w turn request).unsigned) =
      some (nextEntry w turn request).text := if_pos sorts
  change Program.wp (appendEntry verify turn request) (fun r t => (r, t) = _) w
  unfold appendEntry
  simp only [Program.wp_bind, Program.wp_get, Program.andThen_ok, Program.wp_ofExcept, dumped,
    Option.elim_some, Program.wp_require, signer, Bool.not_true, Program.andThen_error]
  exact ⟨fun impossible => (by cases impossible), fun _ => trivial⟩

/-- A write that left nothing changes no entry. -/
theorem Layout.unwritten (layout : Layout verify w parts rest) {write : Write} {text : Text}
    (raises : write.isDurable = false) (nothing : (write.kept text).isEmpty = true) :
    Layout verify { w with disk := w.disk.append write text } parts rest where
  archives := by
    rw [← layout.archives]
    cases write <;> rfl
  active := by
    rw [← layout.active]
    have empty := List.isEmpty_iff.mp nothing
    cases write with
    | durable => cases raises
    | refused => rfl
    | raised written => simp [Disk.append, empty]
  filled := layout.filled
  accepted := layout.accepted
  seq := layout.seq
  prevHash := layout.prevHash
  returned := layout.returned

theorem rotationFails_eq (layout : Layout verify w parts rest) (turn : Turn) :
    w.rotationFails turn =
      if rest = [] ∨ w.config.isFull (entriesText rest) = false then false
      else turn.replaceFails := by
  have same := layout.active
  unfold World.rotationFails
  cases active : w.disk.active with
  | none =>
      rw [active, Option.getD_none, eq_comm, entriesText_eq_nil] at same
      rw [if_pos (Or.inl same)]
  | some text =>
      rw [active, Option.getD_some] at same
      subst same
      dsimp only
      split
      · next idle =>
          rcases idle with empty | hasRoom
          · rw [empty]
            rfl
          · rw [hasRoom, Bool.and_false, Bool.false_and]
      · next busy =>
          obtain ⟨filled, full⟩ := not_or.mp busy
          have hasText : (entriesText rest).isEmpty = false := by
            rw [← Bool.not_eq_true, List.isEmpty_iff, entriesText_eq_nil]
            exact filled
          rw [hasText, (Bool.not_eq_false _).mp full, Bool.not_false, Bool.true_and,
            Bool.true_and]

/-- What an attempt to append the next entry leaves behind: that entry, when it became
durable, or the entries as they were. -/
def Attempted (verify : Ed25519Verify) (config : Config) (next : SignedEntry) (durable : Bool)
    (before : List SignedEntry) (r : Except Raised Value) (t : World) : Prop :=
  t.config = config ∧ ∃ parts rest, Layout verify t parts rest ∧
    match r with
    | .ok value => durable = true ∧ value = next.value ∧ parts.flatten ++ rest = before ++ [next]
    | .error _ => durable = false ∧ parts.flatten ++ rest = before

/-- After the rotation. -/
private theorem appendEntry_outcome (signs : w.config.identity.Signs verify)
    (layout : Layout verify w parts rest) (bounded : parts.flatten.length < 10 ^ 20)
    (admitted : request.collisions = [])
    (restores : sortable (.dict (nextEntry w turn request).unsigned) = true →
      turn.signFails = false → turn.write.isDurable = false → turn.recoveryFails = true →
        (turn.write.kept (w.nextLine turn request)).isEmpty = true)
    (stable : sortable (.dict (nextEntry w turn request).unsigned) = true →
      turn.signFails = false → turn.write.isDurable = true →
        keysStable (.dict (nextEntry w turn request).unsigned) = true) :
    Program.wp (appendEntry verify turn request)
      (Attempted verify w.config (nextSigned w turn request)
        (sortable (.dict (nextEntry w turn request).unsigned) && !turn.signFails &&
          turn.write.isDurable) (parts.flatten ++ rest)) w := by
  unfold Program.wp
  cases sorts : sortable (.dict (nextEntry w turn request).unsigned) with
  | false =>
      rw [appendEntry_of_unsortable sorts]
      exact ⟨rfl, parts, rest, layout, rfl, rfl⟩
  | true =>
      cases signer : turn.signFails with
      | true =>
          rw [appendEntry_of_unsigned sorts signer]
          exact ⟨rfl, parts, rest, layout, rfl, rfl⟩
      | false =>
          cases durable : turn.write.isDurable with
          | true =>
              have sound := sound_next signs admitted sorts (stable sorts signer durable)
              have recovers : turn.write.isDurable = false → turn.recoveryFails = false ∧
                  parts.flatten.length < 10 ^ 20 := by
                rw [durable]
                intro raises
                cases raises
              rw [appendEntry_eq layout sorts recovers, signer, durable, if_neg Bool.false_ne_true,
                if_pos rfl]
              refine ⟨rfl, parts, _, layout.appended sound, rfl, rfl, ?_⟩
              rw [List.append_assoc]
          | false =>
              cases fails : turn.recoveryFails with
              | true =>
                  rw [appendEntry_of_unrestored sorts signer durable fails]
                  exact ⟨rfl, parts, rest,
                    layout.unwritten durable (restores sorts signer durable fails), rfl, rfl⟩
              | false =>
                  rw [appendEntry_eq layout sorts fun _ => ⟨fails, bounded⟩, signer, durable,
                    if_neg Bool.false_ne_true, if_neg Bool.false_ne_true]
                  exact ⟨rfl, parts, rest, layout.restored _ _, rfl, rfl⟩

theorem log_outcome (signs : w.config.identity.Signs verify)
    (layout : Layout verify w parts rest) (bounded : (parts.flatten ++ rest).length < 10 ^ 20)
    (restores : w.tears turn request = false)
    (stable : w.appends turn request = true →
      keysStable (.dict (nextEntry w turn request).unsigned) = true) :
    Program.wp (log verify turn request)
      (Attempted verify w.config (nextSigned w turn request) (w.appends turn request)
        (parts.flatten ++ rest)) w := by
  unfold log
  rw [Program.wp_bind, Program.wp_require]
  refine ⟨fun free => ?_, fun collides => ?_⟩
  · have admitted : request.collisions = [] := List.isEmpty_iff.mp free
    have small : parts.flatten.length < 10 ^ 20 := by
      rw [List.length_append] at bounded
      omega
    -- a rotation changes neither the tail nor the identity the next entry is made of
    have append : ∀ {v : World} {parts' rest'}, v.config = w.config →
        nextEntry v turn request = nextEntry w turn request → w.rotationFails turn = false →
        Layout verify v parts' rest' → parts'.flatten ++ rest' = parts.flatten ++ rest →
        Program.wp (appendEntry verify turn request)
          (Attempted verify w.config (nextSigned w turn request) (w.appends turn request)
            (parts.flatten ++ rest)) v := by
      intro v parts' rest' config next rotates layout' same
      have signed : nextSigned v turn request = nextSigned w turn request := by
        rw [nextSigned, nextSigned, next, config]
      have total : parts'.flatten.length < 10 ^ 20 := by
        have lengths := congrArg List.length same
        rw [List.length_append] at lengths
        omega
      have reaches : sortable (.dict (nextEntry w turn request).unsigned) = true →
          turn.signFails = false → w.writes turn request = true := by
        intro sorts signer
        rw [World.writes, free, rotates, sorts, signer]
        rfl
      have outcome : Program.wp (appendEntry verify turn request) _ v :=
        appendEntry_outcome (config ▸ signs) layout' total admitted
        (by
          rw [next, World.nextLine, signed]
          intro sorts signer raises fails
          rw [World.tears, reaches sorts signer, raises, fails, World.nextLine] at restores
          simpa using restores)
        (by
          rw [next]
          intro sorts signer durable
          apply stable
          rw [World.appends, reaches sorts signer, durable]
          rfl)
      have appends : w.appends turn request =
          (sortable (.dict (nextEntry v turn request).unsigned) && !turn.signFails &&
            turn.write.isDurable) := by
        rw [World.appends, World.writes, free, rotates, next]
        simp only [Bool.not_false, Bool.true_and]
      rw [appends, ← signed, ← same, ← config]
      exact outcome
    have rotation := rotationFails_eq layout turn
    rw [Program.andThen_ok, Program.wp_bind]
    unfold Program.wp
    rw [rotateIfNeeded_eq layout small]
    split
    · next idle =>
        rw [if_pos idle] at rotation
        exact append rfl rfl rotation layout rfl
    · next busy =>
        rw [if_neg busy] at rotation
        split
        · next fails =>
            refine ⟨rfl, parts, rest, layout, ?_, rfl⟩
            rw [World.appends, World.writes, rotation, fails, Bool.not_true, Bool.and_false,
              Bool.false_and, Bool.false_and, Bool.false_and]
        · next works =>
            rw [Bool.eq_false_iff.mpr works] at rotation
            refine append rfl rfl rotation (layout.rotated fun empty => busy (Or.inl empty)) ?_
            rw [List.flatten_append, List.flatten_singleton, List.append_nil]
  · have collided : w.appends turn request = false := by
      rw [World.appends, World.writes, collides]
      rfl
    exact ⟨rfl, parts, rest, layout, collided, rfl⟩

end SelfConnect.Ledger
