import SelfConnect.Observer.Extract
import SelfConnect.Ledger.Runs
import SelfConnect.Library.Outcomes

namespace SelfConnect.Observer

open SelfConnect.Python SelfConnect.Python.Json SelfConnect.Library SelfConnect.Ledger

/-! An observer that resumes by sequence number, beside a ledger that rotates. -/

/-- A ledger, what was extracted from it, and the number of entries that had been logged
when it last was. -/
structure Watched where
  world : World
  extracted : List EvidenceRecord
  upTo : Nat

inductive WatchCall
  | ledger (call : Call)
  | extract (sinceSeq : Int)

section

variable (verify : Ed25519Verify) (upper : Str → Str) (observer : LedgerObserver)

/-- A call of `extract`; one that raises returns nothing. -/
def Watched.extract (s : Watched) (sinceSeq : Int) : Watched :=
  match observer.extract upper verify s.world.config.identity s.world.disk sinceSeq with
  | .ok records =>
      { s with extracted := s.extracted ++ records, upTo := s.world.returned.length }
  | .error _ => s

/-- A bound that a caller takes from what it has seen: no less than what it was given,
and no more than what was there. -/
structure Watched.Seen (s : Watched) (sinceSeq : Int) : Prop where
  given : ∀ record ∈ s.extracted, ∀ seq, record.seq = .int seq → seq ≤ sinceSeq
  there : sinceSeq ≤ s.upTo

def watchNext (s : Watched) : WatchCall → Watched → Prop
  | .ledger call, t => t = { s with world := call.run verify s.world }
  | .extract sinceSeq, t => s.Seen sinceSeq ∧ t = s.extract verify upper observer sinceSeq

def watchSystem (config : Config) (logName : Text) : System Watched WatchCall where
  initial s := s = ⟨newWorld config logName, [], 0⟩
  next := watchNext verify upper observer

/-- The entries, as they are read back, that the filter accepts. -/
def acceptedOf (entries : List Value) : List Value :=
  (entries.map fun entry => build (reread entry)).filter (observer.accepts upper)

def IsRecord (record : EvidenceRecord) (entry : Value) : Prop :=
  ∃ contextBefore, record = recordOf observer.redaction contextBefore entry

/-- What was extracted is each entry that had been logged by the last extraction and that
the filter accepts, once and in order. -/
def Complete (s : Watched) : Prop :=
  List.Forall₂ (IsRecord observer) s.extracted
    (acceptedOf upper observer (s.world.returned.take s.upTo))

end

/-! Rotations that take nothing away that is still to be extracted. -/

/-- The call will move the active file to the archive. -/
structure Rotates (w : World) (turn : Turn) (request : Request) (text : Text) : Prop where
  admitted : request.collisions = []
  active : w.disk.active = some text
  filled : text ≠ []
  full : w.config.isFull text = true
  replaces : turn.replaceFails = false

/-- A log call rotates only when the entries of the active file that the filter accepts
had been logged by the last extraction. -/
def Timely (upper : Str → Str) (observer : LedgerObserver) (s : Watched) : WatchCall → Prop
  | .ledger (.log turn request) => ∀ text, Rotates s.world turn request text →
      ∀ entry ∈ loadEntries text, observer.accepts upper entry = true →
        ∃ seq, entry.get? "seq" = some (.int seq) ∧ seq ≤ s.upTo
  | _ => True

/-- String-keyed metadata, a recovery that works, and restarts under one identity. -/
def WatchCall.Presumed (identity : AgentIdentity) : WatchCall → Prop
  | .ledger call => call.Presumed identity
  | .extract _ => True

/-! What the loop selects. -/

section Loop

variable {upper : Str → Str} {observer : LedgerObserver}

/-- An accepted entry lies above the smallest number of the filter. -/
theorem minSeq_of_accepts {entry : Value} (isAccepted : observer.accepts upper entry = true)
    {seq : Int} (isSeq : entry.get? "seq" = some (.int seq)) : observer.filter.minSeq < seq := by
  have checks := allOf_eq_true ((LedgerObserver.accepts_iff upper observer).mp isAccepted)
  have last := checks ((atMost (entry.getD "seq" (.int 0)) observer.filter.minSeq).map not)
    (by simp)
  rw [Value.getD, isSeq] at last
  simp only [Option.getD_some, atMost, Value.number?, Except.map, Except.ok.injEq,
    Bool.not_eq_true', Bool.or_eq_false_iff, Number.lt, Number.eqv, decide_eq_false_iff_not,
    not_lt, Int.cast_le, Int.cast_inj] at last
  omega

/-- The entry has a number above the floor. -/
def above (floor : Int) (entry : Value) : Bool :=
  match seqAtMost entry floor with
  | .ok isAtMost => !isAtMost
  | .error _ => false

/-- The loop takes the entries above the floor that the filter accepts. -/
theorem extractFrom_selects {floor : Int} {before entries : List Value}
    {records : List EvidenceRecord}
    (isExtracted : observer.extractFrom upper floor before entries = .ok records) :
    List.Forall₂ (IsRecord observer) records
      (entries.filter fun entry => observer.accepts upper entry && above floor entry) := by
  induction entries generalizing before records with
  | nil =>
      cases isExtracted
      exact .nil
  | cons entry rest ih =>
      unfold LedgerObserver.extractFrom at isExtracted
      obtain ⟨isAtMost, compared, rest_extracted⟩ := bind_eq_ok.mp isExtracted
      cases isAtMost with
      | true =>
          have notAbove : above floor entry = false := by rw [above, compared]; rfl
          rw [List.filter_cons_of_neg (by rw [notAbove, Bool.and_false]; exact Bool.false_ne_true)]
          exact ih rest_extracted
      | false =>
          have isAbove : above floor entry = true := by rw [above, compared]; rfl
          obtain ⟨isMatch, matched, further⟩ := bind_eq_ok.mp rest_extracted
          cases isMatch with
          | false =>
              have refused : observer.accepts upper entry = false := by
                rw [LedgerObserver.accepts, matched]
              rw [List.filter_cons_of_neg (by rw [refused]; exact Bool.false_ne_true)]
              exact ih further
          | true =>
              have accepted : observer.accepts upper entry = true := by
                rw [LedgerObserver.accepts, matched]
              rw [List.filter_cons_of_pos (by rw [accepted, isAbove]; rfl)]
              obtain ⟨context, -, taken⟩ := bind_eq_ok.mp further
              obtain ⟨tail, isTail, returned⟩ := bind_eq_ok.mp taken
              cases returned
              exact .cons ⟨_, rfl⟩ (ih isTail)

end Loop

/-! What a call of the ledger moves. -/

section Moves

variable {verify : Ed25519Verify} {w : World} {parts : List (List SignedEntry)}
  {rest : List SignedEntry} {turn : Turn} {request : Request}

/-- Some entry may have been put to the end. -/
def Extended (before after : List SignedEntry) : Prop :=
  after = before ∨ ∃ signed, after = before ++ [signed]

/-- After a call of `log` the active file goes on, or it was sealed and begun anew. -/
def Moved (verify : Ed25519Verify) (w : World) (turn : Turn) (request : Request)
    (parts : List (List SignedEntry)) (rest : List SignedEntry) (after : World) : Prop :=
  after.config = w.config ∧ ∃ parts' rest', Layout verify after parts' rest' ∧
    ((parts' = parts ∧ Extended rest rest') ∨
      (Rotates w turn request (entriesText rest) ∧ parts' = parts ++ [rest] ∧ Extended [] rest'))

theorem log_moves (signs : w.config.identity.Signs verify) (layout : Layout verify w parts rest)
    (bounded : (parts.flatten ++ rest).length < 10 ^ 20) (works : turn.recoveryFails = false)
    (keyed : ∀ members, request.metadata = some members → StringKeyed (.dict members)) :
    Program.wp (log verify turn request) (fun _ => Moved verify w turn request parts rest) w := by
  unfold log
  rw [Program.wp_bind, Program.wp_require]
  refine ⟨fun free => ?_, fun _ => ⟨rfl, parts, rest, layout, .inl ⟨rfl, .inl rfl⟩⟩⟩
  have admitted : request.collisions = [] := List.isEmpty_iff.mp free
  have append : ∀ {v : World} {parts' rest'}, v.config = w.config →
      Layout verify v parts' rest' → parts'.flatten ++ rest' = parts.flatten ++ rest →
      Program.wp (appendEntry verify turn request)
        (fun _ after => after.config = w.config ∧ ∃ rest'', Layout verify after parts' rest'' ∧
          Extended rest' rest'') v := by
    intro v parts' rest' config layout' same
    have nextKeyed : StringKeyed (.dict (nextEntry v turn request).unsigned) :=
      Entry.stringKeyed_unsigned keyed
    have sorts := sortable_of_stringKeyed _ nextKeyed
    have sound : (nextSigned v turn request).Sound verify v.config.identity :=
      sound_next (config ▸ signs) admitted sorts (keysStable_of_stringKeyed _ nextKeyed)
    have small : parts'.flatten.length < 10 ^ 20 := by
      have total := congrArg List.length same
      rw [List.length_append] at total
      omega
    unfold Program.wp
    rw [appendEntry_eq layout' sorts fun _ => ⟨works, small⟩]
    split
    · exact ⟨config, rest', layout', .inl rfl⟩
    · split
      · exact ⟨config, _, layout'.appended sound, .inr ⟨_, rfl⟩⟩
      · exact ⟨config, rest', layout'.restored _ _, .inl rfl⟩
  have small : parts.flatten.length < 10 ^ 20 := by
    rw [List.length_append] at bounded
    omega
  rw [Program.andThen_ok, Program.wp_bind]
  unfold Program.wp
  rw [rotateIfNeeded_eq layout small]
  split
  · obtain ⟨config, rest', layout', extended⟩ := append rfl layout rfl
    exact ⟨config, parts, rest', layout', .inl ⟨rfl, extended⟩⟩
  · next busy =>
      obtain ⟨filled, isFull⟩ := not_or.mp busy
      split
      · exact ⟨rfl, parts, rest, layout, .inl ⟨rfl, .inl rfl⟩⟩
      · next replaces =>
          have same : (parts ++ [rest]).flatten ++ [] = parts.flatten ++ rest := by
            rw [List.flatten_append, List.flatten_singleton, List.append_nil]
          obtain ⟨config, rest', layout', extended⟩ :=
            @append (w.rotated rest) _ _ rfl (layout.rotated filled) same
          refine ⟨config, _, rest', layout', .inr ⟨⟨admitted, ?_, ?_, ?_, ?_⟩, rfl, extended⟩⟩
          · have isActive := layout.active
            cases active : w.disk.active with
            | none =>
                rw [active, Option.getD_none, eq_comm] at isActive
                exact absurd (entriesText_eq_nil.mp isActive) filled
            | some text =>
                rw [active, Option.getD_some] at isActive
                rw [isActive]
          · exact mt entriesText_eq_nil.mp filled
          · simpa using isFull
          · simpa using replaces

end Moves

/-! Entries by their numbers. -/

section Numbers

variable {verify : Ed25519Verify} {identity : AgentIdentity} {entries : List SignedEntry}
  {signed : SignedEntry}

theorem seq_of_mem_take (accepted : Accepted verify identity entries) {k : Nat}
    (member : signed ∈ entries.take k) : signed.entry.seq ≤ k := by
  rw [← List.take_append_drop k entries] at accepted
  have bounds := (accepted_front accepted).seq_bounds member
  have short : (entries.take k).length ≤ k := by
    rw [List.length_take]
    exact Nat.min_le_left _ _
  omega

theorem seq_of_mem_drop (accepted : Accepted verify identity entries) {k : Nat}
    (member : signed ∈ entries.drop k) : (k : Int) < signed.entry.seq := by
  have long : k < entries.length := by
    rw [← Nat.not_le]
    intro short
    rw [List.drop_eq_nil_of_le short] at member
    cases member
  obtain ⟨front, back, split⟩ := List.append_of_mem member
  have isSplit : entries = entries.take k ++ front ++ [signed] ++ back := by
    rw [List.append_assoc, List.append_assoc, List.singleton_append, ← split,
      List.take_append_drop]
  rw [isSplit] at accepted
  obtain ⟨-, -, -, seq⟩ := accepted_snoc.mp (accepted_front accepted)
  rw [seq, List.length_append, List.length_take, Nat.min_eq_left long.le]
  push_cast
  omega

theorem loadEntries_entriesText (entries : List SignedEntry) :
    loadEntries (entriesText entries) = entries.map SignedEntry.loaded := by
  have dicts : ∀ v ∈ entries.map SignedEntry.value, v.isDict = true := by
    intro v member
    obtain ⟨signed, -, isValue⟩ := List.mem_map.mp member
    rw [← isValue]
    rfl
  rw [loadEntries, entriesText, filledLines_fileText rfl boundary_isNewline rfl rfl dicts,
    List.map_map, List.filterMap_map, ← List.filterMap_eq_map]
  exact List.filterMap_congr fun signed _ => loads_value signed

end Numbers

/-! What holds along a run. -/

section Runs

variable {verify : Ed25519Verify} {upper : Str → Str} {observer : LedgerObserver}
  {identity : AgentIdentity}

structure Follows (verify : Ed25519Verify) (upper : Str → Str) (observer : LedgerObserver)
    (identity : AgentIdentity) (s : Watched) (parts : List (List SignedEntry))
    (rest : List SignedEntry) : Prop where
  layout : Layout verify s.world parts rest
  same : s.world.config.identity = identity
  logged : s.upTo ≤ (parts.flatten ++ rest).length
  complete : Complete upper observer s
  archived : ∀ signed ∈ parts.flatten, observer.accepts upper signed.loaded = true →
    signed.entry.seq ≤ s.upTo

theorem complete_of_extended {s : Watched} {world : World} {entries more : List SignedEntry}
    (complete : Complete upper observer s)
    (returned : s.world.returned = entries.map SignedEntry.value)
    (returned' : world.returned = (entries ++ more).map SignedEntry.value)
    (logged : s.upTo ≤ entries.length) :
    Complete upper observer { s with world := world } := by
  unfold Complete at complete ⊢
  have short : s.upTo ≤ (entries.map SignedEntry.value).length := by
    rw [List.length_map]
    exact logged
  rw [returned', List.map_append, List.take_append_of_le_length short, ← returned]
  exact complete

variable {s : Watched} {parts : List (List SignedEntry)} {rest : List SignedEntry}

theorem follows_new (config : Config) (logName : Text) :
    Follows verify upper observer config.identity ⟨newWorld config logName, [], 0⟩ [] [] where
  layout := ⟨rfl, rfl, by simp, accepted_nil, rfl, rfl, rfl⟩
  same := rfl
  logged := le_rfl
  complete := .nil
  archived _ member := by cases member

/-- The entries stay, one may come, and the active file may be sealed when its entries
have been seen. -/
theorem Follows.moved (follows : Follows verify upper observer identity s parts rest)
    {turn : Turn} {request : Request} {after : World}
    (timely : Timely upper observer s (.ledger (.log turn request)))
    (moved : Moved verify s.world turn request parts rest after) :
    ∃ parts' rest', Follows verify upper observer identity { s with world := after }
      parts' rest' := by
  obtain ⟨config, parts', rest', layout', moves⟩ := moved
  have same : after.config.identity = identity :=
    (congrArg Config.identity config).trans follows.same
  have grown : ∃ more, parts'.flatten ++ rest' = parts.flatten ++ rest ++ more := by
    rcases moves with ⟨isParts, isRest | ⟨signed, isRest⟩⟩ |
      ⟨-, isParts, isRest | ⟨signed, isRest⟩⟩
    · exact ⟨[], by rw [isParts, isRest, List.append_nil]⟩
    · exact ⟨[signed], by rw [isParts, isRest, List.append_assoc]⟩
    · refine ⟨[], ?_⟩
      rw [isParts, isRest, List.flatten_append, List.flatten_singleton]
    · refine ⟨[signed], ?_⟩
      rw [isParts, isRest, List.flatten_append, List.flatten_singleton, List.nil_append]
  obtain ⟨more, isGrown⟩ := grown
  have returned' := layout'.returned
  rw [isGrown] at returned'
  have archived : ∀ signed ∈ parts'.flatten, observer.accepts upper signed.loaded = true →
      signed.entry.seq ≤ s.upTo := by
    intro signed member isAccepted
    rcases moves with ⟨isParts, -⟩ | ⟨rotates, isParts, -⟩
    · rw [isParts] at member
      exact follows.archived signed member isAccepted
    · rw [isParts, List.flatten_append, List.flatten_singleton] at member
      rcases List.mem_append.mp member with before | moving
      · exact follows.archived signed before isAccepted
      · have isRead : signed.loaded ∈ loadEntries (entriesText rest) := by
          rw [loadEntries_entriesText]
          exact List.mem_map_of_mem moving
        obtain ⟨seq, isSeq, seen⟩ := timely _ rotates _ isRead isAccepted
        rw [SignedEntry.seq_loaded (follows.layout.accepted.sound signed
          (List.mem_append_right _ moving))] at isSeq
        cases isSeq
        exact seen
  refine ⟨parts', rest', layout', same, ?_, ?_, archived⟩
  · rw [isGrown, List.length_append]
    exact Nat.le_add_right_of_le follows.logged
  · exact complete_of_extended follows.complete follows.layout.returned returned' follows.logged

theorem acceptedOf_values (entries : List SignedEntry) :
    acceptedOf upper observer (entries.map SignedEntry.value) =
      (entries.map SignedEntry.loaded).filter (observer.accepts upper) := by
  rw [acceptedOf, List.map_map]
  rfl

theorem acceptedOf_append (first second : List Value) :
    acceptedOf upper observer (first ++ second) =
      acceptedOf upper observer first ++ acceptedOf upper observer second := by
  rw [acceptedOf, List.map_append, List.filter_append]
  rfl

theorem exists_of_forall₂ {α β : Type} {related : α → β → Prop} {first : List α} {second : List β}
    (all : List.Forall₂ related first second) {b : β} (member : b ∈ second) :
    ∃ a ∈ first, related a b := by
  induction all with
  | nil => cases member
  | cons here _ ih =>
      rcases List.mem_cons.mp member with isHead | below
      · rw [isHead]
        exact ⟨_, List.mem_cons_self, here⟩
      · obtain ⟨a, isIn, holds⟩ := ih below
        exact ⟨a, List.mem_cons_of_mem _ isIn, holds⟩

theorem above_loaded {signed : SignedEntry} (sound : signed.Sound verify identity) (floor : Int) :
    above floor signed.loaded = decide (floor < signed.entry.seq) := by
  rw [above, seqAtMost, if_pos (signed.isDict_loaded sound), Value.getD,
    SignedEntry.seq_loaded sound]
  by_cases isAbove : floor < signed.entry.seq
  · simp [atMost, Value.number?, Number.lt, Number.eqv, isAbove, isAbove.le, isAbove.ne']
  · have isBelow := (not_lt.mp isAbove).lt_or_eq
    simp only [atMost, Option.getD_some, Value.number?, Number.lt, Number.eqv, Int.cast_lt,
      Int.cast_inj, isAbove, decide_false, Bool.not_eq_false', Bool.or_eq_true, decide_eq_true_eq]
    exact isBelow

/-- What the filter accepts of the later entries is what it accepts above a bound that was
seen, in the active file. -/
theorem Follows.later (follows : Follows verify upper observer identity s parts rest)
    {sinceSeq : Int} (seen : s.Seen sinceSeq) :
    acceptedOf upper observer (s.world.returned.drop s.upTo) =
      (rest.map SignedEntry.loaded).filter fun entry => observer.accepts upper entry &&
        above (max observer.filter.minSeq sinceSeq) entry := by
  have accepted := follows.layout.accepted
  have isLater : ∀ signed ∈ parts.flatten ++ rest, observer.accepts upper signed.loaded = true →
      ((s.upTo : Int) < signed.entry.seq ↔
        max observer.filter.minSeq sinceSeq < signed.entry.seq) := by
    intro signed member isAccepted
    have isSeq := SignedEntry.seq_loaded (accepted.sound signed member)
    have overMin := minSeq_of_accepts isAccepted isSeq
    have there := seen.there
    constructor
    · omega
    · intro overFloor
      by_contra notLater
      have isEarly : signed ∈ (parts.flatten ++ rest).take s.upTo := by
        rw [← List.take_append_drop s.upTo (parts.flatten ++ rest)] at member
        refine (List.mem_append.mp member).resolve_right ?_
        exact fun late => notLater (seq_of_mem_drop accepted late)
      have complete := follows.complete
      rw [Complete, follows.layout.returned, ← List.map_take, acceptedOf_values] at complete
      obtain ⟨record, isGiven, contextBefore, isRecord⟩ := exists_of_forall₂ complete
        (List.mem_filter.mpr ⟨List.mem_map_of_mem isEarly, isAccepted⟩)
      have bound := seen.given record isGiven signed.entry.seq (by
        rw [isRecord, recordOf, Value.getD, isSeq]
        rfl)
      omega
  have fromDrop : ((parts.flatten ++ rest).drop s.upTo).filter
        (fun signed => observer.accepts upper signed.loaded) =
      (parts.flatten ++ rest).filter fun signed =>
        observer.accepts upper signed.loaded && decide ((s.upTo : Int) < signed.entry.seq) := by
    conv_rhs => rw [← List.take_append_drop s.upTo (parts.flatten ++ rest), List.filter_append]
    have early : ((parts.flatten ++ rest).take s.upTo).filter (fun signed =>
        observer.accepts upper signed.loaded && decide ((s.upTo : Int) < signed.entry.seq)) =
          [] := by
      apply List.filter_eq_nil_iff.mpr
      intro signed member
      have bound := seq_of_mem_take accepted member
      simp [bound]
    rw [early, List.nil_append]
    apply List.filter_congr
    intro signed member
    simp [seq_of_mem_drop accepted member]
  have fromParts : parts.flatten.filter (fun signed =>
      observer.accepts upper signed.loaded && decide ((s.upTo : Int) < signed.entry.seq)) = [] := by
    apply List.filter_eq_nil_iff.mpr
    intro signed member isBoth
    obtain ⟨isAccepted, isLate⟩ := (Bool.and_eq_true _ _).mp isBoth
    have early := follows.archived signed member isAccepted
    exact absurd (of_decide_eq_true isLate) (not_lt.mpr early)
  have fromRest : rest.filter (fun signed =>
        observer.accepts upper signed.loaded && decide ((s.upTo : Int) < signed.entry.seq)) =
      rest.filter fun signed => observer.accepts upper signed.loaded &&
        above (max observer.filter.minSeq sinceSeq) signed.loaded := by
    apply List.filter_congr
    intro signed member
    have inAll := List.mem_append_right parts.flatten member
    rw [above_loaded (accepted.sound signed inAll)]
    cases isAccepted : observer.accepts upper signed.loaded with
    | false => rfl
    | true => rw [decide_eq_decide.mpr (isLater signed inAll isAccepted)]
  rw [follows.layout.returned, ← List.map_drop, acceptedOf_values, List.filter_map,
    List.filter_map]
  change (List.filter (fun signed : SignedEntry => observer.accepts upper signed.loaded) _).map _ =
    (List.filter (fun signed : SignedEntry => observer.accepts upper signed.loaded &&
      above (max observer.filter.minSeq sinceSeq) signed.loaded) _).map _
  rw [fromDrop, List.filter_append, fromParts, List.nil_append, fromRest]

/-- An extraction that returns takes what the filter accepts of the later entries. -/
theorem Follows.selects (follows : Follows verify upper observer identity s parts rest)
    {sinceSeq : Int} (seen : s.Seen sinceSeq) {records : List EvidenceRecord}
    (isExtracted : observer.extract upper verify s.world.config.identity s.world.disk sinceSeq =
      .ok records) :
    List.Forall₂ (IsRecord observer) records
      (acceptedOf upper observer (s.world.returned.drop s.upTo)) := by
  rw [follows.later seen]
  have isActive := follows.layout.active
  unfold LedgerObserver.extract LedgerObserver.extractWith at isExtracted
  dsimp only at isExtracted
  split at isExtracted
  · next active =>
      rw [active, Option.getD_none, eq_comm] at isActive
      rw [entriesText_eq_nil.mp isActive]
      cases isExtracted
      exact .nil
  · next text active _ =>
      rw [active, Option.getD_some] at isActive
      rw [isActive, loadEntries_entriesText] at isExtracted
      exact extractFrom_selects isExtracted
  · next text active _ _ =>
      rw [active, Option.getD_some] at isActive
      rw [isActive, loadEntries_entriesText] at isExtracted
      exact extractFrom_selects isExtracted
  · cases isExtracted
  · cases isExtracted

theorem Follows.extracted (follows : Follows verify upper observer identity s parts rest)
    {sinceSeq : Int} (seen : s.Seen sinceSeq) :
    Follows verify upper observer identity (s.extract verify upper observer sinceSeq)
      parts rest := by
  unfold Watched.extract
  cases isExtracted : observer.extract upper verify s.world.config.identity s.world.disk
      sinceSeq with
  | error raised => exact follows
  | ok records =>
      refine ⟨follows.layout, follows.same, follows.layout.length_returned.ge, ?_, ?_⟩
      · unfold Complete
        dsimp only
        rw [List.take_length, ← List.take_append_drop s.upTo s.world.returned, acceptedOf_append]
        exact List.rel_append follows.complete (follows.selects seen isExtracted)
      · intro signed member _
        have bounds := follows.layout.accepted.seq_bounds (List.mem_append_left rest member)
        rw [follows.layout.length_returned] at bounds
        exact bounds.2

def FollowsBounded (verify : Ed25519Verify) (upper : Str → Str) (observer : LedgerObserver)
    (identity : AgentIdentity) (s : Watched) : Prop :=
  s.world.returned.length < 10 ^ 20 →
    ∃ parts rest, Follows verify upper observer identity s parts rest

theorem follows_next (signs : identity.Signs verify) {call : WatchCall} {t : Watched}
    (follows : FollowsBounded verify upper observer identity s)
    (presumed : call.Presumed identity) (timely : Timely upper observer s call)
    (next : watchNext verify upper observer s call t) :
    FollowsBounded verify upper observer identity t := by
  intro bounded
  cases call with
  | extract sinceSeq =>
      obtain ⟨seen, isNext⟩ := next
      have same : t.world = s.world := by
        rw [isNext, Watched.extract]
        split <;> rfl
      rw [same] at bounded
      obtain ⟨parts, rest, isFollowed⟩ := follows bounded
      rw [isNext]
      exact ⟨parts, rest, isFollowed.extracted seen⟩
  | ledger call =>
      rw [next] at bounded ⊢
      cases call with
      | log turn request =>
          have grown : s.world.returned.length ≤
              ((Call.log turn request).run verify s.world).returned.length :=
            keeps_log _ _ s.world le_rfl
          obtain ⟨parts, rest, isFollowed⟩ := follows (grown.trans_lt bounded)
          have small : (parts.flatten ++ rest).length < 10 ^ 20 := by
            rw [isFollowed.layout.length_returned]
            exact grown.trans_lt bounded
          have moved := log_moves (isFollowed.same ▸ signs) isFollowed.layout small presumed.1
            presumed.2
          exact isFollowed.moved timely moved
      | restart config =>
          have grown : s.world.returned.length ≤
              ((Call.restart config).run verify s.world).returned.length :=
            keeps_resume _ _ s.world le_rfl
          obtain ⟨parts, rest, isFollowed⟩ := follows (grown.trans_lt bounded)
          have small : (parts.flatten ++ rest).length < 10 ^ 20 := by
            rw [isFollowed.layout.length_returned]
            exact grown.trans_lt bounded
          have same : config.identity = s.world.config.identity :=
            presumed.trans isFollowed.same.symm
          rw [Call.run, resume_eq isFollowed.layout small same]
          exact ⟨parts, rest, isFollowed.layout.configured same, presumed, isFollowed.logged,
            isFollowed.complete, isFollowed.archived⟩

/-- In every run whose rotations come after the extraction of what they take away, what
was extracted is each entry that the filter accepts, once and in order. -/
theorem complete_of_run {config : Config} {logName : Text} (signs : config.identity.Signs verify)
    {calls : List WatchCall} (run : (watchSystem verify upper observer config logName).Run calls s)
    (presumed : ∀ call ∈ calls, call.Presumed config.identity)
    (timely : (watchSystem verify upper observer config logName).Guarded
      (Timely upper observer) calls)
    (bounded : s.world.returned.length < 10 ^ 20) : Complete upper observer s := by
  have follows : FollowsBounded verify upper observer config.identity s := by
    clear bounded
    induction run with
    | start first =>
        rw [first]
        exact fun _ => ⟨[], [], follows_new config logName⟩
    | @step calls before after call run next ih =>
        have earlier := ih (fun other member => presumed other (List.mem_append_left _ member))
          timely.front
        exact follows_next signs earlier
          (presumed call (List.mem_append_right _ List.mem_cons_self))
          (timely calls call [] before rfl run) next
  obtain ⟨parts, rest, isFollowed⟩ := follows bounded
  exact isFollowed.complete

/-- The state after a call; a caller of `extract` may choose its bound. -/
def watchStep (verify : Ed25519Verify) (upper : Str → Str) (observer : LedgerObserver)
    (s : Watched) : WatchCall → Watched
  | .ledger call => { s with world := call.run verify s.world }
  | .extract sinceSeq => s.extract verify upper observer sinceSeq

theorem run_determined {config : Config} {logName : Text} {calls : List WatchCall}
    (run : (watchSystem verify upper observer config logName).Run calls s) :
    s = calls.foldl (watchStep verify upper observer) ⟨newWorld config logName, [], 0⟩ := by
  induction run with
  | start first => exact first
  | @step calls before after call _ next ih =>
      rw [List.foldl_append, List.foldl_cons, List.foldl_nil, ← ih]
      cases call with
      | ledger call => exact next
      | extract sinceSeq => exact next.2

end Runs

/-! A ledger of one entry a segment: its entries are extracted when each is extracted
before the next is logged. -/

def allowObserver : LedgerObserver where
  filter := ⟨[Str.lit "allow"], [], .secret, [], [], 0, []⟩
  redaction := ⟨[], []⟩
  contextWindow := 0
  unsafeUnverified := false

/-- A scheme with one signature. -/
def tagVerify : Ed25519Verify := fun _ signature _ => signature == [1]

def tagConfig : Config where
  identity := ⟨[], fun _ => [1]⟩
  redactDenied := false
  maxEntriesPerSegment := 1
  maxBytesPerSegment := 0

theorem tagConfig_signs : tagConfig.identity.Signs tagVerify := fun _ => rfl

def allowedRequest : Request :=
  ⟨Str.lit "read", [], some [(.str (Str.lit "decision"), Value.lit "allow")], none⟩

abbrev logAllowed : WatchCall := .ledger (.log steadyTurn allowedRequest)

abbrev sampleSystem : System Watched WatchCall :=
  watchSystem tagVerify id allowObserver tagConfig []

def watched (calls : List WatchCall) : Watched :=
  calls.foldl (watchStep tagVerify id allowObserver) ⟨newWorld tagConfig [], [], 0⟩

theorem presumed_sample {calls : List WatchCall}
    (known : ∀ call ∈ calls, call = logAllowed ∨ call = .extract 0) :
    ∀ call ∈ calls, call.Presumed tagConfig.identity := by
  intro call member
  rcases known call member with isLog | isExtract
  · rw [isLog]
    refine ⟨rfl, ?_⟩
    intro members isMetadata
    cases isMetadata
    exact ⟨by simp, ⟨_, rfl, Str.joinSurrogates_lit _⟩, trivial, trivial⟩
  · rw [isExtract]
    trivial

theorem run_ledger {calls : List WatchCall} (run : sampleSystem.Run calls (watched calls))
    (call : Call) :
    sampleSystem.Run (calls ++ [.ledger call]) (watched (calls ++ [.ledger call])) := by
  have isNext : watched (calls ++ [.ledger call]) =
      watchStep tagVerify id allowObserver (watched calls) (.ledger call) := by
    rw [watched, List.foldl_append]
    rfl
  rw [isNext]
  exact run.step rfl

theorem run_extract {calls : List WatchCall} (run : sampleSystem.Run calls (watched calls))
    {sinceSeq : Int} (seen : (watched calls).Seen sinceSeq) :
    sampleSystem.Run (calls ++ [.extract sinceSeq]) (watched (calls ++ [.extract sinceSeq])) := by
  have isNext : watched (calls ++ [.extract sinceSeq]) =
      watchStep tagVerify id allowObserver (watched calls) (.extract sinceSeq) := by
    rw [watched, List.foldl_append]
    rfl
  rw [isNext]
  exact run.step ⟨seen, rfl⟩

theorem run_start : sampleSystem.Run [] (watched []) := .start rfl

theorem seen_start {calls : List WatchCall} (ledgerOnly : (watched calls).extracted = [])
    (none : (watched calls).upTo = 0) : (watched calls).Seen 0 where
  given record member := by
    rw [ledgerOnly] at member
    cases member
  there := by
    rw [none]
    rfl

def isFirst (entry : Value) : Bool :=
  match entry.get? "seq" with
  | some (.int seq) => seq == 1
  | _ => false

theorem seq_of_isFirst {entry : Value} (first : isFirst entry = true) :
    entry.get? "seq" = some (.int 1) := by
  unfold isFirst at first
  split at first
  · next seq isSeq => rw [isSeq, eq_of_beq first]
  · cases first

theorem timely_sample : sampleSystem.Guarded (Timely id allowObserver)
    [logAllowed, .extract 0, logAllowed] := by
  refine System.Guarded.snoc (System.Guarded.snoc (System.Guarded.snoc .nil ?_) ?_) ?_
  · intro s run text rotates
    rw [run_determined run] at rotates
    cases rotates.active
  · exact fun s _ => trivial
  · intro s run text rotates entry member _
    have isWatched : s = watched [logAllowed, .extract 0] := run_determined run
    rw [isWatched] at rotates ⊢
    have numbered : (loadEntries ((watched [logAllowed, .extract 0]).world.disk.active.getD
        [])).all isFirst = true := by
      decide +kernel
    rw [rotates.active] at numbered
    exact ⟨1, seq_of_isFirst (List.all_eq_true.mp numbered entry member), by decide +kernel⟩

theorem small_watched {calls : List WatchCall}
    (two : (watched calls).world.returned.length = 2) :
    (watched calls).world.returned.length < 10 ^ 20 := by
  rw [two]
  norm_num

theorem complete_of_run_sample :
    Complete id allowObserver (watched [logAllowed, .extract 0, logAllowed]) := by
  have first := run_ledger run_start (.log steadyTurn allowedRequest)
  have second := run_extract first (seen_start rfl rfl)
  refine complete_of_run tagConfig_signs (run_ledger second (.log steadyTurn allowedRequest))
    (presumed_sample ?_) timely_sample (small_watched (by decide +kernel))
  simp [logAllowed]

/-- Without an extraction in between, the first entry is archived and never read. -/
theorem not_complete_after_rotation : ∃ calls s, tagConfig.identity.Signs tagVerify ∧
    sampleSystem.Run calls s ∧ (∀ call ∈ calls, call.Presumed tagConfig.identity) ∧
      s.world.returned.length < 10 ^ 20 ∧ ¬ Complete id allowObserver s := by
  have first := run_ledger run_start (.log steadyTurn allowedRequest)
  have second := run_ledger first (.log steadyTurn allowedRequest)
  refine ⟨_, _, tagConfig_signs, run_extract second (seen_start rfl rfl), presumed_sample ?_,
    small_watched (by decide +kernel), ?_⟩
  · simp [logAllowed]
  · intro complete
    have lengths := complete.length_eq
    have one : (watched [logAllowed, logAllowed, .extract 0]).extracted.length = 1 := by
      decide +kernel
    have two : (acceptedOf id allowObserver
        ((watched [logAllowed, logAllowed, .extract 0]).world.returned.take
          (watched [logAllowed, logAllowed, .extract 0]).upTo)).length = 2 := by
      decide +kernel
    exact absurd (one.symm.trans (lengths.trans two)) (by decide)

end SelfConnect.Observer
