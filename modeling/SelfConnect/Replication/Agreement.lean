import SelfConnect.Replication.Settling
import SelfConnect.Library.History

namespace SelfConnect.Replication

open SelfConnect.Python SelfConnect.Provenance SelfConnect.Library

/-! Any number of sinks push into one bucket; the requests of their pushes interleave. -/

structure S3Sink where
  config : S3Config
  memory : S3Memory
  active : Option (S3Push × Script S3Response S3Outcome)

/-- The bucket, its sinks and what they were asked and answered so far. No program reads
the history. -/
structure S3World where
  bucket : Bucket
  sinks : Nat → S3Sink
  history : List S3Event

inductive S3Label
  | restart (sink : Nat) (config : S3Config)
  | begin (sink : Nat) (push : S3Push)
  | serve (sink : Nat) (turn : S3Turn)
  | finish (sink : Nat)

def S3World.set (w : S3World) (n : Nat) (sink : S3Sink) : S3World :=
  { w with sinks := Function.update w.sinks n sink }

def S3Event.of (push : S3Push) : Except PushRaised S3Receipt → S3Event
  | .ok receipt => .acknowledged push receipt
  | .error raised => .refused push raised

section System

variable (builtins : Builtins) (keyPrefix : Str)

def S3Sink.start (sink : S3Sink) (push : S3Push) : S3Sink :=
  { sink with active := some (push, pushS3Record builtins sink.config sink.memory keyPrefix
      push.sessionId push.segmentNo push.record) }

/-- One step of one sink, where it can be taken. The lock of a sink keeps its pushes
apart. -/
def S3World.step (w : S3World) : S3Label → Option S3World
  | .restart n config => some (w.set n ⟨config, .create, none⟩)
  | .begin n push =>
      match (w.sinks n).active with
      | some _ => none
      | none =>
          some { w.set n ((w.sinks n).start builtins keyPrefix push) with
            history := w.history ++ [.pushed push] }
  | .serve n turn =>
      match (w.sinks n).active with
      | some (push, .ask request next) =>
          let served := answer turn w.bucket request
          some { w.set n { w.sinks n with active := some (push, next served.1) } with
            bucket := served.2 }
      | _ => none
  | .finish n =>
      match (w.sinks n).active with
      | some (push, .done (outcome, memory)) =>
          some { w.set n { w.sinks n with memory, active := none } with
            history := w.history ++ [.of push outcome] }
      | _ => none

def s3System : System S3World S3Label where
  initial w := (∀ key, w.bucket key = none) ∧ w.history = [] ∧
    ∀ n, (w.sinks n).memory = .create ∧ (w.sinks n).active = none
  next w label t := w.step builtins keyPrefix label = some t

/-- No two acknowledged seals of one segment have different roots. -/
def Agreement (history : List S3Event) : Prop :=
  ∀ first second receipt receipt' root root',
    .acknowledged first receipt ∈ history → .acknowledged second receipt' ∈ history →
    first.sessionId = second.sessionId → first.segmentNo = second.segmentNo →
    first.sealRoot builtins = some root → second.sealRoot builtins = some root' → root = root'

/-- The two seals claim different roots. -/
def S3Push.Rivals (first second : S3Push) : Prop :=
  ∃ root root', first.sealRoot builtins = some root ∧ second.sealRoot builtins = some root' ∧
    root ≠ root'

/-- A fork is raised against an earlier seal of the same segment that claimed another
root. -/
def ForkJustified (front : List S3Event) : S3Event → Prop
  | .refused push raised => raised.isFork = true → ∃ earlier, .pushed earlier ∈ front ∧
      earlier.sessionId = push.sessionId ∧ earlier.segmentNo = push.segmentNo ∧
      earlier.Rivals builtins push
  | _ => True

/-- A push that does not share the component of its session with a rival of another
session. -/
def Apart (w : S3World) : S3Label → Prop
  | .begin _ push => ∀ earlier, .pushed earlier ∈ w.history → earlier.Rivals builtins push →
      safeS3Component builtins earlier.sessionId = safeS3Component builtins push.sessionId →
      earlier.segmentNo = push.segmentNo → earlier.sessionId = push.sessionId
  | _ => True

end System

section Proof

variable {builtins : Builtins} {keyPrefix : Str}

/-! Whole runs. -/

/-- A fork follows a rival that was pushed under the same key. -/
def ForkFollows (builtins : Builtins) (keyPrefix : Str) (front : List S3Event) : S3Event → Prop
  | .refused push raised => raised.isFork = true → .pushed push ∈ front ∧
      ∃ earlier, .pushed earlier ∈ front ∧ s3SealIndexKey builtins keyPrefix earlier.sessionId
        earlier.segmentNo = s3SealIndexKey builtins keyPrefix push.sessionId push.segmentNo ∧
      earlier.Rivals builtins push
  | _ => True

/-- A push under way settles. -/
def Underway (builtins : Builtins) (keyPrefix : Str) (push : S3Push)
    (script : Script S3Response S3Outcome) (v : S3View) : Prop :=
  .pushed push ∈ v.2 ∧
    script.Ends (sealServer builtins keyPrefix) (Settles builtins keyPrefix push) v

structure Sound (builtins : Builtins) (keyPrefix : Str) (w : S3World) : Prop where
  indexed : (sealServer builtins keyPrefix).inv (w.bucket, w.history)
  remembers : ∀ n, Remembers builtins keyPrefix (w.sinks n).memory w.bucket
  active : ∀ n push script, (w.sinks n).active = some (push, script) →
    Underway builtins keyPrefix push script (w.bucket, w.history)
  acknowledged : ∀ push receipt root, .acknowledged push receipt ∈ w.history →
    push.sealRoot builtins = some root →
    Indexed builtins keyPrefix w.bucket push.sessionId push.segmentNo root
  forked : Each (ForkFollows builtins keyPrefix) w.history

/-- One sink moves on, and what the others rely on lasts. -/
private theorem Sound.move {w : S3World} (sound : Sound builtins keyPrefix w) {bucket : Bucket}
    {history : List S3Event} (n : Nat) (sink : S3Sink)
    (grown : (sealServer builtins keyPrefix).grows (w.bucket, w.history) (bucket, history))
    (indexed : (sealServer builtins keyPrefix).inv (bucket, history))
    (remembers : Remembers builtins keyPrefix sink.memory bucket)
    (active : ∀ push script, sink.active = some (push, script) →
      Underway builtins keyPrefix push script (bucket, history))
    (acknowledged : ∀ push receipt root, .acknowledged push receipt ∈ history →
      push.sealRoot builtins = some root → .acknowledged push receipt ∈ w.history ∨
        Indexed builtins keyPrefix bucket push.sessionId push.segmentNo root)
    (forked : Each (ForkFollows builtins keyPrefix) history) :
    Sound builtins keyPrefix ⟨bucket, Function.update w.sinks n sink, history⟩ where
  indexed := indexed
  remembers m := by
    dsimp only
    by_cases same : m = n
    · rw [same, Function.update_self]
      exact remembers
    · rw [Function.update_of_ne same]
      exact (sound.remembers m).grow grown
  active m push script isActive := by
    dsimp only at isActive
    by_cases same : m = n
    · rw [same, Function.update_self] at isActive
      exact active push script isActive
    · rw [Function.update_of_ne same] at isActive
      obtain ⟨pushed, ends⟩ := sound.active m push script isActive
      exact ⟨grown.2 pushed, ends.grow grown⟩
  acknowledged push receipt root member isRoot := by
    rcases acknowledged push receipt root member isRoot with before | now
    · exact (sound.acknowledged push receipt root before isRoot).grow grown
    · exact now
  forked := forked

private theorem grows_snoc (bucket : Bucket) (history : List S3Event) (event : S3Event) :
    (sealServer builtins keyPrefix).grows (bucket, history) (bucket, history ++ [event]) :=
  ⟨fun _ _ _ found => found, List.subset_append_left _ _⟩

theorem remembers_create (bucket : Bucket) :
    Remembers builtins keyPrefix .create bucket := by
  intro sessionId segmentNo root stored
  cases stored

theorem sound_step (lawful : builtins.Lawful) {w t : S3World} {label : S3Label}
    (sound : Sound builtins keyPrefix w) (next : w.step builtins keyPrefix label = some t) :
    Sound builtins keyPrefix t := by
  unfold S3World.step at next
  cases label with
  | restart n config =>
      cases next
      apply sound.move n ⟨config, .create, none⟩ (Script.Server.grows_refl _ _) sound.indexed
        (remembers_create _)
      · intro push script isActive
        cases isActive
      · exact fun _ _ _ member _ => Or.inl member
      · exact sound.forked
  | begin n push =>
      dsimp only at next
      split at next
      · cases next
      · cases next
        have indexed := inv_snoc sound.indexed (.pushed push)
        have pushed : S3Event.pushed push ∈ w.history ++ [.pushed push] :=
          List.mem_append_right _ (List.mem_singleton_self _)
        apply sound.move n ((w.sinks n).start builtins keyPrefix push) (grows_snoc _ _ _) indexed
          (sound.remembers n)
        · intro other script isActive
          cases isActive
          exact ⟨pushed, settles_pushS3Record lawful indexed pushed (sound.remembers n)⟩
        · intro other receipt root member _
          rcases List.mem_append.mp member with before | now
          · exact Or.inl before
          · cases List.mem_singleton.mp now
        · exact sound.forked.snoc trivial
  | serve n turn =>
      dsimp only at next
      split at next
      · next push request script isActive =>
          cases next
          obtain ⟨pushed, working⟩ := sound.active n push _ isActive
          obtain ⟨kept, lasts, ends⟩ := working (w.bucket, w.history) _
            ((answer turn w.bucket request).2, w.history) sound.indexed
            (Script.Server.grows_refl _ _) ⟨turn, rfl, rfl⟩
          apply sound.move n { w.sinks n with
            active := some (push, script (answer turn w.bucket request).1) } lasts kept
            ((sound.remembers n).grow lasts)
          · intro other rest isRest
            cases isRest
            exact ⟨pushed, ends⟩
          · exact fun _ _ _ member _ => Or.inl member
          · exact sound.forked
      · cases next
  | finish n =>
      dsimp only at next
      split at next
      · next push outcome memory isActive =>
          cases next
          obtain ⟨pushed, working⟩ := sound.active n push _ isActive
          have settled := working (w.bucket, w.history) sound.indexed
            (Script.Server.grows_refl _ _)
          apply sound.move n { w.sinks n with memory, active := none } (grows_snoc _ _ _)
            (inv_snoc sound.indexed _) settled.remembers
          · intro other script isOther
            cases isOther
          · intro other receipt root member isRoot
            rcases List.mem_append.mp member with before | now
            · exact Or.inl before
            · cases outcome with
              | ok received =>
                  cases List.mem_singleton.mp now
                  exact Or.inr (settled.acknowledged receipt root rfl isRoot)
              | error raised => cases List.mem_singleton.mp now
          · apply sound.forked.snoc
            cases outcome with
            | ok received => trivial
            | error raised =>
                intro isFork
                obtain ⟨root, other, isRoot, differs, indexed⟩ := settled.forked raised rfl isFork
                obtain ⟨earlier, before, isOther, isKey⟩ := sound.indexed _ _ _ indexed
                exact ⟨pushed, earlier, before, isKey, other, root, isOther, isRoot, differs⟩
      · cases next

theorem sound_of_run (lawful : builtins.Lawful) {labels : List S3Label} {w : S3World}
    (run : (s3System builtins keyPrefix).Run labels w) : Sound builtins keyPrefix w := by
  apply run.invariant
  swap
  · intro s label t sound next
    exact sound_step lawful sound next
  intro s initial
  obtain ⟨empty, noHistory, fresh⟩ := initial
  have nothing : ∀ sessionId segmentNo root,
      ¬ Indexed builtins keyPrefix s.bucket sessionId segmentNo root := by
    intro sessionId segmentNo root indexed
    obtain ⟨object, found, -⟩ := indexed
    rw [empty] at found
    cases found
  constructor
  · intro sessionId segmentNo root indexed
    exact absurd indexed (nothing sessionId segmentNo root)
  · intro n
    rw [(fresh n).1]
    exact remembers_create _
  · intro n push script isActive
    rw [(fresh n).2] at isActive
    cases isActive
  · intro push receipt root member
    rw [noHistory] at member
    cases member
  · rw [noHistory]
    exact Each.nil

/-- Rivals of one component and segment belong to one session. -/
def Separate (builtins : Builtins) (history : List S3Event) : Prop :=
  ∀ first second, .pushed first ∈ history → .pushed second ∈ history →
    first.Rivals builtins second →
    safeS3Component builtins first.sessionId = safeS3Component builtins second.sessionId →
    first.segmentNo = second.segmentNo → first.sessionId = second.sessionId

private theorem S3Push.Rivals.symm {first second : S3Push}
    (rivals : first.Rivals builtins second) : second.Rivals builtins first := by
  obtain ⟨root, root', isRoot, isRoot', differ⟩ := rivals
  exact ⟨root', root, isRoot', isRoot, differ.symm⟩

private theorem S3Push.Rivals.irrefl {push : S3Push} : ¬ push.Rivals builtins push := by
  intro rivals
  obtain ⟨root, root', isRoot, isRoot', differ⟩ := rivals
  exact differ (Option.some.inj (isRoot.symm.trans isRoot'))

private theorem Separate.snoc {history : List S3Event} (separate : Separate builtins history)
    {event : S3Event} (unpushed : ∀ push, event ≠ .pushed push) :
    Separate builtins (history ++ [event]) := by
  intro first second firstPushed secondPushed
  have before : ∀ push, .pushed push ∈ history ++ [event] → .pushed push ∈ history := by
    intro push member
    rcases List.mem_append.mp member with before | now
    · exact before
    · exact absurd (List.mem_singleton.mp now).symm (unpushed push)
  exact separate first second (before first firstPushed) (before second secondPushed)

theorem separate_step {w t : S3World} {label : S3Label} (separate : Separate builtins w.history)
    (apart : Apart builtins w label) (next : w.step builtins keyPrefix label = some t) :
    Separate builtins t.history := by
  unfold S3World.step at next
  cases label with
  | restart n config =>
      cases next
      exact separate
  | begin n push =>
      dsimp only at next
      split at next
      · cases next
      · cases next
        intro first second firstPushed secondPushed rivals components segments
        rcases List.mem_append.mp firstPushed with firstBefore | firstNow
        · rcases List.mem_append.mp secondPushed with secondBefore | secondNow
          · exact separate first second firstBefore secondBefore rivals components segments
          · cases List.mem_singleton.mp secondNow
            exact apart first firstBefore rivals components segments
        · cases List.mem_singleton.mp firstNow
          rcases List.mem_append.mp secondPushed with secondBefore | secondNow
          · exact (apart second secondBefore rivals.symm components.symm segments.symm).symm
          · cases List.mem_singleton.mp secondNow
            rfl
  | serve n turn =>
      dsimp only at next
      split at next
      · cases next
        exact separate
      · cases next
  | finish n =>
      dsimp only at next
      split at next
      · next push outcome memory _ =>
          cases next
          apply separate.snoc
          intro other isPushed
          cases outcome <;> cases isPushed
      · cases next

end Proof

/-- Seals of one segment are acknowledged with one root at most, and forks are raised
against rivals of the same segment. -/
theorem agreement_of_run {builtins : Builtins} (lawful : builtins.Lawful) {keyPrefix : Str}
    {labels : List S3Label} {w : S3World} (run : (s3System builtins keyPrefix).Run labels w) :
    Agreement builtins w.history ∧
      ((s3System builtins keyPrefix).Guarded (Apart builtins) labels →
        Each (ForkJustified builtins) w.history) := by
  have sound := sound_of_run lawful run
  constructor
  · intro first second receipt receipt' root root' firstAcked secondAcked sessions segments
      isRoot isRoot'
    obtain ⟨object, found, isFirst⟩ := sound.acknowledged _ _ _ firstAcked isRoot
    obtain ⟨object', found', isSecond⟩ := sound.acknowledged _ _ _ secondAcked isRoot'
    rw [← sessions, ← segments, found, Option.some.injEq] at found'
    rw [← isFirst, found', isSecond]
  · intro guarded
    have separate : Separate builtins w.history := by
      apply @System.Run.invariant_guarded _ _ _ (fun s : S3World => Separate builtins s.history)
        _ _ _ _ _ run guarded
      · intro s initial first second pushed
        rw [initial.2.1] at pushed
        cases pushed
      · intro s label t separate apart next
        exact separate_step separate apart next
    refine sound.forked.mono ?_
    intro front event rest split follows
    have front_subset : front ⊆ w.history := by
      rw [split]
      exact List.subset_append_left _ _
    cases event with
    | pushed => trivial
    | acknowledged => trivial
    | refused push raised =>
        intro isFork
        obtain ⟨pushed, earlier, before, isKey, rivals⟩ := follows isFork
        obtain ⟨components, segments⟩ := sealIndexKey_inj lawful isKey
        have sessions := separate earlier push (front_subset before) (front_subset pushed) rivals
          components segments
        exact ⟨earlier, before, sessions, segments, rivals⟩

/-! Runs of two sinks that do not lock their objects. -/

/-- Every push of the history was begun. -/
theorem pushed_of_run {builtins : Builtins} {keyPrefix : Str} {labels : List S3Label}
    {w : S3World} (run : (s3System builtins keyPrefix).Run labels w) :
    ∀ push, .pushed push ∈ w.history → ∃ n, .begin n push ∈ labels := by
  induction run with
  | start first =>
      intro push member
      rw [first.2.1] at member
      cases member
  | @step labels s t label _ next ih =>
      intro push member
      have earlier : .pushed push ∈ s.history → ∃ n, .begin n push ∈ labels ++ [label] := by
        intro before
        obtain ⟨n, begun⟩ := ih push before
        exact ⟨n, List.mem_append_left _ begun⟩
      change s.step builtins keyPrefix label = some t at next
      unfold S3World.step at next
      cases label with
      | restart n config =>
          cases next
          exact earlier member
      | begin n other =>
          dsimp only at next
          split at next
          · cases next
          · cases next
            rcases List.mem_append.mp member with before | now
            · exact earlier before
            · cases List.mem_singleton.mp now
              exact ⟨n, List.mem_append_right _ (List.mem_singleton_self _)⟩
      | serve n turn =>
          dsimp only at next
          split at next
          · cases next
            exact earlier member
          · cases next
      | finish n =>
          dsimp only at next
          split at next
          · next outcome memory _ =>
              cases next
              rcases List.mem_append.mp member with before | now
              · exact earlier before
              · cases outcome <;> cases List.mem_singleton.mp now
          · cases next

def asciiBuiltins : Builtins where
  isalnum c := (48 ≤ c.val && c.val ≤ 57) || (65 ≤ c.val && c.val ≤ 90) ||
    (97 ≤ c.val && c.val ≤ 122)
  str
    | .str s => s
    | _ => []
  int
    | .int n => .int n
    | _ => .invalid

theorem asciiBuiltins_lawful : asciiBuiltins.Lawful where
  isalnum_slash := by decide
  str_str _ := rfl
  int_int _ := rfl

def samplePush (sessionId root : String) : S3Push where
  sessionId := Str.lit sessionId
  segmentNo := 1
  record := Value.object [("seq", .int 2),
    ("payload", Value.object [("merkle_root", Value.lit root)])]

def freshWorld : S3World where
  bucket _ := none
  sinks _ := ⟨⟨[], 0⟩, .create, none⟩
  history := []

def workingTurn : S3Turn where
  now := 0
  etag := Str.lit "etag"
  fault := none

def runS3 (labels : List S3Label) : Option S3World :=
  labels.foldlM (S3World.step asciiBuiltins []) freshWorld

theorem run_runS3 {labels : List S3Label} {w : S3World} (found : runS3 labels = some w) :
    (s3System asciiBuiltins []).Run labels w := by
  have fresh : (s3System asciiBuiltins []).initial freshWorld :=
    ⟨fun _ => rfl, rfl, fun _ => ⟨rfl, rfl⟩⟩
  exact System.Run.fold (fun _ _ _ next => next) (System.Run.start fresh) found

/-- Two sinks race to store one seal. -/
def racingLabels : List S3Label :=
  [.begin 0 (samplePush "a" "root"), .begin 1 (samplePush "a" "root"), .serve 0 workingTurn,
    .serve 1 workingTurn, .serve 1 workingTurn, .serve 0 workingTurn, .serve 0 workingTurn,
    .serve 0 workingTurn, .serve 0 workingTurn, .finish 0]

theorem agreement_of_run_racing : ∃ w, runS3 racingLabels = some w ∧
    Agreement asciiBuiltins w.history ∧ Each (ForkJustified asciiBuiltins) w.history := by
  have finished : (runS3 racingLabels).isSome = true := by decide +kernel
  obtain ⟨w, found⟩ := Option.isSome_iff_exists.mp finished
  obtain ⟨agreement, justified⟩ := agreement_of_run asciiBuiltins_lawful (run_runS3 found)
  refine ⟨w, found, agreement, justified ?_⟩
  intro front label rest s split run
  cases label with
  | begin n push =>
      have same : ∀ m other, .begin m other ∈ racingLabels → other = samplePush "a" "root" := by
        intro m other begun
        simp only [racingLabels, List.mem_cons, S3Label.begin.injEq, List.not_mem_nil,
          reduceCtorEq, or_false] at begun
        rcases begun with first | second
        · exact first.2
        · exact second.2
      intro earlier pushed rivals _ _
      obtain ⟨m, begun⟩ := pushed_of_run run earlier pushed
      have isPush := same n push (by rw [split]; simp)
      have isEarlier := same m earlier (by rw [split]; exact List.mem_append_left _ begun)
      rw [isPush, isEarlier]
  | _ => trivial

/-- Two sessions whose identifiers become one component of a key. -/
def collidingLabels : List S3Label :=
  [.begin 0 (samplePush "a/b" "root"), .serve 0 workingTurn, .serve 0 workingTurn,
    .serve 0 workingTurn, .serve 0 workingTurn, .finish 0,
    .begin 1 (samplePush "a-b" "other"), .serve 1 workingTurn, .finish 1]

/-- What is pushed where, and whether a fork is raised. -/
def S3Event.brief : S3Event → Str × Option Str × Bool
  | .pushed push => (push.sessionId, push.sealRoot asciiBuiltins, false)
  | .acknowledged push _ => (push.sessionId, push.sealRoot asciiBuiltins, false)
  | .refused push raised => (push.sessionId, push.sealRoot asciiBuiltins, raised.isFork)

theorem fork_between_sessions : ∃ w, (s3System asciiBuiltins []).Run collidingLabels w ∧
    ¬ Each (ForkJustified asciiBuiltins) w.history := by
  have outcome : (runS3 collidingLabels).map (fun w => w.history.map S3Event.brief) =
      some [(Str.lit "a/b", some (Str.lit "root"), false),
        (Str.lit "a/b", some (Str.lit "root"), false),
        (Str.lit "a-b", some (Str.lit "other"), false),
        (Str.lit "a-b", some (Str.lit "other"), true)] := by
    decide +kernel
  obtain ⟨w, found, history⟩ := Option.map_eq_some_iff.mp outcome
  refine ⟨w, run_runS3 found, ?_⟩
  intro justified
  obtain ⟨first, rest, isHistory, isFirst, restBrief⟩ := List.map_eq_cons_iff.mp history
  obtain ⟨second, rest', isRest, isSecond, restBrief'⟩ := List.map_eq_cons_iff.mp restBrief
  obtain ⟨third, rest'', isRest', isThird, lastBrief⟩ := List.map_eq_cons_iff.mp restBrief'
  obtain ⟨last, nothing, isLast, lastIs, noMore⟩ := List.map_eq_cons_iff.mp lastBrief
  rw [List.map_eq_nil_iff.mp noMore] at isLast
  rw [isLast] at isRest'
  rw [isRest'] at isRest
  rw [isRest] at isHistory
  have follows := justified [first, second, third] last [] isHistory
  cases last with
  | pushed push => cases (Prod.mk.inj (Prod.mk.inj lastIs).2).2
  | acknowledged push receipt => cases (Prod.mk.inj (Prod.mk.inj lastIs).2).2
  | refused push raised =>
      obtain ⟨isSession, lastIs⟩ := Prod.mk.inj lastIs
      obtain ⟨isRoot, isFork⟩ := Prod.mk.inj lastIs
      obtain ⟨earlier, pushed, sameSession, -, rivals⟩ := follows isFork
      obtain ⟨root, root', isEarlier, isPush, differ⟩ := rivals
      have briefs : (earlier.sessionId, earlier.sealRoot asciiBuiltins, false) ∈
          [first.brief, second.brief, third.brief] :=
        List.mem_map_of_mem pushed
      rw [isFirst, isSecond, isThird, sameSession, isSession] at briefs
      simp only [List.mem_cons, Prod.mk.injEq, Str.lit_inj, List.not_mem_nil, or_false] at briefs
      have claims : earlier.sealRoot asciiBuiltins = some (Str.lit "other") := by
        simpa using briefs
      rw [claims] at isEarlier
      rw [isRoot] at isPush
      exact differ (Option.some.inj (isEarlier.symm.trans isPush))

end SelfConnect.Replication
