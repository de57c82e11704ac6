import SelfConnect.Gate.Verify
import SelfConnect.Library.System

namespace SelfConnect.Gate

open SelfConnect.Python SelfConnect.Library

/-! The nonce cache, and any number of local verifications at once. A call reads the clock
for its checks and again, under the lock, when it consumes its nonce. -/

def nonceWindowSec : ℚ := 120

/-- `time.time() - NONCE_WINDOW_SEC`. -/
def cutoff (now : ℚ) : ℚ := Binary64.round (now - nonceWindowSec)

/-- `now_ms / 1000`. -/
def verifiedAt (nowMs : Int) : ℚ := Binary64.round (nowMs / 1000)

def expireNonces (seen : Dict Str ℚ) (now : ℚ) : Dict Str ℚ :=
  seen.filter fun _ ts => !decide (ts < cutoff now)

def consumeNonce (seen : Dict Str ℚ) (now : ℚ) (nonce : Str) (verified_at : ℚ) :
    Bool × Dict Str ℚ :=
  let kept := expireNonces seen now
  if (kept.get? nonce).isSome then (false, kept) else (true, kept.set nonce verified_at)

structure GateState where
  seenNonces : Dict Str ℚ
  clock : ℚ
  waiting : List Verified
  accepted : List Verified

inductive Move
  | tick (clock : ℚ)
  | check (headers : Dict Str Str) (text peerPairId : Str)
  | consume (index : Nat)
  | expire

namespace GateState

variable (s : GateState)

/-- The end of a call: it returns `(True, "")` exactly when the nonce is consumed. -/
def finish (index : Nat) (verified : Verified) : GateState :=
  let consumed := consumeNonce s.seenNonces s.clock verified.nonce (verifiedAt verified.nowMs)
  { s with
    seenNonces := consumed.2
    waiting := s.waiting.eraseIdx index
    accepted := if consumed.1 then s.accepted ++ [verified] else s.accepted }

def act (ecdsa : Ecdsa) (bindings : Dict Str PeerBinding) : Move → Option GateState
  | .tick clock => if s.clock ≤ clock then some { s with clock := clock } else none
  | .check headers text peerPairId =>
      match verifyRequest ecdsa bindings s.clock headers text peerPairId with
      | .ok verified => some { s with waiting := s.waiting ++ [verified] }
      | .error _ => some s
  | .consume index => (s.waiting[index]?).map (s.finish index)
  | .expire => some { s with seenNonces := expireNonces s.seenNonces s.clock }

def first (clock : ℚ) : GateState := ⟨.empty, clock, [], []⟩

end GateState

/-- A gate with its registered peers, and the calls that are made from a time on. -/
def verifications (ecdsa : Ecdsa) (bindings : Dict Str PeerBinding) (clock : ℚ) :
    System GateState Move where
  initial s := s = .first clock
  next s move t := s.act ecdsa bindings move = some t

/-! What a signed timestamp says when it is a number. -/

def numeric? : Value → Option ℚ
  | .int n => some n
  | .float x =>
      match Number.ofFloat x with
      | .finite q => some q
      | _ => none
  | _ => none

def signedTime (payload : Value) : Option ℚ :=
  (payload.get? "timestamp").bind numeric?

/-- Verified within a minute of the signed timestamp. -/
def Verified.Fresh (verified : Verified) : Prop :=
  ∃ ts, signedTime verified.payload = some ts ∧ |(verified.nowMs - ts : ℚ)| ≤ 60000

/-- No nonce is accepted twice, and nothing is accepted outside its minute. -/
structure ReplaySafe (s : GateState) : Prop where
  once : (s.accepted.map Verified.nonce).Nodup
  fresh : ∀ verified ∈ s.accepted, verified.Fresh

/-- The signed timestamp is a number that keeps its digits next to a clock reading; and a
nonce that was accepted before is signed with the same timestamp as then, and consumed
within a minute of it. -/
def Verified.Timely (verified : Verified) (s : GateState) : Prop :=
  ∃ ts, signedTime verified.payload = some ts ∧ ts.den ∣ 2 ^ 36 ∧
    ∀ earlier ∈ s.accepted, earlier.nonce = verified.nonce →
      signedTime earlier.payload = some ts ∧ s.clock * 1000 ≤ ts + 60000

def Timely (s : GateState) : Move → Prop
  | .consume index => ∀ verified, s.waiting[index]? = some verified → verified.Timely s
  | _ => True

/-! One call. -/

/-- What the checks of a waiting call have found. -/
def Verified.Checked (verified : Verified) : Prop :=
  (∃ now, verified.nowMs = milliseconds now) ∧
    checkWindow verified.nowMs verified.payload = .ok ()

theorem round_milliseconds (now : ℚ) : Binary64.round (milliseconds now) = milliseconds now :=
  Binary64.round_trunc_round _

theorem getD_of_signedTime {payload : Value} {ts : ℚ} (isTime : signedTime payload = some ts)
    (default : Value) : numeric? (payload.getD "timestamp" default) = some ts := by
  obtain ⟨value, isValue, isNumber⟩ := Option.bind_eq_some_iff.mp isTime
  rw [Value.getD, isValue, Option.getD_some]
  exact isNumber

theorem not_lt_finite {b q : ℚ} (notBelow : (Number.finite b).lt (.finite q) = false) : q ≤ b :=
  not_lt.mp (of_decide_eq_false notBelow)

/-- The window holds exactly, whatever the subtraction rounds. -/
theorem Verified.Checked.fresh {verified : Verified} {ts : ℚ} (checked : verified.Checked)
    (isTime : signedTime verified.payload = some ts) (whole : ts.den ∣ 2 ^ 36) :
    |(verified.nowMs - ts : ℚ)| ≤ 60000 := by
  obtain ⟨⟨now, isReading⟩, window⟩ := checked
  obtain ⟨distance, isDistance, near⟩ := checkWindow_eq_ok.mp window
  have isNumber := getD_of_signedTime isTime (.int 0)
  generalize verified.payload.getD "timestamp" (.int 0) = value at isDistance isNumber
  cases value with
  | int n =>
      cases isNumber
      cases isDistance
      exact not_lt_finite near
  | float x =>
      have isFinite : Number.ofFloat x = .finite ts := by
        rw [numeric?] at isNumber
        split at isNumber <;> cases isNumber
        assumption
      have reading : Binary64.round verified.nowMs = verified.nowMs := by
        rw [isReading]
        exact round_milliseconds now
      rw [distance?, isFinite] at isDistance
      cases isDistance
      rw [reading] at near
      obtain ⟨k, isScaled⟩ := Binary64.scaled_of_den_dvd whole
      have scaled := Binary64.intCast_sub_scaled isScaled verified.nowMs
      exact Binary64.abs_le_of_abs_round_le scaled (by decide) (by norm_num) (by norm_num)
        (not_lt_finite near)
  | null | bool _ | str _ | list _ | dict _ => cases isNumber

theorem checked_of_verifyRequest {ecdsa : Ecdsa} {bindings : Dict Str PeerBinding} {now : ℚ}
    {headers : Dict Str Str} {text peerPairId : Str} {verified : Verified}
    (passed : verifyRequest ecdsa bindings now headers text peerPairId = .ok verified) :
    verified.Checked := by
  obtain ⟨isReading, window⟩ := window_of_verifyRequest passed
  exact ⟨⟨now, isReading⟩, window⟩

/-! The cache. -/

theorem cutoff_mono {first second : ℚ} (le : first ≤ second) : cutoff first ≤ cutoff second :=
  Binary64.round_mono (by linarith)

/-- Within a minute of a timestamp, what was verified within a minute of it has not lapsed. -/
theorem cutoff_le_verifiedAt {clock ts : ℚ} {nowMs : Int} (soon : clock * 1000 ≤ ts + 60000)
    (near : |(nowMs - ts : ℚ)| ≤ 60000) : cutoff clock ≤ verifiedAt nowMs := by
  apply Binary64.round_mono
  have early := (abs_le.mp near).1
  rw [nonceWindowSec, le_div_iff₀ (by norm_num)]
  linarith

/-- Recorded still, or lapsed. -/
def Kept (seen : Dict Str ℚ) (clock : ℚ) (verified : Verified) : Prop :=
  seen.get? verified.nonce = some (verifiedAt verified.nowMs) ∨
    verifiedAt verified.nowMs < cutoff clock

theorem Kept.expire {seen : Dict Str ℚ} {clock : ℚ} {verified : Verified}
    (kept : Kept seen clock verified) : Kept (expireNonces seen clock) clock verified := by
  rcases kept with recorded | lapsed
  · rcases lt_or_ge (verifiedAt verified.nowMs) (cutoff clock) with lapsed | current
    · exact .inr lapsed
    · left
      rw [expireNonces, Dict.get?_filter, recorded]
      simp [not_lt.mpr current]
  · exact .inr lapsed

theorem Kept.later {seen : Dict Str ℚ} {clock later : ℚ} {verified : Verified}
    (kept : Kept seen clock verified) (le : clock ≤ later) : Kept seen later verified := by
  rcases kept with recorded | lapsed
  · exact .inl recorded
  · exact .inr (lapsed.trans_le (cutoff_mono le))

theorem Kept.set {seen : Dict Str ℚ} {clock ts : ℚ} {nonce : Str} {verified : Verified}
    (kept : Kept seen clock verified) (differs : verified.nonce ≠ nonce) :
    Kept (seen.set nonce ts) clock verified := by
  rcases kept with recorded | lapsed
  · left
    rw [Dict.get?_set_of_ne differs]
    exact recorded
  · exact .inr lapsed

/-! Runs. -/

section Runs

variable {ecdsa : Ecdsa} {bindings : Dict Str PeerBinding} {clock : ℚ} {s t : GateState}

structure Sound (s : GateState) : Prop extends ReplaySafe s where
  checked : ∀ verified ∈ s.waiting, verified.Checked
  kept : ∀ verified ∈ s.accepted, Kept s.seenNonces s.clock verified

/-- A nonce that passes the cache was not accepted before. -/
theorem Sound.new {verified : Verified} (sound : Sound s) (timely : verified.Timely s)
    (absent : (expireNonces s.seenNonces s.clock).get? verified.nonce = none) :
    ∀ earlier ∈ s.accepted, earlier.nonce ≠ verified.nonce := by
  intro earlier member same
  obtain ⟨ts, -, -, repeated⟩ := timely
  obtain ⟨isTime, soon⟩ := repeated earlier member same
  obtain ⟨ts', isTime', near⟩ := sound.fresh earlier member
  rw [isTime] at isTime'
  cases isTime'
  rcases (sound.kept earlier member).expire with recorded | lapsed
  · rw [same, absent] at recorded
    cases recorded
  · exact absurd (cutoff_le_verifiedAt soon near) (not_le.mpr lapsed)

theorem Sound.finish {index : Nat} {verified : Verified} (sound : Sound s)
    (isWaiting : s.waiting[index]? = some verified) (timely : verified.Timely s) :
    Sound (s.finish index verified) := by
  have checked : ∀ other ∈ s.waiting.eraseIdx index, other.Checked :=
    fun other member => sound.checked other (List.mem_of_mem_eraseIdx member)
  cases present : (expireNonces s.seenNonces s.clock).get? verified.nonce with
  | some ts =>
      simp only [GateState.finish, consumeNonce, present, Option.isSome_some, ↓reduceIte,
        Bool.false_eq_true]
      exact ⟨⟨sound.once, sound.fresh⟩, checked, fun other member =>
        (sound.kept other member).expire⟩
  | none =>
      have new := sound.new timely present
      obtain ⟨ts, isTime, whole, -⟩ := timely
      have isChecked := sound.checked verified (List.mem_of_getElem? isWaiting)
      simp only [GateState.finish, consumeNonce, present, Option.isSome_none, ↓reduceIte,
        Bool.false_eq_true]
      refine ⟨⟨?_, ?_⟩, checked, ?_⟩
      · rw [List.map_append]
        apply List.nodup_append.mpr
        refine ⟨sound.once, List.nodup_singleton _, ?_⟩
        intro first inAccepted second isLast same
        obtain ⟨earlier, member, isNonce⟩ := List.mem_map.mp inAccepted
        apply new earlier member
        rw [isNonce, same]
        exact List.mem_singleton.mp isLast
      · intro other member
        rcases List.mem_append.mp member with before | last
        · exact sound.fresh other before
        · rw [List.mem_singleton.mp last]
          exact ⟨ts, isTime, isChecked.fresh isTime whole⟩
      · intro other member
        rcases List.mem_append.mp member with before | last
        · exact (sound.kept other before).expire.set (new other before)
        · rw [List.mem_singleton.mp last]
          exact .inl Dict.get?_set_self

theorem Sound.next {move : Move} (sound : Sound s) (timely : Timely s move)
    (acted : s.act ecdsa bindings move = some t) : Sound t := by
  cases move with
  | tick later =>
      rw [GateState.act] at acted
      split at acted
      · next le =>
        cases acted
        exact ⟨⟨sound.once, sound.fresh⟩, sound.checked, fun other member =>
          (sound.kept other member).later le⟩
      · cases acted
  | check headers text peerPairId =>
      rw [GateState.act] at acted
      split at acted
      · next verified passed =>
        cases acted
        refine ⟨⟨sound.once, sound.fresh⟩, ?_, sound.kept⟩
        intro other member
        rcases List.mem_append.mp member with before | last
        · exact sound.checked other before
        · rw [List.mem_singleton.mp last]
          exact checked_of_verifyRequest passed
      · cases acted
        exact sound
  | consume index =>
      obtain ⟨verified, isWaiting, isNext⟩ := Option.map_eq_some_iff.mp acted
      rw [← isNext]
      exact sound.finish isWaiting (timely verified isWaiting)
  | expire =>
      cases acted
      exact ⟨⟨sound.once, sound.fresh⟩, sound.checked, fun other member =>
        (sound.kept other member).expire⟩

theorem sound_first (clock : ℚ) : Sound (.first clock) where
  once := List.nodup_nil
  fresh _ absurdly := by cases absurdly
  checked _ absurdly := by cases absurdly
  kept _ absurdly := by cases absurdly

end Runs

/-! A peer signs the payload of a request of its own, once with the time of the request and
once with what JSON reads as no number. -/

section Samples

def trusting : Ecdsa := fun _ _ _ _ _ => true

def samplePair : Str := Str.lit "pair-1"

def sampleText : Str := Str.lit "ls"

def sampleSecret : Str := List.replicate 64 (CodePoint.ofChar 'a')

def sampleBindings : Dict Str PeerBinding :=
  Dict.empty.set samplePair
    ⟨⟨Str.lit "AA", Str.lit "AA"⟩, Str.lit "tsk-1", some ⟨sampleSecret, [⟨1⟩]⟩⟩

def samplePayload (timestamp : Value) : Value :=
  .object [("body_hash", .lit "x7aKw382RHPpIpNnCOf0PCk90HspUXFWbAf_X-Ak-rk"), ("nonce", .lit "nonce-1"),
    ("pair_id", .str samplePair), ("timestamp", timestamp)]

def sampleHeaders (timestamp : Value) : Dict Str Str :=
  let signedData := b64url ((canonicalize (samplePayload timestamp)).getD [])
  ((((Dict.empty.set (Str.lit "X-BPC-Signed-Data") (Str.ofText signedData)).set
    (Str.lit "X-BPC-Signature") (List.replicate 86 (CodePoint.ofChar 'A'))).set
    (Str.lit "X-BPC-Pair-ID") samplePair).set
    (Str.lit "X-TSK-Key") (Str.lit "ky5fpQ3mqYOZK")).set
    (Str.lit "X-TSK-Client-ID") (Str.lit "tsk-1")

def sampleCall (timestamp : Value) : List Move :=
  [.check (sampleHeaders timestamp) sampleText samplePair, .consume 0]

def sampleStep (s : GateState) (move : Move) : Option GateState :=
  s.act trusting sampleBindings move

def reached (moves : List Move) : GateState :=
  (moves.foldlM sampleStep (.first 1000)).getD (.first 1000)

theorem run_of_fold {moves : List Move} {s : GateState}
    (folded : moves.foldlM sampleStep (.first 1000) = some s) :
    (verifications trusting sampleBindings 1000).Run moves s := by
  have run : (verifications trusting sampleBindings 1000).Run [] (.first 1000) := .start rfl
  exact run.fold (fun _ _ _ acted => acted) folded

theorem eq_reached {moves : List Move} {s : GateState}
    (run : (verifications trusting sampleBindings 1000).Run moves s) : s = reached moves := by
  have folded : moves.foldlM sampleStep (.first 1000) = some s := by
    induction run with
    | start isFirst =>
        rw [isFirst]
        rfl
    | step _ acted ih =>
        rw [List.foldlM_append, ih]
        exact (bind_pure _).trans acted
  rw [reached, folded, Option.getD_some]

def signedAtStart (verified : Verified) : Bool :=
  signedTime verified.payload = some 1000000

/-- Nothing but the sample was signed, and its minute has not passed. -/
def early (s : GateState) : Bool :=
  s.clock ≤ 1060 && s.waiting.all signedAtStart && s.accepted.all signedAtStart

theorem timely_of_early {s : GateState} {move : Move} (isEarly : early s = true) :
    Timely s move := by
  cases move with
  | consume index =>
      obtain ⟨rest, accepted⟩ := Bool.and_eq_true_iff.mp isEarly
      obtain ⟨clock, waiting⟩ := Bool.and_eq_true_iff.mp rest
      intro verified isWaiting
      have signed := List.all_eq_true.mp waiting verified (List.mem_of_getElem? isWaiting)
      refine ⟨1000000, of_decide_eq_true signed, by decide, ?_⟩
      intro earlier member _
      have soon := of_decide_eq_true clock
      exact ⟨of_decide_eq_true (List.all_eq_true.mp accepted earlier member), by linarith⟩
  | tick _ | check _ _ _ | expire => trivial

theorem timely_sampleCall :
    (verifications trusting sampleBindings 1000).Guarded Timely (sampleCall (.int 1000000)) := by
  have checked : early (reached ((sampleCall (.int 1000000)).take 1)) = true := by decide +kernel
  have nothing := @System.Guarded.nil _ _ (verifications trusting sampleBindings 1000) Timely
  have check : (verifications trusting sampleBindings 1000).Guarded Timely
      ((sampleCall (.int 1000000)).take 1) := nothing.snoc fun _ _ => trivial
  exact check.snoc fun s run => eq_reached run ▸ timely_of_early checked

/-- The same nonce twice, and no time that was signed. -/
def doubled (s : GateState) : Bool :=
  !decide (s.accepted.map Verified.nonce).Nodup &&
    s.accepted.all fun verified => (signedTime verified.payload).isNone

end Samples

end SelfConnect.Gate
