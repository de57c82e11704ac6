import SelfConnect.Library.System
import SelfConnect.Ultra.AgentAuth

namespace SelfConnect.Ultra.AgentAuth

open SelfConnect.Js SelfConnect.Library
open SelfConnect.Python (Bytes sha256)
open RecoveryToken (hexBytes)

/-! Any number of lifecycle requests at once. A request is checked without a break, and then
waits for the nonce store; the store is shared, and answers one call at a time. -/

/-- `checkAndConsume` gives true, gives false, or throws. -/
inductive Answer
  | replay
  | fresh
  | failed
  deriving DecidableEq

structure Consumption where
  time : Nat
  key : Text
  answer : Answer
  deriving DecidableEq

/-- What the nonce store may answer at a time, after all that it has answered. -/
abbrev NonceStore := List Consumption → Nat → Text → Answer → Prop

def Remembers (store : NonceStore) (ttl : Nat) : Prop :=
  ∀ before time key, store before time key .fresh →
    ∀ earlier ∈ before, earlier.key = key → earlier.answer = .fresh → earlier.time + ttl ≤ time

/-- A proof that was checked at one time and consumed at another. -/
structure Admission where
  proof : Proof
  now : Nat
  consumedAt : Nat

/-- `called` when `next` has been called with the agent of the proof. -/
inductive Stage
  | waiting (proof : Proof) (now : Nat)
  | admitted (admission : Admission) (called : Bool)
  | answered (response : Response)

structure Handling where
  request : Request
  stage : Stage

structure Server where
  clock : Nat
  consumptions : List Consumption
  handlings : List Handling

/-- `elsewhere`: another route asks the store. -/
inductive Event
  | tick (clock : Nat)
  | arrive (request : Request)
  | consume (index : Nat) (answer : Answer)
  | resume (index : Nat)
  | elsewhere (key : Text) (answer : Answer)

/-- The greatest time value of `Date`. -/
def maxTime : Nat := 8640000000000000

def Stage.settled (proof : Proof) (now consumedAt : Nat) : Answer → Stage
  | .replay => .answered ⟨409, "AGENT_AUTH_REPLAY"⟩
  | .fresh => .admitted ⟨proof, now, consumedAt⟩ false
  | .failed => .answered ⟨503, "AGENT_AUTH_UNAVAILABLE"⟩

namespace Server

variable (s : Server)

def ask (key : Text) (answer : Answer) : Server :=
  { s with consumptions := s.consumptions ++ [⟨s.clock, key, answer⟩] }

def put (index : Nat) (handling : Handling) : Server :=
  { s with handlings := s.handlings.set index handling }

/-- `requireAgentAuth`, up to its await. -/
def arrive (platform : Platform) (windowMs : Nat) (request : Request) : Server :=
  { s with
    handlings := s.handlings ++ [⟨request,
      match checkProof platform windowMs s.clock request with
      | .error response => .answered response
      | .ok proof => .waiting proof s.clock⟩] }

/-- The store is asked within the delay. -/
def Next (platform : Platform) (store : NonceStore) (windowMs delay : Nat) :
    Event → Server → Prop
  | .tick clock, t => s.clock ≤ clock ∧ clock ≤ maxTime ∧ t = { s with clock := clock }
  | .arrive request, t => t = s.arrive platform windowMs request
  | .consume index answer, t =>
      ∃ request proof now, s.handlings[index]? = some ⟨request, .waiting proof now⟩ ∧
        s.clock ≤ now + delay ∧ store s.consumptions s.clock (nonceKey proof.nonce) answer ∧
        t = (s.ask (nonceKey proof.nonce) answer).put index
          ⟨request, .settled proof now s.clock answer⟩
  | .resume index, t =>
      ∃ request admission, s.handlings[index]? = some ⟨request, .admitted admission false⟩ ∧
        t = s.put index ⟨request, .admitted admission true⟩
  | .elsewhere key answer, t => store s.consumptions s.clock key answer ∧ t = s.ask key answer

end Server

def lifecycleRequests (platform : Platform) (store : NonceStore) (windowMs delay : Nat) :
    System Server Event where
  initial s := s.clock ≤ maxTime ∧ s.handlings = []
  next s event t := s.Next platform store windowMs delay event t

/-! The window of a proof. -/

/-- As the difference is computed; it is exact once the clock is past two windows. -/
def WithinWindow (windowMs now : Nat) (timestamp : Text) : Prop :=
  ∃ ms, timestampMs timestamp = some ms ∧ |Binary64.round (now - ms)| ≤ windowMs ∧
    (2 * windowMs < now → |now - ms| ≤ windowMs)

theorem round_timestampMs {timestamp : Text} {ms : ℚ} (isTime : timestampMs timestamp = some ms) :
    Binary64.round ms = ms := by
  obtain ⟨seconds, -, isDouble⟩ := Option.bind_eq_some_iff.mp isTime
  rw [double?] at isDouble
  split_ifs at isDouble
  cases isDouble
  exact Binary64.round_round _

theorem round_natCast {n : Nat} (small : n ≤ 2 ^ 53) : Binary64.round n = n := by
  apply @Binary64.round_eq_self n n 0 _ _ (by decide)
  · simp
  · rw [Nat.abs_cast]
    exact_mod_cast small

/-- The window is exact where the clock is beyond twice its size. -/
theorem abs_sub_le {windowMs now : Nat} {ms : ℚ} (isDouble : Binary64.round ms = ms)
    (bound : now ≤ maxTime) (late : 2 * windowMs < now)
    (near : |Binary64.round (now - ms)| ≤ windowMs) : |now - ms| ≤ windowMs := by
  have isClock : Binary64.round now = now := round_natCast (bound.trans (by decide))
  have past : (2 : ℚ) * windowMs < now := by exact_mod_cast late
  have nonneg : (0 : ℚ) ≤ windowMs := Nat.cast_nonneg _
  obtain ⟨low, high⟩ := abs_le.mp near
  have notEarly : (now : ℚ) ≤ 2 * ms := by
    by_contra early
    have half : Binary64.round ((now : ℚ) / 2) = now / 2 := by
      apply @Binary64.round_eq_self _ now (-1) _ _ (by decide)
      · rw [zpow_neg_one, Int.cast_natCast, div_eq_mul_inv]
      · rw [Nat.abs_cast]
        exact_mod_cast bound.trans (by decide)
    have rounded := Binary64.round_mono (by linarith : (now : ℚ) / 2 ≤ now - ms)
    rw [half] at rounded
    linarith
  have notLate : ms ≤ 2 * now := by
    by_contra tooLate
    have rounded := Binary64.round_mono (by linarith : (now : ℚ) ≤ ms - now)
    rw [isClock, ← neg_sub, Binary64.round_neg] at rounded
    linarith
  rwa [Binary64.round_sub isClock isDouble notLate notEarly] at near

theorem withinWindow_of_current {windowMs now : Nat} {timestamp : Text} (bound : now ≤ maxTime)
    (current : expired windowMs now timestamp = false) : WithinWindow windowMs now timestamp := by
  rw [expired] at current
  split at current
  · cases current
  · next ms isTime =>
    have near := not_lt.mp (of_decide_eq_false current)
    exact ⟨ms, isTime, near, fun late => abs_sub_le (round_timestampMs isTime) bound late near⟩

/-- One timestamp is within the window of two clock readings no further than two windows
apart. -/
theorem le_of_withinWindow {windowMs first second : Nat} {timestamp timestamp' : Text}
    (sameTime : timestampMs timestamp = timestampMs timestamp') (bound : first ≤ maxTime)
    (within : WithinWindow windowMs first timestamp)
    (within' : WithinWindow windowMs second timestamp') : first ≤ second + 2 * windowMs := by
  obtain ⟨ms, isTime, near, -⟩ := within
  obtain ⟨ms', isTime', near', -⟩ := within'
  rw [← sameTime, isTime] at isTime'
  cases isTime'
  rcases lt_or_ge windowMs (2 ^ 52) with small | large
  · have high := Binary64.lt_add_half_of_round_le small (abs_le.mp near).2
    have low : Binary64.round (ms - second) ≤ windowMs := by
      rw [← neg_sub, Binary64.round_neg]
      linarith [(abs_le.mp near').1]
    have below := Binary64.lt_add_half_of_round_le small low
    have sum : (first : ℚ) < (second + 2 * windowMs + 1 : Nat) := by
      push_cast
      linarith
    exact Nat.lt_succ_iff.mp (by exact_mod_cast sum)
  · have : maxTime ≤ 2 * 2 ^ 52 := by decide
    omega

/-! What holds of every request in every state reached. -/

section Runs

variable {platform : Platform} {store : NonceStore} {windowMs delay ttl : Nat} {s t : Server}

def Handling.admission? (handling : Handling) : Option Admission :=
  match handling.stage with
  | .admitted admission _ => some admission
  | _ => none

def Server.admission? (s : Server) (index : Nat) : Option Admission :=
  (s.handlings[index]?).bind Handling.admission?

/-- Consumed soon after it was checked, and on record. -/
structure Admission.Recorded (admission : Admission) (delay : Nat) (s : Server) : Prop where
  ordered : admission.now ≤ admission.consumedAt
  soon : admission.consumedAt ≤ admission.now + delay
  past : admission.consumedAt ≤ s.clock
  record : ⟨admission.consumedAt, nonceKey admission.proof.nonce, .fresh⟩ ∈ s.consumptions

def Handling.Sound (platform : Platform) (windowMs delay : Nat) (s : Server)
    (handling : Handling) : Prop :=
  match handling.stage with
  | .waiting proof now =>
      Checked platform windowMs now handling.request proof ∧ now ≤ s.clock
  | .admitted admission _ =>
      Checked platform windowMs admission.now handling.request admission.proof ∧
        admission.Recorded delay s
  | .answered _ => True

/-- What came of the same nonce twice lies further apart than the store remembers. -/
structure Sound (platform : Platform) (windowMs delay ttl : Nat) (s : Server) : Prop where
  clock : s.clock ≤ maxTime
  each : ∀ handling ∈ s.handlings, handling.Sound platform windowMs delay s
  apart : ∀ i j first second, i ≠ j → s.admission? i = some first →
    s.admission? j = some second → first.proof.nonce = second.proof.nonce →
    first.consumedAt + ttl ≤ second.consumedAt ∨ second.consumedAt + ttl ≤ first.consumedAt

/-- Later, with no record lost. -/
structure Server.Extends (s t : Server) : Prop where
  clock : s.clock ≤ t.clock
  consumptions : ∀ consumption ∈ s.consumptions, consumption ∈ t.consumptions

theorem Handling.Sound.extend {handling : Handling}
    (sound : handling.Sound platform windowMs delay s) (later : s.Extends t) :
    handling.Sound platform windowMs delay t := by
  unfold Handling.Sound at sound ⊢
  split at sound
  · exact ⟨sound.1, sound.2.trans later.clock⟩
  · obtain ⟨checked, recorded⟩ := sound
    exact ⟨checked, recorded.ordered, recorded.soon, recorded.past.trans later.clock,
      later.consumptions _ recorded.record⟩
  · trivial

theorem Server.extends_ask (key : Text) (answer : Answer) : s.Extends (s.ask key answer) where
  clock := le_rfl
  consumptions _ member := List.mem_append_left _ member

theorem Server.extends_put (index : Nat) (handling : Handling) :
    s.Extends (s.put index handling) where
  clock := le_rfl
  consumptions _ member := member

theorem Server.extends_arrive (request : Request) :
    s.Extends (s.arrive platform windowMs request) where
  clock := le_rfl
  consumptions _ member := member

theorem Sound.ask (sound : Sound platform windowMs delay ttl s) (key : Text) (answer : Answer) :
    Sound platform windowMs delay ttl (s.ask key answer) where
  clock := sound.clock
  each handling member := (sound.each handling member).extend (s.extends_ask key answer)
  apart := sound.apart

theorem getElem?_put {index i : Nat} {handling : Handling} :
    (s.put index handling).handlings[i]? =
      if index = i then (s.handlings[i]?).map fun _ => handling else s.handlings[i]? := by
  rw [Server.put, List.getElem?_set']
  rfl

/-- A request whose handling goes on without a new admission. -/
theorem Sound.put {index : Nat} {before after : Handling}
    (sound : Sound platform windowMs delay ttl s) (isBefore : s.handlings[index]? = some before)
    (isSound : after.Sound platform windowMs delay s)
    (same : ∀ admission, after.admission? = some admission →
      before.admission? = some admission) :
    Sound platform windowMs delay ttl (s.put index after) where
  clock := sound.clock
  each handling member := by
    apply Handling.Sound.extend _ (s.extends_put index after)
    rcases List.mem_or_eq_of_mem_set member with other | isAfter
    · exact sound.each handling other
    · exact isAfter ▸ isSound
  apart := by
    have earlier : ∀ {i admission}, (s.put index after).admission? i = some admission →
        s.admission? i = some admission := by
      intro i admission isAdmission
      rw [Server.admission?, getElem?_put] at isAdmission
      split_ifs at isAdmission with here
      · rw [← here, isBefore] at isAdmission
        rw [Server.admission?, ← here, isBefore]
        exact same admission isAdmission
      · exact isAdmission
    intro i j first second differ isFirst isSecond
    exact sound.apart i j first second differ (earlier isFirst) (earlier isSecond)

theorem exists_of_admission {i : Nat} {admission : Admission}
    (isAdmission : s.admission? i = some admission) :
    ∃ request called, ⟨request, .admitted admission called⟩ ∈ s.handlings := by
  obtain ⟨handling, isHandling, isAdmitted⟩ := Option.bind_eq_some_iff.mp isAdmission
  obtain ⟨request, stage⟩ := handling
  cases stage with
  | admitted found called =>
      cases isAdmitted
      exact ⟨request, called, List.mem_of_getElem? isHandling⟩
  | waiting _ _ | answered _ => cases isAdmitted

theorem Sound.now_le {request : Request} {admission : Admission} {called : Bool}
    (sound : Sound platform windowMs delay ttl s)
    (member : ⟨request, .admitted admission called⟩ ∈ s.handlings) : admission.now ≤ maxTime := by
  obtain ⟨-, recorded⟩ := sound.each _ member
  exact recorded.ordered.trans (recorded.past.trans sound.clock)

/-- A fresh answer comes later than the store remembers any admission of the nonce. -/
theorem Sound.later {i : Nat} {nonce : Text} {admission : Admission}
    (sound : Sound platform windowMs delay ttl s) (remembers : Remembers store ttl)
    (answered : store s.consumptions s.clock (nonceKey nonce) .fresh)
    (isAdmission : s.admission? i = some admission)
    (same : admission.proof.nonce = nonce) : admission.consumedAt + ttl ≤ s.clock := by
  obtain ⟨request, called, member⟩ := exists_of_admission isAdmission
  obtain ⟨-, recorded⟩ := sound.each _ member
  exact remembers _ _ _ answered _ recorded.record (by rw [same]) rfl

theorem Sound.admit {index now : Nat} {request : Request} {proof : Proof}
    (sound : Sound platform windowMs delay ttl s) (remembers : Remembers store ttl)
    (isWaiting : s.handlings[index]? = some ⟨request, .waiting proof now⟩)
    (soon : s.clock ≤ now + delay)
    (answered : store s.consumptions s.clock (nonceKey proof.nonce) .fresh) :
    Sound platform windowMs delay ttl ((s.ask (nonceKey proof.nonce) .fresh).put index
      ⟨request, .admitted ⟨proof, now, s.clock⟩ false⟩) where
  clock := sound.clock
  each handling member := by
    apply Handling.Sound.extend _ (Server.extends_put index _)
    rcases List.mem_or_eq_of_mem_set member with other | isNew
    · exact (sound.each handling other).extend (s.extends_ask _ _)
    · obtain ⟨checked, ordered⟩ := sound.each _ (List.mem_of_getElem? isWaiting)
      rw [isNew]
      exact ⟨checked, ordered, soon, le_rfl, List.mem_append_right _ List.mem_cons_self⟩
  apart := by
    have cases : ∀ {i admission}, ((s.ask (nonceKey proof.nonce) .fresh).put index
        ⟨request, .admitted ⟨proof, now, s.clock⟩ false⟩).admission? i = some admission →
        (index = i ∧ admission = ⟨proof, now, s.clock⟩) ∨ s.admission? i = some admission := by
      intro i admission isAdmission
      rw [Server.admission?, getElem?_put] at isAdmission
      split_ifs at isAdmission with here
      · left
        obtain ⟨handling, isHandling, isAdmitted⟩ := Option.bind_eq_some_iff.mp isAdmission
        obtain ⟨-, -, rfl⟩ := Option.map_eq_some_iff.mp isHandling
        exact ⟨here, (Option.some.inj isAdmitted).symm⟩
      · exact .inr isAdmission
    intro i j first second differ isFirst isSecond sameNonce
    rcases cases isFirst with ⟨isIndex, rfl⟩ | before
    · rcases cases isSecond with ⟨isIndex', -⟩ | before'
      · exact absurd (isIndex.symm.trans isIndex') differ
      · exact .inr (sound.later remembers answered before' sameNonce.symm)
    · rcases cases isSecond with ⟨isIndex', rfl⟩ | before'
      · exact .inl (sound.later remembers answered before sameNonce)
      · exact sound.apart i j first second differ before before' sameNonce

theorem Sound.arrive (sound : Sound platform windowMs delay ttl s) (request : Request) :
    Sound platform windowMs delay ttl (s.arrive platform windowMs request) where
  clock := sound.clock
  each handling member := by
    apply Handling.Sound.extend _ (s.extends_arrive request)
    rcases List.mem_append.mp member with before | isLast
    · exact sound.each handling before
    · rw [List.mem_singleton.mp isLast]
      unfold Handling.Sound
      dsimp only
      cases passed : checkProof platform windowMs s.clock request with
      | error response => trivial
      | ok proof => exact ⟨checked_of_checkProof passed, le_rfl⟩
  apart := by
    have earlier : ∀ {i admission}, (s.arrive platform windowMs request).admission? i =
        some admission → s.admission? i = some admission := by
      intro i admission isAdmission
      obtain ⟨handling, isHandling, isAdmitted⟩ := Option.bind_eq_some_iff.mp isAdmission
      rw [Server.arrive, List.getElem?_append] at isHandling
      split_ifs at isHandling with within
      · exact Option.bind_eq_some_iff.mpr ⟨handling, isHandling, isAdmitted⟩
      · have isLast := List.mem_singleton.mp (List.mem_of_getElem? isHandling)
        rw [isLast, Handling.admission?] at isAdmitted
        dsimp only at isAdmitted
        cases passed : checkProof platform windowMs s.clock request with
        | error response =>
            rw [passed] at isAdmitted
            cases isAdmitted
        | ok proof =>
            rw [passed] at isAdmitted
            cases isAdmitted
    intro i j first second differ isFirst isSecond
    exact sound.apart i j first second differ (earlier isFirst) (earlier isSecond)

theorem Sound.next {event : Event} (sound : Sound platform windowMs delay ttl s)
    (remembers : Remembers store ttl) (next : s.Next platform store windowMs delay event t) :
    Sound platform windowMs delay ttl t := by
  cases event with
  | tick clock =>
      obtain ⟨le, bound, rfl⟩ := next
      exact ⟨bound, fun handling member => (sound.each handling member).extend ⟨le, fun _ => id⟩,
        sound.apart⟩
  | arrive request =>
      obtain rfl := next
      exact sound.arrive request
  | consume index answer =>
      obtain ⟨request, proof, now, isWaiting, soon, answered, rfl⟩ := next
      cases answer with
      | fresh => exact sound.admit remembers isWaiting soon answered
      | replay =>
          exact (sound.ask _ _).put isWaiting trivial fun _ isAdmission => by cases isAdmission
      | failed =>
          exact (sound.ask _ _).put isWaiting trivial fun _ isAdmission => by cases isAdmission
  | resume index =>
      obtain ⟨request, admission, isAdmitted, rfl⟩ := next
      have isSound := sound.each _ (List.mem_of_getElem? isAdmitted)
      exact sound.put isAdmitted isSound fun _ isAdmission => isAdmission
  | elsewhere key answer =>
      obtain ⟨-, rfl⟩ := next
      exact sound.ask key answer

theorem sound_of_run {events : List Event} (remembers : Remembers store ttl)
    (run : (lifecycleRequests platform store windowMs delay).Run events s) :
    Sound platform windowMs delay ttl s := by
  apply run.invariant
  · rintro first ⟨bound, none⟩
    have nothing : ∀ i : Nat, first.admission? i = Option.none := by
      intro i
      rw [Server.admission?, none]
      rfl
    refine ⟨bound, by simp [none], ?_⟩
    intro i j admission _ _ isAdmission
    rw [nothing i] at isAdmission
    cases isAdmission
  · exact fun _ _ _ sound next => sound.next remembers next

/-- A proof that passes the checks and whose nonce is fresh is served. -/
theorem run_serve {events : List Event} {request : Request} {proof : Proof}
    (run : (lifecycleRequests platform store windowMs delay).Run events s)
    (passed : checkProof platform windowMs s.clock request = .ok proof)
    (answered : store s.consumptions s.clock (nonceKey proof.nonce) .fresh) :
    (lifecycleRequests platform store windowMs delay).Run
      (events ++ [.arrive request] ++ [.consume s.handlings.length .fresh] ++
        [.resume s.handlings.length])
      { s with
        consumptions := s.consumptions ++ [⟨s.clock, nonceKey proof.nonce, .fresh⟩]
        handlings := s.handlings ++ [⟨request, .admitted ⟨proof, s.clock, s.clock⟩ true⟩] } := by
  have last : ∀ handling : Handling, (s.handlings ++ [handling])[s.handlings.length]? =
      some handling := fun handling => List.getElem?_concat_length
  have replaced : ∀ before after : Handling,
      (s.handlings ++ [before]).set s.handlings.length after = s.handlings ++ [after] := by
    intro before after
    rw [List.set_append_right _ _ le_rfl, Nat.sub_self, List.set_cons_zero]
  have arrived : (lifecycleRequests platform store windowMs delay).Run
      (events ++ [.arrive request])
      { s with handlings := s.handlings ++ [⟨request, .waiting proof s.clock⟩] } := by
    apply run.step
    change _ = s.arrive platform windowMs request
    rw [Server.arrive, passed]
  have consumed : (lifecycleRequests platform store windowMs delay).Run
      (events ++ [.arrive request] ++ [.consume s.handlings.length .fresh])
      { s with
        consumptions := s.consumptions ++ [⟨s.clock, nonceKey proof.nonce, .fresh⟩]
        handlings := s.handlings ++ [⟨request, .admitted ⟨proof, s.clock, s.clock⟩ false⟩] } := by
    apply arrived.step
    refine ⟨request, proof, s.clock, last _, Nat.le_add_right _ _, answered, ?_⟩
    rw [Server.put, Server.ask]
    dsimp only
    rw [replaced]
    rfl
  apply consumed.step
  refine ⟨request, ⟨proof, s.clock, s.clock⟩, last _, ?_⟩
  rw [Server.put]
  dsimp only
  rw [replaced]

end Runs

/-! What a call of `next` vouches for. -/

/-- Each proof presented that verifies is of bytes the holder has signed. -/
def Unforgeable (platform : Platform) (signed : Bytes → Statement → Prop) (s : Server) : Prop :=
  ∀ handling ∈ s.handlings, ∀ proof, readProof handling.request = .ok proof →
    platform.verify proof.publicKey (proof.material handling.request.body)
      (platform.base64 proof.sig) = some true →
    ∃ statement, signed proof.publicKey statement ∧
      statement.material = proof.material handling.request.body

/-- No body presented has the hash of another that was signed. -/
def CollisionFree (signed : Bytes → Statement → Prop) (s : Server) : Prop :=
  ∀ handling ∈ s.handlings, ∀ publicKey statement, signed publicKey statement →
    sha256 statement.rawBody = sha256 handling.request.body →
    statement.rawBody = handling.request.body

/-- The holder of the key that is named signed this very request, for about this time. -/
structure Vouched (windowMs : Nat) (signed : Bytes → Statement → Prop) (request : Request)
    (admission : Admission) (publicKey : Bytes) (statement : Statement) : Prop where
  named : admission.proof.scAgent = .naming publicKey
  signed : signed publicKey statement
  method : statement.method = request.method
  path : statement.path = request.path
  audience : statement.audience = lifecycleAuthAudience
  rawBody : statement.rawBody = request.body
  timestamp : statement.timestamp = admission.proof.timestamp
  nonce : statement.nonce = admission.proof.nonce
  current : WithinWindow windowMs admission.now statement.timestamp

section Calls

variable {platform : Platform} {store : NonceStore} {windowMs delay ttl : Nat} {s : Server}
variable {signed : Bytes → Statement → Prop}

theorem vouched_of_sound {request : Request} {admission : Admission} {called : Bool}
    (sound : Sound platform windowMs delay ttl s) (unforgeable : Unforgeable platform signed s)
    (collisionFree : CollisionFree signed s)
    (member : ⟨request, .admitted admission called⟩ ∈ s.handlings) :
    ∃ publicKey statement, Vouched windowMs signed request admission publicKey statement := by
  obtain ⟨checked, -⟩ := sound.each _ member
  have fits := fits_of_readProof checked.read
  have within := withinWindow_of_current (sound.now_le member) checked.current
  obtain ⟨statement, isSigned, same⟩ := unforgeable _ member _ checked.read checked.verified
  have covers := covers_of_material_eq fits (within.imp fun _ => And.left) same
  exact ⟨admission.proof.publicKey, statement, {
    named := checked.scAgent
    signed := isSigned
    method := covers.method.trans fits.method
    path := covers.path.trans fits.path
    audience := covers.audience.trans fits.audience
    rawBody := collisionFree _ member _ _ isSigned covers.hash
    timestamp := covers.timestamp
    nonce := covers.nonce
    current := covers.timestamp ▸ within }⟩

theorem eq_of_admissions {i j : Nat} {first second : Admission}
    (sound : Sound platform windowMs delay ttl s) (longer : 2 * windowMs + delay < ttl)
    (isFirst : s.admission? i = some first) (isSecond : s.admission? j = some second)
    (sameNonce : first.proof.nonce = second.proof.nonce)
    (sameTime : timestampMs first.proof.timestamp = timestampMs second.proof.timestamp) :
    i = j := by
  by_contra differ
  obtain ⟨_, _, member⟩ := exists_of_admission isFirst
  obtain ⟨_, _, member'⟩ := exists_of_admission isSecond
  obtain ⟨checked, recorded⟩ := sound.each _ member
  obtain ⟨checked', recorded'⟩ := sound.each _ member'
  have within := withinWindow_of_current (sound.now_le member) checked.current
  have within' := withinWindow_of_current (sound.now_le member') checked'.current
  have before := le_of_withinWindow sameTime (sound.now_le member) within within'
  have after := le_of_withinWindow sameTime.symm (sound.now_le member') within' within
  have ordered := recorded.ordered
  have ordered' := recorded'.ordered
  have soon := recorded.soon
  have soon' := recorded'.soon
  rcases sound.apart i j first second differ isFirst isSecond sameNonce with long | long <;> omega

/-- Whatever requests are handled at once, in whatever order. -/
theorem calls_vouched_once {events : List Event} (remembers : Remembers store ttl)
    (longer : 2 * windowMs + delay < ttl)
    (run : (lifecycleRequests platform store windowMs delay).Run events s)
    (unforgeable : Unforgeable platform signed s) (collisionFree : CollisionFree signed s) :
    (∀ request admission, ⟨request, .admitted admission true⟩ ∈ s.handlings →
      ∃ publicKey statement, Vouched windowMs signed request admission publicKey statement) ∧
    ∀ (i j : Nat) (request request' : Request) (first second : Admission),
      s.handlings[i]? = some ⟨request, .admitted first true⟩ →
      s.handlings[j]? = some ⟨request', .admitted second true⟩ →
      first.proof.publicKey = second.proof.publicKey → first.proof.nonce = second.proof.nonce →
      timestampMs first.proof.timestamp = timestampMs second.proof.timestamp → i = j := by
  have sound := sound_of_run remembers run
  refine ⟨fun _ _ member => vouched_of_sound sound unforgeable collisionFree member, ?_⟩
  intro i j request request' first second isFirst isSecond _ sameNonce sameTime
  apply eq_of_admissions sound longer _ _ sameNonce sameTime
  · rw [Server.admission?, isFirst]
    rfl
  · rw [Server.admission?, isSecond]
    rfl

end Calls

/-! An agent signs one nonce at two times, sixteen minutes apart. -/

section Samples

/-- It remembers as long as the server's does. -/
def sampleStore : NonceStore := fun before time key answer =>
  answer = if before.any (fun earlier => earlier.key = key && earlier.answer = .fresh &&
    time < earlier.time + 130000) then .replay else .fresh

theorem remembers_sampleStore : Remembers sampleStore 130000 := by
  intro before time key answered earlier member isKey isFresh
  by_contra soon
  have seen : before.any (fun earlier => earlier.key = key && earlier.answer = .fresh &&
      time < earlier.time + 130000) = true := by
    apply List.any_eq_true.mpr ⟨earlier, member, _⟩
    simp only [isKey, isFresh, decide_true, Bool.true_and, decide_eq_true_eq]
    omega
  rw [sampleStore, if_pos seen] at answered
  cases answered

theorem fresh_sampleStore {before : List Consumption} {time : Nat} {key : Text}
    (old : ∀ earlier ∈ before, earlier.time + 130000 ≤ time) :
    sampleStore before time key .fresh := by
  have unseen : ¬ before.any (fun earlier => earlier.key = key && earlier.answer = .fresh &&
      time < earlier.time + 130000) = true := by
    intro seen
    obtain ⟨earlier, member, matching⟩ := List.any_eq_true.mp seen
    have recent := of_decide_eq_true (Bool.and_eq_true_iff.mp matching).2
    have := old earlier member
    omega
  rw [sampleStore, if_neg unseen]

def sampleKey : Bytes :=
  hexBytes (text "d75a980182b10ab7d54bfed3c964073a0ee172f3daa62325af021a68f707511a")

def sampleProof (ts sig : String) : Proof where
  agentId := text "SC-21FE31DF"
  pubHex := text "d75a980182b10ab7d54bfed3c964073a0ee172f3daa62325af021a68f707511a"
  timestamp := text ts
  nonce := text "00000000-0000-4000-8000-000000000000"
  method := text "POST"
  path := text "/register-pair"
  audience := lifecycleAuthAudience
  sig := text sig

def sampleStatement (ts : String) : Statement where
  method := text "POST"
  path := text "/register-pair"
  audience := lifecycleAuthAudience
  rawBody := []
  timestamp := text ts
  nonce := text "00000000-0000-4000-8000-000000000000"
  wire := ⟨isWire_post, isWire_of_all (by decide), isWire_audience⟩

def sampleSigned (publicKey : Bytes) (statement : Statement) : Prop :=
  publicKey = sampleKey ∧ (statement = sampleStatement "60" ∨ statement = sampleStatement "1000")

def firstSig : String :=
  "E728LJUWz2z4pFWdUQaCUpvLNhKu1H0OhFGU8jvg18510KArED6rzCJtD4mqdSKQdLfUQKpPefZR9CNRHzyqCA=="

def secondSig : String :=
  "/paUzWLk4AvhFxDlVrhfhExlEvYfJG761qrwzJEd3Klqbgyicn0i04tvGRUOzZl1NGM4XALARziyQU9Odz8kBg=="

def firstSignature : Bytes := hexBytes (text ("13bdbc2c9516cf6cf8a4559d510682529bcb3612aed47d0e" ++
  "845194f23be0d7ce75d0a02b103eabcc226d0f89aa75229074b7d440aa4f79f651f423511f3caa08"))

def secondSignature : Bytes := hexBytes (text ("fe9694cd62e4e00be11710e556b85f844c6512f61f246efad6aa" ++
  "f0cc911ddca96a6e0ca2727d22d38b6f19150ecd99753463385c02c04738b2414f4e773f2406"))

def samplePlatform : Platform where
  base64 value := if value = text firstSig then firstSignature
    else if value = text secondSig then secondSignature else []
  verify publicKey material signature := some (decide (publicKey = sampleKey ∧
    ((material = (sampleStatement "60").material ∧ signature = firstSignature) ∨
      (material = (sampleStatement "1000").material ∧ signature = secondSignature))))

def sampleRequest (ts sig : String) : Request where
  header := some (text "\x7b\"agent_id\":\"SC-21FE31DF\",\"pubkey_hex\":\"" ++
    text "d75a980182b10ab7d54bfed3c964073a0ee172f3daa62325af021a68f707511a" ++
    text "\",\"ts\":\"" ++ text ts ++
    text "\",\"nonce\":\"00000000-0000-4000-8000-000000000000\",\"method\":\"POST\"," ++
    text "\"path\":\"/register-pair\",\"aud\":\"selfconnect-ultra-lifecycle-v1\",\"sig\":\"" ++
    text sig ++ text "\"\x7d")
  method := text "POST"
  path := text "/register-pair"
  rawBody := none
  wire := isWire_of_all (by decide)

theorem readProof_of_reads {request : Request} {rawHeader : Text} {proof : Proof}
    (isHeader : request.header = some rawHeader)
    (length : 0 < rawHeader.length ∧ rawHeader.length ≤ 4096)
    (reads : (Json.parse rawHeader).bind (fun auth => readFields auth request) = some proof) :
    readProof request = .ok proof := by
  simp only [readProof, isHeader]
  have nonempty : rawHeader ≠ [] := List.length_pos_iff.mp length.1
  rw [if_neg (by simp [nonempty, length.2]), reads]

theorem checkProof_of_checked {platform : Platform} {windowMs now : Nat} {request : Request}
    {proof : Proof} (checked : Checked platform windowMs now request proof)
    (long : (platform.base64 proof.sig).length = 64) :
    checkProof platform windowMs now request = .ok proof := by
  simp only [checkProof, checked.read, checked.current, Bool.false_eq_true, ↓reduceIte,
    checked.named, ne_eq, not_true, long, checked.verified]

theorem named_sampleKey : agentIdFromPublicKey sampleKey = text "SC-21FE31DF" := by
  decide +kernel

theorem base64_firstSig : samplePlatform.base64 (text firstSig) = firstSignature := by
  simp only [samplePlatform, ↓reduceIte]

theorem base64_secondSig : samplePlatform.base64 (text secondSig) = secondSignature := by
  have differ : text secondSig ≠ text firstSig := by decide +kernel
  simp only [samplePlatform, differ, ↓reduceIte]

theorem checkProof_first : checkProof samplePlatform 30000 60000 (sampleRequest "60" firstSig) =
    .ok (sampleProof "60" firstSig) := by
  apply checkProof_of_checked
  · refine ⟨readProof_of_reads rfl (by decide +kernel) (by decide +kernel), by decide +kernel,
      named_sampleKey, ?_⟩
    change samplePlatform.verify sampleKey (sampleStatement "60").material
      (samplePlatform.base64 (text firstSig)) = some true
    rw [base64_firstSig]
    simp [samplePlatform]
  · change (samplePlatform.base64 (text firstSig)).length = 64
    rw [base64_firstSig]
    decide +kernel

theorem checkProof_second :
    checkProof samplePlatform 30000 1000000 (sampleRequest "1000" secondSig) =
      .ok (sampleProof "1000" secondSig) := by
  apply checkProof_of_checked
  · refine ⟨readProof_of_reads rfl (by decide +kernel) (by decide +kernel), by decide +kernel,
      named_sampleKey, ?_⟩
    change samplePlatform.verify sampleKey (sampleStatement "1000").material
      (samplePlatform.base64 (text secondSig)) = some true
    rw [base64_secondSig]
    simp [samplePlatform]
  · change (samplePlatform.base64 (text secondSig)).length = 64
    rw [base64_secondSig]
    decide +kernel

theorem unforgeable_sample (s : Server) : Unforgeable samplePlatform sampleSigned s := by
  intro handling _ proof _ verified
  obtain ⟨isKey, first | second⟩ := of_decide_eq_true (Option.some.inj verified)
  · exact ⟨_, ⟨isKey, .inl rfl⟩, first.1.symm⟩
  · exact ⟨_, ⟨isKey, .inr rfl⟩, second.1.symm⟩

theorem collisionFree_sample {s : Server}
    (bare : ∀ handling ∈ s.handlings, handling.request.body = []) :
    CollisionFree sampleSigned s := by
  rintro handling member publicKey statement ⟨-, rfl | rfl⟩ -
  · exact (bare handling member).symm
  · exact (bare handling member).symm

def served (ts sig : String) (now : Nat) : Handling :=
  ⟨sampleRequest ts sig, .admitted ⟨sampleProof ts sig, now, now⟩ true⟩

def servedOnce : Server where
  clock := 60000
  consumptions := [⟨60000, nonceKey (sampleProof "60" firstSig).nonce, .fresh⟩]
  handlings := [served "60" firstSig 60000]

/-- The store has forgotten the nonce when it is signed again. -/
theorem run_sample : ∃ (events : List Event) (s : Server),
    (lifecycleRequests samplePlatform sampleStore 30000 1000).Run events s ∧
      s.handlings = [served "60" firstSig 60000, served "1000" secondSig 1000000] := by
  have start : (lifecycleRequests samplePlatform sampleStore 30000 1000).Run []
      ⟨60000, [], []⟩ := .start ⟨by decide, rfl⟩
  have first : (lifecycleRequests samplePlatform sampleStore 30000 1000).Run _ servedOnce :=
    run_serve start checkProof_first (fresh_sampleStore (by simp))
  have later : (lifecycleRequests samplePlatform sampleStore 30000 1000).next servedOnce
      (.tick 1000000) { servedOnce with clock := 1000000 } := ⟨by decide, by decide, rfl⟩
  have second := run_serve (first.step later) checkProof_second
    (fresh_sampleStore (by simp [servedOnce]))
  exact ⟨_, _, second, rfl⟩

theorem bare_sample {s : Server}
    (handlings : s.handlings = [served "60" firstSig 60000, served "1000" secondSig 1000000]) :
    ∀ handling ∈ s.handlings, handling.request.body = [] := by
  rw [handlings]
  intro handling member
  rcases List.mem_cons.mp member with rfl | last
  · rfl
  · rw [List.mem_singleton.mp last]
    rfl

theorem calls_vouched_once_sample : ∃ (events : List Event) (s : Server),
    (lifecycleRequests samplePlatform sampleStore 30000 1000).Run events s ∧
      s.handlings.length = 2 ∧
      ∀ request admission, ⟨request, .admitted admission true⟩ ∈ s.handlings →
        ∃ publicKey statement,
          Vouched 30000 sampleSigned request admission publicKey statement := by
  obtain ⟨events, s, run, handlings⟩ := run_sample
  have vouched := calls_vouched_once remembers_sampleStore (by decide) run
    (unforgeable_sample s) (collisionFree_sample (bare_sample handlings))
  exact ⟨events, s, run, by rw [handlings]; rfl, vouched.1⟩

/-- A nonce its holder signs again, once the store has forgotten it, is called for again. -/
theorem called_twice_for_nonce : ∃ (events : List Event) (s : Server),
    Remembers sampleStore 130000 ∧
      (lifecycleRequests samplePlatform sampleStore 30000 1000).Run events s ∧
      Unforgeable samplePlatform sampleSigned s ∧ CollisionFree sampleSigned s ∧
      ∃ request request' first second,
        s.handlings[0]? = some ⟨request, .admitted first true⟩ ∧
        s.handlings[1]? = some ⟨request', .admitted second true⟩ ∧
        first.proof.publicKey = second.proof.publicKey ∧
        first.proof.nonce = second.proof.nonce := by
  obtain ⟨events, s, run, handlings⟩ := run_sample
  refine ⟨events, s, remembers_sampleStore, run, unforgeable_sample s,
    collisionFree_sample (bare_sample handlings), sampleRequest "60" firstSig,
    sampleRequest "1000" secondSig, ⟨sampleProof "60" firstSig, 60000, 60000⟩,
    ⟨sampleProof "1000" secondSig, 1000000, 1000000⟩, ?_, ?_, rfl, rfl⟩
  · rw [handlings]
    rfl
  · rw [handlings]
    rfl

end Samples

end SelfConnect.Ultra.AgentAuth
