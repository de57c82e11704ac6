import SelfConnect.Handshake.Verify

namespace SelfConnect.Handshake

open SelfConnect.Python SelfConnect.Library

/-! What a verified peer has proved. -/

/-- What the holders of the keys of both kinds have signed. -/
structure Signed where
  ed25519 : (publicKey message : Bytes) → Prop
  p384 : (publicKey message : Bytes) → Prop

structure Unforgeable (schemes : Schemes) (signed : Signed) : Prop where
  ed25519 : ∀ {message signature publicKey}, schemes.ed25519 message signature publicKey = true →
    signed.ed25519 publicKey message
  p384 : ∀ {message signature publicKey}, schemes.p384 message signature publicKey = true →
    signed.p384 publicKey message

/-- The window's birth tag, signed no more than a minute before a reading of the clock. -/
def Tagged (parsers : Parsers) (signed : Signed) (window : Window) (publicKey : Bytes)
    (current : ℚ) : Prop :=
  ∃ ts born pid time, parsers.floatOf window.scidSts = some ts ∧ Number.ofFloat ts = .finite time ∧
    time ≤ Binary64.round (current + 5) ∧ Binary64.round (current - time) ≤ maxAgeSeconds ∧
    signed.ed25519 publicKey (buildPayload window.scid pid window.scctime born ts)

/-- The identifier of a P-384 key that vouches for an Ed25519 key in this handshake. -/
def Bound (signed : Signed) (nonce : Text) (publicKey : Bytes) (agentId : Value) : Prop :=
  ∃ p384PublicKey, agentId = .str (agentIdOf false p384PublicKey) ∧
    signed.p384 p384PublicKey (cngBindingBytes nonce publicKey)

/-- A peer with the name of its candidate, whose key signed this handshake's nonce and the
window's tag. -/
structure Vouched (parsers : Parsers) (signed : Signed) (tag : BirthTag) (nonce : Text)
    (initiatorHwnd : Option Int) (reading : Reading) (response : Value) (peer : HandshakePeer) :
    Prop where
  agentId : peer.agentId = tag.agentId
  hwnd : peer.hwnd = tag.hwnd
  gapC : peer.gapCClosed = hasBinding response
  key : ∃ publicKey, fromHex peer.publicKeyHex = some publicKey ∧
    signed.ed25519 publicKey (signedBytes nonce initiatorHwnd) ∧
    Tagged parsers signed reading.window publicKey reading.current ∧
    (peer.gapCClosed = true → Bound signed nonce publicKey (field response "agent_id"))

section Soundness

variable {schemes : Schemes} {parsers : Parsers} {signed : Signed}
  (unforgeable : Unforgeable schemes signed)

theorem checkFreshness_eq_ok {ts : PyFloat} {maxAge current : ℚ} {u : Unit}
    (fresh : checkFreshness ts maxAge current = .ok u) :
    ∃ time, Number.ofFloat ts = .finite time ∧ time ≤ Binary64.round (current + 5) ∧
      Binary64.round (current - time) ≤ maxAge := by
  simp only [checkFreshness, bind_eq_ok, insist_eq_ok, exists_const] at fresh
  obtain ⟨-, fresh⟩ := fresh
  split at fresh
  · next time isTime =>
    simp only [bind_eq_ok, insist_eq_ok, exists_const] at fresh
    obtain ⟨notAhead, recent⟩ := fresh
    exact ⟨time, isTime, of_decide_eq_true notAhead, of_decide_eq_true recent⟩
  · cases fresh

theorem hexBytes_eq_ok {value : Value} {invalid : Failure} {bytes : Bytes} :
    hexBytes value invalid = .ok bytes ↔
      ∃ text, value.str? = some text ∧ fromHex text = some bytes := by
  simp only [hexBytes, bind_eq_ok, present_eq_ok]

include unforgeable

theorem tagged_of_verifySignedBirthTag {window : Window} {publicKey : Bytes} {current : ℚ}
    {u : Unit} (verified : verifySignedBirthTag schemes parsers window publicKey maxAgeSeconds
      current = .ok u) : Tagged parsers signed window publicKey current := by
  simp only [verifySignedBirthTag, bind_eq_ok, insist_eq_ok, present_eq_ok, exists_const] at verified
  obtain ⟨-, -, ts, isTs, ⟨⟩, fresh, -, born, -, pid, -, signature, -, valid⟩ := verified
  obtain ⟨time, isTime, notAhead, recent⟩ := checkFreshness_eq_ok fresh
  exact ⟨ts, born, pid, time, isTs, isTime, notAhead, recent, unforgeable.ed25519 valid⟩

theorem bound_of_verifyBinding {packet : Value} {nonce : Text} {publicKey : Bytes} {u : Unit}
    (verified : verifyBinding schemes packet nonce publicKey = .ok u) :
    Bound signed nonce publicKey (field packet "agent_id") := by
  simp only [verifyBinding, bind_eq_ok, insist_eq_ok, exists_const] at verified
  obtain ⟨p384PublicKey, -, signature, -, isNamed, valid⟩ := verified
  exact ⟨p384PublicKey, Value.str_eqv_iff.mp isNamed,
    unforgeable.p384 (Bool.and_eq_true_iff.mp valid).2⟩

theorem verifyPeer_eq_ok {packet : Value} {nonce : Text} {initiatorHwnd : Option Int}
    {gapCClosed : Bool} (verified : verifyPeer schemes packet nonce initiatorHwnd = .ok gapCClosed) :
    gapCClosed = hasBinding packet ∧ ∃ text publicKey,
      (field packet "ed25519_pubkey").str? = some text ∧ fromHex text = some publicKey ∧
      signed.ed25519 publicKey (signedBytes nonce initiatorHwnd) ∧
      (gapCClosed = true → Bound signed nonce publicKey (field packet "agent_id")) := by
  simp only [verifyPeer, bind_eq_ok, insist_eq_ok, hexBytes_eq_ok, exists_const] at verified
  obtain ⟨-, publicKey, ⟨text, isText, isKey⟩, signature, -, rest⟩ := verified
  split at rest
  · next isBinding =>
    simp only [bind_eq_ok, insist_eq_ok, exists_const] at rest
    obtain ⟨⟨⟩, binding, valid, isClosed⟩ := rest
    cases isClosed
    exact ⟨rfl, text, publicKey, isText, isKey, unforgeable.ed25519 valid, fun _ =>
      bound_of_verifyBinding unforgeable binding⟩
  · next notBinding =>
    simp only [bind_eq_ok, insist_eq_ok, exists_const] at rest
    obtain ⟨-, valid, isClosed⟩ := rest
    cases isClosed
    exact ⟨rfl, text, publicKey, isText, isKey, unforgeable.ed25519 valid, fun isBinding =>
      absurd isBinding notBinding⟩

end Soundness

/-! One intruder answers for a window that carries the name of somebody else. -/

section Samples

def victimKey : Bytes := List.replicate 32 0

def intruderKey : Bytes := List.replicate 32 1

/-- Only the intruder signs anything. -/
def intruderSchemes : Schemes := ⟨fun _ _ publicKey => publicKey = intruderKey, fun _ _ _ => false⟩

def intruderSigned : Signed := ⟨fun publicKey _ => publicKey = intruderKey, fun _ _ => False⟩

def sampleParsers : Parsers where
  floatOf text := if text = Str.lit "0.0" then some (.finite .zero) else none
  intOf text := if text = Str.lit "7" then some 7 else none

def victimTag : BirthTag := ⟨1, Str.lit "SC-66687AAD"⟩

def intruderResponse : Value :=
  .object [("nonce", .lit "c0ffee"), ("agent_id", .lit "SC-66687AAD"),
    ("ed25519_pubkey", .str (Str.ofText (hexText intruderKey))), ("ed25519_sig", .lit "00")]

def intruderReading : Reading where
  scidSig := Str.lit "00"
  window := ⟨Str.lit "SC-66687AAD", Str.lit "7", Str.lit "0", Str.lit "0.0", Str.lit "00",
    Str.lit "0.0"⟩
  current := 0

def intruderRun : Except Failure HandshakePeer :=
  run intruderSchemes sampleParsers victimTag "c0ffee".toList (some 2) true (some intruderResponse)
    intruderReading

theorem unforgeable_intruder : Unforgeable intruderSchemes intruderSigned where
  ed25519 valid := by
    rw [intruderSchemes, decide_eq_true_iff] at valid
    exact valid
  p384 valid := by cases valid

theorem intruderRun_eq_ok :
    ∃ peer, intruderRun = .ok peer ∧ peer.agentId = agentIdOf true victimKey := by
  have isVerified : intruderRun.toOption.any (fun peer => peer.agentId = Str.lit "SC-66687AAD") =
      true := by decide +kernel
  have isVictim : agentIdOf true victimKey = Str.lit "SC-66687AAD" := by decide +kernel
  obtain ⟨peer, isPeer, named⟩ := (Option.any_eq_true _ _).mp isVerified
  rw [isVictim]
  cases result : intruderRun with
  | error _ =>
      rw [result] at isPeer
      cases isPeer
  | ok found =>
      rw [result] at isPeer
      cases isPeer
      exact ⟨_, rfl, of_decide_eq_true named⟩

end Samples

end SelfConnect.Handshake
