import SelfConnect.Js.Parse
import SelfConnect.Ultra.RecoveryToken

namespace SelfConnect.Ultra.AgentAuth

open SelfConnect.Js SelfConnect.Library
open SelfConnect.Python (Bytes sha256)
open RecoveryToken (hexUnits hexBytes isHex isAgentId lower)

/-! The proof of an agent in the header of a lifecycle request: what it signs, and what is
checked of it before its nonce is consumed. -/

/-- `Buffer.from(value, 'ascii')`: the low byte of each unit. -/
def ascii (value : Text) : Bytes := value.map UInt16.toUInt8

def lifecycleAuthDomain : Bytes := ascii (text "selfconnect/ultra/agent-lifecycle-auth/v1") ++ [0]
def lifecycleAuthAudience : Text := text "selfconnect-ultra-lifecycle-v1"

def upperUnit (u : UInt16) : UInt16 := if isLower u then u - 0x20 else u

def agentIdFromPublicKey (publicKey : Bytes) : Text :=
  text "SC-" ++ ((hexUnits (sha256 publicKey)).take 8).map upperUnit

def canonicalAgentIdFromPublicKey (publicKey : Bytes) : Text :=
  text "SCID-" ++ hexUnits (sha256 publicKey)

def signedAgentMaterial (rawBody : Bytes) (timestamp nonce method path audience : Text) : Bytes :=
  lifecycleAuthDomain ++ (ascii method ++ 0 :: (ascii path ++ 0 :: (ascii audience ++
    0 :: (sha256 rawBody ++ (utf8 timestamp ++ 0 :: utf8 nonce)))))

/-- A text of single bytes, none of them zero. -/
def IsWire (value : Text) : Prop := ∀ u ∈ value, 0 < u.toNat ∧ u.toNat < 256

/-- The parser of the requests lets no other path through. The body is kept when it is read
as JSON. -/
structure Request where
  header : Option Text
  method : Text
  path : Text
  rawBody : Option Bytes
  wire : IsWire path

/-- `Buffer.isBuffer(req.rawBody) ? req.rawBody : Buffer.alloc(0)` -/
def Request.body (request : Request) : Bytes := request.rawBody.getD []

structure Response where
  status : Nat
  error : String
  deriving DecidableEq

structure Proof where
  agentId : Text
  pubHex : Text
  timestamp : Text
  nonce : Text
  method : Text
  path : Text
  audience : Text
  sig : Text
  deriving DecidableEq

/-- What Node decodes of any text as base64, and how it verifies a message: none where it
throws. -/
structure Platform where
  base64 : Text → Bytes
  verify : Bytes → Bytes → Bytes → Option Bool

def matchesEach (classes : List (UInt16 → Bool)) (value : Text) : Bool :=
  classes.length = value.length && (classes.zip value).all fun entry => entry.1 entry.2

/-- `/^[0-9a-f]{8}-[0-9a-f]{4}-4[0-9a-f]{3}-[89ab][0-9a-f]{3}-[0-9a-f]{12}$/i` -/
def noncePattern : List (UInt16 → Bool) :=
  List.replicate 8 isHex ++ [(· == 0x2D)] ++ List.replicate 4 isHex ++ [(· == 0x2D)] ++
    [(· == 0x34)] ++ List.replicate 3 isHex ++ [(· == 0x2D)] ++
    [fun u => (text "89abAB").contains u] ++ List.replicate 3 isHex ++ [(· == 0x2D)] ++
    List.replicate 12 isHex

def isNonce (value : Text) : Bool := matchesEach noncePattern value

def malformed : Response := ⟨401, "AGENT_AUTH_MALFORMED"⟩

def readFields (auth : Json) (request : Request) : Option Proof := do
  let agentId ← (auth.getStr? "agent_id").filter isAgentId
  let pubHex ← (auth.getStr? "pubkey_hex").filter (matchesRun isHex 64 64)
  let timestamp ← (auth.getStr? "ts").filter fun ts => ts.length ≤ 32
  let nonce ← (auth.getStr? "nonce").filter isNonce
  let method ← (auth.getStr? "method").filter fun method =>
    method = text "POST" && method = request.method
  let path ← (auth.getStr? "path").filter fun path =>
    path = request.path && (text "/").isPrefixOf path
  let audience ← (auth.getStr? "aud").filter fun aud => aud = lifecycleAuthAudience
  let sig ← (auth.getStr? "sig").filter fun sig => sig.length ≤ 128
  return ⟨agentId, pubHex, timestamp, nonce, method, path, audience, sig⟩

def readProof (request : Request) : Except Response Proof :=
  match request.header with
  | none => .error ⟨401, "AGENT_AUTH_REQUIRED"⟩
  | some rawHeader =>
      if rawHeader = [] ∨ 4096 < rawHeader.length then .error ⟨401, "AGENT_AUTH_REQUIRED"⟩
      else
        match (Json.parse rawHeader).bind fun auth => readFields auth request with
        | none => .error malformed
        | some proof => .ok proof

/-- `Number(ts) * 1000`, where it is finite. -/
def timestampMs (timestamp : Text) : Option ℚ :=
  (finiteNumber? timestamp).bind fun seconds => double? (seconds * 1000)

def expired (windowMs now : Nat) (timestamp : Text) : Bool :=
  match timestampMs timestamp with
  | none => true
  | some ms => windowMs < |Binary64.round (now - ms)|

namespace Proof

variable (proof : Proof)

def publicKey : Bytes := hexBytes proof.pubHex

def material (rawBody : Bytes) : Bytes :=
  signedAgentMaterial rawBody proof.timestamp proof.nonce proof.method proof.path proof.audience

end Proof

section Middleware

variable (platform : Platform) (windowMs now : Nat)

/-- All that runs before the nonce store is asked. -/
def checkProof (request : Request) : Except Response Proof :=
  match readProof request with
  | .error response => .error response
  | .ok proof =>
      if expired windowMs now proof.timestamp then .error ⟨401, "AGENT_AUTH_EXPIRED"⟩
      else if agentIdFromPublicKey proof.publicKey ≠ proof.agentId then
        .error ⟨401, "AGENT_ID_MISMATCH"⟩
      else if (platform.base64 proof.sig).length ≠ 64 then .error malformed
      else
        match platform.verify proof.publicKey (proof.material request.body)
            (platform.base64 proof.sig) with
        | none => .error ⟨503, "AGENT_AUTH_UNAVAILABLE"⟩
        | some false => .error ⟨401, "AGENT_AUTH_INVALID_SIGNATURE"⟩
        | some true => .ok proof

end Middleware

def nonceKey (nonce : Text) : Text := text "agent-lifecycle:" ++ nonce

/-- `req.scAgent` -/
structure ScAgent where
  agentId : Text
  canonicalId : Text
  publicKeyHex : Text

/-- What names a public key. -/
def ScAgent.naming (publicKey : Bytes) : ScAgent :=
  ⟨agentIdFromPublicKey publicKey, canonicalAgentIdFromPublicKey publicKey, hexUnits publicKey⟩

def Proof.scAgent (proof : Proof) : ScAgent :=
  ⟨proof.agentId, canonicalAgentIdFromPublicKey proof.publicKey, lower proof.pubHex⟩

/-- What the holder of a key has signed: one request, for one path, at one time. An encoder
that refuses what is no single byte has signed nothing else. -/
structure Statement where
  method : Text
  path : Text
  audience : Text
  rawBody : Bytes
  timestamp : Text
  nonce : Text
  wire : IsWire method ∧ IsWire path ∧ IsWire audience

def Statement.material (statement : Statement) : Bytes :=
  signedAgentMaterial statement.rawBody statement.timestamp statement.nonce statement.method
    statement.path statement.audience

/-! What a proof that is read looks like. -/

/-- What the patterns and comparisons say of the fields that are signed. -/
structure Proof.Fits (proof : Proof) (request : Request) : Prop where
  key : matchesRun isHex 64 64 proof.pubHex = true
  nonce : isNonce proof.nonce = true
  post : proof.method = text "POST"
  method : proof.method = request.method
  path : proof.path = request.path
  audience : proof.audience = lifecycleAuthAudience

theorem fits_of_readFields {auth : Json} {request : Request} {proof : Proof}
    (read : readFields auth request = some proof) : proof.Fits request := by
  simp only [readFields, Option.bind_eq_bind, Option.bind_eq_some_iff, Option.filter_eq_some_iff,
    Bool.and_eq_true, decide_eq_true_eq, Option.pure_def, Option.some.injEq] at read
  obtain ⟨agentId, -, pubHex, ⟨-, isKey⟩, timestamp, -, nonce, ⟨-, isNonce⟩, method,
    ⟨-, isPost, isMethod⟩, path, ⟨-, isPath, -⟩, audience, ⟨-, isAudience⟩, sig, -, rfl⟩ := read
  exact ⟨isKey, isNonce, isPost, isMethod, isPath, isAudience⟩

theorem fits_of_readProof {request : Request} {proof : Proof}
    (read : readProof request = .ok proof) : proof.Fits request := by
  simp only [readProof] at read
  split at read
  · cases read
  · split_ifs at read
    split at read
    · cases read
    · next found isRead =>
      cases read
      obtain ⟨auth, -, isProof⟩ := Option.bind_eq_some_iff.mp isRead
      exact fits_of_readFields isProof

/-- What is checked, once the proof is read. -/
structure Checked (platform : Platform) (windowMs now : Nat) (request : Request)
    (proof : Proof) : Prop where
  read : readProof request = .ok proof
  current : expired windowMs now proof.timestamp = false
  named : agentIdFromPublicKey proof.publicKey = proof.agentId
  verified : platform.verify proof.publicKey (proof.material request.body)
    (platform.base64 proof.sig) = some true

theorem checked_of_checkProof {platform : Platform} {windowMs now : Nat} {request : Request}
    {proof : Proof} (passed : checkProof platform windowMs now request = .ok proof) :
    Checked platform windowMs now request proof := by
  simp only [checkProof] at passed
  split at passed
  · cases passed
  · next found read =>
    split_ifs at passed with isExpired mismatch short
    split at passed
    · cases passed
    · cases passed
    · next verified =>
      cases passed
      exact ⟨read, Bool.eq_false_iff.mpr isExpired, not_not.mp mismatch, verified⟩

/-! Texts that are signed byte by byte. -/

theorem units_ascii {value : Text} (wire : IsWire value) :
    (ascii value).map UInt8.toUInt16 = value := by
  rw [ascii, List.map_map]
  refine (List.map_congr_left ?_).trans (List.map_id value)
  intro u member
  apply UInt16.toNat_inj.mp
  have bound := (wire u member).2
  simp only [Function.comp_apply, UInt8.toNat_toUInt16, UInt16.toNat_toUInt8, id_eq]
  omega

theorem ascii_inj {first second : Text} (wire : IsWire first) (wire' : IsWire second)
    (same : ascii first = ascii second) : first = second := by
  rw [← units_ascii wire, same, units_ascii wire']

theorem zero_not_mem_ascii {value : Text} (wire : IsWire value) : 0 ∉ ascii value := by
  intro member
  obtain ⟨u, isUnit, isZero⟩ := List.mem_map.mp member
  have bounds := wire u isUnit
  have low := congrArg UInt8.toNat isZero
  rw [UInt16.toNat_toUInt8] at low
  have zero : (0 : UInt8).toNat = 0 := rfl
  omega

/-- What ends at the first zero can be taken off the front. -/
theorem front_inj {first second s t : Bytes} (free : 0 ∉ first) (free' : 0 ∉ second)
    (same : first ++ 0 :: s = second ++ 0 :: t) : first = second ∧ s = t := by
  induction first generalizing second with
  | nil =>
      cases second with
      | nil => exact ⟨rfl, (List.cons.inj same).2⟩
      | cons b rest =>
          rw [(List.cons.inj same).1] at free'
          exact absurd List.mem_cons_self free'
  | cons a front ih =>
      cases second with
      | nil =>
          rw [← (List.cons.inj same).1] at free
          exact absurd List.mem_cons_self free
      | cons b rest =>
          obtain ⟨heads, tails⟩ := List.cons.inj same
          obtain ⟨fronts, ends⟩ := ih (fun member => free (List.mem_cons_of_mem _ member))
            (fun member => free' (List.mem_cons_of_mem _ member)) tails
          exact ⟨by rw [heads, fronts], ends⟩

theorem wire_inj {first second : Text} {s t : Bytes} (wire : IsWire first)
    (wire' : IsWire second) (same : ascii first ++ 0 :: s = ascii second ++ 0 :: t) :
    first = second ∧ s = t := by
  obtain ⟨texts, ends⟩ := front_inj (zero_not_mem_ascii wire) (zero_not_mem_ascii wire') same
  exact ⟨ascii_inj wire wire' texts, ends⟩

/-! What is accepted as a time or a nonce is told by its UTF-8 bytes. -/

theorem isPlain_of_lt {u : UInt16} (positive : 0 < u.toNat) (small : u.toNat < 0xD800) :
    isPlain u = true := by
  rw [isPlain_iff]
  refine ⟨?_, ?_, ?_⟩
  · rintro rfl
    exact absurd positive (by decide)
  · rintro rfl
    exact absurd small (by decide)
  · simp only [isSurrogate, Bool.and_eq_false_iff, decide_eq_false_iff_not,
      UInt16.le_iff_toNat_le, UInt16.reduceToNat]
    omega

theorem isPlain_of_isSpace {u : UInt16} (space : isSpace u = true) : isPlain u = true := by
  by_cases isMark : u = 0xFEFF
  · rw [isMark]
    decide
  · simp only [isSpace, Bool.or_eq_true, Bool.and_eq_true, decide_eq_true_eq, isMark, or_false,
      UInt16.le_iff_toNat_le, ← UInt16.toNat_inj, UInt16.reduceToNat] at space
    apply isPlain_of_lt <;> omega

theorem isPlain_of_isHex {u : UInt16} (digit : isHex u = true) : isPlain u = true := by
  simp only [isHex, RecoveryToken.isLowerHex, RecoveryToken.isUpperHex, isDigit, Bool.or_eq_true,
    Bool.and_eq_true, decide_eq_true_eq, UInt16.le_iff_toNat_le, UInt16.reduceToNat] at digit
  apply isPlain_of_lt <;> omega

theorem isPlain_of_contains {s : String} {u : UInt16} (plain : (text s).all isPlain = true)
    (contains : (text s).contains u = true) : isPlain u = true :=
  List.all_eq_true.mp plain u (List.contains_iff_mem.mp contains)

theorem isPlain_of_isNumeralUnit {u : UInt16} (numeral : isNumeralUnit u = true) :
    isPlain u = true := by
  rcases Bool.or_eq_true_iff.mp numeral with digit | mark
  · apply isPlain_of_isHex
    simp only [digitOf] at digit
    simp only [isHex, RecoveryToken.isLowerHex, RecoveryToken.isUpperHex, Bool.or_eq_true]
    split_ifs at digit with decimal small large
    · exact .inl (.inl decimal)
    · exact .inl (.inr small)
    · exact .inr (.inr large)
    · cases digit
  · exact isPlain_of_contains (by decide) mark

theorem plain_of_timestampMs {timestamp : Text} {ms : ℚ} (isTime : timestampMs timestamp = some ms) :
    ∀ u ∈ timestamp, isPlain u = true := by
  obtain ⟨seconds, isNumber, -⟩ := Option.bind_eq_some_iff.mp isTime
  intro u member
  rcases units_of_finiteNumber isNumber u member with space | numeral
  · exact isPlain_of_isSpace space
  · exact isPlain_of_isNumeralUnit numeral

theorem isPlain_of_mem_noncePattern {classOf : UInt16 → Bool} (member : classOf ∈ noncePattern)
    {u : UInt16} (belongs : classOf u = true) : isPlain u = true := by
  have single : ∀ v : UInt16, isPlain v = true → (u == v) = true → isPlain u = true := by
    intro v plain same
    rw [beq_iff_eq.mp same, plain]
  simp only [noncePattern, List.mem_append, List.mem_replicate, List.mem_singleton] at member
  have cases : classOf = isHex ∨ classOf = (· == 0x2D) ∨ classOf = (· == 0x34) ∨
      classOf = fun v => (text "89abAB").contains v := by tauto
  rcases cases with rfl | rfl | rfl | rfl
  · exact isPlain_of_isHex belongs
  · exact single 0x2D (by decide) belongs
  · exact single 0x34 (by decide) belongs
  · exact isPlain_of_contains (by decide) belongs

theorem plain_of_isNonce {value : Text} (nonce : isNonce value = true) :
    ∀ u ∈ value, isPlain u = true := by
  obtain ⟨long, each⟩ := Bool.and_eq_true_iff.mp nonce
  intro u member
  obtain ⟨i, bound, rfl⟩ := List.mem_iff_getElem.mp member
  have bound' : i < noncePattern.length := by
    rw [of_decide_eq_true long]
    exact bound
  have isEntry : (noncePattern[i], value[i]) ∈ noncePattern.zip value :=
    List.mem_iff_getElem.mpr ⟨i, by rw [List.length_zip]; omega, List.getElem_zip⟩
  exact isPlain_of_mem_noncePattern (List.getElem_mem bound')
    (List.all_eq_true.mp each _ isEntry)

/-! The material tells every field that is accepted. -/

theorem isWire_of_all {value : Text}
    (each : value.all (fun u => 0 < u.toNat && u.toNat < 256) = true) : IsWire value := by
  intro u member
  have bounds := List.all_eq_true.mp each u member
  simpa using bounds

theorem isWire_post : IsWire (text "POST") := isWire_of_all (by decide)

theorem isWire_audience : IsWire lifecycleAuthAudience := isWire_of_all (by decide)

/-- What was signed is the request, up to the hash of its body. -/
structure Statement.Covers (statement : Statement) (proof : Proof) (body : Bytes) : Prop where
  method : statement.method = proof.method
  path : statement.path = proof.path
  audience : statement.audience = proof.audience
  hash : sha256 statement.rawBody = sha256 body
  timestamp : statement.timestamp = proof.timestamp
  nonce : statement.nonce = proof.nonce

theorem covers_of_material_eq {statement : Statement} {proof : Proof} {request : Request}
    {body : Bytes} (fits : proof.Fits request)
    (isNumber : ∃ ms, timestampMs proof.timestamp = some ms)
    (same : statement.material = proof.material body) : statement.Covers proof body := by
  obtain ⟨ms, isTime⟩ := isNumber
  have post : IsWire proof.method := fits.post ▸ isWire_post
  have path : IsWire proof.path := fits.path ▸ request.wire
  have audience : IsWire proof.audience := fits.audience ▸ isWire_audience
  have plainTime := plain_of_timestampMs isTime
  have plainNonce := plain_of_isNonce fits.nonce
  obtain ⟨methods, rest⟩ := wire_inj statement.wire.1 post (List.append_cancel_left same)
  obtain ⟨paths, rest⟩ := wire_inj statement.wire.2.1 path rest
  obtain ⟨audiences, rest⟩ := wire_inj statement.wire.2.2 audience rest
  obtain ⟨hashes, rest⟩ := List.append_inj rest
    (by rw [Python.length_sha256, Python.length_sha256])
  -- The last two texts are apart at the only zero there is.
  obtain ⟨times, -, nonces⟩ := (List.append_cons_inj_of_notMem (zero_not_mem_utf8 plainTime)
    (zero_not_mem_utf8 plainNonce)).mp rest.symm
  exact ⟨methods, paths, audiences, hashes, eq_of_utf8_eq plainTime times.symm,
    eq_of_utf8_eq plainNonce nonces.symm⟩

/-! The public key that is named. -/

theorem hexUnits_publicKey {proof : Proof} {request : Request} (fits : proof.Fits request) :
    hexUnits proof.publicKey = lower proof.pubHex := by
  obtain ⟨long, digits⟩ := Bool.and_eq_true_iff.mp fits.key
  obtain ⟨least, most⟩ := Bool.and_eq_true_iff.mp long
  apply RecoveryToken.hexUnits_hexBytes digits
  have := of_decide_eq_true least
  have := of_decide_eq_true most
  omega

theorem Checked.scAgent {platform : Platform} {windowMs now : Nat} {request : Request}
    {proof : Proof} (checked : Checked platform windowMs now request proof) :
    proof.scAgent = .naming proof.publicKey := by
  rw [Proof.scAgent, ScAgent.naming, checked.named,
    hexUnits_publicKey (fits_of_readProof checked.read)]

end SelfConnect.Ultra.AgentAuth
