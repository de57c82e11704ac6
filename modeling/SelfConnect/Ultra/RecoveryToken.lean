import SelfConnect.Js.Stringify
import SelfConnect.Python.Hashlib

namespace SelfConnect.Ultra.RecoveryToken

open SelfConnect.Js
open SelfConnect.Python (Bytes sha256 hmacSha256 length_sha256 length_hmacSha256 encode intText)

/-! Recovery tokens: the claims of an agent and the time they were confirmed at, under an
HMAC key that can be rotated once without invalidating what was issued. -/

/-! `digest('hex')`, and `Buffer.from(text, 'hex')` of hexadecimal digits. -/

def hexDigit (n : Nat) : UInt16 :=
  if n < 10 then (0x30 + n).toUInt16 else (0x57 + n).toUInt16

def hexUnits (bytes : Bytes) : Text :=
  bytes.flatMap fun b => [hexDigit (b.toNat / 16), hexDigit (b.toNat % 16)]

def digitValue (u : UInt16) : Nat :=
  if isDigit u then u.toNat - 0x30 else if isUpper u then u.toNat - 0x37 else u.toNat - 0x57

def hexBytes : Text → Bytes
  | high :: low :: rest =>
      UInt8.ofNat (16 * digitValue high + digitValue low) :: hexBytes rest
  | _ => []

def isLowerHex (u : UInt16) : Bool := isDigit u || (0x61 ≤ u && u ≤ 0x66)
def isUpperHex (u : UInt16) : Bool := isDigit u || (0x41 ≤ u && u ≤ 0x46)
def isHex (u : UInt16) : Bool := isLowerHex u || isUpperHex u

def lowerUnit (u : UInt16) : UInt16 := if isUpper u then u + 0x20 else u

/-- `toLowerCase` of a string of ASCII characters. -/
def lower (value : Text) : Text := value.map lowerUnit

def tokenVersion : Int := 1

def deriveKey (secret : Text) : Option Bytes :=
  if secret = [] then none else some (sha256 (utf8 secret))

def keyId (key : Bytes) : Text :=
  (hexUnits (sha256 (utf8 (text "selfconnect-ultra-recovery-kid-v1") ++ 0 :: key))).take 16

/-- The key that signs, and the ones that verify. -/
structure Keyring where
  current : Bytes
  previous : Option Bytes
  distinct : ∀ key ∈ previous, keyId key ≠ keyId current

namespace Keyring

def keys (keyring : Keyring) : List Bytes := keyring.current :: keyring.previous.toList

/-- `verificationKeys.get(kid)`. -/
def key? (keyring : Keyring) (kid : Text) : Option Bytes :=
  keyring.keys.find? fun key => keyId key = kid

end Keyring

/-- None where it throws. An empty previous secret counts as none. -/
def createRecoveryKeyring (currentSecret : Text) (previousSecret : Option Text) :
    Option Keyring :=
  match deriveKey currentSecret with
  | none => none
  | some current =>
      match previousSecret.bind deriveKey with
      | none => some ⟨current, none, by rintro _ ⟨⟩⟩
      | some previous =>
          if same : keyId previous = keyId current then none
          else
            some ⟨current, some previous, fun key isKey => by
              rw [Option.mem_some_iff.mp isKey] at same
              exact same⟩

structure Claims where
  agentName : Text
  agentId : Text
  newPubHex : Text
  challengeHash : Text
  deriving DecidableEq

inductive ClaimError
  | notObject
  | agentName
  | agentId
  | newPubHex
  | challengeHash
  | issuanceTime
  deriving DecidableEq

/-- `/^SC-[0-9A-F]{8}$/` -/
def isAgentId (value : Text) : Bool :=
  (text "SC-").isPrefixOf value && matchesRun isUpperHex 8 8 (value.drop 3)

def validateClaims (claims : Json) : Except ClaimError Claims :=
  match claims.members? with
  | none => .error .notObject
  | some _ =>
      match claims.getStr? "agentName" with
      | none => .error .agentName
      | some agentName =>
          if agentName.length < 1 ∨ 128 < agentName.length then .error .agentName
          else
            match claims.getStr? "agentId" with
            | none => .error .agentId
            | some agentId =>
                if isAgentId agentId then
                  match claims.getStr? "newPubHex" with
                  | none => .error .newPubHex
                  | some newPubHex =>
                      if matchesRun isHex 64 64 newPubHex then
                        match claims.getStr? "challengeHash" with
                        | none => .error .challengeHash
                        | some challengeHash =>
                            if matchesRun isHex 64 64 challengeHash then
                              .ok ⟨agentName, agentId, lower newPubHex, lower challengeHash⟩
                            else .error .challengeHash
                      else .error .newPubHex
                else .error .agentId

def quoted (value : Text) : List Char := '"' :: stringify value

/-- The array `[version, agentName, agentId, newPubHex, challengeHash, issuedAt, kid]`. -/
def signingMaterial (claims : Claims) (issuedAt : Int) (kid : Text) : Bytes :=
  encode ('[' :: intText tokenVersion ++ ',' :: (quoted claims.agentName ++
    ',' :: (quoted claims.agentId ++ ',' :: (quoted claims.newPubHex ++
      ',' :: (quoted claims.challengeHash ++ ',' :: (intText issuedAt ++
        ',' :: (quoted kid ++ [']'])))))))

structure Token where
  claims : Claims
  issuedAt : Int
  kid : Text
  sig : Text

def issueRecoveryToken (claims : Json) (keyring : Keyring) (nowSec : Int) :
    Except ClaimError Token :=
  match validateClaims claims with
  | .error raised => .error raised
  | .ok normalized =>
      if isSafeInteger nowSec = false ∨ nowSec ≤ 0 then .error .issuanceTime
      else
        let kid := keyId keyring.current
        .ok ⟨normalized, nowSec, kid,
          hexUnits (hmacSha256 keyring.current (signingMaterial normalized nowSec kid))⟩

inductive Verdict
  | valid (kid : Text)
  | invalid (error : String)
  deriving DecidableEq

/-- Whatever is thrown is a malformed token. -/
def verifyRecoveryToken (token : Json) (keyring : Keyring) (nowSec ttlSec : Int) : Verdict :=
  match token.members? with
  | none => .invalid "malformed token"
  | some _ =>
      if (token.get? "version").bind Json.num? ≠ some (tokenVersion : ℚ) then
        .invalid "unsupported token version"
      else
        match validateClaims token with
        | .error _ => .invalid "malformed token"
        | .ok claims =>
            match token.getSafeInteger? "issuedAt" with
            | none => .invalid "invalid issuance time"
            | some issuedAt =>
                if issuedAt ≤ 0 then .invalid "invalid issuance time"
                else
                  match token.getStr? "kid" with
                  | none => .invalid "invalid key id"
                  | some kid =>
                      if matchesRun isLowerHex 16 16 kid = false then .invalid "invalid key id"
                      else
                        match token.getStr? "sig" with
                        | none => .invalid "invalid signature encoding"
                        | some sig =>
                            if matchesRun isHex 64 64 sig = false then
                              .invalid "invalid signature encoding"
                            else if isSafeInteger nowSec = false ∨
                                isSafeInteger ttlSec = false ∨ ttlSec < 1 then
                              .invalid "invalid verifier configuration"
                            else if nowSec - issuedAt < 0 ∨ ttlSec < nowSec - issuedAt then
                              .invalid "token expired"
                            else
                              match keyring.key? kid with
                              | none => .invalid "unknown key id"
                              | some key =>
                                  if hmacSha256 key (signingMaterial claims issuedAt kid) =
                                      hexBytes sig then .valid kid
                                  else .invalid "invalid signature"

/-! Hexadecimal text in either case. -/

theorem digitValue_hexDigit : ∀ n < 16, digitValue (hexDigit n) = n := by decide

theorem isLowerHex_hexDigit : ∀ n < 16, isLowerHex (hexDigit n) = true := by decide

theorem hexDigit_digitValue {u : UInt16} (isDigit : isHex u = true) :
    hexDigit (digitValue u) = lowerUnit u ∧ digitValue u < 16 := by
  have small : u.toNat < 0x67 := by
    simp only [isHex, isLowerHex, isUpperHex, Js.isDigit, Bool.or_eq_true, Bool.and_eq_true,
      decide_eq_true_eq, UInt16.le_iff_toNat_le, UInt16.reduceToNat] at isDigit
    omega
  have each : ∀ n < 0x67, isHex n.toUInt16 = true →
      hexDigit (digitValue n.toUInt16) = lowerUnit n.toUInt16 ∧
        digitValue n.toUInt16 < 16 := by decide
  have back : u.toNat.toUInt16 = u := by simp
  have found := each u.toNat small
  rw [back] at found
  exact found isDigit

theorem hexBytes_hexUnits (bytes : Bytes) : hexBytes (hexUnits bytes) = bytes := by
  induction bytes with
  | nil => rfl
  | cons b rest ih =>
      have bound := b.toNat_lt
      change UInt8.ofNat (16 * digitValue (hexDigit (b.toNat / 16)) +
        digitValue (hexDigit (b.toNat % 16))) :: hexBytes (hexUnits rest) = _
      rw [ih, digitValue_hexDigit _ (by omega), digitValue_hexDigit _ (by omega),
        Nat.div_add_mod, UInt8.ofNat_toNat]

theorem hexUnits_hexBytes {value : Text} (digits : value.all isHex = true)
    (even : value.length % 2 = 0) : hexUnits (hexBytes value) = lower value := by
  induction value using hexBytes.induct with
  | case1 high low rest ih =>
      simp only [List.all_cons, Bool.and_eq_true] at digits
      simp only [List.length_cons] at even
      obtain ⟨isHigh, boundHigh⟩ := hexDigit_digitValue digits.1
      obtain ⟨isLow, boundLow⟩ := hexDigit_digitValue digits.2.1
      have tail := ih digits.2.2 (by omega)
      have byte : (UInt8.ofNat (16 * digitValue high + digitValue low)).toNat =
          16 * digitValue high + digitValue low := by
        rw [UInt8.toNat_ofNat']
        omega
      have first : (16 * digitValue high + digitValue low) / 16 = digitValue high := by omega
      have second : (16 * digitValue high + digitValue low) % 16 = digitValue low := by omega
      change hexDigit ((UInt8.ofNat _).toNat / 16) :: hexDigit ((UInt8.ofNat _).toNat % 16) ::
        hexUnits (hexBytes rest) = lowerUnit high :: lowerUnit low :: lower rest
      rw [byte, first, second, isHigh, isLow, tail]
  | case2 value short =>
      rcases value with _ | ⟨u, _ | ⟨v, rest⟩⟩
      · rfl
      · simp at even
      · exact absurd rfl (short u v rest)

theorem all_isLowerHex_hexUnits (bytes : Bytes) : (hexUnits bytes).all isLowerHex = true := by
  rw [hexUnits, List.all_flatMap, List.all_eq_true]
  intro b _
  have bound := b.toNat_lt
  simp [isLowerHex_hexDigit (b.toNat / 16) (by omega),
    isLowerHex_hexDigit (b.toNat % 16) (by omega)]

theorem length_hexUnits (bytes : Bytes) : (hexUnits bytes).length = 2 * bytes.length := by
  simp [hexUnits, List.length_flatMap, Nat.mul_comm]

theorem lowerUnit_of_isLowerHex {u : UInt16} (digit : isLowerHex u = true) :
    lowerUnit u = u := by
  simp only [isLowerHex, Js.isDigit, Bool.or_eq_true, Bool.and_eq_true, decide_eq_true_eq,
    UInt16.le_iff_toNat_le, UInt16.reduceToNat] at digit
  have other : isUpper u = false := by
    simp only [isUpper, Bool.and_eq_false_iff, decide_eq_false_iff_not, UInt16.le_iff_toNat_le,
      UInt16.reduceToNat]
    omega
  rw [lowerUnit, other]
  rfl

theorem lower_of_isLowerHex {value : Text} (digits : value.all isLowerHex = true) :
    lower value = value := by
  induction value with
  | nil => rfl
  | cons u rest ih =>
      simp only [List.all_cons, Bool.and_eq_true] at digits
      change lowerUnit u :: lower rest = u :: rest
      rw [lowerUnit_of_isLowerHex digits.1, ih digits.2]

/-- A unit is a digit in either case if the one in lower case is. -/
theorem isHex_lowerUnit {u : UInt16} : isHex (lowerUnit u) = isHex u := by
  rw [Bool.eq_iff_iff]
  unfold lowerUnit
  split
  · next upper =>
      simp only [isUpper, Bool.and_eq_true, decide_eq_true_eq, UInt16.le_iff_toNat_le,
        UInt16.reduceToNat] at upper
      have value : (u + 0x20).toNat = u.toNat + 0x20 := by
        rw [UInt16.toNat_add]
        simp only [UInt16.reduceToNat]
        omega
      simp only [isHex, isLowerHex, isUpperHex, Js.isDigit, Bool.or_eq_true, Bool.and_eq_true,
        decide_eq_true_eq, UInt16.le_iff_toNat_le, UInt16.reduceToNat, value]
      omega
  · exact Iff.rfl

theorem matchesRun_lower {least most : Nat} (value : Text) :
    matchesRun isHex least most (lower value) = matchesRun isHex least most value := by
  have each : (lower value).all isHex = value.all isHex := by
    rw [lower, List.all_map]
    exact congrArg (List.all value) (funext fun u => isHex_lowerUnit)
  rw [matchesRun, matchesRun, each, lower, List.length_map]

/-- A signature in either case is that of a message exactly when its bytes are. -/
theorem hexBytes_eq_iff {sig : Text} (isSig : matchesRun isHex 64 64 sig = true)
    (bytes : Bytes) : bytes = hexBytes sig ↔ lower sig = hexUnits bytes := by
  simp only [matchesRun, Bool.and_eq_true, decide_eq_true_eq] at isSig
  have back := hexUnits_hexBytes isSig.2 (by omega)
  constructor
  · rintro rfl
    exact back.symm
  · intro same
    rw [← hexBytes_hexUnits bytes, ← same, ← back, hexBytes_hexUnits]

theorem matchesRun_hmac (key message : Bytes) :
    matchesRun isHex 64 64 (hexUnits (hmacSha256 key message)) = true := by
  have lowers := all_isLowerHex_hexUnits (hmacSha256 key message)
  rw [List.all_eq_true] at lowers
  rw [matchesRun, length_hexUnits, length_hmacSha256]
  simp only [Nat.reduceMul, Nat.le_refl, decide_true, Bool.true_and, List.all_eq_true]
  intro u member
  rw [isHex, lowers u member]
  rfl

theorem matchesRun_keyId (key : Bytes) : matchesRun isLowerHex 16 16 (keyId key) = true := by
  have lowers := all_isLowerHex_hexUnits
    (sha256 (utf8 (text "selfconnect-ultra-recovery-kid-v1") ++ 0 :: key))
  rw [List.all_eq_true] at lowers
  have long : (keyId key).length = 16 := by
    rw [keyId, List.length_take, length_hexUnits, length_sha256]
    rfl
  rw [matchesRun, long]
  simp only [Nat.le_refl, decide_true, Bool.true_and, List.all_eq_true]
  intro u member
  exact lowers u (List.mem_of_mem_take member)

/-! The signed bytes tell every field. -/

theorem quoted_inj {first second : Text} {s t : List Char}
    (same : quoted first ++ s = quoted second ++ t) : first = second ∧ s = t :=
  stringify_inj (List.cons.inj same).2

theorem comma_not_mem_intText {n : Int} (positive : 0 < n) : ',' ∉ intText n := by
  obtain ⟨m, rfl⟩ := Int.eq_ofNat_of_zero_le (Int.le_of_lt positive)
  intro member
  have digit := Python.isDigit_of_mem_natText member
  revert digit
  decide

theorem intText_inj {first second : Int} {s t : List Char} (positive : 0 < first)
    (positive' : 0 < second) (same : intText first ++ ',' :: s = intText second ++ ',' :: t) :
    first = second ∧ s = t := by
  have before : ∀ {n : Int} {rest : List Char}, 0 < n →
      (intText n ++ ',' :: rest).takeWhile (· ≠ ',') = intText n := by
    intro n rest positive
    have apart := comma_not_mem_intText positive
    rw [List.takeWhile_append_of_pos fun c member => by
      simpa using ne_of_mem_of_not_mem member apart]
    simp
  have texts : intText first = intText second := by
    rw [← before positive, same, before positive']
  refine ⟨?_, ?_⟩
  · obtain ⟨m, rfl⟩ := Int.eq_ofNat_of_zero_le (Int.le_of_lt positive)
    obtain ⟨m', rfl⟩ := Int.eq_ofNat_of_zero_le (Int.le_of_lt positive')
    exact congrArg Int.ofNat (Python.natText_injective texts)
  · rw [texts] at same
    exact (List.cons.inj (List.append_cancel_left same)).2

theorem signingMaterial_inj {first second : Claims} {issuedAt issuedAt' : Int} {kid kid' : Text}
    (positive : 0 < issuedAt) (positive' : 0 < issuedAt')
    (same : signingMaterial first issuedAt kid = signingMaterial second issuedAt' kid') :
    first = second ∧ issuedAt = issuedAt' ∧ kid = kid' := by
  have texts := encode_injective same
  have fields := (List.cons.inj (List.append_cancel_left
    (List.cons.inj texts).2)).2
  obtain ⟨names, fields⟩ := quoted_inj fields
  obtain ⟨ids, fields⟩ := quoted_inj (List.cons.inj fields).2
  obtain ⟨keys, fields⟩ := quoted_inj (List.cons.inj fields).2
  obtain ⟨hashes, fields⟩ := quoted_inj (List.cons.inj fields).2
  obtain ⟨times, fields⟩ := intText_inj positive positive' (List.cons.inj fields).2
  obtain ⟨kids, -⟩ := quoted_inj fields
  obtain ⟨agentName, agentId, newPubHex, challengeHash⟩ := first
  obtain ⟨agentName', agentId', newPubHex', challengeHash'⟩ := second
  dsimp only at names ids keys hashes
  exact ⟨by rw [names, ids, keys, hashes], times, kids⟩

theorem isSome_members? {value : Json} {key : String} {found : Text}
    (isText : value.getStr? key = some found) : ∃ members, value.members? = some members := by
  cases value with
  | obj members => exact ⟨members, rfl⟩
  | _ => cases isText

theorem validateClaims_eq_ok_iff {value : Json} {claims : Claims} :
    validateClaims value = .ok claims ↔
      ∃ agentName agentId newPubHex challengeHash,
        value.getStr? "agentName" = some agentName ∧
        (1 ≤ agentName.length ∧ agentName.length ≤ 128) ∧
        value.getStr? "agentId" = some agentId ∧ isAgentId agentId = true ∧
        value.getStr? "newPubHex" = some newPubHex ∧ matchesRun isHex 64 64 newPubHex = true ∧
        value.getStr? "challengeHash" = some challengeHash ∧
        matchesRun isHex 64 64 challengeHash = true ∧
        claims = ⟨agentName, agentId, lower newPubHex, lower challengeHash⟩ := by
  constructor
  · intro accepted
    unfold validateClaims at accepted
    split at accepted
    · cases accepted
    · split at accepted
      · cases accepted
      · next agentName isName =>
          split at accepted
          · cases accepted
          · next length =>
              split at accepted
              · cases accepted
              · next agentId isId =>
                  split at accepted
                  · next idForm =>
                      split at accepted
                      · cases accepted
                      · next newPubHex isKey =>
                          split at accepted
                          · next keyForm =>
                              split at accepted
                              · cases accepted
                              · next challengeHash isHash =>
                                  split at accepted
                                  · next hashForm =>
                                      cases accepted
                                      exact ⟨_, _, _, _, isName, by omega, isId, idForm, isKey,
                                        keyForm, isHash, hashForm, rfl⟩
                                  · cases accepted
                          · cases accepted
                  · cases accepted
  · rintro ⟨agentName, agentId, newPubHex, challengeHash, isName, length, isId, idForm, isKey,
      keyForm, isHash, hashForm, rfl⟩
    obtain ⟨members, isObject⟩ := isSome_members? isName
    have bounded : ¬ (agentName.length < 1 ∨ 128 < agentName.length) := by omega
    simp only [validateClaims, isObject, isName, if_neg bounded, isId, idForm, if_true, isKey,
      keyForm, isHash, hashForm]

/-- What a valid verdict goes by. -/
structure Verifies (token : Json) (keyring : Keyring) (nowSec ttlSec : Int) (kid : Text)
    (claims : Claims) (issuedAt : Int) (sig : Text) (key : Bytes) : Prop where
  version : (token.get? "version").bind Json.num? = some (tokenVersion : ℚ)
  isClaims : validateClaims token = .ok claims
  isTime : token.getSafeInteger? "issuedAt" = some issuedAt
  positive : 0 < issuedAt
  isKid : token.getStr? "kid" = some kid
  kidForm : matchesRun isLowerHex 16 16 kid = true
  isSig : token.getStr? "sig" = some sig
  sigForm : matchesRun isHex 64 64 sig = true
  configured : isSafeInteger nowSec = true ∧ isSafeInteger ttlSec = true ∧ 1 ≤ ttlSec
  fresh : issuedAt ≤ nowSec ∧ nowSec ≤ issuedAt + ttlSec
  isKey : keyring.key? kid = some key
  tag : hmacSha256 key (signingMaterial claims issuedAt kid) = hexBytes sig

theorem verify_eq_valid_iff {token : Json} {keyring : Keyring} {nowSec ttlSec : Int}
    {kid : Text} : verifyRecoveryToken token keyring nowSec ttlSec = .valid kid ↔
      ∃ claims issuedAt sig key,
        Verifies token keyring nowSec ttlSec kid claims issuedAt sig key := by
  constructor
  · intro valid
    unfold verifyRecoveryToken at valid
    split at valid
    · cases valid
    · split at valid
      · cases valid
      · next version =>
          split at valid
          · cases valid
          · next claims isClaims =>
              split at valid
              · cases valid
              · next issuedAt isTime =>
                  split at valid
                  · cases valid
                  · next positive =>
                      split at valid
                      · cases valid
                      · next kid' isKid =>
                          split at valid
                          · cases valid
                          · next kidForm =>
                              split at valid
                              · cases valid
                              · next sig isSig =>
                                  split at valid
                                  · cases valid
                                  · next sigForm =>
                                      split at valid
                                      · cases valid
                                      · next configured =>
                                          split at valid
                                          · cases valid
                                          · next fresh =>
                                              split at valid
                                              · cases valid
                                              · next key isKey =>
                                                  split at valid
                                                  · next tag =>
                                                      cases valid
                                                      simp only [not_or, Bool.not_eq_false]
                                                        at configured
                                                      exact ⟨claims, issuedAt, sig, key, {
                                                        version := not_not.mp version
                                                        isClaims
                                                        isTime
                                                        positive := by omega
                                                        isKid
                                                        kidForm := by simpa using kidForm
                                                        isSig
                                                        sigForm := by simpa using sigForm
                                                        configured := ⟨configured.1,
                                                          configured.2.1, by omega⟩
                                                        fresh := by omega
                                                        isKey
                                                        tag }⟩
                                                  · cases valid
  · rintro ⟨claims, issuedAt, sig, key, verifies⟩
    obtain ⟨members, isObject⟩ := isSome_members? verifies.isKid
    have late : ¬ issuedAt ≤ 0 := by
      have := verifies.positive
      omega
    have valid : ¬ ttlSec < 1 := by
      have := verifies.configured.2.2
      omega
    simp [verifyRecoveryToken, isObject, verifies.version, verifies.isClaims, verifies.isTime,
      late, verifies.isKid, verifies.kidForm, verifies.isSig, verifies.sigForm,
      verifies.configured.1, verifies.configured.2.1, valid, verifies.isKey, verifies.tag]
    have fresh := verifies.fresh
    omega

/-! A token is valid exactly where it is, up to the case of its hexadecimal fields, one that
was issued under a key of the keyring, and in time. -/

structure Issuance where
  claims : Json
  keyring : Keyring
  nowSec : Int
  token : Token
  isIssued : issueRecoveryToken claims keyring nowSec = .ok token

/-- The bound fields and the signature are those of an issued token; the case of the two
hexadecimal claims and of the signature does not matter. -/
structure Matches (presented : Json) (token : Token) : Prop where
  version : (presented.get? "version").bind Json.num? = some (tokenVersion : ℚ)
  agentName : presented.getStr? "agentName" = some token.claims.agentName
  agentId : presented.getStr? "agentId" = some token.claims.agentId
  newPubHex : ∃ s, presented.getStr? "newPubHex" = some s ∧ lower s = token.claims.newPubHex
  challengeHash :
    ∃ s, presented.getStr? "challengeHash" = some s ∧ lower s = token.claims.challengeHash
  issuedAt : presented.getSafeInteger? "issuedAt" = some token.issuedAt
  kid : presented.getStr? "kid" = some token.kid
  sig : ∃ s, presented.getStr? "sig" = some s ∧ lower s = token.sig

/-- Where the presented bytes and their signature agree under a key of the keyring, these
bytes were signed under it. -/
def Unforgeable (issued : List Issuance) (keyring : Keyring) (presented : Json) : Prop :=
  ∀ key ∈ keyring.keys, ∀ claims issuedAt kid sig, validateClaims presented = .ok claims →
    presented.getSafeInteger? "issuedAt" = some issuedAt → presented.getStr? "kid" = some kid →
    presented.getStr? "sig" = some sig →
    hmacSha256 key (signingMaterial claims issuedAt kid) = hexBytes sig →
    ∃ issuance ∈ issued, issuance.keyring.current = key ∧
      signingMaterial issuance.token.claims issuance.token.issuedAt issuance.token.kid =
        signingMaterial claims issuedAt kid

namespace Issuance

variable (issuance : Issuance)

theorem spec : ∃ claims, validateClaims issuance.claims = .ok claims ∧
    isSafeInteger issuance.nowSec = true ∧ 0 < issuance.nowSec ∧
    issuance.token = ⟨claims, issuance.nowSec, keyId issuance.keyring.current,
      hexUnits (hmacSha256 issuance.keyring.current
        (signingMaterial claims issuance.nowSec (keyId issuance.keyring.current)))⟩ := by
  have issued := issuance.isIssued
  unfold issueRecoveryToken at issued
  split at issued
  · cases issued
  · next claims isClaims =>
      split at issued
      · cases issued
      · next time =>
          simp only [not_or, Bool.not_eq_false, Int.not_le] at time
          exact ⟨claims, isClaims, time.1, time.2, (Except.ok.inj issued).symm⟩

theorem positive : 0 < issuance.token.issuedAt := by
  obtain ⟨claims, -, -, positive, equal⟩ := issuance.spec
  rw [equal]
  exact positive

theorem kid_eq : issuance.token.kid = keyId issuance.keyring.current := by
  obtain ⟨claims, -, -, -, equal⟩ := issuance.spec
  rw [equal]

theorem sig_eq : issuance.token.sig = hexUnits (hmacSha256 issuance.keyring.current
    (signingMaterial issuance.token.claims issuance.token.issuedAt issuance.token.kid)) := by
  obtain ⟨claims, -, -, -, equal⟩ := issuance.spec
  rw [equal]

end Issuance

theorem key?_of_mem {keyring : Keyring} {key : Bytes} (member : key ∈ keyring.keys) :
    keyring.key? (keyId key) = some key := by
  have apart : keyring.previous = some key → keyId key ≠ keyId keyring.current :=
    keyring.distinct key
  unfold Keyring.key?
  rw [Keyring.keys] at member ⊢
  rcases List.mem_cons.mp member with rfl | isPrevious
  · simp
  · rw [Option.mem_toList] at isPrevious
    rw [isPrevious, List.find?_cons_of_neg (by simpa using (apart isPrevious).symm)]
    simp

theorem mem_of_key? {keyring : Keyring} {kid : Text} {key : Bytes}
    (found : keyring.key? kid = some key) : key ∈ keyring.keys ∧ keyId key = kid :=
  ⟨List.mem_of_find?_eq_some found, by simpa using List.find?_some found⟩

/-- A presented token with the fields of an issued one has its claims. -/
theorem validateClaims_of_matches {presented : Json} {issuance : Issuance}
    (isMatch : Matches presented issuance.token) :
    validateClaims presented = .ok issuance.token.claims := by
  obtain ⟨claims, isClaims, -, -, equal⟩ := issuance.spec
  obtain ⟨agentName, agentId, newPubHex, challengeHash, -, length, -, idForm, -, keyForm, -,
    hashForm, rfl⟩ := validateClaims_eq_ok_iff.mp isClaims
  obtain ⟨key, isKey, sameKey⟩ := isMatch.newPubHex
  obtain ⟨hash, isHash, sameHash⟩ := isMatch.challengeHash
  have isName := isMatch.agentName
  have isId := isMatch.agentId
  rw [equal] at sameKey sameHash isName isId ⊢
  dsimp only at sameKey sameHash isName isId ⊢
  refine validateClaims_eq_ok_iff.mpr ⟨agentName, agentId, key, hash, isName, length, isId,
    idForm, isKey, ?_, isHash, ?_, by rw [sameKey, sameHash]⟩
  · rw [← matchesRun_lower, sameKey, matchesRun_lower]
    exact keyForm
  · rw [← matchesRun_lower, sameHash, matchesRun_lower]
    exact hashForm

/-- What was issued under a key of the keyring is valid in its time. -/
theorem verifies_of_matches {presented : Json} {keyring : Keyring} {nowSec ttlSec : Int}
    {issuance : Issuance}
    (configured : isSafeInteger nowSec = true ∧ isSafeInteger ttlSec = true ∧ 1 ≤ ttlSec)
    (member : issuance.keyring.current ∈ keyring.keys)
    (isMatch : Matches presented issuance.token)
    (fresh : issuance.token.issuedAt ≤ nowSec ∧ nowSec ≤ issuance.token.issuedAt + ttlSec) :
    verifyRecoveryToken presented keyring nowSec ttlSec = .valid issuance.token.kid := by
  obtain ⟨sig, isSig, sameSig⟩ := isMatch.sig
  rw [issuance.sig_eq] at sameSig
  have sigForm : matchesRun isHex 64 64 sig = true := by
    rw [← matchesRun_lower, sameSig]
    exact matchesRun_hmac _ _
  refine verify_eq_valid_iff.mpr ⟨issuance.token.claims, issuance.token.issuedAt, sig,
    issuance.keyring.current, {
      version := isMatch.version
      isClaims := validateClaims_of_matches isMatch
      isTime := isMatch.issuedAt
      positive := issuance.positive
      isKid := isMatch.kid
      kidForm := by rw [issuance.kid_eq]; exact matchesRun_keyId _
      isSig
      sigForm
      configured
      fresh
      isKey := by rw [issuance.kid_eq]; exact key?_of_mem member
      tag := (hexBytes_eq_iff sigForm _).mpr sameSig }⟩

theorem matches_of_verifies {issued : List Issuance} {presented : Json} {keyring : Keyring}
    {nowSec ttlSec : Int} {kid : Text} (unforgeable : Unforgeable issued keyring presented)
    (valid : verifyRecoveryToken presented keyring nowSec ttlSec = .valid kid) :
    ∃ issuance ∈ issued, issuance.keyring.current ∈ keyring.keys ∧
      Matches presented issuance.token ∧ issuance.token.issuedAt ≤ nowSec ∧
      nowSec ≤ issuance.token.issuedAt + ttlSec := by
  obtain ⟨claims, issuedAt, sig, key, verifies⟩ := verify_eq_valid_iff.mp valid
  have member := (mem_of_key? verifies.isKey).1
  obtain ⟨issuance, isIssued, isKey, same⟩ :=
    unforgeable key member _ _ _ _ verifies.isClaims verifies.isTime verifies.isKid
      verifies.isSig verifies.tag
  obtain ⟨sameClaims, sameTime, sameKid⟩ :=
    signingMaterial_inj issuance.positive verifies.positive same
  obtain ⟨agentName, agentId, newPubHex, challengeHash, isName, -, isId, -, isPub, -, isHash, -,
    equal⟩ := validateClaims_eq_ok_iff.mp verifies.isClaims
  have sameSig := (hexBytes_eq_iff verifies.sigForm _).mp verifies.tag
  refine ⟨issuance, isIssued, by rw [isKey]; exact member, ?_, ?_⟩
  · exact {
      version := verifies.version
      agentName := by rw [sameClaims, equal]; exact isName
      agentId := by rw [sameClaims, equal]; exact isId
      newPubHex := ⟨newPubHex, isPub, by rw [sameClaims, equal]⟩
      challengeHash := ⟨challengeHash, isHash, by rw [sameClaims, equal]⟩
      issuedAt := by rw [sameTime]; exact verifies.isTime
      kid := by rw [sameKid]; exact verifies.isKid
      sig := ⟨sig, verifies.isSig, by rw [issuance.sig_eq, isKey, sameSig, same]⟩ }
  · rw [sameTime]
    exact verifies.fresh

theorem keys_of_create {currentSecret previousSecret : Text} {previous : Bytes}
    {keyring : Keyring} (isPrevious : deriveKey previousSecret = some previous)
    (created : createRecoveryKeyring currentSecret (some previousSecret) = some keyring) :
    ∃ current, deriveKey currentSecret = some current ∧ keyring.keys = [current, previous] ∧
      keyId previous ≠ keyId current := by
  unfold createRecoveryKeyring at created
  split at created
  · cases created
  · next current isCurrent =>
      rw [Option.bind_some, isPrevious] at created
      dsimp only at created
      split at created
      · cases created
      · next differ =>
          cases created
          exact ⟨current, isCurrent, rfl, differ⟩

/-! An issued token, presented as it is. -/

def Token.json (token : Token) : Json :=
  .obj [(text "version", .num (tokenVersion : ℚ)),
    (text "agentName", .str token.claims.agentName), (text "agentId", .str token.claims.agentId),
    (text "newPubHex", .str token.claims.newPubHex),
    (text "challengeHash", .str token.claims.challengeHash),
    (text "issuedAt", .num (token.issuedAt : ℚ)), (text "kid", .str token.kid),
    (text "sig", .str token.sig)]

theorem lowerUnit_lowerUnit (u : UInt16) : lowerUnit (lowerUnit u) = lowerUnit u := by
  by_cases upper : isUpper u = true
  · have range := upper
    simp only [isUpper, Bool.and_eq_true, decide_eq_true_eq, UInt16.le_iff_toNat_le,
      UInt16.reduceToNat] at range
    have value : (u + 0x20).toNat = u.toNat + 0x20 := by
      rw [UInt16.toNat_add]
      simp only [UInt16.reduceToNat]
      omega
    have other : isUpper (u + 0x20) = false := by
      simp only [isUpper, Bool.and_eq_false_iff, decide_eq_false_iff_not, UInt16.le_iff_toNat_le,
        UInt16.reduceToNat, value]
      omega
    rw [lowerUnit, lowerUnit, if_pos upper, other]
    rfl
  · rw [lowerUnit, lowerUnit, if_neg upper, if_neg upper]

theorem lower_lower (value : Text) : lower (lower value) = lower value := by
  rw [lower, lower, List.map_map]
  exact List.map_congr_left fun u _ => lowerUnit_lowerUnit u

theorem safeInteger?_intCast {n : Int} (safe : isSafeInteger n = true) :
    safeInteger? (n : ℚ) = some n := by
  have small : n.natAbs < 2 ^ 53 := by simpa [isSafeInteger] using safe
  rw [safeInteger?, if_pos ⟨Rat.den_intCast n, by rwa [Rat.num_intCast]⟩, Rat.num_intCast]

theorem matches_json (issuance : Issuance) : Matches issuance.token.json issuance.token := by
  obtain ⟨claims, isClaims, safe, -, equal⟩ := issuance.spec
  obtain ⟨agentName, agentId, newPubHex, challengeHash, -, -, -, -, -, -, -, -, rfl⟩ :=
    validateClaims_eq_ok_iff.mp isClaims
  rw [equal]
  exact {
    version := rfl
    agentName := rfl
    agentId := rfl
    newPubHex := ⟨_, rfl, lower_lower newPubHex⟩
    challengeHash := ⟨_, rfl, lower_lower challengeHash⟩
    issuedAt := safeInteger?_intCast safe
    kid := rfl
    sig := ⟨_, rfl, lower_of_isLowerHex (all_isLowerHex_hexUnits _)⟩ }

/-- The verdict on a token; and what was issued under a secret outlives one rotation, and a
second one unless it brings the key back. -/
theorem verify_exact (issued : List Issuance) (presented : Json) {nowSec ttlSec : Int}
    (configured : isSafeInteger nowSec = true ∧ isSafeInteger ttlSec = true ∧ 1 ≤ ttlSec) :
    (∀ keyring, Unforgeable issued keyring presented →
      ((∃ kid, verifyRecoveryToken presented keyring nowSec ttlSec = .valid kid) ↔
        ∃ issuance ∈ issued, issuance.keyring.current ∈ keyring.keys ∧
          Matches presented issuance.token ∧ issuance.token.issuedAt ≤ nowSec ∧
          nowSec ≤ issuance.token.issuedAt + ttlSec)) ∧
    ∀ (issuance : Issuance) (secret next last : Text) (first second : Keyring),
      deriveKey secret = some issuance.keyring.current →
      createRecoveryKeyring next (some secret) = some first →
      createRecoveryKeyring last (some next) = some second →
      Matches presented issuance.token →
      (issuance.token.issuedAt ≤ nowSec → nowSec ≤ issuance.token.issuedAt + ttlSec →
        ∃ kid, verifyRecoveryToken presented first nowSec ttlSec = .valid kid) ∧
      (deriveKey last ≠ deriveKey secret →
        (∀ key ∈ second.keys, keyId key = keyId issuance.keyring.current →
          key = issuance.keyring.current) →
        ∀ kid, verifyRecoveryToken presented second nowSec ttlSec ≠ .valid kid) := by
  refine ⟨?_, ?_⟩
  · intro keyring unforgeable
    constructor
    · rintro ⟨kid, valid⟩
      exact matches_of_verifies unforgeable valid
    · rintro ⟨issuance, -, member, isMatch, fresh⟩
      exact ⟨_, verifies_of_matches configured member isMatch fresh⟩
  · intro issuance secret next last first second isKey created created' isMatch
    obtain ⟨middle, isMiddle, firstKeys, differ⟩ := keys_of_create isKey created
    obtain ⟨newest, isNewest, secondKeys, -⟩ := keys_of_create isMiddle created'
    constructor
    · intro from' until'
      exact ⟨_, verifies_of_matches configured (by rw [firstKeys]; simp) isMatch
        ⟨from', until'⟩⟩
    · intro changed apart kid valid
      obtain ⟨claims, issuedAt, sig, key, verifies⟩ := verify_eq_valid_iff.mp valid
      obtain ⟨member, isKid⟩ := mem_of_key? verifies.isKey
      have sameKid : kid = keyId issuance.keyring.current := by
        have isText := verifies.isKid
        rw [isMatch.kid, issuance.kid_eq] at isText
        exact (Option.some.inj isText).symm
      have same := apart key member (isKid.trans sameKid)
      rw [secondKeys, same] at member
      rcases List.mem_cons.mp member with isLast | isMiddle'
      · exact changed (by rw [isNewest, isKey, isLast])
      · rw [List.mem_singleton.mp isMiddle'] at differ
        exact differ rfl

section Rotations

def firstSecret : Text := text "a"
def secondSecret : Text := text "b"

def firstKey : Bytes := sha256 (utf8 firstSecret)
def secondKey : Bytes := sha256 (utf8 secondSecret)

theorem keyId_differ : keyId firstKey ≠ keyId secondKey := by
  unfold firstKey secondKey keyId sha256
  decide +kernel

def firstKeyring : Keyring :=
  ⟨firstKey, none, by rintro _ ⟨⟩⟩

def plainClaims : Json :=
  .obj [(text "agentName", .str (text "agent")), (text "agentId", .str (text "SC-1234ABCD")),
    (text "newPubHex", .str (List.replicate 64 0x61)),
    (text "challengeHash", .str (List.replicate 64 0x62))]

def plainToken : Issuance where
  claims := plainClaims
  keyring := firstKeyring
  nowSec := 1700000000
  token := ⟨⟨text "agent", text "SC-1234ABCD", List.replicate 64 0x61, List.replicate 64 0x62⟩,
    1700000000, keyId firstKey,
    hexUnits (hmacSha256 firstKey (signingMaterial
      ⟨text "agent", text "SC-1234ABCD", List.replicate 64 0x61, List.replicate 64 0x62⟩
      1700000000 (keyId firstKey)))⟩
  isIssued := by
    have isClaims : validateClaims plainClaims = .ok
        ⟨text "agent", text "SC-1234ABCD", List.replicate 64 0x61, List.replicate 64 0x62⟩ := by
      decide +kernel
    have time : ¬ (isSafeInteger 1700000000 = false ∨ (1700000000 : Int) ≤ 0) := by decide
    rw [issueRecoveryToken, isClaims]
    exact if_neg time

theorem create_first {secret previous : Text} (nonempty : secret ≠ []) (nonempty' : previous ≠ [])
    (differ : keyId (sha256 (utf8 previous)) ≠ keyId (sha256 (utf8 secret))) :
    ∃ keyring, createRecoveryKeyring secret (some previous) = some keyring ∧
      keyring.keys = [sha256 (utf8 secret), sha256 (utf8 previous)] := by
  simp only [createRecoveryKeyring, deriveKey, if_neg nonempty, Option.bind_some,
    if_neg nonempty', dif_neg differ]
  exact ⟨_, rfl, rfl⟩

/-- A second rotation back to the first secret makes the token valid again. -/
theorem valid_after_return :
    ¬ ∀ (presented : Json) (nowSec ttlSec : Int) (issuance : Issuance)
      (secret next last : Text) (first second : Keyring),
      deriveKey secret = some issuance.keyring.current →
      createRecoveryKeyring next (some secret) = some first →
      createRecoveryKeyring last (some next) = some second →
      Matches presented issuance.token →
      ∀ kid, verifyRecoveryToken presented second nowSec ttlSec ≠ .valid kid := by
  intro invalid
  obtain ⟨first, created, -⟩ := @create_first secondSecret firstSecret (by decide) (by decide)
    keyId_differ
  obtain ⟨second, created', keys⟩ := @create_first firstSecret secondSecret (by decide)
    (by decide) keyId_differ.symm
  refine invalid plainToken.token.json 1700000010 60 plainToken firstSecret secondSecret
    firstSecret first second rfl created created' (matches_json plainToken) _
    (verifies_of_matches ⟨by decide, by decide, by decide⟩ ?_ (matches_json plainToken)
      ⟨by decide, by decide⟩)
  rw [keys]
  exact List.mem_cons_self

theorem unforgeable_plain : Unforgeable [plainToken] firstKeyring plainToken.token.json := by
  intro key isKey claims issuedAt kid sig isClaims isTime isKid _ _
  have isMatch := matches_json plainToken
  rw [validateClaims_of_matches isMatch] at isClaims
  rw [isMatch.issuedAt] at isTime
  rw [isMatch.kid] at isKid
  cases isClaims
  cases isTime
  cases isKid
  exact ⟨plainToken, List.mem_cons_self, (List.mem_singleton.mp isKey).symm, rfl⟩

theorem verify_exact_plain :
    ∃ kid, verifyRecoveryToken plainToken.token.json firstKeyring 1700000010 60 = .valid kid :=
  ((verify_exact [plainToken] plainToken.token.json ⟨by decide, by decide, by decide⟩).1
    firstKeyring unforgeable_plain).mpr
    ⟨plainToken, List.mem_cons_self, List.mem_cons_self, matches_json plainToken, by decide,
      by decide⟩

end Rotations

end SelfConnect.Ultra.RecoveryToken
