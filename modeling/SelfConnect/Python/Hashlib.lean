import SelfConnect.Python.Numeral

namespace SelfConnect.Python

/-! The SHA-2 family of `hashlib`: one algorithm over words of a width, with the
rotation amounts, round constants and initial words of each member. -/

/-- `text.encode("utf-8")`, which is also its ASCII encoding where one exists. -/
def encode (text : Text) : Bytes :=
  text.flatMap String.utf8EncodeChar

def bigEndian : Nat → Nat → Bytes
  | 0, _ => []
  | width + 1, n => bigEndian width (n / 256) ++ [UInt8.ofNat (n % 256)]

def fromBigEndian (bytes : Bytes) : Nat :=
  bytes.foldl (fun n byte => n * 256 + byte.toNat) 0

structure Sha2 (width : Nat) where
  sum0 : Nat × Nat × Nat
  sum1 : Nat × Nat × Nat
  mix0 : Nat × Nat × Nat
  mix1 : Nat × Nat × Nat
  constants : List (BitVec width)
  initial : List (BitVec width)

namespace Sha2

variable {width : Nat} (sha : Sha2 width)

def sum (amounts : Nat × Nat × Nat) (x : BitVec width) : BitVec width :=
  x.rotateRight amounts.1 ^^^ x.rotateRight amounts.2.1 ^^^ x.rotateRight amounts.2.2

def mix (amounts : Nat × Nat × Nat) (x : BitVec width) : BitVec width :=
  x.rotateRight amounts.1 ^^^ x.rotateRight amounts.2.1 ^^^ x >>> amounts.2.2

/-- The message schedule, newest word first. -/
def schedule : Nat → List (BitVec width) → List (BitVec width)
  | 0, words => words
  | rounds + 1, words =>
      schedule rounds
        ((mix sha.mix1 (words.getD 1 0) + words.getD 6 0 + mix sha.mix0 (words.getD 14 0) +
          words.getD 15 0) :: words)

def round (state : List (BitVec width)) (input : BitVec width × BitVec width) :
    List (BitVec width) :=
  match state with
  | [a, b, c, d, e, f, g, h] =>
      let first := h + sum sha.sum1 e + ((e &&& f) ^^^ (~~~e &&& g)) + input.1 + input.2
      let second := sum sha.sum0 a + ((a &&& b) ^^^ (a &&& c) ^^^ (b &&& c))
      [first + second, a, b, c, d + first, e, f, g]
  | other => other

def compress (state words : List (BitVec width)) : List (BitVec width) :=
  let schedule := (sha.schedule (sha.constants.length - 16) words.reverse).reverse
  List.zipWith (· + ·) state ((sha.constants.zip schedule).foldl sha.round state)

def wordBytes (_ : Sha2 width) : Nat := width / 8

def padding (length : Nat) : Bytes :=
  let block := 16 * sha.wordBytes
  let zeros := (2 * block - 1 - 2 * sha.wordBytes - length % block) % block
  0x80 :: (List.replicate zeros 0 ++ bigEndian (2 * sha.wordBytes) (8 * length))

def blocks : Nat → List (BitVec width) → Bytes → List (BitVec width)
  | 0, state, _ => state
  | count + 1, state, bytes =>
      let words := (List.range 16).map fun i =>
        BitVec.ofNat width (fromBigEndian ((bytes.drop (i * sha.wordBytes)).take sha.wordBytes))
      blocks count (sha.compress state words) (bytes.drop (16 * sha.wordBytes))

def digest (size : Nat) (message : Bytes) : Bytes :=
  let padded := message ++ sha.padding message.length
  let state := sha.blocks (padded.length / (16 * sha.wordBytes)) sha.initial padded
  (state.flatMap fun word => bigEndian sha.wordBytes word.toNat).take size

/-! No state ever changes its number of words. -/

theorem length_bigEndian (width n : Nat) : (bigEndian width n).length = width := by
  induction width generalizing n with
  | zero => rfl
  | succ width ih => rw [bigEndian, List.length_append, ih, List.length_singleton]

private theorem length_round (state : List (BitVec width)) (input : BitVec width × BitVec width) :
    (sha.round state input).length = state.length := by
  unfold round
  split <;> rfl

private theorem length_rounds (inputs : List (BitVec width × BitVec width))
    (state : List (BitVec width)) : (inputs.foldl sha.round state).length = state.length := by
  induction inputs generalizing state with
  | nil => rfl
  | cons input rest ih => rw [List.foldl_cons, ih, length_round]

private theorem length_compress (state words : List (BitVec width)) :
    (sha.compress state words).length = state.length := by
  unfold compress
  rw [List.length_zipWith, length_rounds, Nat.min_self]

private theorem length_blocks (count : Nat) (state : List (BitVec width)) (bytes : Bytes) :
    (sha.blocks count state bytes).length = state.length := by
  induction count generalizing state bytes with
  | zero => rfl
  | succ count ih => rw [blocks, ih, length_compress]

theorem length_digest {size : Nat} (short : size ≤ sha.initial.length * sha.wordBytes)
    (message : Bytes) : (sha.digest size message).length = size := by
  unfold digest
  rw [List.length_take, List.length_flatMap]
  simp only [length_bigEndian, List.map_const', List.sum_replicate, length_blocks, smul_eq_mul]
  exact Nat.min_eq_left short

end Sha2

def sha256Family : Sha2 32 where
  sum0 := (2, 13, 22)
  sum1 := (6, 11, 25)
  mix0 := (7, 18, 3)
  mix1 := (17, 19, 10)
  constants :=
    [0x428A2F98, 0x71374491, 0xB5C0FBCF, 0xE9B5DBA5, 0x3956C25B, 0x59F111F1,
    0x923F82A4, 0xAB1C5ED5, 0xD807AA98, 0x12835B01, 0x243185BE, 0x550C7DC3,
    0x72BE5D74, 0x80DEB1FE, 0x9BDC06A7, 0xC19BF174, 0xE49B69C1, 0xEFBE4786,
    0x0FC19DC6, 0x240CA1CC, 0x2DE92C6F, 0x4A7484AA, 0x5CB0A9DC, 0x76F988DA,
    0x983E5152, 0xA831C66D, 0xB00327C8, 0xBF597FC7, 0xC6E00BF3, 0xD5A79147,
    0x06CA6351, 0x14292967, 0x27B70A85, 0x2E1B2138, 0x4D2C6DFC, 0x53380D13,
    0x650A7354, 0x766A0ABB, 0x81C2C92E, 0x92722C85, 0xA2BFE8A1, 0xA81A664B,
    0xC24B8B70, 0xC76C51A3, 0xD192E819, 0xD6990624, 0xF40E3585, 0x106AA070,
    0x19A4C116, 0x1E376C08, 0x2748774C, 0x34B0BCB5, 0x391C0CB3, 0x4ED8AA4A,
    0x5B9CCA4F, 0x682E6FF3, 0x748F82EE, 0x78A5636F, 0x84C87814, 0x8CC70208,
    0x90BEFFFA, 0xA4506CEB, 0xBEF9A3F7, 0xC67178F2]
  initial :=
    [0x6A09E667, 0xBB67AE85, 0x3C6EF372, 0xA54FF53A,
    0x510E527F, 0x9B05688C, 0x1F83D9AB, 0x5BE0CD19]

def sha384Family : Sha2 64 where
  sum0 := (28, 34, 39)
  sum1 := (14, 18, 41)
  mix0 := (1, 8, 7)
  mix1 := (19, 61, 6)
  constants :=
    [0x428A2F98D728AE22, 0x7137449123EF65CD, 0xB5C0FBCFEC4D3B2F, 0xE9B5DBA58189DBBC,
    0x3956C25BF348B538, 0x59F111F1B605D019, 0x923F82A4AF194F9B, 0xAB1C5ED5DA6D8118,
    0xD807AA98A3030242, 0x12835B0145706FBE, 0x243185BE4EE4B28C, 0x550C7DC3D5FFB4E2,
    0x72BE5D74F27B896F, 0x80DEB1FE3B1696B1, 0x9BDC06A725C71235, 0xC19BF174CF692694,
    0xE49B69C19EF14AD2, 0xEFBE4786384F25E3, 0x0FC19DC68B8CD5B5, 0x240CA1CC77AC9C65,
    0x2DE92C6F592B0275, 0x4A7484AA6EA6E483, 0x5CB0A9DCBD41FBD4, 0x76F988DA831153B5,
    0x983E5152EE66DFAB, 0xA831C66D2DB43210, 0xB00327C898FB213F, 0xBF597FC7BEEF0EE4,
    0xC6E00BF33DA88FC2, 0xD5A79147930AA725, 0x06CA6351E003826F, 0x142929670A0E6E70,
    0x27B70A8546D22FFC, 0x2E1B21385C26C926, 0x4D2C6DFC5AC42AED, 0x53380D139D95B3DF,
    0x650A73548BAF63DE, 0x766A0ABB3C77B2A8, 0x81C2C92E47EDAEE6, 0x92722C851482353B,
    0xA2BFE8A14CF10364, 0xA81A664BBC423001, 0xC24B8B70D0F89791, 0xC76C51A30654BE30,
    0xD192E819D6EF5218, 0xD69906245565A910, 0xF40E35855771202A, 0x106AA07032BBD1B8,
    0x19A4C116B8D2D0C8, 0x1E376C085141AB53, 0x2748774CDF8EEB99, 0x34B0BCB5E19B48A8,
    0x391C0CB3C5C95A63, 0x4ED8AA4AE3418ACB, 0x5B9CCA4F7763E373, 0x682E6FF3D6B2B8A3,
    0x748F82EE5DEFB2FC, 0x78A5636F43172F60, 0x84C87814A1F0AB72, 0x8CC702081A6439EC,
    0x90BEFFFA23631E28, 0xA4506CEBDE82BDE9, 0xBEF9A3F7B2C67915, 0xC67178F2E372532B,
    0xCA273ECEEA26619C, 0xD186B8C721C0C207, 0xEADA7DD6CDE0EB1E, 0xF57D4F7FEE6ED178,
    0x06F067AA72176FBA, 0x0A637DC5A2C898A6, 0x113F9804BEF90DAE, 0x1B710B35131C471B,
    0x28DB77F523047D84, 0x32CAAB7B40C72493, 0x3C9EBE0A15C9BEBC, 0x431D67C49C100D4C,
    0x4CC5D4BECB3E42B6, 0x597F299CFC657E2A, 0x5FCB6FAB3AD6FAEC, 0x6C44198C4A475817]
  initial :=
    [0xCBBB9D5DC1059ED8, 0x629A292A367CD507, 0x9159015A3070DD17, 0x152FECD8F70E5939,
    0x67332667FFC00B31, 0x8EB44A8768581511, 0xDB0C2E0D64F98FA7, 0x47B5481DBEFA4FA4]

@[irreducible] def sha256 (message : Bytes) : Bytes :=
  sha256Family.digest 32 message

@[irreducible] def sha384 (message : Bytes) : Bytes :=
  sha384Family.digest 48 message

/-- `hmac.new(key, message, hashlib.sha256).digest()`. -/
def hmacSha256 (key message : Bytes) : Bytes :=
  let short := if 64 < key.length then sha256 key else key
  let block := short ++ List.replicate (64 - short.length) 0
  sha256 (block.map (· ^^^ 0x5C) ++ sha256 (block.map (· ^^^ 0x36) ++ message))

/-- `hashlib.sha256(text.encode("utf-8")).hexdigest()`. -/
def sha256Hex (message : Text) : Text :=
  hexText (sha256 (encode message))

/-- `hashlib.sha384(text.encode("utf-8")).hexdigest()`. -/
def sha384Hex (message : Text) : Text :=
  hexText (sha384 (encode message))

theorem length_hexText (bytes : Bytes) : (hexText bytes).length = 2 * bytes.length := by
  induction bytes with
  | nil => rfl
  | cons byte rest ih =>
      rw [hexText, List.length_cons, List.length_cons, ih, List.length_cons]
      omega

theorem length_sha256 (message : Bytes) : (sha256 message).length = 32 := by
  rw [sha256, sha256Family.length_digest (by decide)]

theorem length_hmacSha256 (key message : Bytes) : (hmacSha256 key message).length = 32 := by
  rw [hmacSha256, length_sha256]

theorem length_sha384Hex (message : Text) : (sha384Hex message).length = 96 := by
  rw [sha384Hex, length_hexText, sha384, sha384Family.length_digest (by decide)]

/-- A number that fits is read back. -/
theorem fromBigEndian_bigEndian {width n : Nat} (bound : n < 256 ^ width) :
    fromBigEndian (bigEndian width n) = n := by
  induction width generalizing n with
  | zero =>
      rw [pow_zero] at bound
      exact (Nat.lt_one_iff.mp bound).symm
  | succ width ih =>
      have high : n / 256 < 256 ^ width := by
        rw [Nat.div_lt_iff_lt_mul (by decide), ← pow_succ]
        exact bound
      have front := ih high
      unfold fromBigEndian at front ⊢
      rw [bigEndian, List.foldl_append, front, List.foldl_cons, List.foldl_nil,
        UInt8.toNat_ofNat']
      omega

end SelfConnect.Python
