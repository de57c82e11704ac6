import SelfConnect.Python.Numeral

namespace SelfConnect.Python

/-! `base64.urlsafe_b64encode` and `base64.urlsafe_b64decode`. -/

def sextetChar (n : Nat) : Char :=
  if n < 26 then Char.ofNat (n + 65)
  else if n < 52 then Char.ofNat (n + 71)
  else if n < 62 then Char.ofNat (n - 4)
  else if n = 62 then '-' else '_'

/-- The characters of both alphabets: those of the other one are translated to these. -/
def sextet? (c : Char) : Option Nat :=
  if 'A' ≤ c ∧ c ≤ 'Z' then some (c.toNat - 65)
  else if 'a' ≤ c ∧ c ≤ 'z' then some (c.toNat - 71)
  else if '0' ≤ c ∧ c ≤ '9' then some (c.toNat + 4)
  else if c = '-' ∨ c = '+' then some 62
  else if c = '_' ∨ c = '/' then some 63
  else none

def urlsafeEncode : Bytes → Text
  | a :: b :: c :: rest =>
      sextetChar (a.toNat / 4) :: sextetChar (a.toNat % 4 * 16 + b.toNat / 16) ::
        sextetChar (b.toNat % 16 * 4 + c.toNat / 64) :: sextetChar (c.toNat % 64) ::
          urlsafeEncode rest
  | [a, b] =>
      [sextetChar (a.toNat / 4), sextetChar (a.toNat % 4 * 16 + b.toNat / 16),
        sextetChar (b.toNat % 16 * 4), '=']
  | [a] => [sextetChar (a.toNat / 4), sextetChar (a.toNat % 4 * 16), '=', '=']
  | [] => []

/-- The byte a sextet completes at each place of a quad but the first, and the bits it
leaves. -/
def joinSextet (place left sextet : Nat) : Bytes × Nat :=
  match place with
  | 0 => ([], sextet)
  | 1 => ([UInt8.ofNat (left * 4 + sextet / 16)], sextet % 16)
  | 2 => ([UInt8.ofNat (left * 16 + sextet / 4)], sextet % 4)
  | _ => ([UInt8.ofNat (left * 64 + sextet)], 0)

/-- `binascii.a2b_base64` without strict mode: other characters are skipped, enough padding
ends the data, and a quad that stops short without it is an error. -/
def scanQuads (place left pads : Nat) : Text → Option Bytes
  | [] => if place = 0 then some [] else none
  | c :: rest =>
      if c = '=' then
        if place < 2 then scanQuads place left pads rest
        else if 4 ≤ place + (pads + 1) then some []
        else scanQuads place left (pads + 1) rest
      else
        match sextet? c with
        | none => scanQuads place left pads rest
        | some sextet =>
            (scanQuads ((place + 1) % 4) (joinSextet place left sextet).2 0 rest).map
              ((joinSextet place left sextet).1 ++ ·)

/-- `base64.urlsafe_b64decode(text)`; only ASCII text is taken. -/
def urlsafeDecode (text : Str) : Option Bytes :=
  if text.all fun c => c.val < 128 then scanQuads 0 0 0 (text.map fun c => Char.ofNat c.val)
  else none

/-! What is encoded is decoded, its padding stripped or not. -/

theorem sextet?_sextetChar {n : Nat} (bound : n < 64) : sextet? (sextetChar n) = some n := by
  interval_cases n <;> rfl

theorem sextetChar_ne_pad {n : Nat} (bound : n < 64) : sextetChar n ≠ '=' := by
  intro same
  have found := sextet?_sextetChar bound
  rw [same] at found
  cases found

theorem scanQuads_sextetChar {n : Nat} (bound : n < 64) (place left pads : Nat) (rest : Text) :
    scanQuads place left pads (sextetChar n :: rest) =
      (scanQuads ((place + 1) % 4) (joinSextet place left n).2 0 rest).map
        ((joinSextet place left n).1 ++ ·) := by
  rw [scanQuads, if_neg (sextetChar_ne_pad bound), sextet?_sextetChar bound]

private theorem ofNat_eq {n : Nat} {byte : UInt8} (same : n % 256 = byte.toNat) :
    UInt8.ofNat n = byte := by
  apply UInt8.toNat_inj.mp
  rw [UInt8.toNat_ofNat']
  exact same

theorem scanQuads_urlsafeEncode (bytes : Bytes) :
    scanQuads 0 0 0 (urlsafeEncode bytes) = some bytes := by
  induction bytes using urlsafeEncode.induct with
  | case1 a b c rest ih =>
      have bounds := And.intro a.toNat_lt (And.intro b.toNat_lt c.toNat_lt)
      rw [urlsafeEncode, scanQuads_sextetChar (by omega), scanQuads_sextetChar (by omega),
        scanQuads_sextetChar (by omega), scanQuads_sextetChar (by omega)]
      simp only [joinSextet, Nat.reduceAdd, Nat.reduceMod, ih, Option.map_some,
        List.nil_append, List.cons_append]
      rw [@ofNat_eq _ a (by omega), @ofNat_eq _ b (by omega), @ofNat_eq _ c (by omega)]
  | case2 a b =>
      have bounds := And.intro a.toNat_lt b.toNat_lt
      rw [urlsafeEncode, scanQuads_sextetChar (by omega), scanQuads_sextetChar (by omega),
        scanQuads_sextetChar (by omega)]
      simp only [joinSextet, Nat.reduceAdd, Nat.reduceMod, List.nil_append, List.cons_append]
      rw [@ofNat_eq _ a (by omega), @ofNat_eq _ b (by omega)]
      rfl
  | case3 a =>
      have bound := a.toNat_lt
      rw [urlsafeEncode, scanQuads_sextetChar (by omega), scanQuads_sextetChar (by omega)]
      simp only [joinSextet, Nat.reduceAdd, Nat.reduceMod, List.nil_append, List.cons_append]
      rw [@ofNat_eq _ a (by omega)]
      rfl
  | case4 => rfl

theorem length_urlsafeEncode (bytes : Bytes) : (urlsafeEncode bytes).length % 4 = 0 := by
  induction bytes using urlsafeEncode.induct with
  | case1 a b c rest ih =>
      rw [urlsafeEncode]
      simp only [List.length_cons]
      omega
  | case2 a b => simp [urlsafeEncode]
  | case3 a => simp [urlsafeEncode]
  | case4 => rfl

/-- The padding stands at the end, and is short. -/
theorem urlsafeEncode_eq (bytes : Bytes) : ∃ pads < 3,
    urlsafeEncode bytes = (urlsafeEncode bytes).filter (· ≠ '=') ++ List.replicate pads '=' := by
  induction bytes using urlsafeEncode.induct with
  | case1 a b c rest ih =>
      have bounds := And.intro a.toNat_lt (And.intro b.toNat_lt c.toNat_lt)
      obtain ⟨pads, few, isRest⟩ := ih
      refine ⟨pads, few, ?_⟩
      simp only [urlsafeEncode, List.filter_cons, ne_eq,
        @sextetChar_ne_pad (a.toNat / 4) (by omega),
        @sextetChar_ne_pad (a.toNat % 4 * 16 + b.toNat / 16) (by omega),
        @sextetChar_ne_pad (b.toNat % 16 * 4 + c.toNat / 64) (by omega),
        @sextetChar_ne_pad (c.toNat % 64) (by omega), not_false_eq_true, decide_true, ↓reduceIte,
        List.cons_append]
      nth_rewrite 1 [isRest]
      rfl
  | case2 a b =>
      have bounds := And.intro a.toNat_lt b.toNat_lt
      refine ⟨1, by decide, ?_⟩
      simp [urlsafeEncode, @sextetChar_ne_pad (a.toNat / 4) (by omega),
        @sextetChar_ne_pad (a.toNat % 4 * 16 + b.toNat / 16) (by omega),
        @sextetChar_ne_pad (b.toNat % 16 * 4) (by omega)]
  | case3 a =>
      have bound := a.toNat_lt
      refine ⟨2, by decide, ?_⟩
      simp [urlsafeEncode, @sextetChar_ne_pad (a.toNat / 4) (by omega),
        @sextetChar_ne_pad (a.toNat % 4 * 16) (by omega), List.replicate]
  | case4 => exact ⟨0, by decide, rfl⟩

/-- Every encoded character is ASCII. -/
theorem toNat_lt_of_mem_urlsafeEncode {bytes : Bytes} {c : Char}
    (member : c ∈ urlsafeEncode bytes) : c.toNat < 128 := by
  have small : ∀ n < 64, (sextetChar n).toNat < 128 := by decide
  induction bytes using urlsafeEncode.induct with
  | case1 a b x rest ih =>
      have bounds := And.intro a.toNat_lt (And.intro b.toNat_lt x.toNat_lt)
      simp only [urlsafeEncode, List.mem_cons] at member
      rcases member with rfl | rfl | rfl | rfl | later
      · exact small _ (by omega)
      · exact small _ (by omega)
      · exact small _ (by omega)
      · exact small _ (by omega)
      · exact ih later
  | case2 a b =>
      have bounds := And.intro a.toNat_lt b.toNat_lt
      simp only [urlsafeEncode, List.mem_cons, List.not_mem_nil, or_false] at member
      rcases member with rfl | rfl | rfl | rfl
      · exact small _ (by omega)
      · exact small _ (by omega)
      · exact small _ (by omega)
      · decide
  | case3 a =>
      have bound := a.toNat_lt
      simp only [urlsafeEncode, List.mem_cons, List.not_mem_nil, or_false] at member
      rcases member with rfl | rfl | rfl | rfl
      · exact small _ (by omega)
      · exact small _ (by omega)
      · decide
      · decide
  | case4 => cases member

end SelfConnect.Python
