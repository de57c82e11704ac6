import SelfConnect.Python.Ipaddress

namespace SelfConnect.Wfp

open SelfConnect.Python SelfConnect.Python.Ipaddress

/-! The allow-list entries of an egress policy: `host`, `host:port` and `host:port/proto`,
an IPv6 host in brackets where a port follows. -/

inductive Protocol
  | tcp
  | udp
  | any
  deriving DecidableEq

structure AllowEntry where
  host : Str
  port : Option Nat
  protocol : Protocol
  deriving DecidableEq

inductive ParseError
  | unclosed (spec : Str)
  | number (digits : Str)
  | port (port : Nat) (spec : Str)
  | host (host : Str)
  | characters (host : Str)
  deriving DecidableEq

def openBracket : CodePoint := .ofChar '['
def closeBracket : CodePoint := .ofChar ']'

def suffixOf : Protocol → Str
  | .tcp => .lit "/tcp"
  | .udp => .lit "/udp"
  | .any => .lit "/any"

def stripProtocol (spec : Str) : Protocol × Str :=
  if (suffixOf .udp).isSuffixOf spec then (.udp, spec.take (spec.length - 4))
  else if (suffixOf .any).isSuffixOf spec then (.any, spec.take (spec.length - 4))
  else if (suffixOf .tcp).isSuffixOf spec then (.tcp, spec.take (spec.length - 4))
  else (.tcp, spec)

def isHostCharacter (c : CodePoint) : Bool :=
  (0x61 ≤ c.val && c.val ≤ 0x7a) || (0x41 ≤ c.val && c.val ≤ 0x5a) ||
    (0x30 ≤ c.val && c.val ≤ 0x39) || c = .ofChar '.' || c = .ofChar '-' || c = .ofChar '_' ||
    c = .ofChar '*'

def validateHost (host : Str) : Except ParseError Unit :=
  if isAddress host then .ok ()
  else if isNetwork host then .ok ()
  else if host = [] ∨ 253 < host.length ∨ Str.lit ".." <:+: host then .error (.host host)
  else if host.all isHostCharacter then .ok ()
  else .error (.characters host)

/-- `int(digits)` and the check of its range. -/
def readPort (spec digits : Str) : Except ParseError Nat :=
  match digits.digitsInt with
  | none => .error (.number digits)
  | some port => if port < 1 ∨ 65535 < port then .error (.port port spec) else .ok port

/-- `spec.rsplit(":", 1)`, where a colon is there. -/
def rsplitColon : Str → Option (Str × Str)
  | [] => none
  | c :: rest =>
      match rsplitColon rest with
      | some (before, after) => some (c :: before, after)
      | none => if c = colon then some ([], rest) else none

/-- The part after a bracket gives a port or is left alone. -/
def bracketPort (spec remainder : Str) : Except ParseError (Option Nat) :=
  match remainder with
  | [] => .ok none
  | c :: digits =>
      if c = colon ∧ Str.isdigit digits = true then (readPort spec digits).map some else .ok none

def parseBracketed (spec : Str) : Except ParseError (Str × Option Nat) :=
  let inner := spec.tail
  match inner.dropWhile (· ≠ closeBracket) with
  | [] => .error (.unclosed spec)
  | _ :: remainder =>
      (bracketPort spec remainder).map fun port => (inner.takeWhile (· ≠ closeBracket), port)

def parseBare (spec : Str) : Except ParseError (Str × Option Nat) :=
  if isAddress spec then .ok (spec, none)
  else
    match rsplitColon spec with
    | none => .ok (spec, none)
    | some (host, digits) =>
        if digits.isdigit then (readPort spec digits).map fun port => (host, some port)
        else .ok (spec, none)

/-- What stands before the protocol: the host, and the port if there is one. -/
def parseSpec (spec : Str) : Except ParseError (Str × Option Nat) :=
  if spec.head? = some openBracket then parseBracketed spec else parseBare spec

def AllowEntry.parse (text : Str) : Except ParseError AllowEntry :=
  match parseSpec (stripProtocol text).2 with
  | .error raised => .error raised
  | .ok (host, port) =>
      match validateHost host with
      | .error raised => .error raised
      | .ok () => .ok { host, port, protocol := (stripProtocol text).1 }

theorem AllowEntry.parse_eq_ok_iff {text : Str} {entry : AllowEntry} :
    AllowEntry.parse text = .ok entry ↔
      parseSpec (stripProtocol text).2 = .ok (entry.host, entry.port) ∧
        validateHost entry.host = .ok () ∧ entry.protocol = (stripProtocol text).1 := by
  rw [AllowEntry.parse]
  cases parseSpec (stripProtocol text).2 with
  | error raised => simp
  | ok found =>
      obtain ⟨host, port⟩ := found
      dsimp only
      cases valid : validateHost host with
      | error raised =>
          simp only [reduceCtorEq, Except.ok.injEq, Prod.mk.injEq, false_iff]
          rintro ⟨⟨rfl, -⟩, accepted, -⟩
          rw [valid] at accepted
          cases accepted
      | ok _ =>
          obtain ⟨host', port', protocol⟩ := entry
          simp only [Except.ok.injEq, AllowEntry.mk.injEq, Prod.mk.injEq]
          constructor
          · rintro ⟨rfl, rfl, rfl⟩
            exact ⟨⟨rfl, rfl⟩, valid, rfl⟩
          · rintro ⟨⟨rfl, rfl⟩, -, rfl⟩
            exact ⟨rfl, rfl, rfl⟩

/-! An entry accounts for a text when writing it gives the text again, up to zeros in
front of the port and a protocol that is understood. -/

def suffixes : Protocol → List Str
  | .tcp => [[], suffixOf .tcp]
  | .udp => [suffixOf .udp]
  | .any => [suffixOf .any]

def hostText (text host : Str) : Str :=
  if text.head? = some openBracket then openBracket :: (host ++ [closeBracket]) else host

def portText (width : Nat) : Option Nat → Str
  | none => []
  | some port => colon :: Str.ofText (zeroPadded width port)

def AccountsFor (text : Str) (entry : AllowEntry) : Prop :=
  ∃ width, ∃ suffix ∈ suffixes entry.protocol,
    text = hostText text entry.host ++ portText width entry.port ++ suffix

def IsPort (digits : Str) : Prop :=
  ∃ port, digits.digitsInt = some port ∧ 1 ≤ port ∧ port ≤ 65535

/-- Nothing but a port in ASCII digits follows a host that would be accepted. -/
structure Regular (text : Str) : Prop where
  bracketed : ∀ host remainder,
    (stripProtocol text).2 = openBracket :: (host ++ closeBracket :: remainder) →
    closeBracket ∉ host → validateHost host = .ok () →
    remainder = [] ∨ ∃ digits : Str, remainder = colon :: digits ∧ digits.isdigit = true ∧
      (IsPort digits → digits.asciiDigits = true)
  bare : (stripProtocol text).2.head? ≠ some openBracket →
    isAddress (stripProtocol text).2 = false → ∀ host (digits : Str),
    (stripProtocol text).2 = host ++ colon :: digits → digits.isdigit = true →
    validateHost host = .ok () → IsPort digits → digits.asciiDigits = true

/-! The protocol at the end. -/

theorem take_of_isSuffixOf {suffix text : Str} (ends : suffix.isSuffixOf text = true)
    (four : suffix.length = 4) : text = text.take (text.length - 4) ++ suffix := by
  have parts := List.suffix_iff_eq_append.mp (List.isSuffixOf_iff_suffix.mp ends)
  rw [four] at parts
  exact parts.symm

theorem stripProtocol_spec (text : Str) :
    ∃ suffix ∈ suffixes (stripProtocol text).1, text = (stripProtocol text).2 ++ suffix := by
  rw [stripProtocol]
  split
  · rename_i ends
    exact ⟨suffixOf .udp, by simp [suffixes], take_of_isSuffixOf ends rfl⟩
  · split
    · rename_i ends
      exact ⟨suffixOf .any, by simp [suffixes], take_of_isSuffixOf ends rfl⟩
    · split
      · rename_i ends
        exact ⟨suffixOf .tcp, by simp [suffixes], take_of_isSuffixOf ends rfl⟩
      · exact ⟨[], by simp [suffixes], by simp⟩

theorem getLast?_suffixOf_tcp (front : Str) :
    (front ++ suffixOf .tcp).getLast? = some (.ofChar 'p') := by
  rw [List.getLast?_append_of_ne_nil _ (by decide)]
  rfl

theorem eq_take_of_append {suffix front text : Str} (equal : text = front ++ suffix)
    (four : suffix.length = 4) : front = text.take (text.length - 4) := by
  rw [equal, List.length_append, four, Nat.add_sub_cancel, List.take_left]

/-- A suffix that goes with the protocol was the one taken off, unless what stands before
it ends like one. -/
theorem front_eq_spec {text front suffix : Str} (equal : text = front ++ suffix)
    (member : suffix ∈ suffixes (stripProtocol text).1)
    (last : front.getLast? ≠ some (.ofChar 'p')) : front = (stripProtocol text).2 := by
  rw [stripProtocol] at member ⊢
  split at member
  · rename_i ends
    rw [if_pos ends]
    obtain rfl : suffix = suffixOf .udp := by simpa [suffixes] using member
    exact eq_take_of_append equal rfl
  · rename_i notUdp
    rw [if_neg notUdp]
    split at member
    · rename_i ends
      rw [if_pos ends]
      obtain rfl : suffix = suffixOf .any := by simpa [suffixes] using member
      exact eq_take_of_append equal rfl
    · rename_i notAny
      rw [if_neg notAny]
      split at member
      · rename_i ends
        rw [if_pos ends]
        rcases List.mem_pair.mp member with rfl | rfl
        · have whole := take_of_isSuffixOf ends rfl
          rw [List.append_nil] at equal
          rw [← equal, whole, getLast?_suffixOf_tcp] at last
          exact absurd rfl last
        · exact eq_take_of_append equal rfl
      · rename_i notTcp
        rw [if_neg notTcp]
        rcases List.mem_pair.mp member with rfl | rfl
        · rw [equal, List.append_nil]
        · exact absurd (List.isSuffixOf_iff_suffix.mpr ⟨front, equal.symm⟩) notTcp

theorem head?_stripProtocol (text : Str) :
    text.head? = some openBracket ↔ (stripProtocol text).2.head? = some openBracket := by
  obtain ⟨suffix, member, equal⟩ := stripProtocol_spec text
  have slash : suffix.head? ≠ some openBracket := by
    cases protocol : (stripProtocol text).1 <;> rw [protocol] at member <;>
      simp only [suffixes, List.mem_cons, List.not_mem_nil, or_false] at member
    · rcases member with rfl | rfl <;> decide
    · rw [member]
      decide
    · rw [member]
      decide
  conv_lhs => rw [equal]
  cases (stripProtocol text).2 with
  | nil => simp [slash]
  | cons c rest => simp

/-! What a host and a port are read from. -/

theorem readPort_eq_ok_iff {spec digits : Str} {port : Nat} :
    readPort spec digits = .ok port ↔
      digits.digitsInt = some port ∧ 1 ≤ port ∧ port ≤ 65535 := by
  rw [readPort]
  cases digits.digitsInt with
  | none => simp
  | some value =>
      dsimp only
      split
      · rename_i outside
        simp only [reduceCtorEq, Option.some.injEq, false_iff]
        rintro ⟨rfl, low, high⟩
        omega
      · simp only [Except.ok.injEq, Option.some.injEq]
        constructor
        · rintro rfl
          exact ⟨rfl, by omega, by omega⟩
        · rintro ⟨rfl, -, -⟩
          rfl

theorem bracketPort_port {spec remainder : Str} {found : Option Nat}
    (read : bracketPort spec remainder = .ok found) :
    (∃ digits port, remainder = colon :: digits ∧ Str.isdigit digits = true ∧
      readPort spec digits = .ok port ∧ found = some port) ∨
    ((∀ digits, remainder = colon :: digits → Str.isdigit digits = false) ∧ found = none) := by
  cases remainder with
  | nil =>
      cases read
      exact Or.inr ⟨by simp, rfl⟩
  | cons c digits =>
      rw [bracketPort] at read
      split at read
      · rename_i colonDigits
        cases number : readPort spec digits with
        | error raised =>
            rw [number] at read
            cases read
        | ok port =>
            rw [number] at read
            cases read
            exact Or.inl ⟨digits, port, by rw [colonDigits.1], colonDigits.2, number, rfl⟩
      · rename_i other
        cases read
        refine Or.inr ⟨?_, rfl⟩
        intro digits' equal
        obtain ⟨rfl, rfl⟩ := List.cons.inj equal
        exact Bool.eq_false_iff.mpr fun isDigits => other ⟨rfl, isDigits⟩

theorem takeWhile_closeBracket {host remainder : Str} (inside : closeBracket ∉ host) :
    (host ++ closeBracket :: remainder).takeWhile (· ≠ closeBracket) = host := by
  rw [List.takeWhile_append_of_pos (by
    intro c member
    simpa using ne_of_mem_of_not_mem member inside)]
  simp

theorem dropWhile_closeBracket {host remainder : Str} (inside : closeBracket ∉ host) :
    (host ++ closeBracket :: remainder).dropWhile (· ≠ closeBracket) =
      closeBracket :: remainder := by
  rw [List.dropWhile_append_of_pos (by
    intro c member
    simpa using ne_of_mem_of_not_mem member inside)]
  simp

theorem parseBracketed_of_parts {spec host remainder : Str}
    (parts : spec = openBracket :: (host ++ closeBracket :: remainder))
    (inside : closeBracket ∉ host) :
    parseBracketed spec = (bracketPort spec remainder).map fun port => (host, port) := by
  subst parts
  simp only [parseBracketed, List.tail_cons, takeWhile_closeBracket inside,
    dropWhile_closeBracket inside]

theorem parts_of_parseBracketed {spec host : Str} {port : Option Nat}
    (bracket : spec.head? = some openBracket) (read : parseBracketed spec = .ok (host, port)) :
    ∃ remainder, spec = openBracket :: (host ++ closeBracket :: remainder) ∧
      closeBracket ∉ host ∧ bracketPort spec remainder = .ok port := by
  obtain ⟨inner, rfl⟩ : ∃ inner, spec = openBracket :: inner := by
    cases spec with
    | nil => cases bracket
    | cons c inner => exact ⟨inner, by rw [Option.some.inj bracket]⟩
  have whole := @List.takeWhile_append_dropWhile _ (· ≠ closeBracket) inner
  have inside : closeBracket ∉ inner.takeWhile (· ≠ closeBracket) := by
    intro member
    simpa using List.mem_takeWhile_imp member
  rw [parseBracketed, List.tail_cons] at read
  cases after : inner.dropWhile (· ≠ closeBracket) with
  | nil =>
      rw [after] at read
      cases read
  | cons c remainder =>
      obtain rfl : c = closeBracket := by
        have first := List.head?_dropWhile_not (· ≠ closeBracket) inner
        rw [after] at first
        simpa using first
      rw [after] at whole read
      dsimp only at read
      cases found : bracketPort (openBracket :: inner) remainder with
      | error raised =>
          rw [found] at read
          cases read
      | ok port' =>
          rw [found] at read
          cases read
          exact ⟨remainder, by rw [whole], inside, found⟩

theorem rsplitColon_spec {spec host digits : Str}
    (found : rsplitColon spec = some (host, digits)) : spec = host ++ colon :: digits := by
  induction spec generalizing host with
  | nil => cases found
  | cons c rest ih =>
      rw [rsplitColon] at found
      cases inner : rsplitColon rest with
      | some parts =>
          obtain ⟨front, back⟩ := parts
          rw [inner] at found
          cases found
          rw [ih inner]
          rfl
      | none =>
          rw [inner] at found
          dsimp only at found
          split at found
          · rename_i isColon
            cases found
            rw [isColon]
            rfl
          · cases found

theorem rsplitColon_of_not_mem {digits : Str} (apart : colon ∉ digits) (host : Str) :
    rsplitColon (host ++ colon :: digits) = some (host, digits) := by
  have without : rsplitColon digits = none := by
    cases found : rsplitColon digits with
    | none => rfl
    | some parts =>
        obtain ⟨front, back⟩ := parts
        rw [rsplitColon_spec found] at apart
        simp at apart
  induction host with
  | nil => simp [rsplitColon, without]
  | cons c rest ih => simp [rsplitColon, ih]

theorem colon_not_mem_of_isdigit {digits : Str} (isDigits : digits.isdigit = true) :
    colon ∉ digits := by
  intro member
  simp only [Str.isdigit, Bool.and_eq_true, List.all_eq_true] at isDigits
  have digit := isDigits.2 colon member
  have no : colon.isDigit = false := by decide
  rw [no] at digit
  cases digit

theorem parseBare_of_parts {spec host digits : Str} (other : isAddress spec = false)
    (parts : spec = host ++ colon :: digits) (isDigits : digits.isdigit = true) :
    parseBare spec = (readPort spec digits).map fun port => (host, some port) := by
  rw [parseBare, other, if_neg Bool.false_ne_true]
  conv_lhs => rw [parts, rsplitColon_of_not_mem (colon_not_mem_of_isdigit isDigits)]
  dsimp only
  rw [if_pos isDigits, ← parts]

/-- Without brackets the host is everything, or everything before the last colon. -/
theorem parts_of_parseBare {spec host : Str} {port : Option Nat}
    (read : parseBare spec = .ok (host, port)) :
    (host = spec ∧ port = none) ∨
    ∃ digits number, isAddress spec = false ∧ spec = host ++ colon :: digits ∧
      Str.isdigit digits = true ∧ readPort spec digits = .ok number ∧ port = some number := by
  rw [parseBare] at read
  split at read
  · cases read
    exact Or.inl ⟨rfl, rfl⟩
  · rename_i other
    cases split : rsplitColon spec with
    | none =>
        rw [split] at read
        cases read
        exact Or.inl ⟨rfl, rfl⟩
    | some parts =>
        obtain ⟨front, digits⟩ := parts
        rw [split] at read
        dsimp only at read
        cases isDigits : Str.isdigit digits with
        | false =>
            rw [isDigits, if_neg Bool.false_ne_true] at read
            cases read
            exact Or.inl ⟨rfl, rfl⟩
        | true =>
            rw [isDigits, if_pos rfl] at read
            cases number : readPort spec digits with
            | error raised =>
                rw [number] at read
                cases read
            | ok value =>
                rw [number] at read
                cases read
                exact Or.inr ⟨digits, value, Bool.eq_false_iff.mpr other, rsplitColon_spec split,
                  isDigits, number, rfl⟩

/-! Where the text is regular, and only there, the entry accounts for it. -/

theorem getLast?_portText (front : Str) (width port : Nat) :
    (front ++ portText width (some port)).getLast? ≠ some (.ofChar 'p') := by
  intro last
  have nonempty : Str.ofText (zeroPadded width port) ≠ [] := by
    have digits := natText_ne_nil port
    simp [Str.ofText, zeroPadded, digits]
  rw [portText, List.getLast?_append_of_ne_nil _ (List.cons_ne_nil _ _),
    List.getLast?_cons_of_ne_nil nonempty] at last
  have ascii := Str.asciiDigits_ofText fun c (member : c ∈ zeroPadded width port) =>
    isDigit_of_mem_zeroPadded member
  have digit := List.all_eq_true.mp ascii _ (List.mem_of_getLast? last)
  revert digit
  decide

theorem getLast?_hostText {text : Str} (bracket : text.head? = some openBracket)
    (host : Str) : (hostText text host).getLast? = some closeBracket := by
  rw [hostText, if_pos bracket, ← List.cons_append, List.getLast?_concat]

theorem asciiDigits_of_eq {digits : Str} {width port : Nat}
    (equal : digits = .ofText (zeroPadded width port)) : digits.asciiDigits = true := by
  rw [equal]
  exact Str.asciiDigits_ofText fun c member => isDigit_of_mem_zeroPadded member

theorem portText_of_read {spec digits : Str} {port : Nat} (ascii : digits.asciiDigits = true)
    (read : readPort spec digits = .ok port) :
    portText digits.length (some port) = colon :: digits := by
  have value := (readPort_eq_ok_iff.mp read).1
  rw [portText, ← Str.eq_zeroPadded_of_digitsInt ascii value]

theorem isPort_of_read {spec digits : Str} {port : Nat}
    (read : readPort spec digits = .ok port) : IsPort digits :=
  ⟨port, readPort_eq_ok_iff.mp read⟩

/-- An entry accounts for a text when it does so for what stands before the protocol. -/
theorem accountsFor_of_spec {text : Str} {entry : AllowEntry} (width : Nat)
    (protocol : entry.protocol = (stripProtocol text).1)
    (written : (stripProtocol text).2 = hostText text entry.host ++ portText width entry.port) :
    AccountsFor text entry := by
  obtain ⟨suffix, member, equal⟩ := stripProtocol_spec text
  refine ⟨width, suffix, by rwa [protocol], ?_⟩
  rw [← written]
  exact equal

theorem accountsFor_of_regular {text : Str} (regular : Regular text) {entry : AllowEntry}
    (parsed : AllowEntry.parse text = .ok entry) : AccountsFor text entry := by
  obtain ⟨found, valid, protocol⟩ := AllowEntry.parse_eq_ok_iff.mp parsed
  rw [parseSpec] at found
  split at found
  · rename_i bracket
    have whole := (head?_stripProtocol text).mpr bracket
    obtain ⟨remainder, parts, inside, read⟩ := parts_of_parseBracketed bracket found
    rcases bracketPort_port read with ⟨digits, port, after, isDigits, number, equal⟩ |
      ⟨other, equal⟩
    · have ascii : Str.asciiDigits digits = true := by
        rcases regular.bracketed _ _ parts inside valid with empty | ⟨digits', same, -, ascii⟩
        · rw [empty] at after
          cases after
        · obtain rfl := (List.cons.inj (after.symm.trans same)).2
          exact ascii (isPort_of_read number)
      refine accountsFor_of_spec digits.length protocol ?_
      rw [equal, portText_of_read ascii number, parts, after, hostText, if_pos whole]
      simp
    · rcases regular.bracketed _ _ parts inside valid with empty | ⟨digits, same, isDigits, -⟩
      · refine accountsFor_of_spec 0 protocol ?_
        rw [equal, parts, empty, hostText, if_pos whole]
        simp [portText]
      · rw [other digits same] at isDigits
        cases isDigits
  · rename_i noBracket
    have bare : hostText text entry.host = entry.host :=
      if_neg fun bracket => noBracket ((head?_stripProtocol text).mp bracket)
    rcases parts_of_parseBare found with ⟨host, port⟩ |
      ⟨digits, number, other, parts, isDigits, read, port⟩
    · refine accountsFor_of_spec 0 protocol ?_
      rw [bare, host, port]
      simp [portText]
    · have ascii := regular.bare noBracket other _ digits parts isDigits valid
        (isPort_of_read read)
      refine accountsFor_of_spec digits.length protocol ?_
      rw [bare, port, portText_of_read ascii read]
      exact parts

theorem parse_of_spec {text host : Str} {port : Option Nat}
    (found : parseSpec (stripProtocol text).2 = .ok (host, port))
    (valid : validateHost host = .ok ()) :
    AllowEntry.parse text = .ok { host, port, protocol := (stripProtocol text).1 } :=
  AllowEntry.parse_eq_ok_iff.mpr ⟨found, valid, rfl⟩

theorem regular_of_accountsFor {text : Str}
    (accounts : ∀ entry, AllowEntry.parse text = .ok entry → AccountsFor text entry) :
    Regular text := by
  constructor
  · intro host remainder parts inside valid
    have bracket : (stripProtocol text).2.head? = some openBracket := by rw [parts]; rfl
    have whole := (head?_stripProtocol text).mpr bracket
    have found : parseSpec (stripProtocol text).2 =
        (bracketPort (stripProtocol text).2 remainder).map fun port => (host, port) := by
      rw [parseSpec, if_pos bracket, parseBracketed_of_parts parts inside]
    cases read : bracketPort (stripProtocol text).2 remainder with
    | error raised =>
        cases remainder with
        | nil => cases read
        | cons c digits =>
            rw [bracketPort] at read
            split at read
            · rename_i colonDigits
              refine Or.inr ⟨digits, by rw [colonDigits.1], colonDigits.2, ?_⟩
              rintro ⟨port, isPort⟩
              rw [readPort_eq_ok_iff.mpr isPort] at read
              cases read
            · cases read
    | ok port =>
        rw [read] at found
        obtain ⟨width, suffix, member, equal⟩ := accounts _ (parse_of_spec found valid)
        dsimp only at equal
        rcases bracketPort_port read with ⟨digits, number, after, isDigits, -, rfl⟩ |
          ⟨other, rfl⟩
        · have front := front_eq_spec equal member (getLast?_portText _ _ _)
          rw [parts, hostText, if_pos whole, after] at front
          refine Or.inr ⟨digits, after, isDigits, fun _ => ?_⟩
          exact asciiDigits_of_eq (by simpa [portText] using front.symm)
        · have last : (hostText text host ++ portText width none).getLast? ≠
              some (.ofChar 'p') := by
            rw [portText, List.append_nil, getLast?_hostText whole]
            decide
          have front := front_eq_spec equal member last
          rw [parts, hostText, if_pos whole] at front
          exact Or.inl (by simpa [portText] using front)
  · intro noBracket other host digits parts isDigits valid isPort
    obtain ⟨port, number⟩ := isPort
    have found : parseSpec (stripProtocol text).2 = .ok (host, some port) := by
      rw [parseSpec, if_neg noBracket, parseBare_of_parts other parts isDigits,
        readPort_eq_ok_iff.mpr number]
      rfl
    obtain ⟨width, suffix, member, equal⟩ := accounts _ (parse_of_spec found valid)
    dsimp only at equal
    have front := front_eq_spec equal member (getLast?_portText _ _ _)
    have bare : hostText text host = host :=
      if_neg fun bracket => noBracket ((head?_stripProtocol text).mp bracket)
    rw [bare, parts] at front
    exact asciiDigits_of_eq (by simpa [portText] using front.symm)

/-- A text yields only entries that account for it exactly when it is regular. -/
theorem parse_accounts_iff (text : Str) :
    (∀ entry, AllowEntry.parse text = .ok entry → AccountsFor text entry) ↔ Regular text :=
  ⟨regular_of_accountsFor, fun regular _ parsed => accountsFor_of_regular regular parsed⟩

/-- The port after a bracket whose colon is missing is dropped. -/
theorem parse_drops_port :
    AllowEntry.parse (.lit "[::1]443") =
        .ok { host := .lit "::1", port := none, protocol := .tcp } ∧
      ¬ ∀ text entry, AllowEntry.parse text = .ok entry → AccountsFor text entry := by
  have parsed : AllowEntry.parse (.lit "[::1]443") =
      .ok { host := .lit "::1", port := none, protocol := .tcp } := by
    decide +kernel
  refine ⟨parsed, fun accounts => ?_⟩
  obtain ⟨width, suffix, member, equal⟩ := accounts _ _ parsed
  dsimp only [portText] at equal
  rcases List.mem_pair.mp member with rfl | rfl <;> revert equal <;> decide +kernel

end SelfConnect.Wfp
