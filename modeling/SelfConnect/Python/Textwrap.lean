import SelfConnect.Python.Str

namespace SelfConnect.Python.Textwrap

/-! `textwrap.fill` with its default options. How a text is cut into words, spaces and
parts of hyphenated words (`wordsep_re`) is a parameter. -/

def newline : CodePoint := .ofChar '\n'
def blank : CodePoint := .ofChar ' '
def hyphen : CodePoint := .ofChar '-'

/-- The white space of ASCII. -/
def isBlank (c : CodePoint) : Bool :=
  (9 ≤ c.val && c.val ≤ 13) || c.val = 32

/-- `str.isspace` for one character. -/
def isSpace (c : CodePoint) : Bool :=
  isBlank c || (0x1c ≤ c.val && c.val ≤ 0x1f) || c.val = 0x85 || c.val = 0xa0 ||
    c.val = 0x1680 || (0x2000 ≤ c.val && c.val ≤ 0x200a) || c.val = 0x2028 || c.val = 0x2029 ||
    c.val = 0x202f || c.val = 0x205f || c.val = 0x3000

/-- `expandtabs(8)`, from a column on. -/
def expandTabs : Nat → Str → Str
  | _, [] => []
  | column, c :: rest =>
      if c.val = 9 then
        List.replicate (8 - column % 8) blank ++ expandTabs (column + (8 - column % 8)) rest
      else if c.val = 10 ∨ c.val = 13 then c :: expandTabs 0 rest
      else c :: expandTabs (column + 1) rest

def mungeWhitespace (text : Str) : Str :=
  (expandTabs 0 text).map fun c => if isBlank c then blank else c

/-- The chunks that still fit on a line, and the others. -/
def takeFitting (width : Nat) : Nat → List Str → List Str × List Str
  | _, [] => ([], [])
  | used, chunk :: rest =>
      if used + chunk.length ≤ width then
        (chunk :: (takeFitting width (used + chunk.length) rest).1,
          (takeFitting width (used + chunk.length) rest).2)
      else ([], chunk :: rest)

/-- Where a long word is broken: after its last hyphen that fits, if there is one with
something else before it. -/
def breakAt (chunk : Str) (room : Nat) : Nat :=
  match ((List.range room).filter fun i => chunk[i]? = some hyphen).getLast? with
  | none => room
  | some i => if 0 < i ∧ (chunk.take i).any (· ≠ hyphen) = true then i + 1 else room

def dropBlankStart (chunks : List Str) : List Str :=
  match chunks with
  | [] => []
  | chunk :: rest => if chunk.all isSpace then rest else chunk :: rest

def dropBlankEnd (line : List Str) : List Str :=
  match line.getLast? with
  | none => []
  | some chunk => if chunk.all isSpace then line.dropLast else line

/-- A full line may end with the first part of a word that fits on no line. -/
def breakLong (width : Nat) (fitting : List Str × List Str) : List Str × List Str :=
  match fitting.2 with
  | [] => fitting
  | chunk :: rest =>
      if width < chunk.length then
        let place := breakAt chunk (width - fitting.1.flatten.length)
        (fitting.1 ++ [chunk.take place], chunk.drop place :: rest)
      else fitting

/-- One round of `_wrap_chunks`. -/
def nextLine (width : Nat) (started : Bool) (chunks : List Str) : List Str × List Str :=
  breakLong width (takeFitting width 0 (if started then dropBlankStart chunks else chunks))

def weight (chunks : List Str) : Nat :=
  (chunks.map fun chunk => chunk.length + 1).sum

theorem weight_cons (chunk : Str) (rest : List Str) :
    weight (chunk :: rest) = chunk.length + 1 + weight rest := by
  rw [weight, List.map_cons, List.sum_cons]
  rfl

theorem weight_takeFitting_le (width used : Nat) (chunks : List Str) :
    weight (takeFitting width used chunks).2 ≤ weight chunks := by
  induction chunks generalizing used with
  | nil => exact Nat.le_refl _
  | cons chunk rest ih =>
      rw [takeFitting]
      split
      · have := ih (used + chunk.length)
        dsimp only
        rw [weight_cons]
        omega
      · exact Nat.le_refl _

theorem weight_breakLong_le (width : Nat) (fitting : List Str × List Str) :
    weight (breakLong width fitting).2 ≤ weight fitting.2 := by
  unfold breakLong
  split
  · exact Nat.le_refl _
  · next chunk rest equal =>
      rw [equal]
      split
      · simp only [weight_cons, List.length_drop]
        omega
      · rw [equal]

theorem breakAt_pos (chunk : Str) {room : Nat} (positive : 0 < room) :
    0 < breakAt chunk room := by
  unfold breakAt
  split
  · exact positive
  · split
    · exact Nat.succ_pos _
    · exact positive

/-- What starts a line is used up, at least in part. -/
theorem weight_breakLong_takeFitting_lt {width : Nat} (positive : 0 < width) (chunk : Str)
    (rest : List Str) :
    weight (breakLong width (takeFitting width 0 (chunk :: rest))).2 <
      weight (chunk :: rest) := by
  by_cases fits : 0 + chunk.length ≤ width
  · have taken := weight_takeFitting_le width (0 + chunk.length) rest
    have broken := weight_breakLong_le width (takeFitting width 0 (chunk :: rest))
    have left : (takeFitting width 0 (chunk :: rest)).2 =
        (takeFitting width (0 + chunk.length) rest).2 := by
      rw [takeFitting, if_pos fits]
    rw [left] at broken
    rw [weight_cons]
    omega
  · have room := breakAt_pos chunk positive
    have long : width < chunk.length := by omega
    rw [takeFitting, if_neg fits]
    simp only [breakLong, if_pos long, List.flatten_nil, List.length_nil, Nat.sub_zero,
      weight_cons, List.length_drop]
    omega

theorem weight_nextLine_lt {width : Nat} (positive : 0 < width) (started : Bool) (chunk : Str)
    (rest : List Str) :
    weight (nextLine width started (chunk :: rest)).2 < weight (chunk :: rest) := by
  unfold nextLine
  cases started with
  | false => exact weight_breakLong_takeFitting_lt positive chunk rest
  | true =>
      rw [if_pos rfl, dropBlankStart]
      split
      · have taken := weight_takeFitting_le width 0 rest
        have broken := weight_breakLong_le width (takeFitting width 0 rest)
        rw [weight_cons]
        omega
      · exact weight_breakLong_takeFitting_lt positive chunk rest

structure Wrapper where
  width : Nat
  positive : 0 < width
  /-- `wordsep_re.split`, without the empty pieces -/
  split : Str → List Str

namespace Wrapper

variable (wrapper : Wrapper)

/-- Every round gives a line, except where nothing but a blank was left for it. -/
def wrapChunks (started : Bool) : List Str → List Str
  | [] => []
  | chunk :: rest =>
      let round := nextLine wrapper.width started (chunk :: rest)
      match dropBlankEnd round.1 with
      | [] => wrapChunks started round.2
      | line => line.flatten :: wrapChunks true round.2
termination_by chunks => weight chunks
decreasing_by
  all_goals exact weight_nextLine_lt wrapper.positive started chunk rest

def wrap (text : Str) : List Str :=
  wrapper.wrapChunks false (wrapper.split (mungeWhitespace text))

def fill (text : Str) : Str :=
  [newline].intercalate (wrapper.wrap text)

end Wrapper

end SelfConnect.Python.Textwrap
