import SelfConnect.Python.Json.Stability

namespace SelfConnect.Python

/-! Text files of JSON lines. Readers split the text at their own kind of line
boundary and strip each line; `\r\n` is one boundary. -/

/-- What `str.strip` removes. -/
def isSpace (c : Char) : Bool :=
  decide (0x09 ≤ c.toNat ∧ c.toNat ≤ 0x0D) || decide (0x1C ≤ c.toNat ∧ c.toNat ≤ 0x20) ||
    [0x85, 0xA0, 0x1680, 0x2028, 0x2029, 0x202F, 0x205F, 0x3000].contains c.toNat ||
    decide (0x2000 ≤ c.toNat ∧ c.toNat ≤ 0x200A)

/-- What `bytes.strip` removes. -/
def isAsciiSpace (c : Char) : Bool :=
  decide (0x09 ≤ c.toNat ∧ c.toNat ≤ 0x0D) || c = ' '

/-- The line boundaries of a file opened in text mode and of `bytes.splitlines`. -/
def isNewline (c : Char) : Bool :=
  c = '\n' || c = '\r'

/-- The line boundaries of `str.splitlines`. -/
def isLineBoundary (c : Char) : Bool :=
  isNewline c || [0x0B, 0x0C, 0x1C, 0x1D, 0x1E, 0x85, 0x2028, 0x2029].contains c.toNat

def splitLines (boundary : Char → Bool) : Text → List Text
  | [] => []
  | '\r' :: '\n' :: rest => [] :: splitLines boundary rest
  | c :: rest =>
      if boundary c then [] :: splitLines boundary rest
      else
        match splitLines boundary rest with
        | [] => [[c]]
        | line :: lines => (c :: line) :: lines

def stripText (space : Char → Bool) (text : Text) : Text :=
  ((text.dropWhile space).reverse.dropWhile space).reverse

/-- The stripped lines that hold something. -/
def filledLines (boundary space : Char → Bool) (text : Text) : List Text :=
  ((splitLines boundary text).map (stripText space)).filter fun line => !line.isEmpty

/-- The characters `json.dumps` writes when it keeps to ASCII. -/
def Printable (text : Text) : Prop :=
  ∀ c ∈ text, 0x20 ≤ c.toNat ∧ c.toNat ≤ 0x7E

instance (text : Text) : Decidable (Printable text) :=
  List.decidableBAll _ text

theorem printable_nil : Printable [] := by
  intro c member
  cases member

theorem printable_cons {c : Char} {text : Text} :
    Printable (c :: text) ↔ (0x20 ≤ c.toNat ∧ c.toNat ≤ 0x7E) ∧ Printable text := by
  simp [Printable]

theorem printable_append {first second : Text} :
    Printable (first ++ second) ↔ Printable first ∧ Printable second := by
  simp only [Printable, List.mem_append]
  constructor
  · intro all
    exact ⟨fun c member => all c (Or.inl member), fun c member => all c (Or.inr member)⟩
  · rintro ⟨left, right⟩ c (member | member)
    · exact left c member
    · exact right c member

theorem printable_of_isDigit {text : Text} (digits : ∀ c ∈ text, c.isDigit = true) :
    Printable text := by
  intro c member
  have digit := digits c member
  simp only [Char.isDigit, Bool.and_eq_true, decide_eq_true_eq, ge_iff_le,
    UInt32.le_iff_toNat_le] at digit
  have value : c.toNat = c.val.toNat := rfl
  have low : '0'.val.toNat = 48 := rfl
  have high : '9'.val.toNat = 57 := rfl
  omega

/-- A boundary or a blank that a reader looks for, none of them printable but the
blank itself. -/
structure Boundary (boundary : Char → Bool) : Prop where
  newline : boundary '\n' = true
  printable : ∀ c : Char, 0x20 ≤ c.toNat → c.toNat ≤ 0x7E → boundary c = false

theorem boundary_isNewline : Boundary isNewline where
  newline := rfl
  printable := by
    intro c low high
    have notFeed : c ≠ '\n' := by
      rintro rfl
      exact absurd low (by decide)
    have notReturn : c ≠ '\r' := by
      rintro rfl
      exact absurd low (by decide)
    simp [isNewline, notFeed, notReturn]

theorem boundary_isLineBoundary : Boundary isLineBoundary where
  newline := rfl
  printable := by
    intro c low high
    have notOther : [0x0B, 0x0C, 0x1C, 0x1D, 0x1E, 0x85, 0x2028, 0x2029].contains c.toNat =
        false := by
      simp only [List.contains_eq_mem, List.mem_cons, List.not_mem_nil, or_false,
        decide_eq_false_iff_not]
      omega
    rw [isLineBoundary, boundary_isNewline.printable c low high, notOther]
    rfl

theorem splitLines_line {boundary : Char → Bool} (isBoundary : Boundary boundary)
    {line : Text} (printable : Printable line) (rest : Text) :
    splitLines boundary (line ++ '\n' :: rest) = line :: splitLines boundary rest := by
  induction line with
  | nil =>
      rw [List.nil_append, splitLines]
      · simp [isBoundary.newline]
      · intro tail isReturn
        cases isReturn
  | cons c tail ih =>
      obtain ⟨bounds, tailPrintable⟩ := printable_cons.mp printable
      rw [List.cons_append, splitLines]
      · simp [isBoundary.printable c bounds.1 bounds.2, ih tailPrintable]
      · rintro after rfl
        exact absurd bounds.1 (by decide)

theorem splitLines_unfinished {boundary : Char → Bool} (isBoundary : Boundary boundary)
    {line : Text} (printable : Printable line) (filled : line ≠ []) :
    splitLines boundary line = [line] := by
  induction line with
  | nil => exact absurd rfl filled
  | cons c tail ih =>
      obtain ⟨bounds, tailPrintable⟩ := printable_cons.mp printable
      rw [splitLines]
      · by_cases empty : tail = []
        · simp [empty, isBoundary.printable c bounds.1 bounds.2, splitLines]
        · simp [isBoundary.printable c bounds.1 bounds.2, ih tailPrintable empty]
      · rintro after rfl
        exact absurd bounds.1 (by decide)

theorem splitLines_flatMap {boundary : Char → Bool} (isBoundary : Boundary boundary)
    {lines : List Text} (printable : ∀ line ∈ lines, Printable line) (rest : Text) :
    splitLines boundary (lines.flatMap (· ++ ['\n']) ++ rest) =
      lines ++ splitLines boundary rest := by
  induction lines with
  | nil => simp
  | cons line tail ih =>
      have shape : (line :: tail).flatMap (· ++ ['\n']) ++ rest =
          line ++ '\n' :: (tail.flatMap (· ++ ['\n']) ++ rest) := by simp
      rw [shape, splitLines_line isBoundary (printable line (by simp)),
        ih fun other member => printable other (by simp [member])]
      rfl

theorem stripText_of_ends {space : Char → Bool} {first last : Char} {middle : Text}
    (front : space first = false) (back : space last = false) :
    stripText space (first :: (middle ++ [last])) = first :: (middle ++ [last]) := by
  simp [stripText, front, back]

namespace Json

/-! The text of a value is printable, and a dict's text stands between braces. -/

section Printable

variable (style : Style) (ascii : style.ensureAscii = true)

set_option linter.unusedSectionVars false

private theorem printable_intText (n : Int) : Printable (intText n) := by
  cases n with
  | ofNat n => exact printable_of_isDigit fun c member => isDigit_of_mem_natText member
  | negSucc n =>
      exact printable_cons.mpr ⟨by decide,
        printable_of_isDigit fun c member => isDigit_of_mem_natText member⟩

private theorem printable_natText (n : Nat) : Printable (natText n) :=
  printable_of_isDigit fun _ member => isDigit_of_mem_natText member

private theorem printable_replicate_zero (n : Nat) : Printable (List.replicate n '0') :=
  printable_of_isDigit fun c member => by
    rw [List.eq_of_mem_replicate member]
    decide

private theorem printable_of_subset {first second : Text} (printable : Printable second)
    (subset : ∀ c ∈ first, c ∈ second) : Printable first :=
  fun c member => printable c (subset c member)

private theorem printable_decimalText (d : Decimal) : Printable (decimalText d) := by
  have digits := printable_natText d.digits
  have front : ∀ n, Printable ((natText d.digits).take n) := fun n =>
    printable_of_subset digits fun _ => List.mem_of_mem_take
  have back : ∀ n, Printable ((natText d.digits).drop n) := fun n =>
    printable_of_subset digits fun _ => List.mem_of_mem_drop
  have tail : Printable (natText d.digits).tail :=
    printable_of_subset digits fun _ => List.mem_of_mem_tail
  unfold decimalText
  dsimp only
  split
  · refine printable_append.mpr ⟨printable_append.mpr ⟨front 1, ?_⟩, ?_⟩
    · split
      · exact printable_nil
      · exact printable_cons.mpr ⟨by decide, tail⟩
    · refine printable_cons.mpr ⟨by decide, printable_cons.mpr ⟨by split <;> decide, ?_⟩⟩
      exact printable_of_isDigit fun _ member => isDigit_of_mem_zeroPadded member
  split
  · exact printable_cons.mpr ⟨by decide, printable_cons.mpr ⟨by decide,
      printable_append.mpr ⟨printable_replicate_zero _, digits⟩⟩⟩
  split
  · exact printable_append.mpr ⟨front _, printable_cons.mpr ⟨by decide, back _⟩⟩
  · exact printable_append.mpr ⟨printable_append.mpr ⟨digits, printable_replicate_zero _⟩,
      printable_cons.mpr ⟨by decide, printable_cons.mpr ⟨by decide, printable_nil⟩⟩⟩

private theorem printable_float (x : PyFloat) : Printable x.text := by
  match x with
  | .nan =>
      decide
  | .infinity true =>
      decide
  | .infinity false =>
      decide
  | .finite x =>
      rw [PyFloat.text]
      split
      · exact printable_cons.mpr ⟨by decide, printable_decimalText _⟩
      · exact printable_decimalText _

private theorem printable_digitChar {n : Nat} (bound : n < 16) :
    Printable [n.digitChar] := by
  decide +revert

private theorem printable_hexFour (n : Nat) : Printable (hexFour n) := by
  have each : ∀ m, Printable [(m % 16).digitChar] := fun m =>
    printable_digitChar (Nat.mod_lt _ (by decide))
  have cons : ∀ m tail, Printable tail → Printable ((m % 16).digitChar :: tail) :=
    fun m tail printable => printable_append.mpr ⟨each m, printable⟩
  exact cons _ _ (cons _ _ (cons _ _ (cons _ _ printable_nil)))

private theorem printable_escape (c : CodePoint) : Printable (escape true c) := by
  unfold escape
  iterate 7
    split
    · decide
  split
  · next printable =>
      have high : c.val ≤ 0x7E := by simpa using printable.2
      have value : (Char.ofNat c.val).toNat = c.val := by
        rw [Char.ofNat, dif_pos (Or.inl (by omega))]
        rfl
      refine printable_cons.mpr ⟨?_, printable_nil⟩
      rw [value]
      exact ⟨printable.1, high⟩
  · intro d member
    obtain ⟨unit, -, found⟩ := List.mem_flatMap.mp member
    have printable : Printable ('\\' :: 'u' :: hexFour unit.val) :=
      printable_cons.mpr ⟨by decide, printable_cons.mpr ⟨by decide, printable_hexFour _⟩⟩
    exact printable d found

include ascii

private theorem printable_stringText (s : Str) :
    Printable (stringText style.ensureAscii s) := by
  rw [ascii]
  refine printable_cons.mpr ⟨by decide, printable_append.mpr ⟨?_, ?_⟩⟩
  · intro d member
    obtain ⟨c, -, found⟩ := List.mem_flatMap.mp member
    exact printable_escape c d found
  · exact printable_cons.mpr ⟨by decide, printable_nil⟩

omit ascii in
private theorem printable_comma : Printable style.comma := by
  unfold Style.comma
  split <;> decide

omit ascii in
private theorem printable_colon : Printable style.colon := by
  unfold Style.colon
  split <;> decide

mutual
theorem printable_render : (v : Value) → Printable (render style v)
  | .null => by
      rw [render]
      decide
  | .bool true => by
      rw [render]
      decide
  | .bool false => by
      rw [render]
      decide
  | .int n => printable_intText n
  | .float x => printable_float x
  | .str s => printable_stringText style ascii s
  | .list [] => by
      rw [render]
      decide
  | .list (v :: rest) =>
      printable_cons.mpr ⟨by decide,
        printable_append.mpr ⟨printable_render v, printable_renderItems rest⟩⟩
  | .dict [] => by
      rw [render]
      decide
  | .dict ((k, v) :: rest) => by
      refine printable_cons.mpr ⟨by decide, printable_append.mpr
        ⟨printable_append.mpr ⟨printable_append.mpr ⟨?_, ?_⟩, printable_render v⟩,
          printable_renderMembers rest⟩⟩
      · exact printable_stringText style ascii k.text
      · exact printable_colon style

private theorem printable_renderItems :
    (items : List Value) → Printable (renderItems style items)
  | [] => by
      rw [renderItems]
      decide
  | v :: rest =>
      printable_append.mpr ⟨printable_append.mpr ⟨printable_comma style,
        printable_render v⟩, printable_renderItems rest⟩

private theorem printable_renderMembers :
    (members : Members) → Printable (renderMembers style members)
  | [] => by
      rw [renderMembers]
      decide
  | (k, v) :: rest => by
      refine printable_append.mpr ⟨printable_append.mpr ⟨printable_append.mpr
        ⟨printable_append.mpr ⟨printable_comma style, ?_⟩, printable_colon style⟩,
          printable_render v⟩, printable_renderMembers rest⟩
      exact printable_stringText style ascii k.text
end

omit ascii in
private theorem renderMembers_ends (members : Members) :
    ∃ middle, renderMembers style members = middle ++ ['}'] := by
  induction members with
  | nil => exact ⟨[], rfl⟩
  | cons entry rest ih =>
      obtain ⟨k, v⟩ := entry
      obtain ⟨middle, equal⟩ := ih
      refine ⟨style.comma ++ stringText style.ensureAscii k.text ++ style.colon ++
        render style v ++ middle, ?_⟩
      rw [renderMembers, equal]
      simp only [List.append_assoc]

omit ascii in
theorem render_dict_ends (members : Members) :
    ∃ middle, render style (.dict members) = '{' :: (middle ++ ['}']) := by
  cases members with
  | nil => exact ⟨[], rfl⟩
  | cons entry rest =>
      obtain ⟨k, v⟩ := entry
      obtain ⟨middle, equal⟩ := renderMembers_ends style rest
      refine ⟨stringText style.ensureAscii k.text ++ style.colon ++ render style v ++ middle, ?_⟩
      rw [render, equal]
      simp only [List.append_assoc]

end Printable

/-! A file of dicts, one a line. -/

def lineText (style : Style) (v : Value) : Text :=
  render style v ++ ['\n']

def fileText (style : Style) (entries : List Value) : Text :=
  entries.flatMap (lineText style)

@[simp] theorem fileText_append (style : Style) (first second : List Value) :
    fileText style (first ++ second) = fileText style first ++ fileText style second :=
  List.flatMap_append

theorem fileText_snoc (style : Style) (entries : List Value) (v : Value) :
    fileText style (entries ++ [v]) = fileText style entries ++ lineText style v := by
  simp [fileText]

theorem stripText_render_dict (style : Style) {space : Char → Bool}
    (opening : space '{' = false) (closing : space '}' = false) (members : Members) :
    stripText space (render style (.dict members)) = render style (.dict members) := by
  obtain ⟨middle, equal⟩ := render_dict_ends style members
  rw [equal]
  exact stripText_of_ends opening closing

theorem splitLines_fileText {style : Style} (ascii : style.ensureAscii = true)
    {boundary : Char → Bool} (isBoundary : Boundary boundary) (entries : List Value) :
    splitLines boundary (fileText style entries) = entries.map (render style) := by
  have shape : fileText style entries =
      (entries.map (render style)).flatMap (· ++ ['\n']) ++ [] := by
    rw [List.append_nil, List.flatMap_map]
    rfl
  have printable : ∀ line ∈ entries.map (render style), Printable line := by
    intro line member
    obtain ⟨v, -, rfl⟩ := List.mem_map.mp member
    exact printable_render style ascii v
  rw [shape, splitLines_flatMap isBoundary printable, splitLines, List.append_nil]

/-- Every reader of a file of dicts sees their texts. -/
theorem filledLines_fileText {style : Style} (ascii : style.ensureAscii = true)
    {boundary space : Char → Bool} (isBoundary : Boundary boundary)
    (opening : space '{' = false) (closing : space '}' = false)
    {entries : List Value} (dicts : ∀ v ∈ entries, v.isDict = true) :
    filledLines boundary space (fileText style entries) = entries.map (render style) := by
  rw [filledLines, splitLines_fileText ascii isBoundary, List.map_map]
  have stripped : ∀ v ∈ entries, (stripText space ∘ render style) v = render style v := by
    intro v member
    cases v with
    | dict members => exact stripText_render_dict style opening closing members
    | null | bool | int | float | str | list => cases dicts _ member
  rw [List.map_congr_left (g := render style) stripped]
  apply List.filter_eq_self.mpr
  intro line member
  obtain ⟨v, below, rfl⟩ := List.mem_map.mp member
  cases v with
  | dict members =>
      obtain ⟨middle, equal⟩ := render_dict_ends style members
      rw [equal]
      rfl
  | null | bool | int | float | str | list => cases dicts _ below

end Json

end SelfConnect.Python
