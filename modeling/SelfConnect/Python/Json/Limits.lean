import SelfConnect.Python.Json.Canonical
import SelfConnect.Python.Json.Fuel

namespace SelfConnect.Python.Json

/-! `json.loads` within the limits of an interpreter: every array and object takes one
level of the recursion limit, and an integer literal has at most 4300 digits. What goes
beyond is `RecursionError` and a plain `ValueError`, not `JSONDecodeError`. -/

inductive LoadError
  | decode
  | digits
  | recursion
  deriving DecidableEq

/-- The arrays and objects that may be nested in one another. -/
structure Interpreter where
  nesting : Nat
  roomy : 33 ≤ nesting

def maxDigits : Nat := 4300

/-- A JSON literal has no leading zeros: its digits are those of the number. -/
def digitCount (n : Int) : Nat :=
  (natText n.natAbs).length

def scanAtomWithin (text : Text) : Except LoadError (Value × Text) :=
  match scanAtom text with
  | none => .error .decode
  | some (.int n, rest) => if maxDigits < digitCount n then .error .digits else .ok (.int n, rest)
  | some result => .ok result

mutual
def scanValueWithin : Nat → Nat → Text → Except LoadError (Value × Text)
  | 0, _, _ => .error .decode
  | fuel + 1, levels, text =>
      match text with
      | '"' :: rest =>
          match scanString rest with
          | none => .error .decode
          | some result => .ok (.str result.1, result.2)
      | '[' :: rest =>
          match levels with
          | 0 => .error .recursion
          | below + 1 =>
              match skipBlanks rest with
              | ']' :: after => .ok (.list [], after)
              | items =>
                  (scanItemsWithin fuel below items).map fun result => (.list result.1, result.2)
      | '{' :: rest =>
          match levels with
          | 0 => .error .recursion
          | below + 1 =>
              match skipBlanks rest with
              | '}' :: after => .ok (.dict [], after)
              | members =>
                  (scanMembersWithin fuel below members).map fun result =>
                    (.dict result.1, result.2)
      | _ => scanAtomWithin text

def scanItemsWithin : Nat → Nat → Text → Except LoadError (List Value × Text)
  | 0, _, _ => .error .decode
  | fuel + 1, levels, text =>
      match scanValueWithin fuel levels text with
      | .error e => .error e
      | .ok (item, afterItem) =>
          match skipBlanks afterItem with
          | ']' :: rest => .ok ([item], rest)
          | ',' :: rest =>
              (scanItemsWithin fuel levels (skipBlanks rest)).map fun result =>
                (item :: result.1, result.2)
          | _ => .error .decode

def scanMembersWithin : Nat → Nat → Text → Except LoadError (Members × Text)
  | 0, _, _ => .error .decode
  | fuel + 1, levels, text =>
      match text with
      | '"' :: body =>
          match scanString body with
          | none => .error .decode
          | some (key, afterKey) =>
              match skipBlanks afterKey with
              | ':' :: afterColon =>
                  match scanValueWithin fuel levels (skipBlanks afterColon) with
                  | .error e => .error e
                  | .ok (value, afterValue) =>
                      match skipBlanks afterValue with
                      | '}' :: rest => .ok ([(.str key, value)], rest)
                      | ',' :: rest =>
                          (scanMembersWithin fuel levels (skipBlanks rest)).map fun result =>
                            ((.str key, value) :: result.1, result.2)
                      | _ => .error .decode
              | _ => .error .decode
      | _ => .error .decode
end

/-- Two calls for every character are enough, also where the scan stops early. -/
def parseWithin (interpreter : Interpreter) (text : Text) : Except LoadError Value :=
  match scanValueWithin (2 * text.length + 1) interpreter.nesting (skipBlanks text) with
  | .ok (value, rest) => if (skipBlanks rest).isEmpty then .ok value else .error .decode
  | .error e => .error e

/-- `json.loads`. -/
def loadsWithin (interpreter : Interpreter) (text : Text) : Except LoadError Value :=
  (parseWithin interpreter text).map build

/-! A value that the limits leave room for. -/

mutual
def Fits : Nat → Value → Prop
  | _, .int n => digitCount n ≤ maxDigits
  | 0, .list _ => False
  | levels + 1, .list items => FitsItems levels items
  | 0, .dict _ => False
  | levels + 1, .dict members => FitsMembers levels members
  | _, _ => True

def FitsItems : Nat → List Value → Prop
  | _, [] => True
  | levels, v :: rest => Fits levels v ∧ FitsItems levels rest

def FitsMembers : Nat → Members → Prop
  | _, [] => True
  | levels, (_, v) :: rest => Fits levels v ∧ FitsMembers levels rest
end

/-- What the scan gives within the limits, beside what it gives without them: the limits
only stop the scan of a value they have no room for. -/
inductive Bounded {α : Type} (fits : α → Prop) : Except LoadError α → Option α → Prop
  | found (a : α) : Bounded fits (.ok a) (some a)
  | malformed : Bounded fits (.error .decode) none
  | stopped {e : LoadError} {scanned : Option α} (beyond : e ≠ .decode)
      (misfit : ∀ a, scanned = some a → ¬ fits a) : Bounded fits (.error e) scanned

namespace Bounded

variable {α β : Type} {fits : α → Prop} {fits' : β → Prop} {within : Except LoadError α}
  {scanned : Option α}

theorem map (bounded : Bounded fits within scanned) (f : α → β)
    (below : ∀ a, fits' (f a) → fits a) : Bounded fits' (within.map f) (scanned.map f) := by
  cases bounded with
  | found a => exact .found (f a)
  | malformed => exact .malformed
  | stopped beyond misfit =>
      refine .stopped beyond ?_
      intro b isMapped fitting
      obtain ⟨a, isScanned, rfl⟩ := Option.map_eq_some_iff.mp isMapped
      exact misfit a isScanned (below a fitting)

theorem eq_ok (bounded : Bounded fits within scanned) {a : α} (isScanned : scanned = some a)
    (fitting : fits a) : within = .ok a := by
  cases bounded with
  | found b => rw [Option.some.inj isScanned]
  | malformed => cases isScanned
  | stopped _ misfit => exact absurd fitting (misfit a isScanned)

theorem of_ok (bounded : Bounded fits within scanned) {a : α} (isOk : within = .ok a) :
    scanned = some a := by
  cases bounded with
  | found b => rw [Except.ok.inj isOk]
  | malformed => cases isOk
  | stopped _ _ => cases isOk

theorem of_decode (bounded : Bounded fits within scanned) (isError : within = .error .decode) :
    scanned = none := by
  cases bounded with
  | found b => cases isError
  | malformed => rfl
  | stopped beyond _ => exact absurd (Except.error.inj isError) beyond

end Bounded

theorem bounded_scanAtom (levels : Nat) (text : Text) :
    Bounded (fun result => Fits levels result.1) (scanAtomWithin text) (scanAtom text) := by
  unfold scanAtomWithin
  cases scanAtom text with
  | none => exact .malformed
  | some result =>
      obtain ⟨value, rest⟩ := result
      cases value with
      | int n =>
          dsimp only
          split
          · next long =>
              refine .stopped (by decide) ?_
              rintro _ ⟨⟩ fits
              cases levels <;> exact absurd fits (Nat.not_le.mpr long)
          · exact .found _
      | null | bool | float | str | list | dict => exact .found _

/-- The two scanners side by side, for the fuel that both are given. -/
structure Parallel (fuel : Nat) : Prop where
  value : ∀ levels text, Bounded (fun result => Fits levels result.1)
    (scanValueWithin fuel levels text) (scanValue fuel text)
  items : ∀ levels text, Bounded (fun result => FitsItems levels result.1)
    (scanItemsWithin fuel levels text) (scanItems fuel text)
  members : ∀ levels text, Bounded (fun result => FitsMembers levels result.1)
    (scanMembersWithin fuel levels text) (scanMembers fuel text)

theorem parallel_zero : Parallel 0 :=
  ⟨fun _ _ => .malformed, fun _ _ => .malformed, fun _ _ => .malformed⟩

namespace Parallel

variable {fuel : Nat} (parallel : Parallel fuel)

include parallel

-- The two scans split on the same text, together or one after the other.
theorem value_succ (levels : Nat) (text : Text) :
    Bounded (fun result => Fits levels result.1) (scanValueWithin (fuel + 1) levels text)
      (scanValue (fuel + 1) text) := by
  unfold scanValueWithin
  split
  · next rest =>
      rw [scanValue]
      cases scanString rest with
      | none => exact .malformed
      | some result => exact .found _
  · next rest =>
      rw [scanValue]
      cases levels with
      | zero =>
          refine .stopped (by decide) ?_
          intro a isScanned fits
          split at isScanned
          · cases isScanned
            exact fits
          · obtain ⟨result, -, rfl⟩ := Option.map_eq_some_iff.mp isScanned
            exact fits
      | succ below =>
          dsimp only
          generalize skipBlanks rest = body
          split
          · exact .found _
          · next filled =>
              first
              | exact (parallel.items below _).map _ fun _ fits => fits
              | split
                · next after => exact absurd rfl (filled after)
                · exact (parallel.items below _).map _ fun _ fits => fits
  · next rest =>
      rw [scanValue]
      cases levels with
      | zero =>
          refine .stopped (by decide) ?_
          intro a isScanned fits
          split at isScanned
          · cases isScanned
            exact fits
          · obtain ⟨result, -, rfl⟩ := Option.map_eq_some_iff.mp isScanned
            exact fits
      | succ below =>
          dsimp only
          generalize skipBlanks rest = body
          split
          · exact .found _
          · next filled =>
              first
              | exact (parallel.members below _).map _ fun _ fits => fits
              | split
                · next after => exact absurd rfl (filled after)
                · exact (parallel.members below _).map _ fun _ fits => fits
  · next notString notList notDict =>
      rw [scanValue]
      · exact bounded_scanAtom levels text
      · exact notString
      · exact notList
      · exact notDict

theorem items_succ (levels : Nat) (text : Text) :
    Bounded (fun result => FitsItems levels result.1) (scanItemsWithin (fuel + 1) levels text)
      (scanItems (fuel + 1) text) := by
  rw [scanItemsWithin, scanItems]
  have first := parallel.value levels text
  generalize scanValueWithin fuel levels text = within at first ⊢
  generalize scanValue fuel text = scanned at first ⊢
  cases first with
  | found a =>
      dsimp only
      generalize skipBlanks a.2 = after
      split
      · exact .found _
      · exact (parallel.items levels _).map _ fun _ fits => fits.2
      · next notClosed notMore =>
          first
          | exact .malformed
          | split
            · next rest => exact absurd rfl (notClosed rest)
            · next rest => exact absurd rfl (notMore rest)
            · exact .malformed
  | malformed => exact .malformed
  | stopped beyond misfit =>
      refine .stopped beyond ?_
      intro a isScanned fits
      cases scanned with
      | none => cases isScanned
      | some item =>
          dsimp only at isScanned
          refine misfit item rfl ?_
          split at isScanned
          · cases isScanned
            exact fits.1
          · obtain ⟨result, -, rfl⟩ := Option.map_eq_some_iff.mp isScanned
            exact fits.1
          · cases isScanned

theorem members_succ (levels : Nat) (text : Text) :
    Bounded (fun result => FitsMembers levels result.1)
      (scanMembersWithin (fuel + 1) levels text) (scanMembers (fuel + 1) text) := by
  unfold scanMembersWithin
  split
  · next body =>
      rw [scanMembers]
      cases scanString body with
      | none => exact .malformed
      | some scannedKey =>
          dsimp only
          generalize skipBlanks scannedKey.2 = afterKey
          split
          · next afterColon =>
              try simp only
              have first := parallel.value levels (skipBlanks afterColon)
              generalize scanValueWithin fuel levels (skipBlanks afterColon) = within at first ⊢
              generalize scanValue fuel (skipBlanks afterColon) = scanned at first ⊢
              cases first with
              | found a =>
                  dsimp only
                  generalize skipBlanks a.2 = after
                  split
                  · exact .found _
                  · exact (parallel.members levels _).map _ fun _ fits => fits.2
                  · next notClosed notMore =>
                      first
                      | exact .malformed
                      | split
                        · next rest => exact absurd rfl (notClosed rest)
                        · next rest => exact absurd rfl (notMore rest)
                        · exact .malformed
              | malformed => exact .malformed
              | stopped beyond misfit =>
                  refine .stopped beyond ?_
                  intro a isScanned fits
                  cases scanned with
                  | none => cases isScanned
                  | some value =>
                      dsimp only at isScanned
                      refine misfit value rfl ?_
                      split at isScanned
                      · cases isScanned
                        exact fits.1
                      · obtain ⟨result, -, rfl⟩ := Option.map_eq_some_iff.mp isScanned
                        exact fits.1
                      · cases isScanned
          · next notColon =>
              first
              | exact .malformed
              | split
                · next afterColon => exact absurd rfl (notColon afterColon)
                · exact .malformed
  · next notString =>
      rw [scanMembers]
      · exact .malformed
      · exact notString

end Parallel

theorem parallel (fuel : Nat) : Parallel fuel := by
  induction fuel with
  | zero => exact parallel_zero
  | succ fuel ih => exact ⟨ih.value_succ, ih.items_succ, ih.members_succ⟩

/-! More fuel than two calls for every character changes nothing. -/

structure Enough (fuel : Nat) : Prop where
  value : ∀ levels text more, 2 * text.length + 1 ≤ fuel → 2 * text.length + 1 ≤ more →
    scanValueWithin fuel levels text = scanValueWithin more levels text
  items : ∀ levels text more, 2 * text.length + 2 ≤ fuel → 2 * text.length + 2 ≤ more →
    scanItemsWithin fuel levels text = scanItemsWithin more levels text
  members : ∀ levels text more, 2 * text.length + 2 ≤ fuel → 2 * text.length + 2 ≤ more →
    scanMembersWithin fuel levels text = scanMembersWithin more levels text

theorem shorter_scanValueWithin {fuel levels : Nat} {text rest : Text} {value : Value}
    (found : scanValueWithin fuel levels text = .ok (value, rest)) :
    rest.length < text.length :=
  ((allSettled fuel).value _ _ _ (((parallel fuel).value levels text).of_ok found)).1

namespace Enough

variable {fuel : Nat} (enough : Enough fuel)

include enough

theorem value_succ (levels : Nat) (text : Text) (more : Nat)
    (first : 2 * text.length + 1 ≤ fuel + 1) (second : 2 * text.length + 1 ≤ more) :
    scanValueWithin (fuel + 1) levels text = scanValueWithin more levels text := by
  obtain ⟨more, rfl⟩ : ∃ fewer, more = fewer + 1 := ⟨more - 1, by omega⟩
  rw [scanValueWithin.eq_def, scanValueWithin.eq_def (more + 1)]
  dsimp only
  split
  · rfl
  · next rest =>
      have blanks := length_skipBlanks_le rest
      rw [List.length_cons] at first second
      cases levels with
      | zero => rfl
      | succ below =>
          have same := enough.items below (skipBlanks rest) more (by omega) (by omega)
          dsimp only
          split
          · rfl
          · rw [same]
  · next rest =>
      have blanks := length_skipBlanks_le rest
      rw [List.length_cons] at first second
      cases levels with
      | zero => rfl
      | succ below =>
          have same := enough.members below (skipBlanks rest) more (by omega) (by omega)
          dsimp only
          split
          · rfl
          · rw [same]
  · rfl

theorem items_succ (levels : Nat) (text : Text) (more : Nat)
    (first : 2 * text.length + 2 ≤ fuel + 1) (second : 2 * text.length + 2 ≤ more) :
    scanItemsWithin (fuel + 1) levels text = scanItemsWithin more levels text := by
  obtain ⟨more, rfl⟩ : ∃ fewer, more = fewer + 1 := ⟨more - 1, by omega⟩
  rw [scanItemsWithin, scanItemsWithin,
    ← enough.value levels text more (by omega) (by omega)]
  cases found : scanValueWithin fuel levels text with
  | error e => rfl
  | ok result =>
      have shorter := shorter_scanValueWithin found
      have blanks := length_skipBlanks_le result.2
      dsimp only
      split
      · rfl
      · next rest comma =>
          have gap := length_skipBlanks_le rest
          rw [comma, List.length_cons] at blanks
          rw [enough.items levels (skipBlanks rest) more (by omega) (by omega)]
      · rfl

theorem members_succ (levels : Nat) (text : Text) (more : Nat)
    (first : 2 * text.length + 2 ≤ fuel + 1) (second : 2 * text.length + 2 ≤ more) :
    scanMembersWithin (fuel + 1) levels text = scanMembersWithin more levels text := by
  obtain ⟨more, rfl⟩ : ∃ fewer, more = fewer + 1 := ⟨more - 1, by omega⟩
  rw [scanMembersWithin.eq_def, scanMembersWithin.eq_def (more + 1)]
  dsimp only
  split
  · next body =>
      rw [List.length_cons] at first second
      split
      · rfl
      · next key afterKey isKey =>
          have shorterKey := shorter_scanString isKey
          have blanksKey := length_skipBlanks_le afterKey
          split
          · next afterColon colon =>
              have blanksColon := length_skipBlanks_le afterColon
              rw [colon, List.length_cons] at blanksKey
              rw [← enough.value levels (skipBlanks afterColon) more (by omega) (by omega)]
              cases found : scanValueWithin fuel levels (skipBlanks afterColon) with
              | error e => rfl
              | ok result =>
                  have shorter := shorter_scanValueWithin found
                  have blanks := length_skipBlanks_le result.2
                  dsimp only
                  split
                  · rfl
                  · next rest comma =>
                      have gap := length_skipBlanks_le rest
                      rw [comma, List.length_cons] at blanks
                      rw [enough.members levels (skipBlanks rest) more (by omega) (by omega)]
                  · rfl
          · rfl
  · rfl

end Enough

theorem enough (fuel : Nat) : Enough fuel := by
  induction fuel with
  | zero => exact ⟨by omega, by omega, by omega⟩
  | succ fuel ih => exact ⟨ih.value_succ, ih.items_succ, ih.members_succ⟩

theorem scanValueWithin_of_enough {fuel levels : Nat} {text : Text}
    (covers : 2 * text.length + 1 ≤ fuel) :
    scanValueWithin fuel levels (skipBlanks text) =
      scanValueWithin (2 * text.length + 1) levels (skipBlanks text) := by
  have blanks := length_skipBlanks_le text
  exact (enough fuel).value levels _ _ (by omega) (by omega)

variable {interpreter : Interpreter} {text : Text}

/-- `json.loads` within the limits, beside `json.loads`. -/
theorem bounded_parse (interpreter : Interpreter) (text : Text) :
    Bounded (Fits interpreter.nesting) (parseWithin interpreter text) (parse text) := by
  unfold parseWithin parse
  have scan := (parallel (2 * text.length + 1)).value interpreter.nesting (skipBlanks text)
  have blanks := length_skipBlanks_le text
  rw [scanValue_of_enough (by omega) (Nat.le_succ_of_le blanks)] at scan
  generalize scanValueWithin _ _ _ = within at scan ⊢
  generalize scanValue _ _ = scanned at scan ⊢
  cases scan with
  | found result =>
      dsimp only
      split
      · exact .found _
      · exact .malformed
  | malformed => exact .malformed
  | stopped beyond misfit =>
      refine .stopped beyond ?_
      intro a isScanned
      cases scanned with
      | none => cases isScanned
      | some result =>
          dsimp only at isScanned
          split at isScanned
          · cases isScanned
            exact misfit result rfl
          · cases isScanned

theorem loads_of_loadsWithin {value : Value} (loaded : loadsWithin interpreter text = .ok value) :
    loads text = some value := by
  rw [loadsWithin] at loaded
  have parsed := bounded_parse interpreter text
  cases within : parseWithin interpreter text with
  | error e =>
      rw [within] at loaded
      cases loaded
  | ok tree =>
      rw [within, Except.map, Except.ok.injEq] at loaded
      rw [loads, parsed.of_ok within, Option.map_some, loaded]

theorem loads_eq_none_of_decode (failed : loadsWithin interpreter text = .error .decode) :
    loads text = none := by
  rw [loadsWithin] at failed
  have parsed := bounded_parse interpreter text
  cases within : parseWithin interpreter text with
  | error e =>
      rw [within, Except.map, Except.error.injEq] at failed
      rw [failed] at within
      rw [loads, parsed.of_decode within, Option.map_none]
  | ok tree =>
      rw [within] at failed
      cases failed

theorem loadsWithin_of_parse {tree : Value} (parsed : parse text = some tree)
    (fits : Fits interpreter.nesting tree) : loadsWithin interpreter text = .ok (build tree) := by
  rw [loadsWithin, (bounded_parse interpreter text).eq_ok parsed fits]
  rfl

/-- Brackets beyond the recursion limit stop the scan before any of them is closed. -/
theorem scanValueWithin_brackets (levels fuel : Nat) (rest : Text) (enough : 2 * levels < fuel) :
    scanValueWithin fuel levels (List.replicate (levels + 1) '[' ++ rest) =
      .error .recursion := by
  induction levels generalizing fuel with
  | zero =>
      cases fuel with
      | zero => omega
      | succ fuel => rfl
  | succ levels ih =>
      obtain ⟨fewer, rfl⟩ : ∃ fewer, fuel = fewer + 2 := ⟨fuel - 2, by omega⟩
      have below := ih fewer (by omega)
      have solid : skipBlanks (List.replicate (levels + 1) '[' ++ rest) =
          List.replicate (levels + 1) '[' ++ rest := by
        rw [List.replicate_succ]
        rfl
      rw [List.replicate_succ, List.cons_append, scanValueWithin, solid]
      split
      · next after closed =>
          rw [List.replicate_succ] at closed
          exact absurd (List.cons.inj closed).1 (by decide)
      · rw [scanItemsWithin, below]
        rfl

theorem loadsWithin_brackets {interpreter : Interpreter} {count : Nat}
    (beyond : interpreter.nesting < count) :
    loadsWithin interpreter (List.replicate count '[') = .error .recursion := by
  obtain ⟨more, rfl⟩ : ∃ more, count = interpreter.nesting + 1 + more :=
    ⟨count - (interpreter.nesting + 1), by omega⟩
  have solid : skipBlanks (List.replicate (interpreter.nesting + 1 + more) '[') =
      List.replicate (interpreter.nesting + 1) '[' ++ List.replicate more '[' := by
    rw [List.replicate_append_replicate, Nat.add_right_comm, List.replicate_succ]
    rfl
  rw [loadsWithin, parseWithin, solid, List.length_replicate,
    scanValueWithin_brackets _ _ _ (by omega)]
  rfl

end SelfConnect.Python.Json
