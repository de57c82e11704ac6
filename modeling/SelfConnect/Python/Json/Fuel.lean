import SelfConnect.Python.Json.Decode

namespace SelfConnect.Python.Json

/-! The scanner makes at most one call for every character it consumes, so any fuel that
covers what is consumed gives the same result. -/

theorem length_skipBlanks_le (text : Text) : (skipBlanks text).length ≤ text.length :=
  (List.dropWhile_sublist isBlank).length_le

private theorem shorter_of_consPoint {c : CodePoint} {scanned : Option (Str × Text)} {s : Str}
    {rest : Text} {bound : Nat} (found : consPoint c scanned = some (s, rest))
    (below : ∀ s, scanned = some (s, rest) → rest.length < bound) : rest.length < bound := by
  obtain ⟨⟨body, after⟩, isBody, isScanned⟩ := Option.map_eq_some_iff.mp found
  cases isScanned
  exact below body isBody

private theorem shorter_scanBody {text rest : Text} {s : Str}
    (found : scanBody text = some (s, rest)) : rest.length < text.length := by
  fun_induction scanBody text generalizing s with
  | case1 => cases found
  | case2 after =>
      cases found
      exact Nat.lt_succ_self _
  | case3 a b c d after unit isUnit ih =>
      have below := shorter_of_consPoint found fun _ => ih
      simp only [List.length_cons]
      omega
  | case4 => cases found
  | case5 e after notHex c isEscaped ih =>
      have below := shorter_of_consPoint found fun _ => ih
      simp only [List.length_cons]
      omega
  | case6 => cases found
  | case7 => cases found
  | case8 c after notQuote notHex notEscape plain ih =>
      have below := shorter_of_consPoint found fun _ => ih
      simp only [List.length_cons]
      omega

theorem shorter_scanString {text rest : Text} {s : Str}
    (found : scanString text = some (s, rest)) : rest.length < text.length := by
  obtain ⟨⟨body, after⟩, isBody, isScanned⟩ := Option.map_eq_some_iff.mp found
  cases isScanned
  exact shorter_scanBody isBody

private theorem length_takeDigits (text : Text) :
    (takeDigits text).1.length + (takeDigits text).2.length = text.length := by
  rw [takeDigits, ← List.length_append, List.takeWhile_append_dropWhile]

private theorem shorter_scanInteger {text digits rest : Text}
    (found : scanInteger text = some (digits, rest)) : rest.length < text.length := by
  unfold scanInteger at found
  split at found
  · cases found
    exact Nat.lt_succ_self _
  · have whole := length_takeDigits text
    split at found
    · cases found
    · next scanned after filled isTaken =>
        cases found
        rw [isTaken] at whole
        have := List.length_pos_iff.mpr (filled · )
        dsimp only at whole
        omega

private theorem length_scanFraction_le (text : Text) :
    (scanFraction text).2.length ≤ text.length := by
  unfold scanFraction
  split
  · next rest =>
      have whole := length_takeDigits rest
      split
      · exact le_refl _
      · next digits after _ isTaken =>
          rw [isTaken] at whole
          simp only [List.length_cons]
          dsimp only at whole
          omega
  · exact le_refl _

private theorem length_scanPower_le {sign : Char} {text rest : Text} {power : Int}
    (found : scanPower sign text = some (power, rest)) : rest.length ≤ text.length := by
  have whole := length_takeDigits text
  unfold scanPower at found
  split at found
  · cases found
  · next digits after _ isTaken =>
      cases found
      rw [isTaken] at whole
      dsimp only at whole
      omega

private theorem length_scanExponent_le {text rest : Text} {power : Int}
    (found : scanExponent text = some (power, rest)) : rest.length ≤ text.length := by
  unfold scanExponent at found
  split at found
  · split at found
    · split at found
      · have := length_scanPower_le found
        simp only [List.length_cons]
        omega
      · have := length_scanPower_le found
        simp only [List.length_cons]
        omega
      · have := length_scanPower_le found
        simp only [List.length_cons]
        omega
    · cases found
  · cases found

private theorem shorter_scanNumber {negative : Bool} {text rest : Text} {value : Value}
    (found : scanNumber negative text = some (value, rest)) : rest.length < text.length := by
  unfold scanNumber at found
  split at found
  · cases found
  · next digits after isInteger =>
      have first := shorter_scanInteger isInteger
      have second := length_scanFraction_le after
      dsimp only at found
      split at found
      · next power rest isPower =>
          have third := length_scanExponent_le isPower
          cases found
          omega
      · split at found
        · cases found
          omega
        · cases found
          omega

private theorem shorter_expect {word : Text} {value : Value} {text rest : Text} {v : Value}
    (filled : word ≠ []) (found : expect word value text = some (v, rest)) :
    rest.length < text.length := by
  unfold expect at found
  split at found
  · next isPrefix =>
      cases found
      have within := (List.isPrefixOf_iff_prefix.mp isPrefix).length_le
      have := List.length_pos_iff.mpr filled
      rw [List.length_drop]
      omega
  · cases found

theorem shorter_scanAtom {text rest : Text} {value : Value}
    (found : scanAtom text = some (value, rest)) : rest.length < text.length := by
  unfold scanAtom at found
  split at found
  · exact shorter_expect (by simp) found
  · exact shorter_expect (by simp) found
  · exact shorter_expect (by simp) found
  · exact shorter_expect (by simp) found
  · exact shorter_expect (by simp) found
  · exact shorter_expect (by simp) found
  · have := shorter_scanNumber found
    simp only [List.length_cons]
    omega
  · exact shorter_scanNumber found

/-- A scan that has succeeded, and what it gives with the fuel for what it has consumed. -/
def Settled {α : Type} (scan : Nat → Text → Option (α × Text)) (fuel : Nat) : Prop :=
  ∀ text result rest, scan fuel text = some (result, rest) → rest.length < text.length ∧
    ∀ more, text.length - rest.length ≤ more → scan more text = some (result, rest)

structure AllSettled (fuel : Nat) : Prop where
  value : Settled scanValue fuel
  items : Settled scanItems fuel
  members : Settled scanMembers fuel

namespace AllSettled

variable {fuel : Nat} (settled : AllSettled fuel)

include settled

theorem value_succ : Settled scanValue (fuel + 1) := by
  intro text result rest found
  unfold scanValue at found
  split at found
  · next body =>
      obtain ⟨⟨s, after⟩, isBody, isScanned⟩ := Option.map_eq_some_iff.mp found
      cases isScanned
      have shorter := shorter_scanString isBody
      refine ⟨by simp only [List.length_cons]; omega, ?_⟩
      rintro (_ | more) enough
      · simp only [List.length_cons] at enough
        omega
      · rw [scanValue, isBody]
        rfl
  · next body =>
      have blanks := length_skipBlanks_le body
      split at found
      · next after closed =>
          cases found
          rw [closed, List.length_cons] at blanks
          refine ⟨by simp only [List.length_cons]; omega, ?_⟩
          rintro (_ | more) enough
          · simp only [List.length_cons] at enough
            omega
          · rw [scanValue, closed]
            rfl
      · next notClosed =>
          obtain ⟨⟨items, after⟩, isItems, isScanned⟩ := Option.map_eq_some_iff.mp found
          cases isScanned
          obtain ⟨shorter, again⟩ := settled.items _ _ _ isItems
          refine ⟨by simp only [List.length_cons]; omega, ?_⟩
          rintro (_ | more) enough
          · simp only [List.length_cons] at enough
            omega
          · rw [scanValue]
            simp only [List.length_cons] at enough
            split
            · next after closed => exact absurd closed (notClosed after)
            · rw [again more (by omega)]
              rfl
  · next body =>
      have blanks := length_skipBlanks_le body
      split at found
      · next after closed =>
          cases found
          rw [closed, List.length_cons] at blanks
          refine ⟨by simp only [List.length_cons]; omega, ?_⟩
          rintro (_ | more) enough
          · simp only [List.length_cons] at enough
            omega
          · rw [scanValue, closed]
            rfl
      · next notClosed =>
          obtain ⟨⟨members, after⟩, isMembers, isScanned⟩ := Option.map_eq_some_iff.mp found
          cases isScanned
          obtain ⟨shorter, again⟩ := settled.members _ _ _ isMembers
          refine ⟨by simp only [List.length_cons]; omega, ?_⟩
          rintro (_ | more) enough
          · simp only [List.length_cons] at enough
            omega
          · rw [scanValue]
            simp only [List.length_cons] at enough
            split
            · next after closed => exact absurd closed (notClosed after)
            · rw [again more (by omega)]
              rfl
  · next notString notList notDict =>
      have shorter := shorter_scanAtom found
      refine ⟨shorter, ?_⟩
      rintro (_ | more) enough
      · omega
      · rw [scanValue]
        · exact found
        · exact notString
        · exact notList
        · exact notDict

theorem items_succ : Settled scanItems (fuel + 1) := by
  intro text result rest found
  unfold scanItems at found
  split at found
  · cases found
  · next item afterItem isItem =>
      obtain ⟨shorter, again⟩ := settled.value _ _ _ isItem
      have blanks := length_skipBlanks_le afterItem
      split at found
      · next after closed =>
          cases found
          rw [closed, List.length_cons] at blanks
          refine ⟨by omega, ?_⟩
          rintro (_ | more) enough
          · omega
          · rw [scanItems, again more (by omega)]
            dsimp only
            rw [closed]
            rfl
      · next after comma =>
          obtain ⟨⟨items, last⟩, isItems, isScanned⟩ := Option.map_eq_some_iff.mp found
          simp only [Prod.mk.injEq] at isScanned
          obtain ⟨rfl, rfl⟩ := isScanned
          rw [comma, List.length_cons] at blanks
          have gap := length_skipBlanks_le after
          obtain ⟨shorterItems, againItems⟩ := settled.items _ _ _ isItems
          refine ⟨by omega, ?_⟩
          rintro (_ | more) enough
          · omega
          · rw [scanItems, again more (by omega)]
            dsimp only
            rw [comma]
            simp only
            rw [againItems more (by omega)]
            rfl
      · cases found

theorem members_succ : Settled scanMembers (fuel + 1) := by
  intro text result rest found
  unfold scanMembers at found
  split at found
  · next body =>
      split at found
      · cases found
      · next key afterKey isKey =>
          have shorterKey := shorter_scanString isKey
          have blanksKey := length_skipBlanks_le afterKey
          split at found
          · next afterColon colon =>
              rw [colon, List.length_cons] at blanksKey
              have blanksColon := length_skipBlanks_le afterColon
              split at found
              · cases found
              · next value afterValue isValue =>
                  obtain ⟨shorter, again⟩ := settled.value _ _ _ isValue
                  have blanks := length_skipBlanks_le afterValue
                  split at found
                  · next after closed =>
                      cases found
                      rw [closed, List.length_cons] at blanks
                      refine ⟨by simp only [List.length_cons]; omega, ?_⟩
                      rintro (_ | more) enough
                      · simp only [List.length_cons] at enough
                        omega
                      · simp only [List.length_cons] at enough
                        rw [scanMembers, isKey]
                        dsimp only
                        rw [colon]
                        simp only
                        rw [again more (by omega)]
                        dsimp only
                        rw [closed]
                        rfl
                  · next after comma =>
                      obtain ⟨⟨members, last⟩, isMembers, isScanned⟩ :=
                        Option.map_eq_some_iff.mp found
                      simp only [Prod.mk.injEq] at isScanned
                      obtain ⟨rfl, rfl⟩ := isScanned
                      rw [comma, List.length_cons] at blanks
                      have gap := length_skipBlanks_le after
                      obtain ⟨shorterMembers, againMembers⟩ := settled.members _ _ _ isMembers
                      refine ⟨by simp only [List.length_cons]; omega, ?_⟩
                      rintro (_ | more) enough
                      · simp only [List.length_cons] at enough
                        omega
                      · simp only [List.length_cons] at enough
                        rw [scanMembers, isKey]
                        dsimp only
                        rw [colon]
                        simp only
                        rw [again more (by omega)]
                        dsimp only
                        rw [comma]
                        simp only
                        rw [againMembers more (by omega)]
                        rfl
                  · cases found
          · cases found
  · cases found

end AllSettled

theorem allSettled (fuel : Nat) : AllSettled fuel := by
  induction fuel with
  | zero =>
      refine ⟨?_, ?_, ?_⟩ <;>
      · intro text result rest found
        cases found
  | succ fuel ih => exact ⟨ih.value_succ, ih.items_succ, ih.members_succ⟩

/-- Fuel for every character of the text is enough. -/
theorem scanValue_of_enough {text : Text} {fuel more : Nat} (enough : text.length ≤ fuel)
    (enoughMore : text.length ≤ more) : scanValue fuel text = scanValue more text := by
  cases found : scanValue fuel text with
  | some result =>
      exact (((allSettled fuel).value _ _ _ found).2 more (by omega)).symm
  | none =>
      cases foundMore : scanValue more text with
      | none => rfl
      | some result =>
          rw [((allSettled more).value _ _ _ foundMore).2 fuel (by omega)] at found
          cases found

end SelfConnect.Python.Json
