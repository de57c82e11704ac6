import SelfConnect.Replication.S3

namespace SelfConnect.Replication

open SelfConnect.Python

/-! The keys of the bucket: the index of a seal is found under its session's component
and its segment, and no record is. -/

theorem paddedInt_injective (width : Nat) : Function.Injective (paddedInt width) := by
  have padded : ∀ w m n, zeroPadded w m = zeroPadded w n → m = n := by
    intro w m n equal
    rw [← digitsValue_zeroPadded w m, equal, digitsValue_zeroPadded]
  have signed : ∀ m n rest, zeroPadded width m ≠ '-' :: zeroPadded n rest := by
    intro m n rest equal
    have isDigit : '-'.isDigit = true :=
      @isDigit_of_mem_zeroPadded width m '-' (equal ▸ List.mem_cons_self)
    cases isDigit
  intro m n equal
  cases m with
  | ofNat m =>
      cases n with
      | ofNat n => exact congrArg Int.ofNat (padded width m n equal)
      | negSucc n => exact absurd equal (signed _ _ _)
  | negSucc m =>
      cases n with
      | ofNat n => exact absurd equal.symm (signed _ _ _)
      | negSucc n =>
          have same := padded (width - 1) (m + 1) (n + 1) (List.cons.inj equal).2
          exact congrArg Int.negSucc (Nat.succ.inj same)

def slash : CodePoint := CodePoint.ofChar '/'

private theorem slash_not_mem_ofText {text : Text} (absent : '/' ∉ text) :
    slash ∉ Str.ofText text := by
  intro member
  obtain ⟨c, inText, equal⟩ := List.mem_map.mp member
  rw [CodePoint.ofChar_injective equal] at inText
  exact absent inText

theorem slash_not_mem_paddedInt (width : Nat) (n : Int) :
    slash ∉ Str.ofText (paddedInt width n) := by
  apply slash_not_mem_ofText
  intro member
  have notDigit : ∀ w m, '/' ∉ zeroPadded w m := fun w m inPadded => by
    have isDigit := isDigit_of_mem_zeroPadded inPadded
    cases isDigit
  cases n with
  | ofNat n => exact notDigit _ _ member
  | negSucc n =>
      rcases List.mem_cons.mp member with isDash | inPadded
      · cases isDash
      · exact notDigit _ _ inPadded

private theorem slash_not_mem_hexText (bytes : Bytes) : '/' ∉ hexText bytes := by
  have digits : ∀ n, n < 16 → '/' ≠ n.digitChar := by decide
  induction bytes with
  | nil => exact List.not_mem_nil
  | cons b rest ih =>
      have bound := b.toNat_lt
      intro member
      rcases List.mem_cons.mp member with isHigh | inTail
      · exact digits _ (by omega) isHigh
      · rcases List.mem_cons.mp inTail with isLow | inRest
        · exact digits _ (by omega) isLow
        · exact ih inRest

private theorem mem_of_mem_strip {chars : CodePoint → Bool} {s : Str} {c : CodePoint}
    (member : c ∈ strip chars s) : c ∈ s :=
  (List.dropWhile_suffix chars).subset ((List.rdropWhile_prefix chars _).subset member)

variable {builtins : Builtins} (lawful : builtins.Lawful)

include lawful

theorem slash_not_mem_safeS3Component (value : Str) :
    slash ∉ safeS3Component builtins value := by
  unfold safeS3Component
  dsimp only
  split
  · exact slash_not_mem_ofText (slash_not_mem_hexText _)
  · intro member
    obtain ⟨c, -, equal⟩ := List.mem_map.mp (mem_of_mem_strip member)
    split at equal
    · next isSafe =>
        rw [equal, show builtins.isalnum slash = false from lawful.isalnum_slash] at isSafe
        revert isSafe
        decide
    · revert equal
      decide

omit lawful

/-- What stands before the first separator is determined, and so is what follows. -/
private theorem append_slash_inj {first second front back : Str} (firstClean : slash ∉ first)
    (secondClean : slash ∉ second) (equal : first ++ slash :: front = second ++ slash :: back) :
    first = second ∧ front = back := by
  have stop : ∀ {clean tail : Str}, slash ∉ clean →
      (clean ++ slash :: tail).takeWhile (· ≠ slash) = clean := by
    intro clean tail absent
    have passes : ∀ c ∈ clean, decide (c ≠ slash) = true := by
      intro c member
      apply decide_eq_true
      intro isSlash
      exact absent (isSlash ▸ member)
    rw [List.takeWhile_append_of_pos passes, List.takeWhile_cons_of_neg (by simp), List.append_nil]
  have same : first = second := by rw [← stop firstClean, equal, stop secondClean]
  rw [same] at equal
  exact ⟨same, (List.cons.inj (List.append_cancel_left equal)).2⟩

private theorem withPrefix_injective (keyPrefix : Str) :
    Function.Injective (withPrefix keyPrefix) := by
  intro first second equal
  unfold withPrefix at equal
  dsimp only at equal
  split at equal
  · exact equal
  · exact List.append_cancel_left equal

include lawful

private theorem segmentDirectory_inj {session session' : Str} {segment segment' : Int}
    {file file' : Str} (equal : segmentDirectory builtins session segment ++ file =
      segmentDirectory builtins session' segment' ++ file') :
    safeS3Component builtins session = safeS3Component builtins session' ∧
      segment = segment' ∧ file = file' := by
  have shape : ∀ s n tail, segmentDirectory builtins s n ++ tail =
      safeS3Component builtins s ++ slash ::
        ((Str.lit "seg-" ++ Str.ofText (paddedInt 6 n)) ++ slash :: tail) := by
    intro s n tail
    simp only [segmentDirectory, List.append_assoc]
    rfl
  have clean : ∀ n, slash ∉ Str.lit "seg-" ++ Str.ofText (paddedInt 6 n) := by
    intro n member
    rcases List.mem_append.mp member with inLabel | inNumber
    · revert inLabel
      decide
    · exact slash_not_mem_paddedInt 6 n inNumber
  rw [shape, shape] at equal
  obtain ⟨components, rest⟩ := append_slash_inj (slash_not_mem_safeS3Component lawful session)
    (slash_not_mem_safeS3Component lawful session') equal
  obtain ⟨segments, files⟩ := append_slash_inj (clean segment) (clean segment') rest
  exact ⟨components,
    paddedInt_injective 6 (Str.ofText_injective (List.append_cancel_left segments)), files⟩

/-- Two seals share an index only when their segments are the same and their sessions
become one component. -/
theorem sealIndexKey_inj {keyPrefix session session' : Str} {segment segment' : Int}
    (equal : s3SealIndexKey builtins keyPrefix session segment =
      s3SealIndexKey builtins keyPrefix session' segment') :
    safeS3Component builtins session = safeS3Component builtins session' ∧ segment = segment' := by
  obtain ⟨components, segments, -⟩ :=
    segmentDirectory_inj lawful (withPrefix_injective keyPrefix equal)
  exact ⟨components, segments⟩

theorem objectKey_ne_sealIndexKey {keyPrefix session session' key : Str} {segment segment' : Int}
    {record : Value} (isKey : s3ObjectKey builtins keyPrefix session segment record = some key) :
    key ≠ s3SealIndexKey builtins keyPrefix session' segment' := by
  have labelled : ∃ file, key = withPrefix keyPrefix
      (segmentDirectory builtins session segment ++ (Str.lit "seq-" ++ file)) := by
    unfold s3ObjectKey at isKey
    simp only [List.append_assoc] at isKey
    split at isKey
    · obtain ⟨root, -, equal⟩ := Option.map_eq_some_iff.mp isKey
      exact ⟨_, equal.symm⟩
    · obtain ⟨root, -, equal⟩ := Option.map_eq_some_iff.mp isKey
      exact ⟨_, equal.symm⟩
    · cases isKey
  obtain ⟨file, isLabelled⟩ := labelled
  intro equal
  rw [isLabelled] at equal
  obtain ⟨-, -, files⟩ := segmentDirectory_inj lawful (withPrefix_injective keyPrefix equal)
  have thirds := congrArg (fun s : Str => s[2]?) files
  revert thirds
  simp [Str.lit, Str.ofText, CodePoint.ofChar]

end SelfConnect.Replication
