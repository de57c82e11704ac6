import SelfConnect.Python.Codec

namespace SelfConnect.Windows

open SelfConnect.Python

/-! Logical names of terminals. A name is resolved against all top-level windows, each of
them put to the target verifier; one of them, and only one, may match. -/

/-- An object as far as exact types tell: a built-in value, or anything else. -/
inductive Object
  | value (v : Value)
  | other

/-- A dict that is only asked for string keys. -/
structure Report where
  get : String → Option Object

namespace Report

variable (report : Report)

def int? (key : String) : Option Int :=
  match report.get key with
  | some (.value (.int n)) => some n
  | _ => none

def str? (key : String) : Option Str :=
  match report.get key with
  | some (.value (.str s)) => some s
  | _ => none

def isBool (key : String) (b : Bool) : Bool :=
  match report.get key with
  | some (.value (.bool b')) => b' == b
  | _ => false

def isEmptyList (key : String) : Bool :=
  match report.get key with
  | some (.value (.list [])) => true
  | _ => false

end Report

/-- `ntpath`, as it works on the machine. -/
structure Ntpath where
  normcase : Str → Str
  abspath : Str → Str
  basename : Str → Str

def hwndMax : Int := 0xFFFFFFFE

def candidateLimit : Nat := 4096

structure LogicalTargetSpec where
  logicalId : Str
  expectedExePath : Str
  expectedClass : Str
  expectedTitleSha256 : Str
  allowedRoles : List Str

structure ResolvedLogicalTarget where
  logicalId : Str
  hwnd : Int
  pid : Int
  exe : Str
  exePath : Str
  windowClass : Str
  title : Str
  titleSha256 : Str
  deriving DecidableEq

inductive LogicalTargetError
  | verifierUnavailable
  | notConfigured (logicalId : Str)
  | notAuthorized (role logicalId : Str)
  | enumerationExceeded
  | invalidHwnd
  | duplicateHwnds
  | enumerationFailed
  | verificationFailed
  | invalidReport
  | incompleteBinding
  | mismatchedReport
  | noMatch (logicalId : Str)
  | ambiguous (logicalId : Str)
  deriving DecidableEq

/-- What `resolve` raises: its own error, or the one of `title.encode("utf-8")`. -/
inductive Raised
  | logicalTarget (error : LogicalTargetError)
  | unicodeEncode
  deriving DecidableEq

/-- What an iteration over the windows gives next. -/
inductive Next
  | yields (candidate : Object)
  | stops
  | raises

inductive Verification
  | report (report : Report)
  | notDict
  | raises

structure Resolver where
  specs : List LogicalTargetSpec
  unique : (specs.map LogicalTargetSpec.logicalId).Nodup
  enumerateWindows : Nat → Next

/-- The candidate, if it may join those seen before. -/
def admitCandidate (seen : List Int) : Object → Except LogicalTargetError Int
  | .value (.int hwnd) =>
      if 1 ≤ hwnd ∧ hwnd ≤ hwndMax then
        if hwnd ∈ seen then .error .duplicateHwnds else .ok hwnd
      else .error .invalidHwnd
  | _ => .error .invalidHwnd

/-- The candidates from the `i`-th on, with room for so many. -/
def collectCandidates (enumerate : Nat → Next) :
    Nat → Nat → List Int → Except LogicalTargetError (List Int)
  | 0, i, _ =>
      match enumerate i with
      | .stops => .ok []
      | .raises => .error .enumerationFailed
      | .yields _ => .error .enumerationExceeded
  | room + 1, i, seen =>
      match enumerate i with
      | .stops => .ok []
      | .raises => .error .enumerationFailed
      | .yields candidate =>
          match admitCandidate seen candidate with
          | .error raised => .error raised
          | .ok hwnd =>
              (collectCandidates enumerate room (i + 1) (hwnd :: seen)).map (hwnd :: ·)

structure Identity where
  pid : Int
  exe : Str
  exePath : Str
  windowClass : Str
  title : Str

/-- The identity in a successful report, if the report is complete. -/
def identityOf (hwnd : Int) (report : Report) : Option Identity :=
  match report.int? "pid", report.str? "exe", report.str? "exe_path", report.str? "class",
    report.str? "title" with
  | some pid, some exe, some exePath, some windowClass, some title =>
      if 0 < pid ∧ exe ≠ [] ∧ report.int? "hwnd" = some hwnd ∧
          report.isBool "valid" true = true ∧ report.isBool "is_terminal" true = true ∧
          report.isBool "is_self" false = true ∧ report.isEmptyList "reasons" = true then
        some { pid, exe, exePath, windowClass, title }
      else none
  | _, _, _, _, _ => none

section Resolve

variable (paths : Ntpath)

def agrees (spec : LogicalTargetSpec) (identity : Identity) (titleSha256 : Str) : Prop :=
  paths.normcase (paths.abspath identity.exePath) =
      paths.normcase (paths.abspath spec.expectedExePath) ∧
    paths.normcase identity.exe = paths.normcase (paths.basename identity.exePath) ∧
    identity.windowClass = spec.expectedClass ∧ titleSha256 = spec.expectedTitleSha256

instance (spec : LogicalTargetSpec) (identity : Identity) (titleSha256 : Str) :
    Decidable (agrees paths spec identity titleSha256) :=
  inferInstanceAs (Decidable (_ ∧ _ ∧ _ ∧ _))

def binding (spec : LogicalTargetSpec) (hwnd : Int) (identity : Identity) (titleSha256 : Str) :
    ResolvedLogicalTarget :=
  { logicalId := spec.logicalId
    hwnd
    pid := identity.pid
    exe := identity.exe
    exePath := identity.exePath
    windowClass := identity.windowClass
    title := identity.title
    titleSha256 }

/-- The verdict on one window: no match, a match, or an end of the resolution. -/
def judge (spec : LogicalTargetSpec) (hwnd : Int) :
    Verification → Except Raised (Option ResolvedLogicalTarget)
  | .raises => .error (.logicalTarget .verificationFailed)
  | .notDict => .error (.logicalTarget .invalidReport)
  | .report report =>
      if report.isBool "ok" true then
        match identityOf hwnd report with
        | none => .error (.logicalTarget .incompleteBinding)
        | some identity =>
            match identity.title.toText? with
            | none => .error .unicodeEncode
            | some title =>
                let titleSha256 := Str.ofText (sha256Hex title)
                if agrees paths spec identity titleSha256 then
                  .ok (some (binding spec hwnd identity titleSha256))
                else .error (.logicalTarget .mismatchedReport)
      else .ok none

def findMatches (spec : LogicalTargetSpec) (verifier : Int → Verification) :
    List Int → Except Raised (List ResolvedLogicalTarget)
  | [] => .ok []
  | hwnd :: rest =>
      match judge paths spec hwnd (verifier hwnd) with
      | .error raised => .error raised
      | .ok found => (findMatches spec verifier rest).map (found.toList ++ ·)

/-- The verifier answers for a window and the selectors of the specification. -/
abbrev TargetVerifier := LogicalTargetSpec → Int → Verification

def onlyMatch (logicalId : Str) :
    List ResolvedLogicalTarget → Except Raised ResolvedLogicalTarget
  | [] => .error (.logicalTarget (.noMatch logicalId))
  | [found] => .ok found
  | _ => .error (.logicalTarget (.ambiguous logicalId))

/-- `None` is a verifier that cannot be called. -/
def Resolver.resolve (resolver : Resolver) (logicalId role : Str)
    (verifier : Option TargetVerifier) : Except Raised ResolvedLogicalTarget :=
  match verifier with
  | none => .error (.logicalTarget .verifierUnavailable)
  | some verify =>
      match resolver.specs.find? fun spec => spec.logicalId = logicalId with
      | none => .error (.logicalTarget (.notConfigured logicalId))
      | some spec =>
          if spec.allowedRoles.any fun allowed => allowed = role then
            match collectCandidates resolver.enumerateWindows candidateLimit 0 [] with
            | .error raised => .error (.logicalTarget raised)
            | .ok candidates =>
                match findMatches paths spec (verify spec) candidates with
                | .error raised => .error raised
                | .ok found => onlyMatch logicalId found
          else .error (.logicalTarget (.notAuthorized role logicalId))

end Resolve

/-! When a window is returned. -/

/-- The enumeration gives these windows, and ends. -/
def Enumerates (enumerate : Nat → Next) : Nat → List Int → Prop
  | i, [] => enumerate i = .stops
  | i, hwnd :: rest =>
      enumerate i = .yields (.value (.int hwnd)) ∧ Enumerates enumerate (i + 1) rest

def Positive (verification : Verification) : Prop :=
  ∃ report, verification = .report report ∧ report.isBool "ok" true = true

section Binds

variable (paths : Ntpath)

/-- A complete report that agrees with the specification, and what it binds. -/
def Binds (spec : LogicalTargetSpec) (hwnd : Int) (verification : Verification)
    (target : ResolvedLogicalTarget) : Prop :=
  ∃ report identity title, verification = .report report ∧
    identityOf hwnd report = some identity ∧ identity.title.toText? = some title ∧
    agrees paths spec identity (.ofText (sha256Hex title)) ∧
    target = binding spec hwnd identity (.ofText (sha256Hex title))

/-- Exactly one window of a valid enumeration has a positive report, and it binds this
target. -/
structure Unambiguous (spec : LogicalTargetSpec) (enumerate : Nat → Next)
    (verify : Int → Verification) (role : Str) (windows : List Int) (hwnd : Int)
    (target : ResolvedLogicalTarget) : Prop where
  allowed : role ∈ spec.allowedRoles
  enumerates : Enumerates enumerate 0 windows
  bounded : windows.length ≤ candidateLimit
  nodup : windows.Nodup
  valid : ∀ w ∈ windows, 1 ≤ w ∧ w ≤ hwndMax
  complete : ∀ w ∈ windows, Positive (verify w) → ∃ bound, Binds paths spec w (verify w) bound
  member : hwnd ∈ windows
  positive : Positive (verify hwnd)
  only : ∀ w ∈ windows, Positive (verify w) → w = hwnd
  binds : Binds paths spec hwnd (verify hwnd) target

/-- Besides, the verifier gave a report for every window. -/
structure Resolves (spec : LogicalTargetSpec) (enumerate : Nat → Next)
    (verify : Int → Verification) (role : Str) (windows : List Int) (hwnd : Int)
    (target : ResolvedLogicalTarget) : Prop
    extends Unambiguous paths spec enumerate verify role windows hwnd target where
  answered : ∀ w ∈ windows, ∃ report, verify w = .report report

end Binds

theorem admitCandidate_eq_ok_iff {seen : List Int} {candidate : Object} {hwnd : Int} :
    admitCandidate seen candidate = .ok hwnd ↔
      candidate = .value (.int hwnd) ∧ (1 ≤ hwnd ∧ hwnd ≤ hwndMax) ∧ hwnd ∉ seen := by
  unfold admitCandidate
  split
  · next n =>
      split
      · next range =>
          split
          · next member =>
              simp only [reduceCtorEq, Object.value.injEq, Value.int.injEq, false_iff]
              rintro ⟨rfl, -, fresh⟩
              exact fresh member
          · next fresh =>
              simp only [Except.ok.injEq, Object.value.injEq, Value.int.injEq]
              constructor
              · rintro rfl
                exact ⟨rfl, range, fresh⟩
              · exact And.left
      · next outside =>
          simp only [reduceCtorEq, Object.value.injEq, Value.int.injEq, false_iff]
          rintro ⟨rfl, range, -⟩
          exact outside range
  · next other =>
      simp only [reduceCtorEq, false_iff]
      rintro ⟨equal, -, -⟩
      exact other hwnd equal

theorem collectCandidates_eq_ok_iff {enumerate : Nat → Next} {room i : Nat} {seen ws : List Int} :
    collectCandidates enumerate room i seen = .ok ws ↔
      Enumerates enumerate i ws ∧ ws.length ≤ room ∧ ws.Nodup ∧
        (∀ w ∈ ws, 1 ≤ w ∧ w ≤ hwndMax) ∧ ∀ w ∈ ws, w ∉ seen := by
  induction room generalizing i seen ws with
  | zero =>
      rw [collectCandidates]
      cases next : enumerate i <;> cases ws <;> simp [Enumerates, next]
  | succ room ih =>
      rw [collectCandidates]
      cases next : enumerate i with
      | stops => cases ws <;> simp [Enumerates, next]
      | raises => cases ws <;> simp [Enumerates, next]
      | yields candidate =>
          cases ws with
          | nil =>
              dsimp only
              cases admitCandidate seen candidate with
              | error raised => simp [Enumerates, next]
              | ok hwnd =>
                  dsimp only
                  cases collectCandidates enumerate room (i + 1) (hwnd :: seen) <;>
                    simp [Enumerates, next, Except.map]
          | cons w rest =>
              have first : Enumerates enumerate i (w :: rest) ↔
                  candidate = .value (.int w) ∧ Enumerates enumerate (i + 1) rest := by
                rw [Enumerates, next, Next.yields.injEq]
              have admitted := @admitCandidate_eq_ok_iff seen candidate w
              have inner := @ih (i + 1) (w :: seen) rest
              dsimp only
              rw [first, List.length_cons, Nat.add_le_add_iff_right, List.nodup_cons]
              simp only [List.forall_mem_cons]
              cases found : admitCandidate seen candidate with
              | error raised =>
                  rw [found] at admitted
                  simp only [reduceCtorEq, false_iff] at admitted ⊢
                  rintro ⟨⟨isInt, -⟩, -, -, ⟨range, -⟩, fresh, -⟩
                  exact admitted ⟨isInt, range, fresh⟩
              | ok hwnd =>
                  dsimp only
                  have parts := admitCandidate_eq_ok_iff.mp found
                  constructor
                  · intro mapped
                    cases tail : collectCandidates enumerate room (i + 1) (hwnd :: seen) with
                    | error raised =>
                        rw [tail] at mapped
                        cases mapped
                    | ok collected =>
                        rw [tail] at mapped
                        cases mapped
                        obtain ⟨more, short, nodup, range, fresh⟩ := inner.mp tail
                        refine ⟨⟨parts.1, more⟩, short, ⟨?_, nodup⟩, ⟨parts.2.1, range⟩,
                          parts.2.2, ?_⟩
                        · intro member
                          exact fresh w member List.mem_cons_self
                        · intro v member again
                          exact fresh v member (List.mem_cons_of_mem w again)
                  · rintro ⟨⟨isInt, more⟩, short, ⟨fresh, nodup⟩, ⟨-, range⟩, -, others⟩
                    obtain rfl : hwnd = w := by
                      rw [parts.1] at isInt
                      cases isInt
                      rfl
                    rw [inner.mpr ⟨more, short, nodup, range, ?_⟩]
                    · rfl
                    · intro v member again
                      rcases List.mem_cons.mp again with rfl | earlier
                      · exact fresh member
                      · exact others v member earlier

section Judge

variable {paths : Ntpath} {spec : LogicalTargetSpec} {hwnd : Int} {verification : Verification}

theorem judge_eq_ok_none_iff : judge paths spec hwnd verification = .ok none ↔
    (∃ report, verification = .report report) ∧ ¬ Positive verification := by
  cases verification with
  | raises => simp [judge]
  | notDict => simp [judge]
  | report report =>
      simp only [judge, Positive, Verification.report.injEq, exists_eq', true_and,
        exists_eq_left']
      split
      · next positive =>
          simp only [positive, not_true_eq_false, iff_false]
          split
          · simp
          · split
            · simp
            · split <;> simp
      · next negative => simpa using negative

theorem judge_eq_ok_some_iff {target : ResolvedLogicalTarget} :
    judge paths spec hwnd verification = .ok (some target) ↔
      Positive verification ∧ Binds paths spec hwnd verification target := by
  cases verification with
  | raises => simp [judge, Positive]
  | notDict => simp [judge, Positive]
  | report report =>
      simp only [judge, Positive, Binds, Verification.report.injEq, exists_eq_left',
        exists_and_left]
      split
      · next positive =>
          simp only [positive, true_and]
          cases identity : identityOf hwnd report with
          | none => simp
          | some found =>
              simp only [Option.some.injEq, exists_eq_left']
              cases text : found.title.toText? with
              | none => simp
              | some title =>
                  simp only [Option.some.injEq, exists_eq_left']
                  split
                  · next same => simp [same, eq_comm]
                  · next differs => simp [differs]
      · next negative => simp [negative]

/-- The one error that is not the resolver's own. -/
theorem judge_eq_error {raised : Raised}
    (isError : judge paths spec hwnd verification = .error raised) :
    (∃ error, raised = .logicalTarget error) ∨
      ∃ report identity, verification = .report report ∧ report.isBool "ok" true = true ∧
        identityOf hwnd report = some identity ∧ identity.title.toText? = none := by
  cases verification with
  | raises =>
      cases isError
      exact Or.inl ⟨_, rfl⟩
  | notDict =>
      cases isError
      exact Or.inl ⟨_, rfl⟩
  | report report =>
      simp only [judge] at isError
      split at isError
      · next positive =>
          split at isError
          · cases isError
            exact Or.inl ⟨_, rfl⟩
          · next identity isIdentity =>
              split at isError
              · next noText => exact Or.inr ⟨report, identity, rfl, positive, isIdentity, noText⟩
              · split at isError
                · cases isError
                · cases isError
                  exact Or.inl ⟨_, rfl⟩
      · cases isError

end Judge

section Matches

variable {paths : Ntpath} {spec : LogicalTargetSpec} {verifier : Int → Verification}
  {windows : List Int}

def matchOf (paths : Ntpath) (spec : LogicalTargetSpec) (verifier : Int → Verification)
    (hwnd : Int) : Option ResolvedLogicalTarget :=
  match judge paths spec hwnd (verifier hwnd) with
  | .ok found => found
  | .error _ => none

theorem matchOf_eq_some_iff {hwnd : Int} {target : ResolvedLogicalTarget} :
    matchOf paths spec verifier hwnd = some target ↔
      judge paths spec hwnd (verifier hwnd) = .ok (some target) := by
  unfold matchOf
  split <;> simp_all

theorem findMatches_eq_ok_iff {found : List ResolvedLogicalTarget} :
    findMatches paths spec verifier windows = .ok found ↔
      (∀ w ∈ windows, ∃ o, judge paths spec w (verifier w) = .ok o) ∧
        found = windows.filterMap (matchOf paths spec verifier) := by
  induction windows generalizing found with
  | nil => simp [findMatches, eq_comm]
  | cons hwnd rest ih =>
      rw [findMatches, List.forall_mem_cons]
      cases judged : judge paths spec hwnd (verifier hwnd) with
      | error raised => simp
      | ok o =>
          have isMatch : matchOf paths spec verifier hwnd = o := by
            unfold matchOf
            rw [judged]
          simp only [Except.ok.injEq, exists_eq', true_and]
          cases tail : findMatches paths spec verifier rest with
          | error raised =>
              have never : ¬ ∀ w ∈ rest, ∃ o, judge paths spec w (verifier w) = .ok o := by
                intro judged
                rw [ih.mpr ⟨judged, rfl⟩] at tail
                cases tail
              simp [Except.map, never]
          | ok collected =>
              obtain ⟨each, rfl⟩ := ih.mp tail
              rw [Except.map, Except.ok.injEq, List.filterMap_cons, isMatch, and_iff_right each]
              cases o <;> exact eq_comm

theorem findMatches_eq_error {raised : Raised}
    (isError : findMatches paths spec verifier windows = .error raised) :
    ∃ w ∈ windows, judge paths spec w (verifier w) = .error raised := by
  induction windows with
  | nil => cases isError
  | cons hwnd rest ih =>
      rw [findMatches] at isError
      split at isError
      · next judged =>
          cases isError
          exact ⟨hwnd, List.mem_cons_self, judged⟩
      · cases tail : findMatches paths spec verifier rest with
        | error raised' =>
            rw [tail] at isError
            cases isError
            obtain ⟨w, member, judged⟩ := ih tail
            exact ⟨w, List.mem_cons_of_mem hwnd member, judged⟩
        | ok collected =>
            rw [tail] at isError
            cases isError

theorem onlyMatch_eq_ok_iff {logicalId : Str} {found : List ResolvedLogicalTarget}
    {target : ResolvedLogicalTarget} :
    onlyMatch logicalId found = .ok target ↔ found = [target] := by
  unfold onlyMatch
  split
  · simp
  · simp
  · next several =>
      simp only [reduceCtorEq, false_iff]
      exact several target

end Matches

/-- In a list without repetitions, one element alone is mapped. -/
theorem filterMap_eq_singleton_iff {α β : Type} {f : α → Option β} {xs : List α} {b : β}
    (nodup : xs.Nodup) : xs.filterMap f = [b] ↔
      ∃ a ∈ xs, f a = some b ∧ ∀ a' ∈ xs, (f a').isSome = true → a' = a := by
  constructor
  · intro equal
    obtain ⟨front, a, back, rfl, before, isMapped, after⟩ :=
      List.filterMap_eq_cons_iff.mp equal
    rw [List.filterMap_eq_nil_iff] at after
    refine ⟨a, by simp, isMapped, ?_⟩
    intro a' member isSome
    rcases List.mem_append.mp member with early | late
    · rw [before a' early] at isSome
      cases isSome
    · rcases List.mem_cons.mp late with rfl | later
      · rfl
      · rw [after a' later] at isSome
        cases isSome
  · rintro ⟨a, member, isMapped, only⟩
    obtain ⟨front, back, rfl⟩ := List.append_of_mem member
    have others := List.nodup_append.mp nodup
    have none : ∀ a' ∈ front ++ back, f a' = none := by
      intro a' elsewhere
      by_contra isSome
      have same := only a' (by
        rcases List.mem_append.mp elsewhere with early | late
        · exact List.mem_append_left _ early
        · exact List.mem_append_right _ (List.mem_cons_of_mem a late))
        (Option.isSome_iff_ne_none.mpr isSome)
      subst same
      rcases List.mem_append.mp elsewhere with early | late
      · exact others.2.2 a' early a' List.mem_cons_self rfl
      · exact (List.nodup_cons.mp others.2.1).1 late
    rw [List.filterMap_append, List.filterMap_cons, isMapped,
      List.filterMap_eq_nil_iff.mpr fun a' early => none a' (List.mem_append_left _ early),
      List.filterMap_eq_nil_iff.mpr fun a' late => none a' (List.mem_append_right _ late)]
    rfl

section Resolve

variable {paths : Ntpath} {resolver : Resolver} {logicalId role : Str} {verify : TargetVerifier}
  {target : ResolvedLogicalTarget}

theorem resolves_of_windows {spec : LogicalTargetSpec} {enumerate : Nat → Next}
    {windows : List Int} (allowed : role ∈ spec.allowedRoles)
    (collected : collectCandidates enumerate candidateLimit 0 [] = .ok windows)
    (matched : findMatches paths spec (verify spec) windows = .ok [target]) :
    ∃ hwnd, Resolves paths spec enumerate (verify spec) role windows hwnd target := by
  obtain ⟨enumerates, bounded, nodup, valid, -⟩ := collectCandidates_eq_ok_iff.mp collected
  obtain ⟨each, found⟩ := findMatches_eq_ok_iff.mp matched
  obtain ⟨hwnd, member, isMatch, only⟩ := (filterMap_eq_singleton_iff nodup).mp found.symm
  have judged := judge_eq_ok_some_iff.mp (matchOf_eq_some_iff.mp isMatch)
  have positiveOk : ∀ w ∈ windows, Positive (verify spec w) →
      ∃ bound, judge paths spec w (verify spec w) = .ok (some bound) := by
    intro w isWindow positive
    obtain ⟨o, judged⟩ := each w isWindow
    cases o with
    | none => exact absurd positive (judge_eq_ok_none_iff.mp judged).2
    | some bound => exact ⟨bound, judged⟩
  refine ⟨hwnd, ⟨allowed, enumerates, bounded, nodup, valid, ?_, member, judged.1, ?_,
    judged.2⟩, ?_⟩
  · intro w isWindow positive
    obtain ⟨bound, judged⟩ := positiveOk w isWindow positive
    exact ⟨bound, (judge_eq_ok_some_iff.mp judged).2⟩
  · intro w isWindow positive
    obtain ⟨bound, judged⟩ := positiveOk w isWindow positive
    exact only w isWindow (by rw [matchOf_eq_some_iff.mpr judged]; rfl)
  · intro w isWindow
    obtain ⟨o, judged⟩ := each w isWindow
    cases o with
    | none => exact (judge_eq_ok_none_iff.mp judged).1
    | some bound =>
        obtain ⟨report, -, -, isReport, -⟩ := (judge_eq_ok_some_iff.mp judged).2
        exact ⟨report, isReport⟩

theorem windows_of_resolves {spec : LogicalTargetSpec} {enumerate : Nat → Next}
    {windows : List Int} {hwnd : Int}
    (resolves : Resolves paths spec enumerate (verify spec) role windows hwnd target) :
    collectCandidates enumerate candidateLimit 0 [] = .ok windows ∧
      findMatches paths spec (verify spec) windows = .ok [target] := by
  constructor
  · exact collectCandidates_eq_ok_iff.mpr ⟨resolves.enumerates, resolves.bounded,
      resolves.nodup, resolves.valid, by simp⟩
  · refine findMatches_eq_ok_iff.mpr ⟨?_, ?_⟩
    · intro w isWindow
      by_cases positive : Positive (verify spec w)
      · obtain ⟨bound, binds⟩ := resolves.complete w isWindow positive
        exact ⟨some bound, judge_eq_ok_some_iff.mpr ⟨positive, binds⟩⟩
      · exact ⟨none, judge_eq_ok_none_iff.mpr ⟨resolves.answered w isWindow, positive⟩⟩
    · symm
      refine (filterMap_eq_singleton_iff resolves.nodup).mpr ⟨hwnd, resolves.member, ?_, ?_⟩
      · exact matchOf_eq_some_iff.mpr
          (judge_eq_ok_some_iff.mpr ⟨resolves.positive, resolves.binds⟩)
      · intro w isWindow isSome
        obtain ⟨bound, isMatch⟩ := Option.isSome_iff_exists.mp isSome
        exact resolves.only w isWindow
          (judge_eq_ok_some_iff.mp (matchOf_eq_some_iff.mp isMatch)).1

theorem resolve_eq_ok_iff {verifier : Option TargetVerifier} :
    resolver.resolve paths logicalId role verifier = .ok target ↔
      ∃ verify spec windows hwnd, verifier = some verify ∧
        resolver.specs.find? (fun spec => spec.logicalId = logicalId) = some spec ∧
        Resolves paths spec resolver.enumerateWindows (verify spec) role windows hwnd target := by
  cases verifier with
  | none => simp [Resolver.resolve]
  | some verify =>
      rw [Resolver.resolve]
      cases configured : resolver.specs.find? fun spec => spec.logicalId = logicalId with
      | none => simp
      | some spec =>
          simp only [Option.some.injEq, exists_and_left, exists_eq_left']
          split
          · next allowed =>
              cases collected :
                  collectCandidates resolver.enumerateWindows candidateLimit 0 [] with
              | error raised =>
                  simp only [reduceCtorEq, false_iff]
                  rintro ⟨windows, hwnd, resolves⟩
                  rw [(windows_of_resolves resolves).1] at collected
                  cases collected
              | ok windows =>
                  dsimp only
                  constructor
                  · intro resolved
                    cases matched : findMatches paths spec (verify spec) windows with
                    | error raised =>
                        rw [matched] at resolved
                        cases resolved
                    | ok found =>
                        rw [matched] at resolved
                        rw [onlyMatch_eq_ok_iff.mp resolved] at matched
                        exact ⟨windows,
                          resolves_of_windows (by simpa using allowed) collected matched⟩
                  · rintro ⟨windows', hwnd, resolves⟩
                    obtain ⟨same, matched⟩ := windows_of_resolves resolves
                    rw [same] at collected
                    cases collected
                    rw [matched]
                    rfl
          · next denied =>
              simp only [reduceCtorEq, false_iff]
              rintro ⟨windows, hwnd, resolves⟩
              exact denied (by simpa using resolves.allowed)

/-- An error is the resolver's own, unless a successful and complete report has a title
that cannot be encoded. -/
theorem resolve_eq_error {verifier : Option TargetVerifier} {raised : Raised}
    (isError : resolver.resolve paths logicalId role verifier = .error raised) :
    (∃ error, raised = .logicalTarget error) ∨
      ∃ verify spec hwnd report identity, verifier = some verify ∧
        verify spec hwnd = .report report ∧ report.isBool "ok" true = true ∧
        identityOf hwnd report = some identity ∧ identity.title.toText? = none := by
  unfold Resolver.resolve at isError
  split at isError
  · cases isError
    exact Or.inl ⟨_, rfl⟩
  · next verify =>
      split at isError
      · cases isError
        exact Or.inl ⟨_, rfl⟩
      · next spec _ =>
          split at isError
          · split at isError
            · cases isError
              exact Or.inl ⟨_, rfl⟩
            · split at isError
              · next raised' matched =>
                  cases isError
                  obtain ⟨w, -, judged⟩ := findMatches_eq_error matched
                  rcases judge_eq_error judged with own | ⟨report, identity, unencodable⟩
                  · exact Or.inl own
                  · exact Or.inr ⟨verify, spec, w, report, identity, rfl, unencodable⟩
              · next found _ =>
                  unfold onlyMatch at isError
                  split at isError
                  · cases isError
                    exact Or.inl ⟨_, rfl⟩
                  · cases isError
                  · cases isError
                    exact Or.inl ⟨_, rfl⟩
          · cases isError
            exact Or.inl ⟨_, rfl⟩

end Resolve

section Unanswered

def plainPaths : Ntpath := ⟨id, id, fun _ => .lit "wt.exe"⟩

def terminalSpec : LogicalTargetSpec where
  logicalId := .lit "ops"
  expectedExePath := .lit "c:\\wt.exe"
  expectedClass := .lit "ConsoleWindowClass"
  expectedTitleSha256 := .ofText (sha256Hex ['t'])
  allowedRoles := [.lit "sender"]

def twoWindows : Resolver where
  specs := [terminalSpec]
  unique := by simp
  enumerateWindows := fun i =>
    if i < 2 then .yields (.value (.int (i + 1))) else .stops

def terminalReport : Report where
  get := fun key =>
    if key = "pid" then some (.value (.int 7))
    else if key = "hwnd" then some (.value (.int 1))
    else if key = "exe" then some (.value (.str (.lit "wt.exe")))
    else if key = "exe_path" then some (.value (.str (.lit "c:\\wt.exe")))
    else if key = "class" then some (.value (.str (.lit "ConsoleWindowClass")))
    else if key = "title" then some (.value (.str (.ofText ['t'])))
    else if key = "reasons" then some (.value (.list []))
    else if key = "is_self" then some (.value (.bool false))
    else some (.value (.bool true))

/-- The first window matches; the verifier raises for the second. -/
def oneAnswer : TargetVerifier := fun _ hwnd =>
  if hwnd = 1 then .report terminalReport else .raises

def terminalIdentity : Identity :=
  ⟨7, .lit "wt.exe", .lit "c:\\wt.exe", .lit "ConsoleWindowClass", .ofText ['t']⟩

theorem unambiguous_twoWindows :
    Unambiguous plainPaths terminalSpec twoWindows.enumerateWindows (oneAnswer terminalSpec)
      (.lit "sender") [1, 2] 1
      (binding terminalSpec 1 terminalIdentity (.ofText (sha256Hex ['t']))) := by
  have binds : Binds plainPaths terminalSpec 1 (oneAnswer terminalSpec 1)
      (binding terminalSpec 1 terminalIdentity (.ofText (sha256Hex ['t']))) :=
    ⟨terminalReport, terminalIdentity, ['t'], rfl, rfl, Str.toText?_ofText ['t'],
      ⟨rfl, rfl, rfl, rfl⟩, rfl⟩
  have only : ∀ w ∈ [(1 : Int), 2], Positive (oneAnswer terminalSpec w) → w = 1 := by
    intro w member positive
    obtain ⟨report, isReport, -⟩ := positive
    by_contra other
    rw [oneAnswer, if_neg other] at isReport
    cases isReport
  exact {
    allowed := List.mem_singleton.mpr rfl
    enumerates := ⟨rfl, rfl, rfl⟩
    bounded := by decide
    nodup := by decide
    valid := by decide
    complete := fun w member positive => by
      obtain rfl := only w member positive
      exact ⟨_, binds⟩
    member := List.mem_cons_self
    positive := ⟨terminalReport, rfl, rfl⟩
    only
    binds }

end Unanswered

end SelfConnect.Windows
