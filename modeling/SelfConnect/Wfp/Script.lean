import SelfConnect.Wfp.Allow
import SelfConnect.Python.Textwrap
import SelfConnect.Python.Value

namespace SelfConnect.Wfp

open SelfConnect.Python SelfConnect.Python.Textwrap SelfConnect.Python.Ipaddress

/-! The deployment script that is generated for an egress profile. A script is kept as the
fixed text of its templates and the places where a text of the profile goes in. -/

def quote : CodePoint := .ofChar '\''
def hash : CodePoint := .ofChar '#'

/-- `value.replace("'", "''")`. -/
def doubleQuotes (value : Str) : Str :=
  value.flatMap fun c => if c = quote then [quote, quote] else [c]

def isControl (c : CodePoint) : Bool :=
  c.val = 0 || (9 ≤ c.val && c.val ≤ 13)

/-- Text for a single-quoted literal: it stays on its line, and its quotes are doubled. -/
structure PsText where
  raw : Str
  line : raw.any isControl = false

def PsText.text (value : PsText) : Str :=
  doubleQuotes value.raw

inductive FromDictError
  | parse (raised : ParseError)
  | missing (key : String)
  | control (fieldName : String)
  | wrongType

def sanitizePsString (value : Str) (fieldName : String) : Except FromDictError PsText :=
  if line : value.any isControl = false then .ok ⟨value, line⟩
  else .error (.control fieldName)

theorem sanitizePsString_of_line {value : Str} (line : value.any isControl = false)
    (fieldName : String) : sanitizePsString value fieldName = .ok ⟨value, line⟩ :=
  dif_pos line

structure WfpProfile where
  name : PsText
  process : PsText
  allow : List AllowEntry
  description : Value
  wfpNative : Value

def keyValue : Key → Value
  | .str s => .str s
  | .int n => .int n
  | .float x => .float x
  | .bool b => .bool b
  | .null => .null

/-- What iterating over `d["allow"]` gives. -/
def specs : Value → Except FromDictError (List Value)
  | .list items => .ok items
  | .str s => .ok (s.map fun c => .str [c])
  | .dict members => .ok (members.map fun entry => keyValue entry.1)
  | _ => .error .wrongType

def parseSpecs : List Value → Except FromDictError (List AllowEntry)
  | [] => .ok []
  | .str s :: rest =>
      match AllowEntry.parse s with
      | .error raised => .error (.parse raised)
      | .ok entry => (parseSpecs rest).map (entry :: ·)
  | _ :: _ => .error .wrongType

def required (d : Members) (key : String) : Except FromDictError Value :=
  match d.lookup (.lit key) with
  | none => .error (.missing key)
  | some v => .ok v

def sanitizeField (v : Value) (fieldName : String) : Except FromDictError PsText :=
  match v with
  | .str s => sanitizePsString s fieldName
  | _ => .error .wrongType

def WfpProfile.fromDict (d : Members) : Except FromDictError WfpProfile := do
  let allow ← parseSpecs (← specs ((d.lookup (.lit "allow")).getD (.list [])))
  let name ← required d "name"
  let process ← required d "process"
  return {
    name := ← sanitizeField name "name"
    process := ← sanitizeField process "process"
    allow
    description := (d.lookup (.lit "description")).getD (.str [])
    wfpNative := (d.lookup (.lit "wfp_native")).getD (.bool false) }

inductive Field
  | name
  | process
  | description
  | outName
  deriving DecidableEq

inductive Piece
  | fixed (text : Str)
  | hole (field : Field) (text : Str)

def Piece.text : Piece → Str
  | .fixed text => text
  | .hole _ text => text

def render (pieces : List Piece) : Str :=
  pieces.flatMap Piece.text

/-- Whole lines, and the start of the next one. -/
def lines (whole : List String) (start : String) : Str :=
  (whole.flatMap fun line => Str.lit line ++ [newline]) ++ Str.lit start

def psHeader (name process : PsText) (date description : Str) : List Piece :=
  [.fixed (lines
      ["#Requires -RunAsAdministrator",
        "# ===========================================================================",
        "# SelfConnect Enterprise — WFP Egress Policy"] "# Profile:     "),
    .hole .name name.text, .fixed (lines [""] "# Process:     "),
    .hole .process process.text,
    .fixed (lines [""] "# Generated:   " ++ date ++ lines
      ["", "# Controls:    SC-7, SC-8, AC-4", "# Gap:         G-2 remediation (gap-analysis.md)",
        "# ==========================================================================="] "# "),
    .hole .description description,
    .fixed (lines
      ["", "#", "# INSTALLATION:", "#   Run this script as Administrator ONCE per host.",
        "#   To remove: Run with -Remove flag.", "#   To verify: Run with -Verify flag.", "#",
        "# REQUIRES: Windows Firewall service running (MpsSvc)",
        "#           netsh advfirewall (ships with Windows Vista+)",
        "# ===========================================================================", "",
        "param(", "    [switch]$Remove,", "    [switch]$Verify", ")", "",
        "Set-StrictMode -Version Latest", "$ErrorActionPreference = \"Stop\"", "",
        "$RulePrefix = 'SelfConnect-WFP'"] "$ProcessName = '"),
    .hole .process process.text, .fixed (lines ["'"] "")]

def psRemove : Piece :=
  .fixed (lines
    ["", "# ── Remove mode ──────────────────────────────────────────────────────────────",
      "if ($Remove) \x7b",
      "    Write-Host \"Removing SelfConnect WFP rules...\" -ForegroundColor Yellow",
      "    $rules = Get-NetFirewallRule -DisplayName \"$RulePrefix*\" -ErrorAction " ++
        "SilentlyContinue",
      "    if ($rules) \x7b", "        $rules | Remove-NetFirewallRule",
      "        Write-Host \"Removed $($rules.Count) rules.\" -ForegroundColor Green",
      "    \x7d else \x7b",
      "        Write-Host \"No rules found with prefix '$RulePrefix'.\" -ForegroundColor Yellow",
      "    \x7d", "    exit 0", "\x7d"] "")

def psVerify : Piece :=
  .fixed (lines
    ["", "# ── Verify mode ──────────────────────────────────────────────────────────────",
      "if ($Verify) \x7b",
      "    Write-Host \"Verifying SelfConnect WFP rules...\" -ForegroundColor Cyan",
      "    $rules = Get-NetFirewallRule -DisplayName \"$RulePrefix*\" -ErrorAction " ++
        "SilentlyContinue",
      "    if (-not $rules) \x7b",
      "        Write-Host \"ERROR: No SelfConnect WFP rules found. Run install first.\" " ++
        "-ForegroundColor Red",
      "        exit 1", "    \x7d",
      "    $blockRule = $rules | Where-Object \x7b $_.DisplayName -like \"*BLOCK*\" \x7d",
      "    if (-not $blockRule) \x7b",
      "        Write-Host \"ERROR: Block-all rule missing.\" -ForegroundColor Red",
      "        exit 1", "    \x7d",
      "    $allowCount = ($rules | Where-Object \x7b$_.Action -eq 'Allow'\x7d).Count",
      "    Write-Host \"OK — $($rules.Count) rules installed ($allowCount allow, 1 block).\" " ++
        "-ForegroundColor Green",
      "    $rules | Format-Table DisplayName, Action, Enabled -AutoSize", "    exit 0",
      "\x7d"] "")

def psInstallHeader : Piece :=
  .fixed (lines
    ["", "# ── Install mode ─────────────────────────────────────────────────────────────",
      "Write-Host \"Installing SelfConnect WFP egress policy for '$ProcessName'...\" " ++
        "-ForegroundColor Cyan",
      "", "# Remove any existing SelfConnect rules first (idempotent install)",
      "$existing = Get-NetFirewallRule -DisplayName \"$RulePrefix*\" -ErrorAction " ++
        "SilentlyContinue",
      "if ($existing) \x7b",
      "    Write-Host \"Removing $($existing.Count) existing SelfConnect rules " ++
        "(reinstall)...\" -ForegroundColor Yellow",
      "    $existing | Remove-NetFirewallRule", "\x7d"] "")

def backslash : CodePoint := .ofChar '\\'

/-- A bare name applies to the executable wherever it is; in a path the backslashes are
doubled. -/
def processPathPs (process : PsText) : List Piece :=
  if !process.text.contains backslash && !process.text.contains slash then
    [.fixed (.lit "%SystemRoot%\\*\\"), .hole .process process.text]
  else
    [.hole .process
      (process.text.flatMap fun c => if c = backslash then [backslash, backslash] else [c])]

def ruleEnd : List String :=
  ["    -Profile Any `", "    -Enabled True `", "    | Out-Null"]

def psBlockRule (path : List Piece) : List Piece :=
  .fixed (lines
      ["", "# ── Block-all-outbound rule (lowest priority, deny-by-default) ────────────────",
        "New-NetFirewallRule `",
        "    -DisplayName \"SelfConnect-WFP-BLOCK-ALL-OUTBOUND\" `",
        "    -Direction Outbound `", "    -Action Block `",
        "    -Protocol Any `"] "    -Program '") ::
    path ++
    [.fixed (lines
      (["' `"] ++ ruleEnd ++
        ["Write-Host \"  [BLOCK] All outbound from $ProcessName\" -ForegroundColor Red"]) "")]

def protoStr : Protocol → String
  | .tcp => "TCP"
  | .udp => "UDP"
  | .any => "Any"

def portDigits (entry : AllowEntry) : Str :=
  match entry.port with
  | none => []
  | some port => .ofText (natText port)

def label (entry : AllowEntry) : Str :=
  let whole := if entry.port.isSome then entry.host ++ colon :: portDigits entry else entry.host
  (whole.map fun c =>
    if c = slash ∨ c = .ofChar '.' ∨ c = colon then .ofChar '-' else c).take 40

def portLine (entry : AllowEntry) : Str :=
  if entry.port.isSome then
    Str.lit "-RemotePort " ++ portDigits entry ++ lines [" `"] "    "
  else []

def psAllowRule (idx : Nat) (entry : AllowEntry) (path : List Piece) : List Piece :=
  .fixed (lines ["", "New-NetFirewallRule `"] "    -DisplayName \"SelfConnect-WFP-ALLOW-" ++
      Str.ofText (zeroPadded 4 idx) ++ Str.lit "-" ++ label entry ++
      lines ["\" `", "    -Direction Outbound `", "    -Action Allow `"] "    -Protocol " ++
      Str.lit (protoStr entry.protocol) ++ lines [" `"] "    -RemoteAddress '" ++ entry.host ++
      lines ["' `"] "    " ++ portLine entry ++ lines ["`"] "    -Program '") ::
    path ++
    [.fixed (lines (["' `"] ++ ruleEnd) "Write-Host \"  [ALLOW] " ++ label entry ++
      lines ["\" -ForegroundColor Green"] "")]

def psFooter (name : PsText) (allowCount : Nat) (outName : Str) : List Piece :=
  [.fixed (lines
      ["", "Write-Host \"\"",
        "Write-Host \"SelfConnect WFP policy installed.\" -ForegroundColor Green"]
      "Write-Host \"  Profile: "),
    .hole .name name.text,
    .fixed (lines
      ["\" -ForegroundColor Cyan",
        "Write-Host \"  Block:   All outbound from $ProcessName (deny-by-default)\" " ++
          "-ForegroundColor Red"] "Write-Host \"  Allow:   " ++
      Str.ofText (natText allowCount) ++
      lines [" explicit allowlist entries\" -ForegroundColor Green", "Write-Host \"\""]
        "Write-Host \"Verify with: .\\"),
    .hole .outName outName,
    .fixed (lines [" -Verify\" -ForegroundColor Cyan"] "Write-Host \"Remove with: .\\"),
    .hole .outName outName, .fixed (lines [" -Remove\" -ForegroundColor Cyan"] "")]

/-- `profile.description or "No description."`, where it is a text. -/
def descriptionText (description : Value) : Option Str :=
  if description.truthy then
    match description with
    | .str s => some s
    | _ => none
  else some (.lit "No description.")

structure Today where
  year : Nat
  month : Nat
  day : Nat

def Today.isoformat (today : Today) : Str :=
  .ofText (zeroPadded 4 today.year ++ '-' :: zeroPadded 2 today.month ++
    '-' :: zeroPadded 2 today.day)

section Generate

variable (split : Str → List Str) (today : Today) (profile : WfpProfile) (outName : Str)

def wrapper : Wrapper := ⟨72, by decide, split⟩

def allowRules : Nat → List AllowEntry → List (List Piece)
  | _, [] => []
  | idx, entry :: rest =>
      psAllowRule idx entry (processPathPs profile.process) :: allowRules (idx + 1) rest

/-- The parts of the script, none where the description is no text. -/
def generateParts : Option (List (List Piece)) :=
  (descriptionText profile.description).map fun description =>
    psHeader profile.name profile.process today.isoformat ((wrapper split).fill description) ::
      [psRemove] :: [psVerify] :: [psInstallHeader] ::
      psBlockRule (processPathPs profile.process) ::
      allowRules profile 1 profile.allow ++
      [psFooter profile.name profile.allow.length outName]

def generatePieces : Option (List Piece) :=
  (generateParts split today profile outName).map
    fun parts => [Piece.fixed [newline]].intercalate parts

def generatePowershell : Option Str :=
  (generatePieces split today profile outName).map render

end Generate

/-! A text of the profile is contained where it lies on comment lines, or between the
quotes of a literal that holds doubled quotes only. -/

def lastLine (before : Str) : Str :=
  before.rtakeWhile (· ≠ newline)

def firstLine (after : Str) : Str :=
  after.takeWhile (· ≠ newline)

def OnCommentLines (before text after : Str) : Prop :=
  ∀ line ∈ (lastLine before ++ text ++ firstLine after).split newline, line.head? = some hash

def InLiteral (before text after : Str) : Prop :=
  ∃ front left right back, before = front ++ quote :: left ∧ after = right ++ quote :: back ∧
    ∃ raw, left ++ text ++ right = doubleQuotes raw

def Contained (pieces : List Piece) : Prop :=
  ∀ front field text back, pieces = front ++ .hole field text :: back →
    OnCommentLines (render front) text (render back) ∨
      InLiteral (render front) text (render back)

theorem mem_split_head {c separator : CodePoint} (other : c ≠ separator) (rest : Str) :
    ∃ line ∈ Str.split separator (c :: rest), line.head? = some c := by
  rw [Str.split, if_neg other]
  cases Str.split separator rest with
  | nil => exact ⟨[c], by simp, rfl⟩
  | cons part parts => exact ⟨c :: part, by simp, rfl⟩

theorem lastLine_append {line : Str} (whole : newline ∉ line) (before : Str) :
    lastLine (before ++ newline :: line) = line := by
  induction line using List.reverseRecOn with
  | nil => simp [lastLine]
  | append_singleton front c ih =>
      rw [List.mem_append, not_or] at whole
      have other : c ≠ newline := by
        rintro rfl
        exact whole.2 (by simp)
      have inner := ih whole.1
      rw [lastLine] at inner ⊢
      rw [← List.cons_append, ← List.append_assoc,
        List.rtakeWhile_concat_pos _ _ _ (by simpa using other), inner]

theorem exists_intercalate_concat {α : Type} (separator : List α) (parts : List (List α))
    (last : List α) : ∃ front, separator.intercalate (parts ++ [last]) = front ++ last := by
  induction parts with
  | nil => exact ⟨[], by simp [List.intercalate]⟩
  | cons part rest ih =>
      obtain ⟨front, equal⟩ := ih
      cases rest with
      | nil => exact ⟨part ++ separator, by simp [List.intercalate]⟩
      | cons second others =>
          refine ⟨part ++ separator ++ front, ?_⟩
          simp only [List.cons_append, List.append_assoc] at equal ⊢
          rw [← equal]
          simp [List.intercalate]

theorem render_append (first second : List Piece) :
    render (first ++ second) = render first ++ render second :=
  List.flatMap_append

/-- The output name goes into the double-quoted string of the last line. -/
theorem not_contained_psFooter (front : List Piece) (name : PsText) (allowCount : Nat)
    (outName : Str) : ¬ Contained (front ++ psFooter name allowCount outName) := by
  intro contained
  let start : Str := .lit "Write-Host \"Remove with: .\\"
  let ending : Str := lines [" -Remove\" -ForegroundColor Cyan"] ""
  obtain ⟨before, equal⟩ : ∃ before, front ++ psFooter name allowCount outName =
      (before ++ [.fixed (Str.lit " -Verify\" -ForegroundColor Cyan" ++ newline :: start)]) ++
        .hole .outName outName :: [.fixed ending] := by
    refine ⟨front ++ (psFooter name allowCount outName).take 4, ?_⟩
    simp only [List.append_assoc, List.append_cancel_left_eq]
    rfl
  rcases contained _ _ _ _ equal with comment | literal
  · rw [OnCommentLines, render_append] at comment
    have last : lastLine (render before ++
        render [.fixed (Str.lit " -Verify\" -ForegroundColor Cyan" ++ newline :: start)]) =
          start := by
      rw [render, render, List.flatMap_singleton, Piece.text, ← List.append_assoc]
      exact lastLine_append (by decide) _
    rw [last] at comment
    obtain ⟨line, member, head⟩ := @mem_split_head (.ofChar 'W') newline (by decide)
      (start.tail ++ outName ++ firstLine (render [.fixed ending]))
    have starts := comment line member
    rw [head] at starts
    revert starts
    decide
  · obtain ⟨-, -, right, back, -, after, -⟩ := literal
    have member : quote ∈ render [.fixed ending] := by
      rw [after]
      simp
    revert member
    decide

section Generated

variable {split : Str → List Str} {today : Today} {profile : WfpProfile} {outName : Str}

theorem not_contained_of_generatePieces {pieces : List Piece}
    (generated : generatePieces split today profile outName = some pieces) :
    ¬ Contained pieces := by
  obtain ⟨parts, isParts, rfl⟩ := Option.map_eq_some_iff.mp generated
  obtain ⟨description, -, rfl⟩ := Option.map_eq_some_iff.mp isParts
  obtain ⟨front, equal⟩ := exists_intercalate_concat [Piece.fixed [newline]] _
    (psFooter profile.name profile.allow.length outName)
  rw [equal]
  exact not_contained_psFooter front _ _ _

theorem generatePieces_eq_none_iff :
    generatePieces split today profile outName = none ↔
      descriptionText profile.description = none := by
  rw [generatePieces, Option.map_eq_none_iff, generateParts, Option.map_eq_none_iff]

theorem descriptionText_eq_none_iff {description : Value} :
    descriptionText description = none ↔
      description.truthy = true ∧ ∀ s, description ≠ .str s := by
  cases truthy : description.truthy <;> cases description <;> simp_all [descriptionText]

end Generated

/-- A dictionary and an output name give a script whose texts are contained exactly where
they give no script at all. -/
theorem contained_iff (split : Str → List Str) (today : Today) (d : Members) (outName : Str) :
    (∀ profile pieces, WfpProfile.fromDict d = .ok profile →
      generatePieces split today profile outName = some pieces → Contained pieces) ↔
    ∀ profile, WfpProfile.fromDict d = .ok profile →
      profile.description.truthy = true ∧ ∀ s, profile.description ≠ .str s := by
  constructor
  · intro contained profile accepted
    rw [← descriptionText_eq_none_iff, ← @generatePieces_eq_none_iff split today profile outName]
    cases generated : generatePieces split today profile outName with
    | none => rfl
    | some pieces =>
        exact absurd (contained profile pieces accepted generated)
          (not_contained_of_generatePieces generated)
  · intro none profile pieces accepted generated
    rw [generatePieces_eq_none_iff.mpr
      (descriptionText_eq_none_iff.mpr (none profile accepted))] at generated
    cases generated

def plainDict : Members :=
  [(.str (.lit "name"), .str (.lit "lab")), (.str (.lit "process"), .str (.lit "python.exe"))]

/-- The name `$(calc).ps1` is run as a command by the script for a plain profile. -/
theorem not_contained_calc :
    ¬ ∀ (split : Str → List Str) (today : Today) (d : Members) (outName : Str) profile pieces,
      WfpProfile.fromDict d = .ok profile →
      generatePieces split today profile outName = some pieces → Contained pieces := by
  intro contained
  have accepted : ∃ profile, WfpProfile.fromDict plainDict = .ok profile ∧
      profile.description = .str [] := by
    have name : (Str.lit "lab").any isControl = false := rfl
    have process : (Str.lit "python.exe").any isControl = false := rfl
    refine ⟨⟨⟨_, name⟩, ⟨_, process⟩, [], .str [], .bool false⟩, ?_, rfl⟩
    simp [WfpProfile.fromDict, plainDict, Members.lookup, specs, required, sanitizeField,
      sanitizePsString_of_line name, sanitizePsString_of_line process, bind, Except.bind, pure,
      Except.pure, parseSpecs]
  obtain ⟨profile, accepted, description⟩ := accepted
  cases generated : generatePieces (fun text => [text]) ⟨2026, 7, 3⟩ profile
      (.lit "$(calc).ps1") with
  | none =>
      rw [generatePieces_eq_none_iff, descriptionText_eq_none_iff, description] at generated
      cases generated.1
  | some pieces =>
      exact not_contained_of_generatePieces generated
        (contained _ _ plainDict _ profile pieces accepted generated)

end SelfConnect.Wfp
