import SelfConnect.CngLedger.Log
import SelfConnect.Ledger.Log
import SelfConnect.Policy.Enforcer

namespace SelfConnect.Policy

open SelfConnect.Python SelfConnect.Python.Json SelfConnect.Library SelfConnect.Ledger

/-! The guards of outbound calls and of exports, which log every decision. -/

/-- A profile with the fields that the guards read. -/
structure GuardProfile extends ClassifiedModeProfile where
  allowCloudEgress : Bool
  allowedDestinations : List Str
  allowExport : Bool

/-- `log` of the ledger that a guard is given. -/
abbrev Logger (World Raised : Type) : Type := Request → Program World Raised Value

def decisionText (allowed : Bool) : String := if allowed then "allow" else "deny"

def resultText (allowed : Bool) : String := if allowed then "allowed" else "denied"

/-- A field that is there only when it has a value. -/
def optionalField (name : String) (value : Option Str) : List (String × Value) :=
  (value.map fun text => (name, Value.str text)).toList

def logEntry {World Raised : Type} (ledger : Option (Logger World Raised)) (action : String)
    (allowed : Bool) (metadata : List (String × Value)) : Program World Raised Unit := do
  match ledger with
  | none => pure ()
  | some log =>
      let _ ← log ⟨Str.lit action, Str.lit (resultText allowed), some (Members.of metadata), none⟩
      pure ()

namespace EgressGuard

section

variable {World Raised : Type} (profile : GuardProfile) (ledger : Option (Logger World Raised))

/-- `_log`. -/
def log (agentId destination : Str) (allowed : Bool) (denyReason : Option String) :
    Program World Raised Unit :=
  logEntry ledger "egress_check" allowed
    ([("destination", .str destination), ("agent_id", .str agentId),
      ("profile_id", .str profile.profileId), ("decision", Value.lit (decisionText allowed))] ++
      optionalField "deny_reason" (denyReason.map Str.lit))

/-- `check_outbound`. -/
def checkOutbound (destination agentId : Str) : Program World Raised Bool :=
  if !profile.allowCloudEgress then do
    log profile ledger agentId destination false (some "egress_disabled")
    return false
  else if !profile.allowedDestinations.isEmpty &&
      !profile.allowedDestinations.contains destination then do
    log profile ledger agentId destination false (some "destination_not_allowlisted")
    return false
  else do
    log profile ledger agentId destination true none
    return true

end

/-- The decision, without the log. -/
def permits (profile : GuardProfile) (destination : Str) : Bool :=
  profile.allowCloudEgress && (profile.allowedDestinations.isEmpty ||
    profile.allowedDestinations.contains destination)

end EgressGuard

namespace ExportGuard

section

variable (repr : Str → Str) (profile : GuardProfile)

/-- `can_export`: the label lies below the ceiling of the profile. -/
def canExport (label : LabelEnvelope) : Bool :=
  profile.allowExport && label.classification.rank ≤ profile.maxClassification.rank &&
    subset label.caveats profile.allowedCaveats

/-- `_deny_reason`. -/
def denyReason (label : LabelEnvelope) : Str :=
  if !profile.allowExport then Str.lit "export disabled by profile"
  else if profile.maxClassification.rank < label.classification.rank then
    Str.lit "label classification " ++ repr (Str.lit label.classification.name) ++
      Str.lit " exceeds profile ceiling " ++ repr (Str.lit profile.maxClassification.name)
  else
    let badCaveats := label.caveats.filter fun caveat => !profile.allowedCaveats.contains caveat
    if !badCaveats.isEmpty then
      Str.lit "label contains caveats not permitted in this deployment: " ++
        reprStrings repr (sortStrings badCaveats)
    else Str.lit "denied"

variable {World Raised : Type} (ledger : Option (Logger World Raised))

/-- `_log`. -/
def log (agentId : Str) (label : LabelEnvelope) (allowed : Bool) : Program World Raised Unit :=
  logEntry ledger "export_check" allowed
    ([("agent_id", .str agentId), ("profile_id", .str profile.profileId),
      ("label_classification", Value.lit label.classification.name),
      ("label_caveats", .list ((sortStrings label.caveats).map .str)),
      ("decision", Value.lit (decisionText allowed))] ++
      optionalField "deny_reason" (if allowed then none else some (denyReason repr profile label)))

/-- `check_and_log`. -/
def checkAndLog (label : LabelEnvelope) (agentId : Str) : Program World Raised Bool := do
  let allowed := canExport profile label
  log repr profile ledger agentId label allowed
  return allowed

end

end ExportGuard

/-! Both ledgers keep the field `agent_id` for themselves. -/

/-- A check returns its decision, and the ledger has one entry more. -/
def Logged {World Raised : Type} (check : Program World Raised Bool) (decision : Bool)
    (count : World → Nat) (w : World) : Prop :=
  (check w).1 = .ok decision ∧ count (check w).2 = count w + 1

/-- `entry_count` of an `AgentLedger`. -/
def entryCount (w : World) : Nat :=
  (w.disk.ledgerPaths.map fun segment =>
    (nonblankLines isLineBoundary isSpace segment.text).length).sum

/-- The metadata brings a field `agent_id`. -/
def NamesAgent (request : Request) : Prop :=
  ∃ fields, request.metadata = some (Members.of fields) ∧ "agent_id" ∈ fields.map Prod.fst

/-- A ledger that refuses such metadata before it does anything. -/
def Refuses {World Raised : Type} (log : Logger World Raised) : Prop :=
  ∀ request, NamesAgent request → ∀ w, ∃ raised, log request w = (.error raised, w)

theorem named_of_namesAgent {request : Request} (names : NamesAgent request) :
    ((request.metadata.getD []).any fun entry => entry.1 = .str (Str.lit "agent_id")) = true := by
  obtain ⟨fields, isMetadata, member⟩ := names
  obtain ⟨field, isField, isName⟩ := List.mem_map.mp member
  rw [isMetadata, Option.getD_some, List.any_eq_true]
  exact ⟨_, List.mem_map.mpr ⟨field, isField, rfl⟩, by simp [isName]⟩

theorem refuses_agentLedger (verify : Ed25519Verify) (turn : Turn) :
    Refuses (Ledger.log verify turn) := by
  intro request names w
  have member : "agent_id" ∈ request.collisions :=
    List.mem_filter.mpr ⟨by decide, named_of_namesAgent names⟩
  have collides : request.collisions.isEmpty = false :=
    List.isEmpty_eq_false_iff.mpr (List.ne_nil_of_mem member)
  refine ⟨.reservedFields request.collisions, ?_⟩
  unfold Ledger.log
  rw [collides]
  rfl

theorem refuses_cngLedger (turn : CngLedger.CngTurn) : Refuses (CngLedger.log turn) := by
  intro request names w
  have member : "agent_id" ∈ CngLedger.collisions request :=
    List.mem_filter.mpr ⟨by decide, named_of_namesAgent names⟩
  have collides : (CngLedger.collisions request).isEmpty = false :=
    List.isEmpty_eq_false_iff.mpr (List.ne_nil_of_mem member)
  refine ⟨.reservedFields (CngLedger.collisions request), ?_⟩
  unfold CngLedger.log
  rw [collides]
  rfl

section Refused

variable {World Raised : Type} {log : Logger World Raised} {w : World}

theorem bind_raised {α β : Type} {p : Program World Raised α} {f : α → Program World Raised β}
    {raised : Raised} (isRaised : p w = (.error raised, w)) : (p >>= f) w = (.error raised, w) := by
  simp only [bind, isRaised]

theorem logEntry_refused (refuses : Refuses log) {metadata : List (String × Value)}
    (names : "agent_id" ∈ metadata.map Prod.fst) (action : String) (allowed : Bool) :
    ∃ raised, logEntry (some log) action allowed metadata w = (.error raised, w) := by
  obtain ⟨raised, isRaised⟩ := refuses
    ⟨Str.lit action, Str.lit (resultText allowed), some (Members.of metadata), none⟩
    ⟨metadata, rfl, names⟩ w
  exact ⟨raised, bind_raised isRaised⟩

theorem not_logged_of_raised {check : Program World Raised Bool}
    (raises : ∃ raised, check w = (.error raised, w)) (decision : Bool) (count : World → Nat) :
    ¬ Logged check decision count w := by
  rintro ⟨isDecision, -⟩
  obtain ⟨raised, isRaised⟩ := raises
  rw [isRaised] at isDecision
  cases isDecision

theorem checkOutbound_refused (refuses : Refuses log) (profile : GuardProfile)
    (destination agentId : Str) :
    ∃ raised, EgressGuard.checkOutbound profile (some log) destination agentId w =
      (.error raised, w) := by
  have logs (allowed : Bool) (denyReason : Option String) :
      ∃ raised, EgressGuard.log profile (some log) agentId destination allowed denyReason w =
        (.error raised, w) :=
    logEntry_refused refuses (by simp) "egress_check" allowed
  unfold EgressGuard.checkOutbound
  split
  · obtain ⟨raised, isRaised⟩ := logs false (some "egress_disabled")
    exact ⟨raised, bind_raised isRaised⟩
  · split
    · obtain ⟨raised, isRaised⟩ := logs false (some "destination_not_allowlisted")
      exact ⟨raised, bind_raised isRaised⟩
    · obtain ⟨raised, isRaised⟩ := logs true none
      exact ⟨raised, bind_raised isRaised⟩

theorem checkAndLog_refused (refuses : Refuses log) (repr : Str → Str) (profile : GuardProfile)
    (label : LabelEnvelope) (agentId : Str) :
    ∃ raised, ExportGuard.checkAndLog repr profile (some log) label agentId w =
      (.error raised, w) := by
  obtain ⟨raised, isRaised⟩ : ∃ raised, ExportGuard.log repr profile (some log) agentId label
      (ExportGuard.canExport profile label) w = (.error raised, w) :=
    logEntry_refused refuses (by simp) "export_check" _
  exact ⟨raised, bind_raised isRaised⟩

end Refused

/-- No decision of a guard with a ledger is logged, nor returned. -/
theorem not_logged (repr : Str → Str) (profile : GuardProfile) (destination agentId : Str)
    (label : LabelEnvelope) :
    (∀ (verify : Ed25519Verify) (turn : Turn) (w : World),
      let ledger := some (Ledger.log verify turn)
      ¬ Logged (EgressGuard.checkOutbound profile ledger destination agentId)
          (EgressGuard.permits profile destination) entryCount w ∧
        ¬ Logged (ExportGuard.checkAndLog repr profile ledger label agentId)
          (ExportGuard.canExport profile label) entryCount w) ∧
    ∀ (turn : CngLedger.CngTurn) (w : CngLedger.CngWorld),
      let ledger := some (CngLedger.log turn)
      ¬ Logged (EgressGuard.checkOutbound profile ledger destination agentId)
          (EgressGuard.permits profile destination) (CngLedger.entryCount ·.file) w ∧
        ¬ Logged (ExportGuard.checkAndLog repr profile ledger label agentId)
          (ExportGuard.canExport profile label) (CngLedger.entryCount ·.file) w := by
  constructor
  · intro verify turn w
    have refuses := refuses_agentLedger verify turn
    exact ⟨not_logged_of_raised (checkOutbound_refused refuses profile destination agentId) _ _,
      not_logged_of_raised (checkAndLog_refused refuses repr profile label agentId) _ _⟩
  · intro turn w
    have refuses := refuses_cngLedger turn
    exact ⟨not_logged_of_raised (checkOutbound_refused refuses profile destination agentId) _ _,
      not_logged_of_raised (checkAndLog_refused refuses repr profile label agentId) _ _⟩

/-- A profile that allows every call. -/
def openProfile : GuardProfile where
  maxClassification := .cui
  allowedCaveats := []
  requireCngIdentity := false
  requireSignedPolicy := false
  requireOperatorApprovalFor := []
  allowedApps := []
  blockedApps := []
  profileId := Str.lit "open"
  allowCloudEgress := true
  allowedDestinations := []
  allowExport := true

/-- A key that signs, a disk that writes and a ledger that is still empty. -/
def workingTurn : Turn := ⟨.finite .zero, false, false, .durable, false⟩

def emptyWorld : World where
  config := ⟨⟨[], fun _ => []⟩, false, 0, 0⟩
  disk := ⟨"ledger.jsonl".toList, [], none⟩
  seq := 0
  prevHash := genesisHash
  returned := []

theorem not_logged_openProfile :
    ¬ Logged (EgressGuard.checkOutbound openProfile
        (some (Ledger.log (fun _ _ _ => true) workingTurn)) (Str.lit "api.example.com")
        (Str.lit "agent"))
      true entryCount emptyWorld := by
  rintro ⟨isDecision, -⟩
  have raised := checkOutbound_refused (w := emptyWorld)
    (refuses_agentLedger (fun _ _ _ => true) workingTurn) openProfile (Str.lit "api.example.com")
    (Str.lit "agent")
  obtain ⟨raised, isRaised⟩ := raised
  rw [isRaised] at isDecision
  cases isDecision

end SelfConnect.Policy
