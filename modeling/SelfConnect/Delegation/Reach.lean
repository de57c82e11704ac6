import SelfConnect.Delegation.Verified

namespace SelfConnect.Delegation

open SelfConnect.Python SelfConnect.Library

/-! When a delegated call begins its action, and what it then hands on. -/

/-- What text and JSON can carry. -/
def Carried : Except Str Members → Prop
  | .ok result => Json.strict (.dict result) = true
  | .error raised => Json.encodable raised = true

abbrev ControlScript : Type :=
  Script (fun _ : Value => Except Str Members) (Except Str Value)

/-- A run of the control that has the tool executed at most once. -/
def AtMostOnce : ControlScript → Prop
  | .done _ => True
  | .ask _ next => ∀ outcome, ∃ ended, next outcome = .done ended

/-- A run of the control that hands on what can be carried, when it is handed such. -/
def HandsOn : ControlScript → Prop
  | .done (.ok value) => Json.strict value = true
  | .done (.error raised) => Json.encodable raised = true
  | .ask _ next => ∀ outcome, Carried outcome → HandsOn (next outcome)

/-- What `run_tool` hands on when the control has ended. -/
def handed : Except Str Value → Option Members → Except Str (Members × Members)
  | .error raised, _ => .error raised
  | .ok (.dict value), some executed => .ok (value, executed)
  | .ok (.dict _), none => .error (Str.lit "AGT returned without executing the protected tool")
  | .ok _, _ => .error (Str.lit "AGT returned a non-object SelfConnect tool result")

def notObject : Str := Str.lit "AGT produced non-object SelfConnect tool arguments"

/-- Some run of the handler is admitted by the checks before the action is begun. -/
def reaches (check : Nat → Members → Except Str ActionTuple) : ControlScript → Nat → Bool
  | .done _, _ => false
  | .ask (.dict effective) next, count =>
      match check count effective with
      | .ok _ => true
      | .error raised => reaches check (next (.error raised)) (count + 1)
  | .ask _ next, count => reaches check (next (.error notObject)) count

/-- What the re-verification of one run of the handler says. -/
def Dispatcher.checkAt (dispatcher : Dispatcher) (surroundings : Surroundings) (name : Str)
    (authorization : VerifiedDelegatedCall) (count : Nat) (effective : Members) :
    Except Str ActionTuple :=
  dispatcher.checkDelegatedCall (surroundings.attempts count) name effective (some authorization)

/-- The call comes to begin its action: the profile requires it, the arguments are valid,
and some run of the handler passes the verification at the actuator. -/
def Dispatcher.reaches (dispatcher : Dispatcher) (surroundings : Surroundings) (name : Str)
    (args : Members) (authorization : VerifiedDelegatedCall) : Bool :=
  let check := dispatcher.checkAt surroundings name authorization
  dispatcher.profile.governed &&
    match dispatcher.registry.validate dispatcher.builtins name args with
    | .error _ => false
    | .ok validated =>
        match dispatcher.agtControl with
        | none => (check 0 validated).isOk
        | some control =>
            !surroundings.inEventLoop && Delegation.reaches check (control name validated) 0

/-- The ledger stays writable and sound, the clock is finite, the executor has an Ed25519
key, and what the tool and the control return or raise can be carried. -/
structure WellBehaved (dispatcher : Dispatcher) (surroundings : Surroundings) (name : Str)
    (authorization : VerifiedDelegatedCall) : Prop where
  ledgerLog : ∀ count, surroundings.ledgerLog count = .ok ()
  ledgerStillSound : surroundings.ledgerStillSound = .ok true
  ledgerHead : ∃ head, surroundings.ledgerHead = .ok head ∧ validDigest head = true
  clock : surroundings.issuedAt.isFinite = true
  identity : ∀ identity, dispatcher.delegationIdentity = some identity →
    identity.publicKey.length = 32
  body : ∀ count args, Carried ((surroundings.attempts count).body args)
  refusal : ∀ count args raised,
    dispatcher.checkAt surroundings name authorization count args = .error raised →
      Json.encodable raised = true
  control : ∀ control args, dispatcher.agtControl = some control → HandsOn (control name args)

theorem carried_handed {ended : Except Str Value} (handsOn : HandsOn (.done ended))
    (executed : Option Members) : Carried ((handed ended executed).map Prod.fst) := by
  cases ended with
  | error raised => exact handsOn
  | ok value =>
      cases value with
      | dict members =>
          cases executed with
          | none => exact Json.encodable_lit _
          | some executed => exact handsOn
      | null | bool _ | int _ | float _ | str _ | list _ => exact Json.encodable_lit _

/-! How a run of the control unfolds. -/

variable {handle : Nat → Members → Delegating Members} {count : Nat} {executed : Option Members}
  {next : Except Str Members → ControlScript} {check : Nat → Members → Except Str ActionTuple}

theorem runTool_done (ended : Except Str Value) :
    runTool handle (.done ended) count executed = liftM (handed ended executed) := by
  cases ended with
  | error raised => rfl
  | ok value =>
      cases value with
      | dict members =>
          cases executed with
          | none => rfl
          | some executed => rfl
      | null | bool _ | int _ | float _ | str _ | list _ => rfl

theorem runTool_other {request : Value} (isOther : request.isDict = false) :
    runTool handle (.ask request next) count executed =
      runTool handle (next (.error notObject)) count executed := by
  cases request with
  | dict members => cases isOther
  | null | bool _ | int _ | float _ | str _ | list _ => rfl

theorem reaches_other {request : Value} (isOther : request.isDict = false) :
    reaches check (.ask request next) count = reaches check (next (.error notObject)) count := by
  cases request with
  | dict members => cases isOther
  | null | bool _ | int _ | float _ | str _ | list _ => rfl

theorem dict_of_isDict {request : Value} (isDict : request.isDict = true) :
    ∃ members, request = .dict members := by
  cases request with
  | dict members => exact ⟨members, rfl⟩
  | null | bool _ | int _ | float _ | str _ | list _ => cases isDict

theorem carried_lit (text : String) : Carried (.error (Str.lit text)) := Json.encodable_lit text

end SelfConnect.Delegation
