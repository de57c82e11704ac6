import SelfConnect.Python.Dict
import SelfConnect.Python.Value

namespace SelfConnect.Policy

open SelfConnect.Python

/-! The monitor of sequences of calls. -/

def defaultEffectMap : List (Str × Str) :=
  [("read_text", "recon"), ("read_screen", "recon"), ("enumerate", "recon"),
    ("list_targets", "recon"), ("read_file", "access"), ("assign_task", "control"),
    ("write_file", "mutate"), ("subprocess", "execute"), ("http_request", "egress"),
    ("send_string", "egress"), ("socket_open", "egress")].map fun entry =>
      (Str.lit entry.1, Str.lit entry.2)

def elevatedEffects : List Str :=
  ["mutate", "execute", "egress", "unknown"].map Str.lit

structure CompositionSignature where
  name : Str
  orderedEffects : List Str
  reason : Str

/-- The effects appear in order in the stream. -/
def appearIn : List Str → List Str → Bool
  | [], _ => true
  | want :: rest, stream =>
      match stream.dropWhile fun effect => effect ≠ want with
      | [] => false
      | _ :: after => appearIn rest after

def CompositionSignature.matches (signature : CompositionSignature) (effectStream : List Str) :
    Bool :=
  appearIn signature.orderedEffects effectStream

def defaultSignatures : List CompositionSignature :=
  [⟨Str.lit "recon_to_egress", ["recon", "access", "egress"].map Str.lit,
      Str.lit "recon->access->egress arc: authorized calls compose toward exfiltration"⟩,
    ⟨Str.lit "execute_then_egress", ["execute", "egress"].map Str.lit,
      Str.lit "code execution followed by outbound call: exploit-then-exfil shape"⟩,
    ⟨Str.lit "mutate_then_execute", ["mutate", "execute"].map Str.lit,
      Str.lit "file write followed by execution: drop-then-run shape"⟩]

structure CompositionVerdict where
  allowed : Bool
  reason : Str
  signature : Option Str
  windowEffects : List Str

/-- The windows are kept by agent; an agent that was not seen has an empty one. -/
structure CompositionMonitor where
  windowSeconds : PyFloat
  maxWindowLen : Int
  signatures : List CompositionSignature
  effectMap : List (Str × Str)
  maxElevatedRate : Int
  windows : Str → List (PyFloat × Str)

namespace CompositionMonitor

variable (monitor : CompositionMonitor)

/-- `effect_of`. -/
def effectOf (action : Str) : Str :=
  ((monitor.effectMap.find? fun entry => entry.1 = action).map Prod.snd).getD (Str.lit "unknown")

/-- The window once the entries before the horizon are gone. -/
def current (window : List (PyFloat × Str)) (now : PyFloat) : List (PyFloat × Str) :=
  let horizon := Number.ofFloat (now.minus monitor.windowSeconds)
  window.dropWhile fun entry => (Number.ofFloat entry.1).lt horizon

/-- The first signature that the effects match. -/
def judge (effectStream : List Str) : CompositionVerdict :=
  let elevated := effectStream.countP elevatedEffects.contains
  if monitor.maxElevatedRate < elevated then
    ⟨false, Str.lit "elevated-effect velocity " ++ Str.ofText (natText elevated) ++
      Str.lit " > " ++ Str.ofText (intText monitor.maxElevatedRate) ++ Str.lit " in window",
      some (Str.lit "elevated_velocity"), effectStream⟩
  else
    match monitor.signatures.find? fun signature => signature.matches effectStream with
    | some signature => ⟨false, signature.reason, some signature.name, effectStream⟩
    | none => ⟨true, Str.lit "composition within policy", none, effectStream⟩

/-- The verdict on the window of an agent after a call, and that window. With a negative cap
the deque is emptied and taken from once more, which is an internal error. -/
def observeWindow (window : List (PyFloat × Str)) (action : Str) (now : PyFloat) :
    CompositionVerdict × List (PyFloat × Str) :=
  let fresh := monitor.current (window ++ [(now, monitor.effectOf action)]) now
  if monitor.maxWindowLen < 0 then
    (⟨false, Str.lit "composition monitor internal error: " ++
      Str.lit "IndexError('pop from an empty deque')", some (Str.lit "internal_error"), []⟩, [])
  else
    let capped := fresh.drop (fresh.length - monitor.maxWindowLen.toNat)
    (monitor.judge (capped.map Prod.snd), capped)

/-- `observe`. -/
def observe (agentId action : Str) (now : PyFloat) : CompositionVerdict × CompositionMonitor :=
  let observed := monitor.observeWindow (monitor.windows agentId) action now
  (observed.1, { monitor with windows := Function.update monitor.windows agentId observed.2 })

end CompositionMonitor

/-- `CompositionMonitor()`. -/
def defaultMonitor : CompositionMonitor where
  windowSeconds := .ofDecimal false ⟨30, 0⟩
  maxWindowLen := 256
  signatures := defaultSignatures
  effectMap := defaultEffectMap
  maxElevatedRate := 8
  windows := fun _ => []

end SelfConnect.Policy
