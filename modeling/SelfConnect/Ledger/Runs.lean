import SelfConnect.Ledger.Attempt
import SelfConnect.Library.System

namespace SelfConnect.Ledger

open SelfConnect.Python SelfConnect.Python.Json SelfConnect.Library

/-! Whole runs of a ledger: calls of `log`, and restarts over the files. -/

inductive Call
  | log (turn : Turn) (request : Request)
  | restart (config : Config)

def newWorld (config : Config) (logName : Text) : World where
  config := config
  disk := ⟨logName, [], none⟩
  seq := 0
  prevHash := genesisHash
  returned := []

section

variable (verify : Ed25519Verify)

/-- The state after a call, whether it returned or raised. -/
def Call.run (w : World) : Call → World
  | .log turn request => (Ledger.log verify turn request w).2
  | .restart config => (resume verify config w).2

def ledgerSystem (config : Config) (logName : Text) : System World Call where
  initial w := w = newWorld config logName
  next w call w' := w' = call.run verify w

end

/-- String-keyed metadata, a recovery that can cut the file back, and restarts under
one identity. -/
def Call.Presumed (identity : AgentIdentity) : Call → Prop
  | .log turn request => turn.recoveryFails = false ∧
      ∀ members, request.metadata = some members → StringKeyed (.dict members)
  | .restart config => config.identity = identity

/-- The ledger is laid out, as long as twenty digits number its entries. -/
def LaidOut (verify : Ed25519Verify) (identity : AgentIdentity) (w : World) : Prop :=
  w.returned.length < 10 ^ 20 →
    w.config.identity = identity ∧ ∃ parts rest, Layout verify w parts rest

section

variable {verify : Ed25519Verify} {w : World} {parts : List (List SignedEntry)}
  {rest : List SignedEntry} {turn : Turn} {request : Request}

/-- What one call of `log` leaves behind: one more entry, or the entries as they
were. -/
def Logged (verify : Ed25519Verify) (w : World) (before : List SignedEntry)
    (r : Except Raised Value) (t : World) : Prop :=
  t.config = w.config ∧ ∃ parts rest, Layout verify t parts rest ∧
    match r with
    | .ok value => ∃ signed : SignedEntry, value = signed.value ∧
        parts.flatten ++ rest = before ++ [signed]
    | .error _ => parts.flatten ++ rest = before

theorem log_spec (signs : w.config.identity.Signs verify) (layout : Layout verify w parts rest)
    (bounded : (parts.flatten ++ rest).length < 10 ^ 20) (works : turn.recoveryFails = false)
    (keyed : ∀ members, request.metadata = some members → StringKeyed (.dict members)) :
    Program.wp (log verify turn request) (Logged verify w (parts.flatten ++ rest)) w := by
  have restores : w.tears turn request = false := by
    rw [World.tears, works, Bool.and_false, Bool.false_and]
  have stable := keysStable_of_stringKeyed _
    (Entry.stringKeyed_unsigned keyed : StringKeyed (.dict (nextEntry w turn request).unsigned))
  refine Program.wp_mono (log_outcome signs layout bounded restores fun _ => stable) ?_
  rintro (e | value) t ⟨config, parts', rest', layout', outcome⟩
  · exact ⟨config, parts', rest', layout', outcome.2⟩
  · exact ⟨config, parts', rest', layout', _, outcome.2⟩

/-- A restart over a layout finds its tail. -/
theorem resume_eq (layout : Layout verify w parts rest)
    (bounded : (parts.flatten ++ rest).length < 10 ^ 20) {config : Config}
    (sameIdentity : config.identity = w.config.identity) :
    resume verify config w = (.ok (), { w with config }) := by
  have small : parts.flatten.length < 10 ^ 20 := by
    rw [List.length_append] at bounded
    omega
  obtain ⟨seq, prevHash⟩ := layout.tail small
  change Program.wp (resume verify config) (fun r t => (r, t) = _) w
  unfold resume
  simp only [Program.wp_bind, Program.wp_get, Program.andThen_ok, sameIdentity,
    (layout.verifies small).1, Program.wp_require, Program.wp_ofExcept, seq, prevHash,
    Program.wp_modify, Program.andThen_error]
  refine ⟨fun _ => ?_, fun invalid => by cases invalid⟩
  rw [← layout.seq, ← layout.prevHash]

theorem Layout.configured (layout : Layout verify w parts rest) {config : Config}
    (sameIdentity : config.identity = w.config.identity) :
    Layout verify { w with config } parts rest where
  archives := layout.archives
  active := layout.active
  filled := layout.filled
  accepted := by
    change Accepted verify config.identity _
    rw [sameIdentity]
    exact layout.accepted
  seq := layout.seq
  prevHash := layout.prevHash
  returned := layout.returned

/-! Entries that were returned stay returned. -/

private theorem keeps_recover (n : Nat) (size : Nat) :
    (recover verify turn size).Keeps fun w => n ≤ w.returned.length := by
  refine Program.Keeps.bind (Program.Keeps.require _ _) fun _ => ?_
  refine Program.Keeps.bind (Program.Keeps.modify fun _ held => held) fun _ => ?_
  refine Program.Keeps.bind Program.Keeps.get fun v => ?_
  refine Program.Keeps.bind (Program.Keeps.require _ _) fun _ => ?_
  refine Program.Keeps.bind (Program.Keeps.ofExcept _) fun _ => ?_
  refine Program.Keeps.bind (Program.Keeps.ofExcept _) fun _ => ?_
  exact Program.Keeps.modify fun _ held => held

private theorem keeps_rotateIfNeeded (n : Nat) :
    (rotateIfNeeded verify turn).Keeps fun w => n ≤ w.returned.length := by
  refine Program.Keeps.bind Program.Keeps.get fun v => ?_
  split
  · exact Program.Keeps.pure _
  refine Program.Keeps.ite (fun _ => Program.Keeps.pure _) fun _ => ?_
  refine Program.Keeps.bind (Program.Keeps.require _ _) fun _ => ?_
  split
  · exact Program.Keeps.raise _
  split
  · refine Program.Keeps.bind (Program.Keeps.ofExcept _) fun _ => ?_
    refine Program.Keeps.bind (Program.Keeps.ofExcept _) fun _ => ?_
    refine Program.Keeps.bind (Program.Keeps.require _ _) fun _ => ?_
    refine Program.Keeps.bind (Program.Keeps.require _ _) fun _ => ?_
    exact Program.Keeps.modify fun _ held => held
  · exact Program.Keeps.pure _

theorem keeps_log (n : Nat) (request : Request) :
    (log verify turn request).Keeps fun w => n ≤ w.returned.length := by
  refine Program.Keeps.bind (Program.Keeps.require _ _) fun _ => ?_
  refine Program.Keeps.bind (keeps_rotateIfNeeded n) fun _ => ?_
  refine Program.Keeps.bind Program.Keeps.get fun v => ?_
  refine Program.Keeps.bind (Program.Keeps.ofExcept _) fun _ => ?_
  refine Program.Keeps.bind (Program.Keeps.require _ _) fun _ => ?_
  refine Program.Keeps.bind (Program.Keeps.modify fun _ held => held) fun _ => ?_
  refine Program.Keeps.ite (fun _ => ?_) fun _ => ?_
  · refine Program.Keeps.bind (Program.Keeps.modify ?_) fun _ => Program.Keeps.pure _
    intro t held
    refine le_trans held ?_
    simp
  · exact Program.Keeps.bind (keeps_recover n _) fun _ => Program.Keeps.raise _

theorem keeps_resume (n : Nat) (config : Config) :
    (resume verify config).Keeps fun w => n ≤ w.returned.length := by
  refine Program.Keeps.bind Program.Keeps.get fun v => ?_
  refine Program.Keeps.bind (Program.Keeps.require _ _) fun _ => ?_
  refine Program.Keeps.bind (Program.Keeps.ofExcept _) fun _ => ?_
  refine Program.Keeps.bind (Program.Keeps.ofExcept _) fun _ => ?_
  exact Program.Keeps.modify fun _ held => held

end

section

variable {verify : Ed25519Verify} {identity : AgentIdentity}

theorem laidOut_new (config : Config) (logName : Text) :
    LaidOut verify config.identity (newWorld config logName) :=
  fun _ => ⟨rfl, [], [], ⟨rfl, rfl, by simp, accepted_nil, rfl, rfl, rfl⟩⟩

theorem Layout.length_returned {w : World} {parts : List (List SignedEntry)}
    {rest : List SignedEntry} (layout : Layout verify w parts rest) :
    (parts.flatten ++ rest).length = w.returned.length := by
  rw [layout.returned, List.length_map]

/-- No call, and no restart, breaks the layout. -/
theorem laidOut_run (signs : identity.Signs verify) {w : World} {call : Call}
    (laidOut : LaidOut verify identity w) (presumed : call.Presumed identity) :
    LaidOut verify identity (call.run verify w) := by
  cases call with
  | log turn request =>
      intro bounded
      have grown : w.returned.length ≤ ((Call.log turn request).run verify w).returned.length :=
        keeps_log _ _ w le_rfl
      obtain ⟨sameIdentity, parts, rest, layout⟩ := laidOut (grown.trans_lt bounded)
      have small : (parts.flatten ++ rest).length < 10 ^ 20 := by
        rw [layout.length_returned]
        exact grown.trans_lt bounded
      obtain ⟨sameConfig, parts', rest', layout', -⟩ :=
        log_spec (sameIdentity ▸ signs) layout small presumed.1 presumed.2
      exact ⟨(congrArg Config.identity sameConfig).trans sameIdentity, parts', rest', layout'⟩
  | restart config =>
      intro bounded
      have grown : w.returned.length ≤ ((Call.restart config).run verify w).returned.length :=
        keeps_resume _ _ w le_rfl
      obtain ⟨sameIdentity, parts, rest, layout⟩ := laidOut (grown.trans_lt bounded)
      have small : (parts.flatten ++ rest).length < 10 ^ 20 := by
        rw [layout.length_returned]
        exact grown.trans_lt bounded
      have same : config.identity = w.config.identity := presumed.trans sameIdentity.symm
      rw [Call.run, resume_eq layout small same]
      exact ⟨presumed, parts, rest, layout.configured same⟩

theorem laidOut_of_run {config : Config} {logName : Text} (signs : config.identity.Signs verify)
    {calls : List Call} (presumed : ∀ call ∈ calls, call.Presumed config.identity) {w : World}
    (run : (ledgerSystem verify config logName).Run calls w) :
    LaidOut verify config.identity w := by
  refine run.invariant_of ?_ ?_ presumed
  · rintro w rfl
    exact laidOut_new config logName
  · rintro w call t laidOut callPresumed rfl
    exact laidOut_run signs laidOut callPresumed

/-! What the files say. -/

/-- The archive segments followed by the active file. -/
def Disk.text (disk : Disk) : Text :=
  (disk.ledgerPaths.map Segment.text).flatten

theorem Layout.text {w : World} {parts : List (List SignedEntry)} {rest : List SignedEntry}
    (layout : Layout verify w parts rest) (bounded : (parts.flatten ++ rest).length < 10 ^ 20) :
    w.disk.text = fileText .default ((parts.flatten ++ rest).map SignedEntry.value) := by
  have small : parts.flatten.length < 10 ^ 20 := by
    rw [List.length_append] at bounded
    omega
  obtain ⟨all, holds, flat⟩ := layout.ledgerPaths small
  rw [Disk.text, holds, ← flat]
  clear holds flat
  induction all with
  | nil => rfl
  | cons part others ih =>
      rw [List.map_cons, List.flatten_cons, List.flatten_cons, ih, List.map_append,
        fileText_append]
      rfl

theorem SignedEntry.seq_value {signed : SignedEntry} (sound : signed.Sound verify identity) :
    signed.value.get? "seq" = some (.int signed.entry.seq) := by
  rw [SignedEntry.value, Entry.record, Value.get?_dict, Members.lookup_set_other (by simp),
    Entry.lookup_unsigned sound.admitted (by decide)]
  simp [Entry.head, Members.of, Members.lookup]

end

/-! A ledger of one entry a segment. -/

def digestSign (message : Bytes) : Bytes :=
  1 :: sha256 message

def digestVerify : Ed25519Verify :=
  fun message signature _ => signature == digestSign message

def singleConfig : Config where
  identity := ⟨[], digestSign⟩
  redactDenied := false
  maxEntriesPerSegment := 1
  maxBytesPerSegment := 0

theorem singleConfig_signs : singleConfig.identity.Signs digestVerify :=
  fun _ => beq_self_eq_true _

def steadyTurn : Turn where
  now := .nan
  signFails := false
  replaceFails := false
  write := .durable
  recoveryFails := false

def bareRequest : Request :=
  ⟨[], [], none, none⟩

end SelfConnect.Ledger
