import SelfConnect.Governor.Stdio
import SelfConnect.Python.Json.Lines
import SelfConnect.Python.Json.Document

namespace SelfConnect.Governor

open SelfConnect.Python SelfConnect.Python.Json SelfConnect.Library

/-! One response for every line that asks for one, until the input ends; and the lines that
the loop does not treat so. -/

/-- The line is a JSON object without an `id`. -/
def IsNotification (line : Str) : Prop :=
  ∃ text members, line.toText? = some text ∧ loads text = some (.dict members) ∧
    (Value.dict members).get? "id" = none

/-- One line, which is a JSON-RPC response. -/
def IsResponse (written : Text) : Prop :=
  ∃ body answer, written = body ++ ['\n'] ∧ Printable body ∧ loads body = some answer ∧
    answer.get? "jsonrpc" = some (Value.lit jsonrpcVersion)

structure Corresponds (turn : Turn) (written : Option Text) : Prop where
  silent : IsNotification turn.line → written = none
  answered : ¬ IsNotification turn.line → ∃ text, written = some text ∧ IsResponse text

/-- All the input is consumed, and every line has what it asks for. -/
def Robust (setting : Setting) (turns : List Turn) : Prop :=
  (serveStdio setting false turns).2 = true ∧
    List.Forall₂ Corresponds turns (serveStdio setting false turns).1

/-! The lines for which this is so. -/

def acknowledges (message : Value) : Bool :=
  match validateMessage message with
  | .ok (method, _) => method == Str.lit "notifications/initialized"
  | .error _ => false

/-- The message gets as far as the dispatcher. -/
def reachesTool (table : ToolTable) (initialized : Bool) (message : Value) : Bool :=
  match validateMessage message with
  | .ok (method, params) =>
      method == Str.lit "tools/call" && (requireReady initialized params).toOption.isSome &&
        (checkCall table params).toOption.isSome
  | .error _ => false

/-- The dispatcher comes back, and what a tool returned can be written as it is, or can not
even be written with `default=str`. -/
def Writable (setting : Setting) : ToolOutcome → Prop
  | .raised => True
  | .exits => False
  | .notDict => True
  | .returned false _ _ => True
  | .returned true result _ =>
      dumpsSortedWithin setting.levels result = none ∨
        ∃ v, result.plain = some v ∧ Fits (setting.interpreter.nesting - 2) v

/-- A message with an `id`, or one that is no object, is not the acknowledgement of the
handshake, and the tool it may call returns something writable. -/
structure Answerable (setting : Setting) (initialized : Bool) (outcome : ToolOutcome)
    (message : Value) : Prop where
  noAcknowledgement : acknowledges message = true → initialized = false
  writable : reachesTool setting.table initialized message = true → Writable setting outcome

inductive Regular (setting : Setting) (initialized : Bool) (turn : Turn) (text : Text) : Prop
  | long (beyond : maxMessageBytes < (encode text).length) (asks : ¬ IsNotification turn.line)
  | malformed (within : (encode text).length ≤ maxMessageBytes)
      (failed : loadsWithin setting.interpreter text = .error .decode)
  | message (within : (encode text).length ≤ maxMessageBytes) (message : Value)
      (loaded : loadsWithin setting.interpreter text = .ok message)
      (answerable : message.isDict = true → (message.get? "id").isSome = true →
        Answerable setting initialized turn.outcome message)

/-- `_legacy_initialized` after a line. -/
def flagAfter (setting : Setting) (initialized : Bool) (turn : Turn) : Bool :=
  match respond setting initialized turn with
  | none => initialized
  | some (next, _) => next

/-- Every line can be encoded in UTF-8 and is regular when its turn comes. -/
def AllRegular (setting : Setting) : Bool → List Turn → Prop
  | _, [] => True
  | initialized, turn :: rest =>
      (∃ text, turn.line.toText? = some text ∧ Regular setting initialized turn text) ∧
        AllRegular setting (flagAfter setting initialized turn) rest

section Dumps

variable {levels : Nat} {requestId : Value} {key : String}

theorem plain_response {body : Datum} {v : Value} (isPlain : body.plain = some v) :
    (response requestId key body).plain = some (.object
      [("jsonrpc", Value.lit jsonrpcVersion), ("id", requestId), (key, v)]) :=
  Datum.plain_object (.cons ⟨rfl, rfl⟩ (.cons ⟨rfl, Datum.plain_ofValue _⟩
    (.cons ⟨rfl, isPlain⟩ .nil)))

/-- A response can be written when its id and its body can be written one level deeper. -/
theorem dumpsWithin_response {body : Datum} {v : Value} (isPlain : body.plain = some v)
    (idFits : Fits levels requestId) :
    dumpsWithin (levels + 1) (response requestId key body) =
      if Fits levels v then some (render .compact (.object
        [("jsonrpc", Value.lit jsonrpcVersion), ("id", requestId), (key, v)]))
      else none := by
  have literal : Fits levels (Value.lit jsonrpcVersion) := by cases levels <;> trivial
  rw [dumpsWithin, plain_response isPlain]
  split
  · next fits =>
      rw [Option.filter_some, if_pos, Option.map_some]
      refine decide_eq_true (fits_object.mpr ?_)
      simp only [List.forall_mem_cons, List.not_mem_nil, false_implies, implies_true, and_true]
      exact ⟨literal, idFits, fits⟩
  · next misfit =>
      rw [Option.filter_some, if_neg, Option.map_none]
      intro all
      have each := fits_object.mp (of_decide_eq_true all)
      exact misfit (each (key, v) (by simp))

theorem dumpsWithin_response_of_none {body : Datum} (refused : body.plain = none) :
    dumpsWithin levels (response requestId key body) = none := by
  have isNone : (response requestId key body).plain = none :=
    @Datum.plain_object_of_none _ (key, body) (by simp) refused
  rw [dumpsWithin, isNone]
  rfl

theorem isResponse_object {v : Value} (differs : key ≠ "jsonrpc") (other : key ≠ "id") :
    IsResponse (render .compact (.object
      [("jsonrpc", Value.lit jsonrpcVersion), ("id", requestId), (key, v)]) ++ ['\n']) := by
  refine ⟨_, _, rfl, printable_render _ rfl _, loads_render .compact rfl _, ?_⟩
  rw [build_reread_object]
  · simp [reread, build, Value.lit]
  · simp [differs.symm, other.symm]

end Dumps

/-! Every refusal and every result has room in a response, where the message had room in
the decoder. -/

section Room

variable {k : Nat}

def Failure.FitsIn (levels : Nat) : Failure → Prop
  | .governor error => Fits levels error.body
  | .internal => True
  | .exits => False

/-- What is left of a message can be answered. -/
def Good (levels : Nat) : Except Failure Datum → Prop
  | .ok datum => ∃ v, datum.plain = some v ∧ Fits levels v
  | .error failure => failure.FitsIn levels

theorem fits_lit (levels : Nat) (s : String) : Fits levels (Value.lit s) := by
  cases levels <;> trivial

theorem fits_null (levels : Nat) : Fits levels .null := by
  cases levels <;> trivial

theorem fits_code {code : Int} (small : code.natAbs < 10 ^ 6) (levels : Nat) :
    Fits levels (.int code) := by
  have short : digitCount code ≤ maxDigits :=
    le_trans (length_natText_le (by decide) small) (by decide)
  cases levels <;> exact short

theorem fits_body {code : Int} (small : code.natAbs < 10 ^ 6) (message : String)
    {data : Option Value} (dataFits : ∀ v, data = some v → Fits (k + 2) v) :
    Fits (k + 3) (MCPGovernorError.body ⟨code, message, data⟩) := by
  refine fits_object.mpr ?_
  rintro field (_ | ⟨_, _ | ⟨_, member⟩⟩)
  · exact fits_code small _
  · exact fits_lit _ _
  · cases data with
    | none => cases member
    | some v =>
        cases List.mem_singleton.mp member
        exact dataFits v rfl

theorem fits_refused {code : Int} (small : code.natAbs < 10 ^ 6) (message : String) :
    (refused code message).FitsIn (k + 3) := by
  refine fits_body small message ?_
  rintro v ⟨⟩

theorem fits_unsupported {requested : Value} (fits : Fits (k + 1) requested) (message : String) :
    (unsupported message requested).FitsIn (k + 3) := by
  refine fits_body (by decide) message ?_
  rintro v ⟨⟩
  refine fits_object.mpr ?_
  simp only [List.forall_mem_cons, List.not_mem_nil, false_implies, implies_true, and_true]
  exact ⟨⟨fits_lit _ _, fits_lit _ _, trivial⟩, fits⟩

theorem fits_member {levels : Nat} {members : Members} (fits : Fits (levels + 1) (.dict members))
    (key : String) : Fits levels (member members key) := by
  rw [member, Value.getD]
  cases found : (Value.dict members).get? key with
  | none => exact fits_null levels
  | some v => exact fits_get? fits found

theorem fits_validateMessage {message : Value} {failure : Failure}
    (failed : validateMessage message = .error failure) : failure.FitsIn (k + 3) := by
  unfold validateMessage at failed
  split at failed
  · split at failed
    · split at failed
      · cases failed
        exact fits_refused (by decide) _
      · split at failed
        · cases failed
          exact fits_refused (by decide) _
        · split at failed <;> cases failed
          exact fits_refused (by decide) _
    · cases failed
      exact fits_refused (by decide) _
  · cases failed
    exact fits_refused (by decide) _

theorem fits_params {message : Value} (fits : Fits (k + 4) message) {method : Str}
    {params : Members} (valid : validateMessage message = .ok (method, params)) :
    Fits (k + 3) (.dict params) := by
  cases message with
  | dict members =>
      rw [validateMessage] at valid
      split at valid
      · split at valid
        · cases valid
        · split at valid
          · cases valid
          · split at valid
            · next found =>
                cases valid
                rw [Value.getD] at found
                cases isParams : (Value.dict members).get? "params" with
                | none =>
                    rw [isParams] at found
                    cases found
                    trivial
                | some v =>
                    rw [isParams] at found
                    cases found
                    exact fits_get? fits isParams
            · cases valid
      · cases valid
  | null | bool | int | float | str | list => cases valid

theorem fits_requireStatelessMeta {params : Members} (fits : Fits (k + 3) (.dict params))
    {failure : Failure} (failed : requireStatelessMeta params = .error failure) :
    failure.FitsIn (k + 3) := by
  unfold requireStatelessMeta at failed
  split at failed
  · next metadata isMeta =>
      have metaFits : Fits (k + 2) (.dict metadata) := isMeta ▸ fits_member fits "_meta"
      dsimp only at failed
      split at failed
      · cases failed
        exact fits_unsupported (fits_member metaFits versionKey) _
      · split at failed
        · cases failed
          exact fits_refused (by decide) _
        · split at failed <;> cases failed
          exact fits_refused (by decide) _
  · cases failed
    exact fits_refused (by decide) _

theorem good_initializeLegacy (params : Members) : Good (k + 3) (initializeLegacy params) := by
  unfold initializeLegacy
  split
  · exact fits_refused (by decide) _
  · split
    · split
      · exact fits_refused (by decide) _
      · split
        · exact fits_unsupported (by trivial) _
        · refine ⟨_, Datum.plain_ofValue _, fits_object.mpr ?_⟩
          simp only [List.forall_mem_cons, List.not_mem_nil, false_implies, implies_true, and_true]
          refine ⟨fits_lit _ _, ?_, ?_, fits_lit _ _⟩
          · exact ⟨⟨by cases k <;> trivial, trivial⟩, trivial⟩
          · exact ⟨fits_lit _ _, fits_lit _ _, trivial⟩
    · exact fits_refused (by decide) _

theorem good_discovery : Good (k + 3) (.ok discovery) := by
  refine ⟨_, Datum.plain_ofValue _, fits_object.mpr ?_⟩
  simp only [List.forall_mem_cons, List.not_mem_nil, false_implies, implies_true, and_true]
  refine ⟨fits_lit _ _, ⟨fits_lit _ _, fits_lit _ _, trivial⟩, ?_, ?_, fits_lit _ _,
    fits_code (by decide) _, fits_lit _ _⟩
  · exact ⟨⟨by cases k <;> trivial, trivial⟩, trivial⟩
  · exact ⟨⟨fits_lit _ _, fits_lit _ _, trivial⟩, trivial⟩

theorem good_listTools (table : ToolTable) (room : 29 ≤ k) (stateless : Bool) :
    Good (k + 3) (.ok (listTools table stateless)) := by
  have toolsFit : Fits (k + 2) (.list (table.tools.map Prod.snd)) := by
    refine fitsItems_iff.mpr ?_
    intro v member
    obtain ⟨tool, found, rfl⟩ := List.mem_map.mp member
    exact fits_mono (by omega) _ (table.shallow tool found)
  refine ⟨_, Datum.plain_ofValue _, fits_object.mpr ?_⟩
  cases stateless with
  | false =>
      intro field member
      rw [List.mem_singleton.mp member]
      exact toolsFit
  | true =>
      simp only [if_true, List.cons_append, List.nil_append, List.forall_mem_cons,
        List.not_mem_nil, false_implies, implies_true, and_true]
      exact ⟨toolsFit, fits_lit _ _, fits_code (by decide) _, fits_lit _ _⟩

theorem fits_requireReady {params : Members} (fits : Fits (k + 3) (.dict params))
    {initialized : Bool} {failure : Failure}
    (failed : requireReady initialized params = .error failure) : failure.FitsIn (k + 3) := by
  unfold requireReady at failed
  split at failed
  · cases isMeta : requireStatelessMeta params with
    | error e =>
        rw [isMeta] at failed
        cases failed
        exact fits_requireStatelessMeta fits isMeta
    | ok done =>
        rw [isMeta] at failed
        cases failed
  · split at failed <;> cases failed
    exact fits_refused (by decide) _

theorem fits_checkCall {table : ToolTable} {params : Members} {failure : Failure}
    (failed : checkCall table params = .error failure) : failure.FitsIn (k + 3) := by
  unfold checkCall at failed
  split at failed
  · cases failed
    exact fits_refused (by decide) _
  · split at failed
    · rw [(insist_eq_error.mp failed).2]
      exact fits_refused (by decide) _
    · cases failed
      exact fits_refused (by decide) _

theorem plain_callResult (stateless ok : Bool) {payload : Datum} {v : Value}
    (isPlain : payload.plain = some v) (serialized : Text) :
    (callResult stateless ok payload serialized).plain = some (.object
      ([("content", Value.list [.object
          [("type", Value.lit "text"), ("text", .str (Str.ofText serialized))]]),
        ("structuredContent", v), ("isError", Value.bool !ok)] ++
      if stateless then [("resultType", Value.lit "complete")] else [])) := by
  refine Datum.plain_object (.cons ⟨rfl, rfl⟩ (.cons ⟨rfl, isPlain⟩ (.cons ⟨rfl, rfl⟩ ?_)))
  cases stateless with
  | false => exact .nil
  | true => exact .cons ⟨rfl, rfl⟩ .nil

/-- The result of a call can be answered when there is room for its payload. -/
theorem good_callResult_iff (stateless ok : Bool) (payload : Datum) (serialized : Text) :
    Good (k + 3) (.ok (callResult stateless ok payload serialized)) ↔
      ∃ v, payload.plain = some v ∧ Fits (k + 2) v := by
  constructor
  · rintro ⟨whole, isWhole, fits⟩
    cases found : payload.plain with
    | none =>
        have refused : (callResult stateless ok payload serialized).plain = none :=
          @Datum.plain_object_of_none _ ("structuredContent", payload)
            (List.mem_append_left _ (by simp)) found
        rw [refused] at isWhole
        cases isWhole
    | some v =>
        refine ⟨v, rfl, ?_⟩
        cases (plain_callResult stateless ok found serialized).symm.trans isWhole
        exact fits_object.mp fits ("structuredContent", v) (by simp)
  · rintro ⟨v, found, fits⟩
    refine ⟨_, plain_callResult stateless ok found serialized, fits_object.mpr ?_⟩
    have contentFits : Fits (k + 2) (.list [.object
        [("type", Value.lit "text"), ("text", .str (Str.ofText serialized))]]) :=
      ⟨⟨fits_lit _ _, by cases k <;> trivial, trivial⟩, trivial⟩
    intro field member
    rcases List.mem_append.mp member with first | last
    · simp only [List.mem_cons, List.not_mem_nil, or_false] at first
      rcases first with rfl | rfl | rfl
      · exact contentFits
      · exact fits
      · trivial
    · cases stateless with
      | false => cases last
      | true =>
          cases List.mem_singleton.mp last
          exact fits_lit _ _

theorem good_toolResult_iff {setting : Setting} (room : setting.interpreter.nesting = k + 4)
    (stateless : Bool) (outcome : ToolOutcome) :
    Good (k + 3) (toolResult setting.levels stateless outcome) ↔ Writable setting outcome := by
  cases outcome with
  | raised => exact iff_of_true trivial trivial
  | exits => exact iff_of_false id id
  | notDict => exact iff_of_true (fits_refused (by decide) _) trivial
  | returned ok result error =>
      have called : ∀ ok payload, Good (k + 3) (do
          let serialized ← present (dumpsSortedWithin setting.levels payload) .internal
          return callResult stateless ok payload serialized) ↔
            dumpsSortedWithin setting.levels payload = none ∨
              ∃ v, payload.plain = some v ∧ Fits (k + 2) v := by
        intro ok payload
        cases dumpsSortedWithin setting.levels payload with
        | none => exact iff_of_true trivial (Or.inl rfl)
        | some serialized =>
            rw [or_iff_right (by simp)]
            exact good_callResult_iff stateless ok payload serialized
      cases ok with
      | false =>
          refine iff_of_true ?_ trivial
          cases error with
          | none => exact trivial
          | some text =>
              refine (called false (.object [("error", .str text)])).mpr (Or.inr ⟨_, rfl, ?_⟩)
              exact ⟨by trivial, trivial⟩
      | true =>
          rw [Writable, room]
          exact called true result

/-! Whole messages. -/

/-- Without a call of a tool, whatever a method gives can be answered. -/
theorem good_dispatch {setting : Setting} (room : 29 ≤ k) {initialized : Bool}
    {outcome : ToolOutcome} {method : Str} {params : Members}
    (fits : Fits (k + 3) (.dict params))
    (noCall : ∀ stateless, method = Str.lit "tools/call" →
      requireReady initialized params = .ok stateless →
        checkCall setting.table params ≠ .ok ()) :
    Good (k + 3)
      (dispatch setting.table setting.levels initialized outcome method params) := by
  unfold dispatch
  split
  · exact good_initializeLegacy params
  split
  · cases isMeta : requireStatelessMeta params with
    | error failure => exact fits_requireStatelessMeta fits isMeta
    | ok done => exact good_discovery
  cases ready : requireReady initialized params with
  | error failure => exact fits_requireReady fits ready
  | ok stateless =>
      change Good (k + 3) (if _ then _ else _)
      split
      · cases listed : validateListParams params with
        | error failure =>
            rw [validateListParams, insist_eq_error] at listed
            rw [listed.2]
            exact fits_refused (by decide) _
        | ok done => exact good_listTools setting.table room stateless
      · split
        · next isCall =>
            cases checked : checkCall setting.table params with
            | error failure => exact fits_checkCall checked
            | ok done => exact absurd checked (noCall stateless isCall ready)
        · exact fits_refused (by decide) _

theorem dispatch_call {setting : Setting} {initialized stateless : Bool} {outcome : ToolOutcome}
    {params : Members} (ready : requireReady initialized params = .ok stateless)
    (checked : checkCall setting.table params = .ok ()) :
    dispatch setting.table setting.levels initialized outcome (Str.lit "tools/call") params =
      toolResult setting.levels stateless outcome := by
  rw [dispatch, if_neg (by simp), if_neg (by simp), ready]
  simp only [bind, Except.bind]
  rw [if_neg (by simp), if_pos trivial, checked]

/-- Something is written, and it is a response. -/
def Serves (levels : Nat) (handled : Option (Bool × Option Datum)) : Prop :=
  ∃ next datum text, handled = some (next, some datum) ∧ dumpsWithin levels datum = some text ∧
    IsResponse (text ++ ['\n'])

theorem serves_response_iff {requestId : Value} (idFits : Fits (k + 3) requestId) {key : String}
    (differs : key ≠ "jsonrpc") (other : key ≠ "id") (next : Bool) (body : Datum) :
    Serves (k + 4) (some (next, some (response requestId key body))) ↔
      Good (k + 3) (.ok body) := by
  constructor
  · rintro ⟨_, _, text, ⟨⟩, dumped, -⟩
    cases isPlain : body.plain with
    | none =>
        rw [dumpsWithin_response_of_none isPlain] at dumped
        cases dumped
    | some v =>
        refine ⟨v, isPlain, ?_⟩
        rw [dumpsWithin_response isPlain idFits] at dumped
        split at dumped
        · next fits => exact fits
        · cases dumped
  · rintro ⟨v, isPlain, fits⟩
    refine ⟨next, _, _, rfl, ?_, @isResponse_object requestId key v differs other⟩
    rw [dumpsWithin_response isPlain idFits, if_pos fits]

theorem serves_failure {requestId : Value} (idFits : Fits (k + 3) requestId) (next : Bool)
    {error : MCPGovernorError} (fits : Fits (k + 3) error.body) :
    Serves (k + 4) (some (next, some (response requestId "error" (.ofValue error.body)))) :=
  (serves_response_iff idFits (by decide) (by decide) next _).mpr
    ⟨_, Datum.plain_ofValue _, fits⟩

/-- A message that asks for a response gets one exactly when it is answerable. -/
theorem serves_handle_iff {setting : Setting} (nesting : setting.interpreter.nesting = k + 4)
    (room : 29 ≤ k) (initialized : Bool) (outcome : ToolOutcome) {message : Value}
    (fits : Fits (k + 4) message)
    (asks : (message.isDict && (message.get? "id").isNone) = false) :
    Serves (k + 4) (handle setting.table setting.levels initialized outcome message) ↔
      Answerable setting initialized outcome message := by
  have idFits : Fits (k + 3) (message.getD "id" .null) := by
    rw [Value.getD]
    cases found : message.get? "id" with
    | none => exact fits_null _
    | some v => exact fits_get? fits found
  unfold handle
  simp only [asks, Bool.false_eq_true, if_false]
  cases valid : validateMessage message with
  | error failure =>
      have failureFits := @fits_validateMessage k _ _ valid
      refine iff_of_true ?_ ⟨by simp [acknowledges, valid], by simp [reachesTool, valid]⟩
      cases failure with
      | governor error => exact serves_failure idFits _ failureFits
      | internal => exact serves_failure idFits _ (fits_refused (by decide) "internal error")
      | exits => exact failureFits.elim
  | ok checked =>
      obtain ⟨method, params⟩ := checked
      have paramsFit := fits_params fits valid
      dsimp only
      split
      · next isAck =>
          subst isAck
          have noTool : reachesTool setting.table initialized message = false := by
            simp [reachesTool, valid]
          cases initialized with
          | true =>
              refine iff_of_false ?_ fun answerable => ?_
              · rintro ⟨_, _, _, ⟨⟩, -⟩
              · have := answerable.noAcknowledgement (by simp [acknowledges, valid])
                cases this
          | false =>
              refine iff_of_true ?_ ⟨fun _ => rfl, fun reaches => ?_⟩
              · exact serves_failure idFits _ (fits_refused (by decide) _)
              · rw [noTool] at reaches
                cases reaches
      · next notAck =>
          have noAck : acknowledges message = false := by
            simpa [acknowledges, valid] using notAck
          have served : Good (k + 3)
                (dispatch setting.table setting.levels initialized outcome method params) ↔
              (reachesTool setting.table initialized message = true →
                Writable setting outcome) := by
            cases reaches : reachesTool setting.table initialized message with
            | false =>
                refine iff_of_true (good_dispatch room paramsFit ?_) fun absurdly => by cases absurdly
                rintro stateless rfl ready checked
                simp [reachesTool, valid, ready, checked, Except.toOption] at reaches
            | true =>
                simp only [reachesTool, valid, Bool.and_eq_true, beq_iff_eq] at reaches
                obtain ⟨⟨rfl, ready⟩, checked⟩ := reaches
                cases isReady : requireReady initialized params with
                | error failure => simp [isReady, Except.toOption] at ready
                | ok stateless =>
                    cases isChecked : checkCall setting.table params with
                    | error failure => simp [isChecked, Except.toOption] at checked
                    | ok done =>
                        rw [dispatch_call isReady isChecked, good_toolResult_iff nesting]
                        exact ⟨fun writable _ => writable, fun writable => writable rfl⟩
          have answerable : Answerable setting initialized outcome message ↔
              (reachesTool setting.table initialized message = true →
                Writable setting outcome) := by
            refine ⟨fun answerable => answerable.writable, fun writable => ⟨?_, writable⟩⟩
            intro isAck
            rw [noAck] at isAck
            cases isAck
          rw [answerable, ← served]
          cases dispatch setting.table setting.levels initialized outcome method params with
          | ok result =>
              exact serves_response_iff idFits (by decide) (by decide) _ result
          | error failure =>
              cases failure with
              | governor error =>
                  refine ⟨fun served => ?_, fun failureFits => serves_failure idFits _ failureFits⟩
                  obtain ⟨v, isPlain, failureFits⟩ :=
                    (serves_response_iff idFits (by decide) (by decide) _ _).mp served
                  cases (Datum.plain_ofValue _).symm.trans isPlain
                  exact failureFits
              | internal =>
                  exact iff_of_true (serves_failure idFits _ (fits_refused (by decide) _)) trivial
              | exits =>
                  refine iff_of_false ?_ id
                  rintro ⟨_, _, _, ⟨⟩, -⟩

end Room

/-- A message that asks for no response gets none. -/
theorem handle_silent (table : ToolTable) (levels : Nat) (initialized : Bool)
    (outcome : ToolOutcome) {message : Value}
    (silent : (message.isDict && (message.get? "id").isNone) = true) :
    handle table levels initialized outcome message = some (initialized, none) := by
  unfold handle
  simp only [silent, if_true]
  cases valid : validateMessage message with
  | error failure =>
      have failureFits := @fits_validateMessage 0 _ _ valid
      cases failure with
      | governor error => rfl
      | internal => rfl
      | exits => exact failureFits.elim
  | ok checked =>
      obtain ⟨method, params⟩ := checked
      dsimp only
      split
      · cases initialized <;> rfl
      · rfl

/-! Lines and whole inputs. -/

section Lines

variable {setting : Setting} {initialized : Bool} {turn : Turn} {text : Text}

theorem serves_parseError {k : Nat} (next : Bool) (message : String) :
    Serves (k + 4) (some (next, some (parseError message))) :=
  serves_failure (fits_null _) next (fits_refused (by decide) message)

theorem isNotification_iff {members : Members} (isText : turn.line.toText? = some text)
    (loaded : loads text = some (.dict members)) :
    IsNotification turn.line ↔ (Value.dict members).get? "id" = none := by
  constructor
  · rintro ⟨other, others, isOther, isLoaded, absent⟩
    cases isText.symm.trans isOther
    cases loaded.symm.trans isLoaded
    exact absent
  · exact fun absent => ⟨text, members, isText, loaded, absent⟩

/-- The line is served: it is consumed, and what is written is what it asks for. -/
def Served (setting : Setting) (initialized : Bool) (turn : Turn) : Prop :=
  ∃ next written, serveLine setting initialized turn = some (next, written) ∧
    Corresponds turn written

theorem served_of_serves {levels : Nat} (nesting : setting.interpreter.nesting = levels)
    (serves : Serves levels (respond setting initialized turn))
    (asks : ¬ IsNotification turn.line) : Served setting initialized turn := by
  obtain ⟨next, datum, text, responded, dumped, isResponse⟩ := serves
  refine ⟨next, some (text ++ ['\n']), ?_, fun silent => absurd silent asks,
    fun _ => ⟨_, rfl, isResponse⟩⟩
  rw [serveLine, responded]
  dsimp only
  rw [nesting, dumped]
  rfl

theorem serves_of_served {levels : Nat} (nesting : setting.interpreter.nesting = levels)
    (served : Served setting initialized turn) (asks : ¬ IsNotification turn.line) :
    Serves levels (respond setting initialized turn) := by
  obtain ⟨next, written, serving, corresponds⟩ := served
  obtain ⟨line, rfl, isResponse⟩ := corresponds.answered asks
  rw [serveLine] at serving
  cases responded : respond setting initialized turn with
  | none =>
      rw [responded] at serving
      cases serving
  | some pair =>
      obtain ⟨flag, answer⟩ := pair
      rw [responded] at serving
      cases answer with
      | none => cases serving
      | some datum =>
          obtain ⟨text, dumped, same⟩ := Option.map_eq_some_iff.mp serving
          cases same
          rw [nesting] at dumped
          exact ⟨next, datum, text, rfl, dumped, isResponse⟩

theorem served_iff_serves {levels : Nat} (nesting : setting.interpreter.nesting = levels)
    (asks : ¬ IsNotification turn.line) : Served setting initialized turn ↔
      Serves levels (respond setting initialized turn) :=
  ⟨fun served => serves_of_served nesting served asks,
    fun serves => served_of_serves nesting serves asks⟩

/-- What is no object is answered with an error. -/
theorem answerable_of_not_dict {outcome : ToolOutcome} {message : Value}
    (notDict : message.isDict = false) : Answerable setting initialized outcome message := by
  have refuses : validateMessage message = .error (refused (-32600) "invalid request") := by
    cases message with
    | dict members => cases notDict
    | null | bool | int | float | str | list => rfl
  exact ⟨by simp [acknowledges, refuses], by simp [reachesTool, refuses]⟩

theorem served_iff_of_message (isText : turn.line.toText? = some text)
    (within : (encode text).length ≤ maxMessageBytes) {message : Value}
    (loaded : loadsWithin setting.interpreter text = .ok message) :
    Served setting initialized turn ↔ (message.isDict = true → (message.get? "id").isSome = true →
      Answerable setting initialized turn.outcome message) := by
  have responds : respond setting initialized turn =
      handle setting.table setting.levels initialized turn.outcome message := by
    rw [respond, isText]
    dsimp only
    rw [if_neg (Nat.not_lt.mpr within), loaded]
  cases silent : message.isDict && (message.get? "id").isNone with
  | true =>
      obtain ⟨isDict, absent⟩ := Bool.and_eq_true_iff.mp silent
      rw [Option.isNone_iff_eq_none] at absent
      refine iff_of_true ⟨initialized, none, ?_, fun _ => rfl, fun asks => absurd ?_ asks⟩ ?_
      · rw [serveLine, responds, handle_silent _ _ _ _ silent]
      · cases message with
        | dict members =>
            exact (isNotification_iff isText (loads_of_loadsWithin loaded)).mpr absent
        | null | bool | int | float | str | list => cases isDict
      · rw [absent]
        rintro - ⟨⟩
  | false =>
      have asks : ¬ IsNotification turn.line := by
        rintro ⟨other, members, isOther, isLoaded, absent⟩
        cases isText.symm.trans isOther
        cases (loads_of_loadsWithin loaded).symm.trans isLoaded
        rw [absent] at silent
        cases silent
      obtain ⟨k, nesting⟩ : ∃ k, setting.interpreter.nesting = k + 4 :=
        ⟨setting.interpreter.nesting - 4, by have := setting.interpreter.roomy; omega⟩
      have room : 29 ≤ k := by
        have := setting.interpreter.roomy
        omega
      have fits := fits_of_loadsWithin loaded
      rw [nesting] at fits
      rw [served_iff_serves nesting asks, responds, serves_handle_iff nesting room _ _ fits silent]
      cases isDict : message.isDict with
      | false => exact iff_of_true (answerable_of_not_dict isDict) (by simp)
      | true =>
          rw [isDict, Bool.true_and] at silent
          have hasId : (message.get? "id").isSome = true := by
            cases found : message.get? "id" with
            | none =>
                rw [found] at silent
                cases silent
            | some v => rfl
          rw [hasId]
          exact ⟨fun answerable _ _ => answerable, fun answerable => answerable rfl rfl⟩

/-- A line is served exactly when it can be encoded and is regular. -/
theorem served_iff : Served setting initialized turn ↔
    ∃ text, turn.line.toText? = some text ∧ Regular setting initialized turn text := by
  cases isText : turn.line.toText? with
  | none =>
      refine iff_of_false ?_ (by simp)
      rintro ⟨next, written, serving, -⟩
      rw [serveLine, respond, isText] at serving
      cases serving
  | some text =>
      have same : (∃ other, some text = some other ∧ Regular setting initialized turn other) ↔
          Regular setting initialized turn text := by simp
      rw [same]
      obtain ⟨k, nesting⟩ : ∃ k, setting.interpreter.nesting = k + 4 :=
        ⟨setting.interpreter.nesting - 4, by have := setting.interpreter.roomy; omega⟩
      rcases Nat.lt_or_ge maxMessageBytes (encode text).length with beyond | within
      · have responds : respond setting initialized turn =
            some (initialized, some (parseError "message exceeds size limit")) := by
          rw [respond, isText]
          exact if_pos beyond
        have serves : Serves (k + 4) (respond setting initialized turn) :=
          responds ▸ serves_parseError initialized _
        constructor
        · intro served
          refine .long beyond fun silent => ?_
          obtain ⟨next, written, serving, corresponds⟩ := served
          obtain ⟨flag, datum, line, responded, dumped, -⟩ := serves
          rw [serveLine, responded] at serving
          dsimp only at serving
          rw [nesting, dumped, corresponds.silent silent] at serving
          cases serving
        · rintro (⟨-, asks⟩ | ⟨within, -⟩ | ⟨within, -⟩)
          · exact served_of_serves nesting serves asks
          · omega
          · omega
      · cases loaded : loadsWithin setting.interpreter text with
        | ok message =>
            rw [served_iff_of_message isText within loaded]
            constructor
            · exact fun answerable => .message within message loaded answerable
            · rintro (⟨beyond, -⟩ | ⟨-, failed⟩ | ⟨-, other, isOther, answerable⟩)
              · omega
              · rw [loaded] at failed
                cases failed
              · cases loaded.symm.trans isOther
                exact answerable
        | error e =>
            cases e with
            | decode =>
                have responds : respond setting initialized turn =
                    some (initialized, some (parseError "parse error")) := by
                  rw [respond, isText]
                  dsimp only
                  rw [if_neg (Nat.not_lt.mpr within), loaded]
                have asks : ¬ IsNotification turn.line := by
                  rintro ⟨other, members, isOther, isLoaded, -⟩
                  cases isText.symm.trans isOther
                  rw [loads_eq_none_of_decode loaded] at isLoaded
                  cases isLoaded
                exact iff_of_true (served_of_serves nesting
                  (responds ▸ serves_parseError initialized _) asks) (.malformed within loaded)
            | digits | recursion =>
                refine iff_of_false ?_ ?_
                · rintro ⟨next, written, serving, -⟩
                  rw [serveLine, respond, isText] at serving
                  dsimp only at serving
                  rw [if_neg (Nat.not_lt.mpr within), loaded] at serving
                  cases serving
                · rintro (⟨beyond, -⟩ | ⟨-, failed⟩ | ⟨-, other, isOther, -⟩)
                  · omega
                  · rw [loaded] at failed
                    cases failed
                  · rw [loaded] at isOther
                    cases isOther

theorem flagAfter_of_serveLine {next : Bool} {written : Option Text}
    (serving : serveLine setting initialized turn = some (next, written)) :
    flagAfter setting initialized turn = next := by
  rw [serveLine] at serving
  rw [flagAfter]
  split at serving
  · cases serving
  · next responded =>
      cases serving
      rw [responded]
  · next responded =>
      obtain ⟨text, -, same⟩ := Option.map_eq_some_iff.mp serving
      cases same
      rw [responded]

theorem serveStdio_iff (setting : Setting) (initialized : Bool) (turns : List Turn) :
    (serveStdio setting initialized turns).2 = true ∧
        List.Forall₂ Corresponds turns (serveStdio setting initialized turns).1 ↔
      AllRegular setting initialized turns := by
  induction turns generalizing initialized with
  | nil => exact iff_of_true ⟨rfl, .nil⟩ trivial
  | cons turn rest ih =>
      rw [AllRegular, ← served_iff, serveStdio]
      cases serving : serveLine setting initialized turn with
      | none =>
          refine iff_of_false ?_ ?_
          · rintro ⟨absurdly, -⟩
            cases absurdly
          · rintro ⟨⟨next, written, served, -⟩, -⟩
            rw [serving] at served
            cases served
      | some pair =>
          obtain ⟨next, written⟩ := pair
          rw [flagAfter_of_serveLine serving, ← ih next]
          dsimp only
          rw [List.forall₂_cons]
          constructor
          · rintro ⟨consumed, corresponds, further⟩
            exact ⟨⟨next, written, serving, corresponds⟩, consumed, further⟩
          · rintro ⟨⟨_, _, served, corresponds⟩, consumed, further⟩
            cases serving.symm.trans served
            exact ⟨consumed, corresponds, further⟩

end Lines

/-- The governor is robust on exactly the inputs whose lines are all regular. -/
theorem robust_iff (setting : Setting) (turns : List Turn) :
    Robust setting turns ↔ AllRegular setting false turns :=
  serveStdio_iff setting false turns

theorem encode_brackets (count : Nat) :
    encode (List.replicate count '[') = List.replicate count 91 := by
  induction count with
  | zero => rfl
  | succ count ih =>
      rw [List.replicate_succ, List.replicate_succ, ← ih]
      rfl

/-- Brackets beyond the recursion limit end the loop. -/
theorem not_robust_brackets :
    ¬ Robust ⟨⟨1000, by decide⟩, 990, ⟨[], by simp⟩⟩
      [⟨Str.ofText (List.replicate 2000 '['), .raised⟩] := by
  rw [robust_iff]
  rintro ⟨⟨text, isText, regular⟩, -⟩
  cases (Str.toText?_ofText _).symm.trans isText
  have stopped := @loadsWithin_brackets ⟨1000, by decide⟩ 2000 (by decide)
  rcases regular with ⟨beyond, -⟩ | ⟨-, failed⟩ | ⟨-, message, loaded, -⟩
  · rw [encode_brackets, List.length_replicate] at beyond
    exact absurd beyond (by decide)
  · rw [stopped] at failed
    cases failed
  · rw [stopped] at loaded
    cases loaded

end SelfConnect.Governor
