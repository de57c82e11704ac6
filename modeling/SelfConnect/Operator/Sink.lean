import SelfConnect.Operator.Service

namespace SelfConnect.Operator

open SelfConnect.Python SelfConnect.Library

/-! `LedgerApprovalDecisionSink`, on a ledger that others write to as well. -/

/-- An entry of the ledger whose `approval_audit` is an event. -/
structure LedgerEntry where
  event : ApprovalAuditEvent
  seq : Nat
  sig : Str
  deriving DecidableEq

/-- What the ledger does when it is asked: whether its entries verify, whether an entry is
written, and whether the call returns then. -/
structure Access where
  verifies : Bool
  writes : Bool
  returns : Bool
  /-- How many entries others have written since. -/
  others : Nat
  sig : Str

structure AuditLedger where
  entries : List LedgerEntry
  height : Nat
  accesses : Nat → Access
  asked : Nat

/-- `_receipt`; `none` is an exception. -/
def ledgerReceipt (entry : LedgerEntry) (event : ApprovalAuditEvent) : Option Value :=
  (approvalEventDigest event).map fun eventDigest =>
    .object [("event_id", .str event.eventId), ("approval_id", .str event.approvalId),
      ("transition", .lit event.transition.text), ("agent_id", .str event.agentId),
      ("action", .str event.action), ("operator_id", .str event.operatorId),
      ("context_digest", .str (Str.ofText event.contextDigest)),
      ("event_digest", .str (Str.ofText eventDigest)), ("ledger_seq", .int entry.seq),
      ("ledger_sig", .str entry.sig)]

/-- What `_existing` finds. -/
inductive Existing
  | absent
  | entry (entry : LedgerEntry)
  | conflict
  deriving DecidableEq

namespace AuditLedger

def existing (ledger : AuditLedger) (event : ApprovalAuditEvent) : Existing :=
  match ledger.entries.filter fun entry => entry.event.eventId = event.eventId with
  | [] => .absent
  | [entry] => if entry.event = event then .entry entry else .conflict
  | _ => .conflict

def next (ledger : AuditLedger) : AuditLedger := { ledger with asked := ledger.asked + 1 }

def access (ledger : AuditLedger) : Access := ledger.accesses ledger.asked

/-- `ledger.log`. -/
def written (ledger : AuditLedger) (event : ApprovalAuditEvent) : LedgerEntry :=
  ⟨event, ledger.height + ledger.access.others, ledger.access.sig⟩

def log (ledger : AuditLedger) (event : ApprovalAuditEvent) : AuditLedger :=
  { ledger.next with
    entries := ledger.entries ++ [ledger.written event]
    height := (ledger.written event).seq + 1 }

def record (ledger : AuditLedger) (event : ApprovalAuditEvent) : Option Value × AuditLedger :=
  if ledger.access.verifies then
    match ledger.existing event with
    | .conflict => (none, ledger.next)
    | .entry entry => (ledgerReceipt entry event, ledger.next)
    | .absent =>
        if ledger.access.writes then
          (if ledger.access.returns then ledgerReceipt (ledger.written event) event else none,
            ledger.log event)
        else (none, ledger.next)
  else (none, ledger.next)

def verifyReceipt (ledger : AuditLedger) (event : ApprovalAuditEvent) (receipt : Value) :
    Option Bool × AuditLedger :=
  if ledger.access.verifies then
    match ledger.existing event with
    | .entry entry => ((ledgerReceipt entry event).map (·.eqv receipt), ledger.next)
    | _ => (some false, ledger.next)
  else (some false, ledger.next)

end AuditLedger

def ledgerSink : Sink AuditLedger := ⟨AuditLedger.record, AuditLedger.verifyReceipt⟩

namespace AuditLedger

variable {ledger : AuditLedger} {event : ApprovalAuditEvent}

/-- The event has an entry of its own. -/
def Recorded (ledger : AuditLedger) (event : ApprovalAuditEvent) : Prop :=
  ∃ entry ∈ ledger.entries, entry.event = event

theorem recorded_of_existing {entry : LedgerEntry} (isEntry : ledger.existing event = .entry entry) :
    entry ∈ ledger.entries ∧ entry.event = event := by
  unfold existing at isEntry
  split at isEntry
  · cases isEntry
  · next found isFound =>
    split at isEntry
    · next same =>
      cases isEntry
      have member : entry ∈ ledger.entries.filter _ := isFound ▸ List.mem_singleton_self entry
      exact ⟨List.mem_of_mem_filter member, same⟩
    · cases isEntry
  · cases isEntry

theorem existing_eq_absent_iff : ledger.existing event = .absent ↔
    ∀ entry ∈ ledger.entries, entry.event.eventId ≠ event.eventId := by
  unfold existing
  split
  · next isNil =>
    refine iff_of_true rfl fun entry member same => ?_
    have found : entry ∈ ([] : List LedgerEntry) :=
      isNil ▸ List.mem_filter.mpr ⟨member, decide_eq_true same⟩
    cases found
  · next entry isEntry =>
    refine iff_of_false ?_ fun none => ?_
    · split <;> exact fun same => by cases same
    · have found : entry ∈ ledger.entries.filter _ := isEntry ▸ List.mem_singleton_self entry
      exact none entry (List.mem_of_mem_filter found) (of_decide_eq_true (List.mem_filter.mp found).2)
  · next isNotNil _ =>
    refine iff_of_false (fun same => by cases same) fun none => isNotNil ?_
    exact List.filter_eq_nil_iff.mpr fun entry member same =>
      none entry member (of_decide_eq_true same)

/-- Recording writes one entry, of an event that has none, or none at all. -/
theorem record_cases (ledger : AuditLedger) (event : ApprovalAuditEvent) :
    ((ledger.record event).2.entries = ledger.entries ∧
      (ledger.record event).2.height = ledger.height) ∨
    (ledger.existing event = .absent ∧ (ledger.record event).2 = ledger.log event) := by
  unfold record
  split
  · split
    · exact .inl ⟨rfl, rfl⟩
    · exact .inl ⟨rfl, rfl⟩
    · next absent =>
      split
      · exact .inr ⟨absent, rfl⟩
      · exact .inl ⟨rfl, rfl⟩
  · exact .inl ⟨rfl, rfl⟩

theorem verifyReceipt_entries (receipt : Value) :
    (ledger.verifyReceipt event receipt).2.entries = ledger.entries ∧
      (ledger.verifyReceipt event receipt).2.height = ledger.height := by
  unfold verifyReceipt
  split
  · split <;> exact ⟨rfl, rfl⟩
  · exact ⟨rfl, rfl⟩

theorem recorded_of_verified {receipt : Value}
    (verified : (ledger.verifyReceipt event receipt).1 = some true) : ledger.Recorded event := by
  unfold verifyReceipt at verified
  split at verified
  · split at verified
    · next entry isEntry =>
      obtain ⟨member, same⟩ := recorded_of_existing isEntry
      exact ⟨entry, member, same⟩
    · cases verified
  · cases verified

end AuditLedger

end SelfConnect.Operator
