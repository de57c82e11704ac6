import SelfConnect.Ledger.Entry
import SelfConnect.Provenance.Agreement

namespace SelfConnect

open SelfConnect.Python SelfConnect.Python.Json SelfConnect.Provenance SelfConnect.Ledger

/-! What both logs sign and hash, before a line is written and after it is read. -/

private theorem sortable_of_dumpsSorted {style : Style} {v : Value}
    (dumped : (dumpsSorted style v).isSome = true) : sortable v = true := by
  unfold dumpsSorted at dumped
  split at dumped
  · assumption
  · cases dumped

def digitKeys : Members :=
  [(.int 2, Value.lit "two"), (.int 10, Value.lit "ten")]

def digitKeysEntry : Entry where
  seq := 1
  agentId := Str.lit "agent"
  now := .nan
  prevHash := Ledger.genesisHash
  request := ⟨Str.lit "count", [], some [(.str (Str.lit "marks"), .dict digitKeys)], none⟩
  redacted := false

def digitKeysStart : Provenance.World :=
  (newWorld signingConfig).runAll (fun _ => quietTurn) [.start false false]

def digitKeysDraft : Draft where
  seq := 1
  now := quietTurn.now
  sessionId := Str.lit "session"
  agentId := Str.lit "agent"
  eventType := .toolCall
  payload := digitKeys
  prevHash := Provenance.genesisHash
  osCorroboration := none
  signature := none

end SelfConnect
