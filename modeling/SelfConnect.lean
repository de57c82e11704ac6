import SelfConnect.Provenance.Recorder
import SelfConnect.Provenance.Origin
import SelfConnect.Provenance.Agreement
import SelfConnect.HashStability
import SelfConnect.Provenance.Authority
import SelfConnect.Provenance.Report
import SelfConnect.Provenance.Coverage
import SelfConnect.Provenance.Upheld
import SelfConnect.Sessions.Atomicity
import SelfConnect.Ledger.Overflow
import SelfConnect.Python.Json.Document
import SelfConnect.Python.Datetime
import SelfConnect.Python.Hashlib
import SelfConnect.Library.Program
import SelfConnect.Library.System
import SelfConnect.Library.HashChain
import SelfConnect.Replication.Contract
import SelfConnect.Revocation.Enforcement
import SelfConnect.Control.Drain
import SelfConnect.Delegation.Finalisation
import SelfConnect.Delegation.Leases
import SelfConnect.CngLedger.Runs
import SelfConnect.Observer.Incremental
import SelfConnect.Observer.Redaction
import SelfConnect.Policy.Overlays
import SelfConnect.Ownership.Exclusion
import SelfConnect.Gate.Agreement
import SelfConnect.Gate.Replay
import SelfConnect.Handshake.Soundness
import SelfConnect.Runtime.Lifetime
import SelfConnect.Ultra.Boundary
import SelfConnect.Ultra.Pool
import SelfConnect.Ultra.Lease
import SelfConnect.Ultra.Rotation
import SelfConnect.Ultra.Export
import SelfConnect.Ultra.Identity
import SelfConnect.Ultra.Equivalence
import SelfConnect.Ultra.Tumbler
import SelfConnect.Ultra.Tombstones
import SelfConnect.Ultra.Hops
import SelfConnect.Ultra.Readiness
import SelfConnect.Ultra.ReloadAtomicity
import SelfConnect.Policy.Padding
import SelfConnect.Policy.Guards
import SelfConnect.Provenance.Contract
import SelfConnect.Provenance.Ipc
import SelfConnect.Provenance.Finality
import SelfConnect.Provenance.Retry
import SelfConnect.Governor.Robustness
import SelfConnect.Ledger.Lookup
import SelfConnect.Wfp.Allow
import SelfConnect.Wfp.Script
import SelfConnect.Windows.Router
import SelfConnect.Ultra.RecoveryToken
import SelfConnect.Ultra.AgentCalls
import SelfConnect.Operator.Consumption
import SelfConnect.Operator.Grants
import SelfConnect.Operator.Retention
import SelfConnect.Operator.Nonces
import SelfConnect.Operator.Lineage
