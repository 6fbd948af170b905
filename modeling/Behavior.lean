import Behavior.Board.Basic
import Behavior.Board.Lemmas
import Behavior.Board.Slots
import Behavior.Board.Value
import Behavior.Host
import Behavior.Interchange
import Behavior.Interning
import Behavior.Kind
import Behavior.Node.Basic
import Behavior.Node.Evaluation
import Behavior.Node.Outline
import Behavior.Node.Traversal
import Behavior.Node.Verdict
import Behavior.Record
import Behavior.Snapshot
import Behavior.Space
import Behavior.Status
import Behavior.Text.Form
import Behavior.Text.Quoted
import Behavior.Text.Shown
import Behavior.Tree.Basic
import Behavior.Tree.Binding
import Behavior.Tree.Planting
import Behavior.Proofs.Induction
import Behavior.Proofs.Relabeling
import Behavior.Proofs.Grafting
import Behavior.Proofs.Evaluation
import Behavior.Proofs.Matching
import Behavior.Proofs.Schedule
import Behavior.Proofs.Reach
import Behavior.Proofs.Visits
import Behavior.Proofs.Judgement
import Behavior.Proofs.Coherence
import Behavior.Proofs.Procedure
import Behavior.Proofs.Congruence
import Behavior.Proofs.Calls
import Behavior.Proofs.Scratch
import Behavior.Proofs.Panics
import Behavior.Proofs.Address
import Behavior.Proofs.Trace
import Behavior.Proofs.Casting
import Behavior.Proofs.Reference
import Behavior.Proofs.Interruption
import Behavior.Proofs.Replay
import Behavior.Proofs.Requests
import Behavior.Proofs.Ledgers
import Behavior.Proofs.Places
import Behavior.Proofs.Lookup
import Behavior.Proofs.Inventory
import Behavior.Proofs.Symbols
import Behavior.Proofs.Labels
import Behavior.Proofs.Repetition
import Behavior.Proofs.Towers
import Behavior.Proofs.Ordered
import Behavior.Proofs.Flattening
import Behavior.Proofs.Duality
import Behavior.Proofs.Turns
import Behavior.Proofs.ShortCircuit
import Behavior.Proofs.Bindings
import Behavior.Proofs.Thresholds
import Behavior.Proofs.Copies
import Behavior.Proofs.Waiting
import Behavior.Proofs.Wrappers
import Behavior.Proofs.Listing
import Behavior.Proofs.Report
