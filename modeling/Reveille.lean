import Reveille.Condition.TreeLemmas
import Reveille.Daemon.Session
import Reveille.Main
import Reveille.Settings.Wake
import Reveille.Proofs.RuleText.Line
import Reveille.Proofs.Calendar.Literals
import Reveille.Proofs.RuleText.Grammar
import Reveille.Proofs.RuleText.Alternatives
import Reveille.Proofs.RuleText.Layout
import Reveille.Proofs.RuleText.Parsing
import Reveille.Proofs.RuleText.Complaint
import Reveille.Proofs.Condition.Meaning
import Reveille.Proofs.Condition.Elapsed
import Reveille.Proofs.Rule.Built
import Reveille.Proofs.Engine.Run
import Reveille.Proofs.Engine.Spacing
import Reveille.Proofs.Engine.History
import Reveille.Proofs.Engine.Independence
import Reveille.Proofs.RuleText.Comparison
import Reveille.Proofs.RuleText.Joining
import Reveille.Proofs.RuleText.Relayout
import Reveille.Proofs.RuleText.Stepwise
import Reveille.Proofs.RuleText.Faults
import Reveille.Daemon.Service
import Reveille.Proofs.Daemon.Moments
import Reveille.Proofs.Daemon.Tasks
import Reveille.Proofs.Daemon.Service
import Reveille.Proofs.Daemon.Session
import Reveille.Proofs.Daemon.Order
import Reveille.Proofs.Json5.Strings
import Reveille.Proofs.Json5.Tokens
import Reveille.Proofs.Number.Whole
import Reveille.Proofs.Json5.Documents
import Reveille.Proofs.Settings.Format
import Reveille.Proofs.Files.Places
import Reveille.Proofs.Settings.RoundTrip
import Reveille.Proofs.Settings.Verification
import Reveille.Proofs.Daemon.Holdings
import Reveille.Proofs.Daemon.Tidiness
import Reveille.Proofs.Files.FileNames
import Reveille.Proofs.Settings.Paths
import Reveille.Proofs.Engine.Prediction
import Reveille.Proofs.Engine.Undelayed
import Reveille.Proofs.Command.Idle
import Reveille.Proofs.Control.Observation
import Reveille.Proofs.Condition.Traversal
import Reveille.Proofs.Condition.Binding
import Reveille.Proofs.Condition.ShortCircuit
import Reveille.Proofs.RuleText.WellFormed
import Reveille.Proofs.RuleText.Locality
import Reveille.Proofs.RuleText.Grouping
import Reveille.Proofs.Condition.Readability
import Reveille.Proofs.Control.Framing
import Reveille.Proofs.Engine.NoMotionBefore
import Reveille.Proofs.Rule.Parts
import Reveille.Proofs.Engine.Status
import Reveille.Proofs.Settings.Editing
import Reveille.Net.Octets
import Reveille.Calendar.Fields
import Reveille.Proofs.Text.Slots
import Reveille.Proofs.Net.Octets
import Reveille.Proofs.RuleText.Trials
import Reveille.Proofs.RuleText.AnyOrder
import Reveille.Proofs.RuleText.Recursion
import Reveille.Proofs.RuleText.Columns
import Reveille.Proofs.RuleText.Calls
import Reveille.Proofs.RuleText.Literals
