import Remediation.Action.Probe
import Remediation.ControlPlane.Memory
import Remediation.Main
import Remediation.Proofs.Command.Running
import Remediation.Proofs.ControlPlane.Markers
import Remediation.Proofs.ControlPlane.Offsets
import Remediation.Proofs.ControlPlane.Totals
import Remediation.Proofs.Resource.Cycles
import Remediation.Proofs.Run.Cancellation
import Remediation.Proofs.Run.Complement
import Remediation.Proofs.Run.Convergence
import Remediation.Proofs.Run.Repetition
import Remediation.Proofs.Run.Validation
import Remediation.Proofs.Resource.Replies
import Remediation.Proofs.ControlPlane.BoundedTotals
import Remediation.Proofs.Json.Backticks
import Remediation.Proofs.KeyPath.Indexes
import Remediation.Proofs.KeyPath.Nesting
import Remediation.Proofs.KeyPath.RoundTrip
import Remediation.Proofs.KeyPath.Literals
import Remediation.Proofs.Filter.Elements
import Remediation.Proofs.Filter.Integers
import Remediation.Proofs.Policy.Repeated
import Remediation.Proofs.Filter.Patterns
import Remediation.Proofs.Policy.ZeroLimits
import Remediation.Proofs.Run.Resolution
import Remediation.Proofs.Action.Creations
import Remediation.Proofs.Action.Expansion
import Remediation.Proofs.Run.DepthGuards
import Remediation.Proofs.Resource.Merging
import Remediation.Proofs.ControlPlane.Routes
import Remediation.Proofs.Settings.Saving
import Remediation.Proofs.Http.Excerpts
import Remediation.Proofs.Run.Tables
import Remediation.Proofs.Http.Excerpts
import Remediation.Proofs.Run.Tables
