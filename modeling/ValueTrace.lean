import ValueTrace.Host.Sandbox
import ValueTrace.Main
import ValueTrace.Proofs.Coordinator.Teardown
import ValueTrace.Proofs.Debuggee.Announcements
import ValueTrace.Proofs.Inspector.Accounts
import ValueTrace.Proofs.Inspector.Closing
import ValueTrace.Proofs.Inspector.Correlation
import ValueTrace.Proofs.Inspector.Delivery
import ValueTrace.Proofs.Inspector.Handles
import ValueTrace.Proofs.Inspector.NewerPayloads
import ValueTrace.Proofs.Inspector.Passes
import ValueTrace.Proofs.Inspector.Requests
import ValueTrace.Proofs.Inspector.RoundTrip
import ValueTrace.Proofs.Inspector.Sending
import ValueTrace.Proofs.Inspector.Waiting
import ValueTrace.Proofs.Path.Urls
import ValueTrace.Proofs.Project
import ValueTrace.Proofs.Report
import ValueTrace.Proofs.Report.Positions
import ValueTrace.Proofs.Report.Rereading
import ValueTrace.Proofs.Scope.Chains
import ValueTrace.Proofs.Scope.Logs
import ValueTrace.Proofs.Scope.Visible
import ValueTrace.Proofs.Session.Lifecycle
import ValueTrace.Proofs.Session.Results
import ValueTrace.Proofs.Settings.Overlay
import ValueTrace.Proofs.Settings.RequestBound
import ValueTrace.Proofs.Stepping.AllOrNothing
import ValueTrace.Proofs.Stepping.Contexts
import ValueTrace.Proofs.Stepping.Deadlines
import ValueTrace.Proofs.Stepping.Ends
import ValueTrace.Proofs.Stepping.Halts
import ValueTrace.Proofs.Stepping.Locality
import ValueTrace.Proofs.Stepping.Noise
import ValueTrace.Proofs.Stepping.Readings
import ValueTrace.Proofs.Stepping.Reruns
import ValueTrace.Proofs.Stepping.Restoring
import ValueTrace.Proofs.Stepping.Script
import ValueTrace.Proofs.Stepping.Serial
import ValueTrace.Proofs.Stepping.Trace
import ValueTrace.Proofs.Stepping.Undetermined
import ValueTrace.Proofs.Stepping.Wire
import ValueTrace.Proofs.Tree.Faults
import ValueTrace.Proofs.Tree.Stacks
