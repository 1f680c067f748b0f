import TrinoGateway.Lib.Prog
import TrinoGateway.Lib.Pool
import TrinoGateway.Lib.Rotation
import TrinoGateway.Lib.Scan
import TrinoGateway.Lib.Text
import TrinoGateway.Lib.Bytes
import TrinoGateway.Lib.Regex
import TrinoGateway.Lib.Json
import TrinoGateway.Lib.Uri
import TrinoGateway.Lib.RegexReplace
import TrinoGateway.Lib.Paging
import TrinoGateway.Spec.Models
import TrinoGateway.Spec.Database
import TrinoGateway.Spec.Spine
import TrinoGateway.Spec.Repo
import TrinoGateway.Spec.GroupApi
import TrinoGateway.Spec.PolicyApi
import TrinoGateway.Spec.BackendApi
import TrinoGateway.Spec.Health
import TrinoGateway.Spec.QueryApi
import TrinoGateway.Spec.Http
import TrinoGateway.Spec.ReverseProxy
import TrinoGateway.Spec.Router
import TrinoGateway.Spec.Auth
import TrinoGateway.Spec.Gateway
import TrinoGateway.Spec.Lifecycle
import TrinoGateway.Spec.Api
import TrinoGateway.Spec.Monitor
import TrinoGateway.Spec.Cron
import TrinoGateway.Spec.TrinoClient
import TrinoGateway.Spec.Logger
import TrinoGateway.Spec.Marking
import TrinoGateway.Proof.Repo
import TrinoGateway.Proof.Statements
import TrinoGateway.Proof.PolicySets
import TrinoGateway.Proof.Updates
import TrinoGateway.Proof.Selection
import TrinoGateway.Proof.Tiers
import TrinoGateway.Proof.Impersonation
import TrinoGateway.Proof.AuthCache
import TrinoGateway.Proof.Director
import TrinoGateway.Proof.FailClosed
import TrinoGateway.Proof.OpenProxy
import TrinoGateway.Proof.Saves
import TrinoGateway.Proof.Routes
import TrinoGateway.Proof.Tables
import TrinoGateway.Proof.Sticky
import TrinoGateway.Proof.ApiAccess
import TrinoGateway.Proof.Validity
import TrinoGateway.Proof.Schema
import TrinoGateway.Proof.GroupWrites
import TrinoGateway.Proof.GroupRoundTrip
import TrinoGateway.Proof.PolicyRoundTrip
import TrinoGateway.Proof.RoundRobin
import TrinoGateway.Proof.GroupRaces
import TrinoGateway.Proof.MonitorCycle
import TrinoGateway.Proof.RowOrder
import TrinoGateway.Proof.Passwords
import TrinoGateway.Proof.Transactions
import TrinoGateway.Proof.Churn
import TrinoGateway.Proof.LeastLoad
import TrinoGateway.Proof.Cron
import TrinoGateway.Proof.ClusterUp
import TrinoGateway.Proof.MonitorVerdicts
import TrinoGateway.Proof.Payload
import TrinoGateway.Proof.ListQueries
import TrinoGateway.Proof.KillPatterns
import TrinoGateway.Proof.KillLayout
import TrinoGateway.Proof.KillCalls
import TrinoGateway.Proof.SimpleCache
import TrinoGateway.Proof.LogFields
import TrinoGateway.Proof.ClusterLoad
import TrinoGateway.Proof.MarkErrors
import TrinoGateway.Proof.NullColumns
import TrinoGateway.Proof.QueryPages
import TrinoGateway.Proof.Redirect
import TrinoGateway.Proof.Replies
import TrinoGateway.Proof.Learning
import TrinoGateway.Proof.Isolation
import TrinoGateway.Proof.Provenance
import TrinoGateway.Proof.Admission
import TrinoGateway.Proof.Availability
import TrinoGateway.Proof.ValidInService
import TrinoGateway.Proof.ClosedLoop
import TrinoGateway.Proof.History
import TrinoGateway.Lib.Cleanup
import TrinoGateway.Spec.Probes
import TrinoGateway.Proof.ProbeHandles
import TrinoGateway.Proof.ProbeRefinement
import TrinoGateway.Lib.Traces
import TrinoGateway.Proof.Panics
import TrinoGateway.Proof.Draining
