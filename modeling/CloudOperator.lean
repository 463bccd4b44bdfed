import CloudOperator.Access.Authentication
import CloudOperator.Access.Credentials
import CloudOperator.Access.Failure
import CloudOperator.Access.Keycloak
import CloudOperator.Access.Login
import CloudOperator.Access.Token
import CloudOperator.Access.Vault
import CloudOperator.Cloud.Client
import CloudOperator.Cloud.Endpoint
import CloudOperator.Cloud.Gateway
import CloudOperator.Cloud.Payload
import CloudOperator.Cloud.Problem
import CloudOperator.Cloud.Report
import CloudOperator.Cloud.Request
import CloudOperator.Cluster.Client
import CloudOperator.Cluster.Failure
import CloudOperator.Cluster.Path
import CloudOperator.Cluster.Request
import CloudOperator.Cluster.Server
import CloudOperator.Codec.Basic
import CloudOperator.Codec.Fields
import CloudOperator.Definition.Command
import CloudOperator.Definition.Kind
import CloudOperator.Definition.Yaml
import CloudOperator.Http.Form
import CloudOperator.Http.Percent
import CloudOperator.Http.Request
import CloudOperator.Http.Status
import CloudOperator.Http.Target
import CloudOperator.Http.Url
import CloudOperator.Json.Basic
import CloudOperator.Json.Binary64
import CloudOperator.Json.Limits
import CloudOperator.Json.MergePatch
import CloudOperator.Json.Reader
import CloudOperator.Json.Writer
import CloudOperator.Main
import CloudOperator.Monitoring.Metrics
import CloudOperator.Monitoring.Probe
import CloudOperator.Operation
import CloudOperator.Program
import CloudOperator.Proofs.Course
import CloudOperator.Proofs.Markers
import CloudOperator.Proofs.Stored
import CloudOperator.Reconcile.Debounce
import CloudOperator.Reconcile.Decision
import CloudOperator.Reconcile.Failure
import CloudOperator.Reconcile.Move
import CloudOperator.Reconcile.Pass
import CloudOperator.Reconcile.Reference
import CloudOperator.Reconcile.Remote
import CloudOperator.Reconcile.Task
import CloudOperator.Reconcile.Volumes
import CloudOperator.Reconcile.Work
import CloudOperator.Resource.Condition
import CloudOperator.Resource.Kind
import CloudOperator.Resource.Links
import CloudOperator.Resource.Metadata
import CloudOperator.Resource.Object
import CloudOperator.Resource.Phase
import CloudOperator.Resource.Reference
import CloudOperator.Resource.Spec
import CloudOperator.Resource.Status
import CloudOperator.Retry.Backoff
import CloudOperator.Retry.Directive
import CloudOperator.Retry.Policy
import CloudOperator.Settings
import CloudOperator.Simulation.Action
import CloudOperator.Simulation.Script
import CloudOperator.Simulation.World
import CloudOperator.Table
import CloudOperator.Text.Blank
import CloudOperator.Text.Infix
import CloudOperator.Text.Numeral
import CloudOperator.Text.Pieces
import CloudOperator.Text.Quoted
import CloudOperator.Text.Summary
import CloudOperator.Text.Unprintable
import CloudOperator.Time.Calendar
import CloudOperator.Time.Duration
import CloudOperator.Time.Instant
import CloudOperator.Time.Leeway
import CloudOperator.Time.Timestamp
import CloudOperator.Proofs.Remote
import CloudOperator.Proofs.Task
import CloudOperator.Proofs.Work
import CloudOperator.Proofs.Turn
import CloudOperator.Proofs.Moves
import CloudOperator.Proofs.PhaseOrder
import CloudOperator.Proofs.Deletion
import CloudOperator.Proofs.Delivery
import CloudOperator.Proofs.Cleanup
import CloudOperator.Proofs.Identity
import CloudOperator.Proofs.PhaseNotes
import CloudOperator.Proofs.Calendar
import CloudOperator.Proofs.Timestamp
import CloudOperator.Proofs.Elapsed
import CloudOperator.Proofs.Debounce
import CloudOperator.Proofs.Spacing
import CloudOperator.Proofs.Timeout
import CloudOperator.Proofs.PassFailure
import CloudOperator.Proofs.Addressable
import CloudOperator.Proofs.Synchronized
import CloudOperator.Proofs.RemoteFailure
import CloudOperator.Proofs.DataVolumes
import CloudOperator.Proofs.Authentication
import CloudOperator.Proofs.Logins
import CloudOperator.Proofs.Tenancy
import CloudOperator.Proofs.Patch
import CloudOperator.Proofs.Reading
import CloudOperator.Proofs.Service
import CloudOperator.Proofs.Guards
import CloudOperator.Proofs.Interleaving
import CloudOperator.Proofs.Finalizers
import CloudOperator.Proofs.Addresses
import CloudOperator.Proofs.Convergence
import CloudOperator.Proofs.Patchable
import CloudOperator.Proofs.StatusPatch
import CloudOperator.Proofs.Url
import CloudOperator.Proofs.Vault
import CloudOperator.Proofs.SecretPath
import CloudOperator.Proofs.Leases
import CloudOperator.Proofs.Backoff
import CloudOperator.Proofs.Lifetimes
import CloudOperator.Proofs.Anchors
import CloudOperator.Proofs.Retries
import CloudOperator.Proofs.TerminalCauses
import CloudOperator.Proofs.Commuting
import CloudOperator.Proofs.Secrecy
import CloudOperator.Proofs.Effects
import CloudOperator.Proofs.Creation
import CloudOperator.Proofs.RejectedDeletion
import CloudOperator.Proofs.Directives
import CloudOperator.Proofs.PhaseStart
import CloudOperator.Proofs.RoundTrip
import CloudOperator.Proofs.Counting
import CloudOperator.Proofs.Accounting
import CloudOperator.Proofs.Monitoring
import CloudOperator.Proofs.Difference
import CloudOperator.Proofs.VolumeChange
import CloudOperator.Proofs.NextWrite
import CloudOperator.Proofs.ConditionHistory
import CloudOperator.Proofs.WrittenStart
import CloudOperator.Proofs.Places
