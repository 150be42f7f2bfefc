import GuardedInstall.Main
import GuardedInstall.Proofs.File.Walk
import GuardedInstall.Proofs.File.Child
import GuardedInstall.Proofs.File.Restore
import GuardedInstall.Proofs.File.Search
import GuardedInstall.Proofs.File.Lookup
import GuardedInstall.Proofs.File.Normal
import GuardedInstall.Proofs.File.Nearest
import GuardedInstall.Proofs.File.Scope
import GuardedInstall.Proofs.Sandbox.Grants
import GuardedInstall.Proofs.Sandbox.Privileges
import GuardedInstall.Proofs.Routing
import GuardedInstall.Proofs.Run.Trace
import GuardedInstall.Proofs.Run.Rules
import GuardedInstall.Proofs.Run.Stage
import GuardedInstall.Proofs.Run.Passage
import GuardedInstall.Proofs.Run.Course
import GuardedInstall.Proofs.Run.StateFiles
import GuardedInstall.Proofs.Run.Gate
import GuardedInstall.Proofs.Run.ExitStatus
import GuardedInstall.Proofs.Run.Confinement
import GuardedInstall.Proofs.Text.Lines
import GuardedInstall.Proofs.Lockfile.Descriptor
import GuardedInstall.Proofs.Lockfile.Identity
import GuardedInstall.Proofs.Lockfile.Entries
import GuardedInstall.Proofs.Lockfile.Reading
import GuardedInstall.Proofs.Lockfile.Sections
import GuardedInstall.Proofs.Lockfile.Written
import GuardedInstall.Proofs.Lockfile.Faults
import GuardedInstall.Proofs.Lockfile.Layout
import GuardedInstall.Proofs.Run.Resolution
import GuardedInstall.Proofs.Run.Isolation
import GuardedInstall.Proofs.Run.Routes
import GuardedInstall.Proofs.CommandLine.Forwarding
import GuardedInstall.Proofs.Stepwise
import GuardedInstall.Proofs.Analysis.Faults
import GuardedInstall.Proofs.Config.Faults
import GuardedInstall.Proofs.CommandLine.Configured
import GuardedInstall.Proofs.Json.Written
import GuardedInstall.Proofs.CommandLine.Shown
import GuardedInstall.Proofs.Lockfile.Requested
import GuardedInstall.Proofs.Text.Sorted
import GuardedInstall.Proofs.Sandbox.Flags
import GuardedInstall.Proofs.Config.Document
import GuardedInstall.Proofs.Decimal.Positive
import GuardedInstall.Proofs.Config.Valid
import GuardedInstall.Proofs.Config.Precedence
import GuardedInstall.Proofs.Analysis.Blocks
import GuardedInstall.Proofs.Analysis.Payload
import GuardedInstall.Proofs.Analysis.Request
import GuardedInstall.Proofs.Analysis.Told
import GuardedInstall.Proofs.Run.Record
import GuardedInstall.Proofs.Run.Told
