import CrashMarker.CommandLine.Arguments
import CrashMarker.CommandLine.Commands
import CrashMarker.CommandLine.Inspection
import CrashMarker.CommandLine.Invocation
import CrashMarker.CommandLine.Program
import CrashMarker.Config
import CrashMarker.Event
import CrashMarker.Execution
import CrashMarker.Main
import CrashMarker.Path
import CrashMarker.Record
import CrashMarker.Script
import CrashMarker.Session
import CrashMarker.Session.Step
import CrashMarker.Storage.Error
import CrashMarker.Storage.FileTree
import CrashMarker.Storage.Medium
import CrashMarker.Storage.Memory
import CrashMarker.Storage.Monitored
import CrashMarker.Storage.Request
import CrashMarker.Store
import CrashMarker.Store.Error
import CrashMarker.Store.Inspection
import CrashMarker.Store.Operation
import CrashMarker.Table
import CrashMarker.Text.Quoted
import CrashMarker.Text.Unprintable
import CrashMarker.Transfer
import CrashMarker.Proofs.Memory.Sound
import CrashMarker.Proofs.Memory.Unreliable
import CrashMarker.Proofs.Overlay
import CrashMarker.Proofs.Upholds
import CrashMarker.Proofs.Transfers
import CrashMarker.Proofs.Parts
import CrashMarker.Proofs.Operations
import CrashMarker.Proofs.Conducts
import CrashMarker.Proofs.Atomicity
import CrashMarker.Proofs.Patience
import CrashMarker.Proofs.Memory.Disturbed
import CrashMarker.Proofs.Commands
import CrashMarker.Proofs.Reference
import CrashMarker.Proofs.Exclusion
import CrashMarker.Proofs.Memory.Faulted
import CrashMarker.Proofs.Coherence
import CrashMarker.Proofs.Serving
import CrashMarker.Proofs.Memory.Served
import CrashMarker.Proofs.Memory.Misbehaving
import CrashMarker.Proofs.Replacement
import CrashMarker.Proofs.Deletion
import CrashMarker.Proofs.Company.Operations
import CrashMarker.Proofs.Company.Seeing
import CrashMarker.Proofs.Company.Crowd
import CrashMarker.Proofs.Agreement
import CrashMarker.Proofs.Displacement
import CrashMarker.Proofs.Traces.Tells
import CrashMarker.Proofs.Traces.Evidence
import CrashMarker.Proofs.Traces.Parts
import CrashMarker.Proofs.Traces.Operations
import CrashMarker.Proofs.Careers
import CrashMarker.Proofs.Usability
import CrashMarker.Proofs.Durability
import CrashMarker.Proofs.Memory.Locks
import CrashMarker.Proofs.Custody
import CrashMarker.Proofs.Threads.Stages
import CrashMarker.Proofs.Threads.Team
import CrashMarker.Proofs.Confined
import CrashMarker.Proofs.Ordinary
import CrashMarker.Proofs.Logbook
import CrashMarker.Proofs.Association
import CrashMarker.Proofs.Completes
import CrashMarker.Proofs.Memory.Sighted
import CrashMarker.Proofs.Prediction
import CrashMarker.Proofs.Renaming.Alike
import CrashMarker.Proofs.Renaming.Operations
import CrashMarker.Proofs.Renaming.Storages
import CrashMarker.Proofs.Renaming.Sessions
import CrashMarker.Proofs.Sessions
import CrashMarker.Proofs.Invisibility
import CrashMarker.Proofs.Regular
import CrashMarker.Proofs.Regular.Tree
import CrashMarker.Proofs.CommandLine
import CrashMarker.Proofs.Traces.Turns
import CrashMarker.Proofs.Writing
import CrashMarker.Proofs.Reading
import CrashMarker.Proofs.Removal
import CrashMarker.Proofs.Memory.Annals
import CrashMarker.Proofs.Memory.LockTable
import CrashMarker.Proofs.Memory.Isolation
import CrashMarker.Proofs.Traces.Writes
import CrashMarker.Proofs.Accounting
