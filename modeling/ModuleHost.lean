import ModuleHost.Bytes
import ModuleHost.Call.Args
import ModuleHost.Call.Envelope
import ModuleHost.Call.Parameters
import ModuleHost.Call.Value
import ModuleHost.CommandLine.Basic
import ModuleHost.CommandLine.Files
import ModuleHost.CommandLine.Grammar
import ModuleHost.CommandLine.Request
import ModuleHost.Config.Basic
import ModuleHost.Config.Path
import ModuleHost.Config.Resolve
import ModuleHost.Control.Basic
import ModuleHost.Control.Scripted
import ModuleHost.Dict
import ModuleHost.Engine.Basic
import ModuleHost.Engine.Buffer
import ModuleHost.Engine.Control
import ModuleHost.Engine.Export
import ModuleHost.Engine.Imports
import ModuleHost.Engine.Invocation
import ModuleHost.Engine.Registration
import ModuleHost.Error
import ModuleHost.Host.Basic
import ModuleHost.Interface.Basic
import ModuleHost.Interface.Summary
import ModuleHost.Json.Basic
import ModuleHost.Json.Printer
import ModuleHost.Json.Reader
import ModuleHost.Json.Typed
import ModuleHost.Log.Filter
import ModuleHost.Log.Level
import ModuleHost.Log.Logger
import ModuleHost.Main
import ModuleHost.Number.Binary64
import ModuleHost.Number.Shortest
import ModuleHost.Proofs.Call.Canonical
import ModuleHost.Proofs.Call.Correspondence
import ModuleHost.Proofs.Call.Encoding
import ModuleHost.Proofs.Call.Parameters
import ModuleHost.Proofs.Call.Positions
import ModuleHost.Proofs.Config.Environment
import ModuleHost.Proofs.Config.Names
import ModuleHost.Proofs.Config.Resolution
import ModuleHost.Proofs.Config.Text
import ModuleHost.Proofs.Engine.Acceptance
import ModuleHost.Proofs.Engine.Agreement
import ModuleHost.Proofs.Engine.Arguments
import ModuleHost.Proofs.Engine.Arithmetic
import ModuleHost.Proofs.Engine.Authorship
import ModuleHost.Proofs.Engine.Blame
import ModuleHost.Proofs.Engine.Completion
import ModuleHost.Proofs.Engine.Confinement
import ModuleHost.Proofs.Engine.Custody
import ModuleHost.Proofs.Engine.Deeds
import ModuleHost.Proofs.Engine.Delivery
import ModuleHost.Proofs.Engine.Evolution
import ModuleHost.Proofs.Engine.Exchanges
import ModuleHost.Proofs.Engine.Exports
import ModuleHost.Proofs.Engine.Facade
import ModuleHost.Proofs.Engine.Forwarding
import ModuleHost.Proofs.Engine.Hosting
import ModuleHost.Proofs.Engine.Indifference
import ModuleHost.Proofs.Engine.Interchange
import ModuleHost.Proofs.Engine.Invariant
import ModuleHost.Proofs.Engine.Isolation
import ModuleHost.Proofs.Engine.Layout
import ModuleHost.Proofs.Engine.Linking
import ModuleHost.Proofs.Engine.Lockstep
import ModuleHost.Proofs.Engine.Logging
import ModuleHost.Proofs.Engine.Muting
import ModuleHost.Proofs.Engine.Outputs
import ModuleHost.Proofs.Engine.Parameters
import ModuleHost.Proofs.Engine.Reexports
import ModuleHost.Proofs.Engine.Refusal
import ModuleHost.Proofs.Engine.Registration
import ModuleHost.Proofs.Engine.Rejection
import ModuleHost.Proofs.Engine.Reporting
import ModuleHost.Proofs.Engine.Seclusion
import ModuleHost.Proofs.Engine.Siblings
import ModuleHost.Proofs.Engine.Silencing
import ModuleHost.Proofs.Engine.Stacking
import ModuleHost.Proofs.Engine.Stopping
import ModuleHost.Proofs.Engine.Transfers
import ModuleHost.Proofs.Host.Crowd
import ModuleHost.Proofs.Host.Interleaving
import ModuleHost.Proofs.Host.Ledger
import ModuleHost.Proofs.Host.Refinement
import ModuleHost.Proofs.Interface.Inspection
import ModuleHost.Proofs.Interface.Metadata
import ModuleHost.Proofs.Interface.Sections
import ModuleHost.Proofs.Json.Container
import ModuleHost.Proofs.Json.Format
import ModuleHost.Proofs.Json.Members
import ModuleHost.Proofs.Json.Numeral
import ModuleHost.Proofs.Json.Parsed
import ModuleHost.Proofs.Json.Record
import ModuleHost.Proofs.Json.RoundTrip
import ModuleHost.Proofs.Json.Scalar
import ModuleHost.Proofs.Json.Shape
import ModuleHost.Proofs.Json.Skip
import ModuleHost.Proofs.Log.Accord
import ModuleHost.Proofs.Log.Directives
import ModuleHost.Proofs.Log.Grammar
import ModuleHost.Proofs.Registry.Ledger
import ModuleHost.Proofs.Registry.Lifecycle
import ModuleHost.Proofs.Registry.Replies
import ModuleHost.Proofs.Registry.Routing
import ModuleHost.Proofs.Registry.Run
import ModuleHost.Proofs.Text.Case
import ModuleHost.Proofs.Text.Pieces
import ModuleHost.Proofs.Text.Utf8
import ModuleHost.Proofs.Wasm.Entries
import ModuleHost.Proofs.Wasm.Framing
import ModuleHost.Proofs.Wasm.Invariant
import ModuleHost.Proofs.Wasm.Memory
import ModuleHost.Proofs.Wasm.Mirror
import ModuleHost.Proofs.Wasm.Nesting
import ModuleHost.Proofs.Wasm.Parts
import ModuleHost.Proofs.Wasm.Spelling
import ModuleHost.Proofs.Wasm.Tables
import ModuleHost.Proofs.Wasm.Typing
import ModuleHost.Registry.Basic
import ModuleHost.Registry.Command
import ModuleHost.Text.Blank
import ModuleHost.Text.Utf8
import ModuleHost.Wasm.Binary
import ModuleHost.Wasm.Code
import ModuleHost.Wasm.Exec
import ModuleHost.Wasm.Instantiation
import ModuleHost.Wasm.Instr
import ModuleHost.Wasm.Memory
import ModuleHost.Wasm.Module
import ModuleHost.Wasm.Section
import ModuleHost.Wasm.StackUse
import ModuleHost.Wasm.Store
import ModuleHost.Wasm.Table
import ModuleHost.Wasm.Types
import ModuleHost.Wasm.Validation
import ModuleHost.Wasm.Word
