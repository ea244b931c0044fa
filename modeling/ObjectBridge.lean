import ObjectBridge.Bindings
import ObjectBridge.Bridge.Callback
import ObjectBridge.Bridge.ClassDefinition
import ObjectBridge.Bridge.Config
import ObjectBridge.Bridge.ConfigFile
import ObjectBridge.Bridge.Convert
import ObjectBridge.Bridge.Error
import ObjectBridge.Bridge.Invoke
import ObjectBridge.Bridge.Process
import ObjectBridge.Bridge.Proxy
import ObjectBridge.Bridge.Session
import ObjectBridge.Call
import ObjectBridge.Console.Answer
import ObjectBridge.Console.Command
import ObjectBridge.Console.Describe
import ObjectBridge.Console.GuestSnapshot
import ObjectBridge.Console.Perform
import ObjectBridge.Engine
import ObjectBridge.Guest.Attributes
import ObjectBridge.Guest.Callee
import ObjectBridge.Guest.Definition
import ObjectBridge.Guest.Dictionary
import ObjectBridge.Guest.Exception
import ObjectBridge.Guest.Heap
import ObjectBridge.Guest.Linearization
import ObjectBridge.Guest.Modules
import ObjectBridge.Guest.Object
import ObjectBridge.Guest.Printing
import ObjectBridge.Guest.Space
import ObjectBridge.Guest.Teardown
import ObjectBridge.Guest.Types
import ObjectBridge.Host.Class
import ObjectBridge.Host.Error
import ObjectBridge.Host.Interpreter
import ObjectBridge.Host.Value
import ObjectBridge.Import
import ObjectBridge.Machine
import ObjectBridge.Proofs.Bindings
import ObjectBridge.Proofs.Heap.Cascade
import ObjectBridge.Proofs.Heap.Chronicle
import ObjectBridge.Proofs.Heap.Exact
import ObjectBridge.Proofs.Heap.Generations
import ObjectBridge.Proofs.Heap.Kept
import ObjectBridge.Proofs.Heap.Ledger
import ObjectBridge.Proofs.Heap.Nesting
import ObjectBridge.Proofs.Heap.Restored
import ObjectBridge.Proofs.Heap.Slots
import ObjectBridge.Proofs.Heap.Survivors
import ObjectBridge.Proofs.Host.Dispatch
import ObjectBridge.Proofs.Host.Registration
import ObjectBridge.Proofs.Matching
import ObjectBridge.Proofs.Names
import ObjectBridge.Proofs.Space.Assignments
import ObjectBridge.Proofs.Space.Attributes
import ObjectBridge.Proofs.Space.Constituents
import ObjectBridge.Proofs.Space.Course
import ObjectBridge.Proofs.Space.Creation
import ObjectBridge.Proofs.Space.Datum
import ObjectBridge.Proofs.Space.Ended
import ObjectBridge.Proofs.Space.Exact
import ObjectBridge.Proofs.Space.Extension
import ObjectBridge.Proofs.Space.Inheritance
import ObjectBridge.Proofs.Space.Kinds
import ObjectBridge.Proofs.Space.Labels
import ObjectBridge.Proofs.Space.Linearization
import ObjectBridge.Proofs.Space.Listing
import ObjectBridge.Proofs.Space.Modules
import ObjectBridge.Proofs.Space.Naming
import ObjectBridge.Proofs.Space.Nesting
import ObjectBridge.Proofs.Space.NewTypes
import ObjectBridge.Proofs.Space.Operations
import ObjectBridge.Proofs.Space.Plain
import ObjectBridge.Proofs.Space.Printing
import ObjectBridge.Proofs.Space.Rebinding
import ObjectBridge.Proofs.Space.Roots
import ObjectBridge.Proofs.Space.Start
import ObjectBridge.Proofs.Space.Tables
import ObjectBridge.Proofs.Space.Teardown
import ObjectBridge.Proofs.Space.Traits
import ObjectBridge.Proofs.Space.TypedOperations
import ObjectBridge.Proofs.Space.Typing
import ObjectBridge.Proofs.Space.Withdrawal
import ObjectBridge.Proofs.Spelling
import ObjectBridge.Proofs.Tracing.Acts
import ObjectBridge.Proofs.Tracing.Asking
import ObjectBridge.Proofs.Tracing.Calls
import ObjectBridge.Proofs.Tracing.Commands
import ObjectBridge.Proofs.Tracing.Heap
import ObjectBridge.Proofs.Tracing.Machine
import ObjectBridge.Proofs.Tracing.Modules
import ObjectBridge.Proofs.Tracing.Opening
import ObjectBridge.Proofs.Tracing.Operations
import ObjectBridge.Proofs.Tracing.Proxies
import ObjectBridge.Proofs.Tracing.Runs
import ObjectBridge.Proofs.Tracing.Scripts
import ObjectBridge.Proofs.Tracing.Services
import ObjectBridge.Proofs.Tracing.Sessions
import ObjectBridge.Proofs.Tracing.Space
import ObjectBridge.Proofs.Tracing.Switching
import ObjectBridge.Proofs.Tracing.Worlds
import ObjectBridge.Proofs.World.Accounting
import ObjectBridge.Proofs.World.Acts
import ObjectBridge.Proofs.World.Alterations
import ObjectBridge.Proofs.World.Arguments
import ObjectBridge.Proofs.World.Assignments
import ObjectBridge.Proofs.World.Bodies
import ObjectBridge.Proofs.World.Callbacks
import ObjectBridge.Proofs.World.Calls
import ObjectBridge.Proofs.World.Closing
import ObjectBridge.Proofs.World.CommandHistories
import ObjectBridge.Proofs.World.Commands
import ObjectBridge.Proofs.World.Conversions
import ObjectBridge.Proofs.World.Definitions
import ObjectBridge.Proofs.World.Denotation
import ObjectBridge.Proofs.World.Ended
import ObjectBridge.Proofs.World.Endurance
import ObjectBridge.Proofs.World.FailedImports
import ObjectBridge.Proofs.World.Handles
import ObjectBridge.Proofs.World.Histories
import ObjectBridge.Proofs.World.Identity
import ObjectBridge.Proofs.World.ImportEffects
import ObjectBridge.Proofs.World.ImportRequests
import ObjectBridge.Proofs.World.ImportedNames
import ObjectBridge.Proofs.World.Imports
import ObjectBridge.Proofs.World.Keywords
import ObjectBridge.Proofs.World.Lifecycle
import ObjectBridge.Proofs.World.Lineage
import ObjectBridge.Proofs.World.Listing
import ObjectBridge.Proofs.World.Machine
import ObjectBridge.Proofs.World.Meanings
import ObjectBridge.Proofs.World.Messages
import ObjectBridge.Proofs.World.Modules
import ObjectBridge.Proofs.World.NewTypes
import ObjectBridge.Proofs.World.Offered
import ObjectBridge.Proofs.World.Operations
import ObjectBridge.Proofs.World.Passing
import ObjectBridge.Proofs.World.Proxies
import ObjectBridge.Proofs.World.ProxyMessages
import ObjectBridge.Proofs.World.Publication
import ObjectBridge.Proofs.World.Recognition
import ObjectBridge.Proofs.World.References
import ObjectBridge.Proofs.World.Resolution
import ObjectBridge.Proofs.World.Respects
import ObjectBridge.Proofs.World.Results
import ObjectBridge.Proofs.World.Returns
import ObjectBridge.Proofs.World.RoundTrip
import ObjectBridge.Proofs.World.Routing
import ObjectBridge.Proofs.World.Scripts
import ObjectBridge.Proofs.World.Services
import ObjectBridge.Proofs.World.Sessions
import ObjectBridge.Proofs.World.Setting
import ObjectBridge.Proofs.World.Slot
import ObjectBridge.Proofs.World.Storage
import ObjectBridge.Proofs.World.Stored
import ObjectBridge.Proofs.World.Synthesis
import ObjectBridge.Proofs.World.Temporary
import ObjectBridge.Proofs.World.Traits
import ObjectBridge.Proofs.World.Visited
import ObjectBridge.Registry.Name
import ObjectBridge.Registry.Resolve
import ObjectBridge.Registry.Serve
import ObjectBridge.Registry.Service
import ObjectBridge.Script.Body
import ObjectBridge.Script.Evaluate
import ObjectBridge.Sequence
import ObjectBridge.Text.Case
import ObjectBridge.Text.Characters
import ObjectBridge.Text.Mask
import ObjectBridge.Text.Segments
import ObjectBridge.Toml.Document
import ObjectBridge.Toml.Grammar
import ObjectBridge.Toml.Moment
import ObjectBridge.Toml.Number
import ObjectBridge.Toml.Quotation
import ObjectBridge.Toml.Scan
import ObjectBridge.Toml.Value
import ObjectBridge.World.Act
import ObjectBridge.World.Basic
