import WasmGauge.Main
import WasmGauge.Decimal.Fixed
import WasmGauge.Decimal.Layout
import WasmGauge.Decimal.Reader
import WasmGauge.Decimal.Shortest
import WasmGauge.Digest.Sha256
import WasmGauge.Gauge.Bundle
import WasmGauge.Gauge.Cache
import WasmGauge.Gauge.Clock
import WasmGauge.Gauge.Comparison
import WasmGauge.Gauge.Demonstration
import WasmGauge.Gauge.Engine
import WasmGauge.Gauge.Failure
import WasmGauge.Gauge.FailureClass
import WasmGauge.Gauge.Invocation
import WasmGauge.Gauge.Loading
import WasmGauge.Gauge.Logger
import WasmGauge.Gauge.Reference
import WasmGauge.Gauge.Settings
import WasmGauge.Gauge.Signature
import WasmGauge.Gauge.Source
import WasmGauge.Gauge.Suite
import WasmGauge.Gauge.World
import WasmGauge.Number.Binary
import WasmGauge.Number.Power
import WasmGauge.Number.Rounding
import WasmGauge.Storage.Disk
import WasmGauge.Storage.Fault
import WasmGauge.Storage.Path
import WasmGauge.Storage.Route
import WasmGauge.Text.Hex
import WasmGauge.Text.Numeral
import WasmGauge.Text.Printable
import WasmGauge.Text.Quoted
import WasmGauge.Text.Uppercase
import WasmGauge.Text.Surrogate
import WasmGauge.Text.Utf8
import WasmGauge.Value.Arithmetic
import WasmGauge.Value.Arity
import WasmGauge.Value.Basic
import WasmGauge.Value.Fault
import WasmGauge.Value.Written
import WasmGauge.Wasm.Binary.Instruction
import WasmGauge.Wasm.Binary.Integer
import WasmGauge.Wasm.Binary.Module
import WasmGauge.Wasm.Exec
import WasmGauge.Wasm.Instance
import WasmGauge.Wasm.Module
import WasmGauge.Wasm.Numeric.Floating
import WasmGauge.Wasm.Numeric.Integer
import WasmGauge.Wasm.Numeric.Operation
import WasmGauge.Wasm.Operator
import WasmGauge.Wasm.Store
import WasmGauge.Wasm.Types
import WasmGauge.Wasm.Val
import WasmGauge.Wasm.Validation
import WasmGauge.Wat.Assembly
import WasmGauge.Wat.Code
import WasmGauge.Wat.Document
import WasmGauge.Wat.Field
import WasmGauge.Wat.Number
import WasmGauge.Wat.Token
import WasmGauge.Proofs.Cache.Beginning
import WasmGauge.Proofs.Cache.Names
import WasmGauge.Proofs.Cache.Operations
import WasmGauge.Proofs.Cache.Soundness
import WasmGauge.Proofs.Cache.Transparency
import WasmGauge.Proofs.Cache.Yield
import WasmGauge.Proofs.Comparison.Independence
import WasmGauge.Proofs.Comparison.Reports
import WasmGauge.Proofs.Comparison.Steps
import WasmGauge.Proofs.Compilation
import WasmGauge.Proofs.Fibonacci.Agreement
import WasmGauge.Proofs.Fibonacci.Builds
import WasmGauge.Proofs.Fibonacci.Modules
import WasmGauge.Proofs.Footprint
import WasmGauge.Proofs.Handles.Instantiation
import WasmGauge.Proofs.Handles.Isolation
import WasmGauge.Proofs.Handles.Requests
import WasmGauge.Proofs.Handles.Stages
import WasmGauge.Proofs.Lookup
import WasmGauge.Proofs.Outcome
import WasmGauge.Proofs.Running
import WasmGauge.Proofs.Storage.Entries
import WasmGauge.Proofs.Storage.Routes
import WasmGauge.Proofs.Handles.Arguments
import WasmGauge.Proofs.Handles.Boundary
import WasmGauge.Proofs.Handles.Paths
import WasmGauge.Proofs.Comparison.Lines
import WasmGauge.Proofs.Comparison.Failures
import WasmGauge.Proofs.Cache.LastWriter
import WasmGauge.Proofs.Logging.Configuration
import WasmGauge.Proofs.Logging.Unheeding
import WasmGauge.Proofs.Comparison.ExitStatus
import WasmGauge.Proofs.Storage.Reading
import WasmGauge.Proofs.Text.Utf8
import WasmGauge.Proofs.Handles.Loading
import WasmGauge.Proofs.Cache.CompileOnce
import WasmGauge.Proofs.Logging.Entries
import WasmGauge.Proofs.Number.Range
import WasmGauge.Proofs.Signatures.Acceptance
import WasmGauge.Proofs.Signatures.Limits
import WasmGauge.Proofs.Signatures.Scalars
import WasmGauge.Proofs.Storage.Walks
import WasmGauge.Proofs.Storage.Directories
import WasmGauge.Proofs.Cache.Unusable
import WasmGauge.Proofs.Cache.Opening
import WasmGauge.Proofs.Cache.Refusals
import WasmGauge.Proofs.Cache.Clearing
import WasmGauge.Proofs.Number.Kinds
import WasmGauge.Proofs.Fibonacci.Scalars
import WasmGauge.Proofs.Storage.Normalisation
import WasmGauge.Proofs.Locators
import WasmGauge.Proofs.Settings
import WasmGauge.Proofs.Handles.Exports
import WasmGauge.Proofs.Decimal.Numerals
import WasmGauge.Proofs.Signatures.Reading
import WasmGauge.Proofs.Comparison.Durations
import WasmGauge.Proofs.Suite.Accounts
