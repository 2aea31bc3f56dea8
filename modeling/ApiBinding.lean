import ApiBinding.Main
import ApiBinding.Registry.Table
import ApiBinding.Stored.Configuration
import ApiBinding.Stored.Place
import ApiBinding.Stored.Value
import ApiBinding.Stored.ValueType
import ApiBinding.Proofs.Entries.Order
import ApiBinding.Proofs.Json.Fields
import ApiBinding.Proofs.Schema.WellFormed
import ApiBinding.Proofs.Document.WellFormed
import ApiBinding.Proofs.Document.Operations
import ApiBinding.Proofs.Function.Call
import ApiBinding.Proofs.Function.Inputs
import ApiBinding.Proofs.Function.PathIntegrity
import ApiBinding.Proofs.Function.BoundInputs
import ApiBinding.Proofs.Function.Defaults
import ApiBinding.Proofs.Function.RequiredInputs
import ApiBinding.Proofs.Schema.Conformance
import ApiBinding.Proofs.Function.CallCheck
import ApiBinding.Proofs.Exchange.Resolution
import ApiBinding.Proofs.Registry.Index
import ApiBinding.Proofs.Registry.Binding
import ApiBinding.Proofs.Registry.TableBinding
import ApiBinding.Proofs.Json.Uniform
import ApiBinding.Proofs.Json.Reading
import ApiBinding.Proofs.ValueType.Columns
import ApiBinding.Proofs.Value.Literals
import ApiBinding.Proofs.Value.RowCap
import ApiBinding.Proofs.Value.Samples
import ApiBinding.Proofs.Registry.OrderedMap
import ApiBinding.Proofs.Registry.Isolation
import ApiBinding.Proofs.Text.Form
import ApiBinding.Proofs.Function.QueryFidelity
import ApiBinding.Proofs.Schema.References
import ApiBinding.Proofs.Schema.Fields
import ApiBinding.Proofs.Function.BodyCoverage
import ApiBinding.Proofs.Capability.Lookup
import ApiBinding.Proofs.Schema.Expansion
import ApiBinding.Proofs.Function.ServerPath
import ApiBinding.Proofs.Function.TypedInputs
import ApiBinding.Proofs.Function.InternalInputs
import ApiBinding.Proofs.Document.DerivedNames
import ApiBinding.Proofs.Exchange.Mapping
import ApiBinding.Proofs.Schema.Recursion
import ApiBinding.Proofs.ValueType.DecidingCells
import ApiBinding.Proofs.Schema.Leaves
import ApiBinding.Proofs.Schema.Wrappers
import ApiBinding.Proofs.Value.PlainValues
import ApiBinding.Proofs.Document.ParameterMerging
import ApiBinding.Proofs.Function.Refusals
import ApiBinding.Proofs.Value.DecimalEcho
import ApiBinding.Proofs.Value.TimeZones
import ApiBinding.Proofs.Function.Placeholders
import ApiBinding.Proofs.Exchange.BodyReading
import ApiBinding.Proofs.ValueType.NumberTypes
import ApiBinding.Proofs.Value.Numbers
import ApiBinding.Proofs.Exchange.NumberPolicy
import ApiBinding.Proofs.Json.Navigation
