import Jadn.Import
import Jadn.Schema.Consistency
import Jadn.Schema.Descriptions
import Jadn.Schema.Document
import Jadn.Schema.Unfolding
import Jadn.Validation
import Jadn.Proofs.Dict
import Jadn.Proofs.Outcome
import Jadn.Proofs.Numeral
import Jadn.Proofs.WellFormed
import Jadn.Proofs.Built
import Jadn.Proofs.Equality
import Jadn.Proofs.References
import Jadn.Proofs.Likeness
import Jadn.Proofs.Expansion.Idempotence
import Jadn.Proofs.Validation.Members
import Jadn.Proofs.Validation.Correspondence
import Jadn.Proofs.Validation.Simulation
import Jadn.Proofs.Validation.Locality
import Jadn.Proofs.Validation.Unfolding
import Jadn.Proofs.Schema.Lookup
import Jadn.Proofs.Schema.Matching
import Jadn.Proofs.Schema.Renaming
import Jadn.Proofs.Schema.Sharing
import Jadn.Proofs.Schema.Unfolding
import Jadn.Proofs.Schema.Unfolded
import Jadn.Proofs.Import.Steps
import Jadn.Proofs.Import.Invariants
import Jadn.Proofs.Import.Endings
import Jadn.Proofs.Import.Run
import Jadn.Proofs.Import.Result
import Jadn.Proofs.Import.Closure
import Jadn.Proofs.Import.Representation
import Jadn.Proofs.Import.Unambiguous
import Jadn.Proofs.Import.Meaning
import Jadn.Proofs.Import.Frame
import Jadn.Proofs.Import.Discovery
import Jadn.Proofs.Import.Copies
import Jadn.Proofs.Import.Execution
import Jadn.Proofs.Import.Termination
import Jadn.Proofs.Import.Rounds
import Jadn.Proofs.Import.Reasons
import Jadn.Proofs.Import.Folding
import Jadn.Proofs.Import.Gaps
import Jadn.Proofs.Unicode.Uppercase
import Jadn.Proofs.Binary64.Rounding
import Jadn.Proofs.Binary64.Decimal
import Jadn.Proofs.Binary64.Text
import Jadn.Proofs.Codec.Members
import Jadn.Proofs.Codec.Info
import Jadn.Proofs.Codec.Options
import Jadn.Proofs.Codec.Overlay
import Jadn.Proofs.Codec.Definition
import Jadn.Proofs.Codec.Transformation
import Jadn.Proofs.Codec.Schema
import Jadn.Proofs.Codec.Reader
import Jadn.Proofs.Schema.Patterns
import Jadn.Proofs.Schema.Building
import Jadn.Proofs.Schema.Enumerations
import Jadn.Proofs.Schema.Paths
import Jadn.Proofs.Schema.Consistency
import Jadn.Proofs.Schema.Descriptions
import Jadn.Proofs.Schema.Renamed
import Jadn.Proofs.Schema.Coherence
import Jadn.Proofs.Json.Equality
import Jadn.Proofs.Validation.Acceptance
import Jadn.Proofs.Validation.Collections
import Jadn.Proofs.Validation.Descriptions
import Jadn.Proofs.Expansion.Forms
import Jadn.Proofs.Validation.Equality
import Jadn.Proofs.Expansion.Equality
import Jadn.Proofs.Expansion.Spelling
import Jadn.Proofs.Validation.Faults
import Jadn.Proofs.Validation.Paths
import Jadn.Proofs.Validation.Entries
import Jadn.Proofs.Validation.Nulls
import Jadn.Proofs.Pattern.Anchoring
import Jadn.Proofs.Numeral.Canonical
import Jadn.Proofs.Validation.Octets
import Jadn.Proofs.Validation.Networks
import Jadn.Proofs.Numeral.Words
import Jadn.Proofs.Format.Integer
import Jadn.Proofs.Json.Number
import Jadn.Proofs.Validation.Choices
import Jadn.Proofs.Validation.Integers
import Jadn.Proofs.Validation.Tables
import Jadn.Proofs.Expansion.Frame
import Jadn.Proofs.Binary64.Range
import Jadn.Proofs.Numeral.Grammar
import Jadn.Proofs.Binary64.Grammar
import Jadn.Proofs.Codec.Grammar
import Jadn.Proofs.Expansion.Depth
import Jadn.Proofs.Validation.Limits
import Jadn.Proofs.Schema.Order
import Jadn.Proofs.Import.Independence
import Jadn.Proofs.Schema.Widths
import Jadn.Proofs.References.Asking
import Jadn.Proofs.Options.Merging
import Jadn.Proofs.Validation.Keys
import Jadn.Proofs.Format.Hex
import Jadn.Proofs.Format.Base64
import Jadn.Proofs.Format.Octets
