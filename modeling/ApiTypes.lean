import ApiTypes.Main
import ApiTypes.Proofs.Outcome
import ApiTypes.Proofs.Json.Height
import ApiTypes.Proofs.Json.WellFormed
import ApiTypes.Proofs.Descriptor.Flags
import ApiTypes.Proofs.Resolve.Course
import ApiTypes.Proofs.Resolve.Part
import ApiTypes.Proofs.Resolve.Walk
import ApiTypes.Proofs.Resolve.Merging
import ApiTypes.Proofs.Resolve.Chain
import ApiTypes.Proofs.Resolve.Cycles
import ApiTypes.Proofs.Resolve.Depth
import ApiTypes.Proofs.Resolve.Entries
import ApiTypes.Proofs.Resolve.Invariant
import ApiTypes.Proofs.Resolve.Inlining
import ApiTypes.Proofs.Resolve.Composition
import ApiTypes.Proofs.Resolve.Locality
import ApiTypes.Proofs.Resolve.Rewording
import ApiTypes.Proofs.Document.Reading
import ApiTypes.Proofs.Document.Image
import ApiTypes.Proofs.Document.Wording
import ApiTypes.Proofs.Document.Faults
import ApiTypes.Proofs.Document.SharedParameters
import ApiTypes.Proofs.Resolve.Expansion
import ApiTypes.Proofs.Document.Definitions
import ApiTypes.Proofs.Document.Demands
import ApiTypes.Proofs.Document.Grammar
import ApiTypes.Proofs.Document.Exclusion
import ApiTypes.Proofs.Files.Listing
import ApiTypes.Proofs.Command.Batch
import ApiTypes.Proofs.Command.Atomicity
import ApiTypes.Proofs.Command.Changes
import ApiTypes.Proofs.Double.Rounding
import ApiTypes.Proofs.Json.Text
import ApiTypes.Proofs.Descriptor.Unions
import ApiTypes.Proofs.Name.Method
import ApiTypes.Proofs.Document.Parameters
import ApiTypes.Proofs.Descriptor.Literals
import ApiTypes.Proofs.Document.Verbs
import ApiTypes.Proofs.Descriptor.Records
import ApiTypes.Proofs.Document.Records
