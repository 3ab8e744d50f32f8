import Wireform.Wire.Serialize
import Wireform.Wire.Hash
import Wireform.Wire.TypeName
import Wireform.Generation.Expansion
import Wireform.Main
import Wireform.Proofs.Wire.Encoding
import Wireform.Proofs.Wire.Writing
import Wireform.Proofs.Wire.Reading
import Wireform.Proofs.Wire.RoundTrip
import Wireform.Proofs.Wire.Comparison
import Wireform.Proofs.Wire.Hashing
import Wireform.Proofs.Wire.HashInput
import Wireform.Proofs.Generation.Framing
import Wireform.Proofs.Generation.Transparency
import Wireform.Proofs.Names.OpaqueGlob
import Wireform.Proofs.Generation.Recognition
import Wireform.Proofs.Names.Derivation
import Wireform.Proofs.Names.Origin
import Wireform.Proofs.Generation.Provenance
import Wireform.Proofs.Names.AliasExpansion
import Wireform.Proofs.Names.Reexport
import Wireform.Proofs.Files.Directory
import Wireform.Proofs.Package.Synchronization
import Wireform.Proofs.Package.GeneratedFiles
import Wireform.Proofs.Generation.Independence
import Wireform.Proofs.Generation.Eviction
import Wireform.Proofs.Generation.Stripping
import Wireform.Proofs.Generation.FieldMarkers
import Wireform.Proofs.Generation.UnitOrder
import Wireform.Proofs.Generation.ExistingMethods
import Wireform.Proofs.Names.Folding
import Wireform.Proofs.Package.LoadingLoop
import Wireform.Proofs.Package.ModulePlaces
import Wireform.Proofs.Generation.BorrowedFields
import Wireform.Proofs.Package.Recurrence
import Wireform.Proofs.Package.Dependencies
import Wireform.Proofs.Names.Sameness
import Wireform.Proofs.Generation.FieldSpelling
import Wireform.Proofs.Names.GlobalPaths
import Wireform.Proofs.Generation.Nameability
import Wireform.Proofs.Names.ScopeTable
import Wireform.Proofs.Names.ScopeWalk
import Wireform.Proofs.Generation.SourceOrder
import Wireform.Proofs.Generation.ModuleTree
import Wireform.Proofs.Wire.Truncation
import Wireform.Proofs.Wire.Appending
import Wireform.Proofs.Wire.Overwriting
import Wireform.Proofs.Wire.Chunks
import Wireform.Proofs.Generation.Accounts
import Wireform.Proofs.Package.BreadthFirst
import Wireform.Proofs.Package.LoadedModules
import Wireform.Proofs.Package.FragmentNames
import Wireform.Proofs.Generation.Bodies
