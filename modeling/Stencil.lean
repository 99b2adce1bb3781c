import Stencil.Expansion
import Stencil.Pool.Rentals
import Stencil.SourceFile
import Stencil.Proofs.Template.Reading
import Stencil.Proofs.Template.Balance
import Stencil.Proofs.Text.Utf8
import Stencil.Proofs.Buffer.Tape
import Stencil.Proofs.Buffer.Format
import Stencil.Proofs.Buffer.Landing
import Stencil.Proofs.Body.Soundness
import Stencil.Proofs.Body.Coverage
import Stencil.Proofs.Body.HoleNames
import Stencil.Proofs.Body.Regions
import Stencil.Proofs.Body.FormatString
import Stencil.Proofs.Scratch
import Stencil.Proofs.Body.Strategies
import Stencil.Proofs.Generation
import Stencil.Proofs.Buffer.Refinement
import Stencil.Proofs.Expansion
import Stencil.Proofs.SourceFile.Agreement
import Stencil.Proofs.SourceFile.Headers
import Stencil.Proofs.SourceFile.FileNames
import Stencil.Proofs.Source.ModuleNames
import Stencil.Proofs.SourceFile.Sites
import Stencil.Proofs.SourceFile.TraitImpls
import Stencil.Proofs.Pool.Counters
import Stencil.Proofs.Pool.Ledger
import Stencil.Proofs.Numeral
import Stencil.Text.Slice
import Stencil.Proofs.Template.Segmentation
import Stencil.Proofs.Template.Faults
import Stencil.Proofs.Binding
import Stencil.Proofs.Source.TypeNames
import Stencil.Proofs.ParameterNames
import Stencil.Proofs.SourceFile.QualifiedNames
import Stencil.Proofs.Body.Scope
import Stencil.Proofs.Marker.Overrides
import Stencil.Proofs.Classify
