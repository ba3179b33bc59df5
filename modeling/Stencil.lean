import Stencil.Json.Reader
import Stencil.Main
import Stencil.Toml.Reader
import Stencil.Proofs.AliasLevel
import Stencil.Proofs.ArgumentList
import Stencil.Proofs.ByOffset.Balance
import Stencil.Proofs.ByOffset.Conditions
import Stencil.Proofs.ByOffset.Directives
import Stencil.Proofs.ByOffset.Filters
import Stencil.Proofs.ByOffset.Safety
import Stencil.Proofs.ByOffset.Templates
import Stencil.Proofs.Calculation
import Stencil.Proofs.Calculators
import Stencil.Proofs.CaseMarks
import Stencil.Proofs.ConditionalInclude
import Stencil.Proofs.Decoding
import Stencil.Proofs.Decomposition
import Stencil.Proofs.DefaultPlacement
import Stencil.Proofs.Depth
import Stencil.Proofs.Entities
import Stencil.Proofs.Equality
import Stencil.Proofs.FormulaNesting
import Stencil.Proofs.GroupNames
import Stencil.Proofs.Indentation
import Stencil.Proofs.InlineList
import Stencil.Proofs.MatchPlaces
import Stencil.Proofs.NameCase
import Stencil.Proofs.Overflow
import Stencil.Proofs.PaddedIntegers
import Stencil.Proofs.QuotedArguments
import Stencil.Proofs.QuotedText
import Stencil.Proofs.RaisedBound
import Stencil.Proofs.ReferencedSegment
import Stencil.Proofs.Rewriting
import Stencil.Proofs.Setting
import Stencil.Proofs.SettingOrder
import Stencil.Proofs.Slicing
import Stencil.Proofs.SplitText
import Stencil.Proofs.WholeNumbers
import Stencil.Proofs.WrittenReplacement
