import BraceTemplate.Main
import BraceTemplate.Proofs.Binding.Loop
import BraceTemplate.Proofs.Binding.WellAddressed
import BraceTemplate.Proofs.Template.Canonical
import BraceTemplate.Proofs.Rendering.Walk
import BraceTemplate.Proofs.Rendering.Substitution
import BraceTemplate.Proofs.Number.Range
import BraceTemplate.Proofs.Rendering.Reported
import BraceTemplate.Proofs.Text.Quoted
import BraceTemplate.Proofs.Rendering.Trace
import BraceTemplate.Proofs.Value.Key
import BraceTemplate.Proofs.CodeTable.Consistent
import BraceTemplate.Proofs.CodeTable.Views
import BraceTemplate.Proofs.CodeTable.Layers
import BraceTemplate.Proofs.Rendering.CustomCode
import BraceTemplate.Proofs.Rendering.Concatenation
import BraceTemplate.Proofs.Number.Exact
import BraceTemplate.Proofs.Rendering.DefaultCode
import BraceTemplate.Proofs.Rendering.Integral
import BraceTemplate.Proofs.Json.Data
import BraceTemplate.Proofs.CommandLine.Options
import BraceTemplate.Proofs.CommandLine.Output
import BraceTemplate.Proofs.CommandLine.Outcome
import BraceTemplate.Proofs.Address.Spelling
import BraceTemplate.Proofs.Address.OwnParts
import BraceTemplate.Proofs.Rendering.Count
import BraceTemplate.Proofs.Text.Colour
import BraceTemplate.Proofs.CommandLine.Plain
import BraceTemplate.Proofs.Text.Stripped
import BraceTemplate.Proofs.Text.Lines
import BraceTemplate.Proofs.Template.Places
import BraceTemplate.Proofs.Template.Excerpt
import BraceTemplate.Proofs.Number.Numeral
import BraceTemplate.Proofs.Number.Scientific
import BraceTemplate.Proofs.Number.Shortest
import BraceTemplate.Proofs.CommandLine.Numbers
import BraceTemplate.Proofs.Number.StoredBits
import BraceTemplate.Proofs.CommandLine.Scalars
import BraceTemplate.Proofs.Number.Radix
import BraceTemplate.Proofs.Rendering.IntegerText
import BraceTemplate.Proofs.Number.Nearest
import BraceTemplate.Proofs.Rendering.WholeNumbers
import BraceTemplate.Proofs.Number.FixedDigits
import BraceTemplate.Proofs.Padding
import BraceTemplate.Proofs.Rendering.FixedText
import BraceTemplate.Proofs.Rendering.ZeroPlaces
import BraceTemplate.Proofs.Rendering.NoArguments
import BraceTemplate.Proofs.Rendering.NonFinite
import BraceTemplate.Proofs.Template.Uncoloured
import BraceTemplate.Proofs.Value.Leaves
