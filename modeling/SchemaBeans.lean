import SchemaBeans.Catalog
import SchemaBeans.Command.Arguments
import SchemaBeans.Command.Run
import SchemaBeans.Decimal.Binary64
import SchemaBeans.Decimal.Shortest
import SchemaBeans.Documents
import SchemaBeans.Error
import SchemaBeans.Feature
import SchemaBeans.Files
import SchemaBeans.Generator.Array
import SchemaBeans.Generator.Object
import SchemaBeans.Generator.String
import SchemaBeans.Generators
import SchemaBeans.Java.Identifier
import SchemaBeans.Java.JavaType
import SchemaBeans.Java.Keyword
import SchemaBeans.Java.Known
import SchemaBeans.Java.Literal
import SchemaBeans.Java.Source
import SchemaBeans.Json.Basic
import SchemaBeans.Json.Pointer
import SchemaBeans.Json.Printer
import SchemaBeans.Json.Record
import SchemaBeans.Json.Text
import SchemaBeans.Kind
import SchemaBeans.Location
import SchemaBeans.Log
import SchemaBeans.Log.Filter
import SchemaBeans.Log.Pattern
import SchemaBeans.Main
import SchemaBeans.Mapping
import SchemaBeans.Mapping.File
import SchemaBeans.Names
import SchemaBeans.Numbering
import SchemaBeans.Output
import SchemaBeans.Path
import SchemaBeans.Plan
import SchemaBeans.Reference
import SchemaBeans.Session
import SchemaBeans.Session.Generate
import SchemaBeans.Table
import SchemaBeans.Text.Alphanumeric
import SchemaBeans.Text.Blank
import SchemaBeans.Text.Brace
import SchemaBeans.Text.Composition
import SchemaBeans.Text.Direction
import SchemaBeans.Text.Folding
import SchemaBeans.Text.Joining
import SchemaBeans.Text.Label
import SchemaBeans.Text.Mark
import SchemaBeans.Text.Percent
import SchemaBeans.Text.Punycode
import SchemaBeans.Text.Split
import SchemaBeans.Text.Uppercase
import SchemaBeans.Text.Utf8
import SchemaBeans.TypeName
import SchemaBeans.Uri.Basic
import SchemaBeans.Uri.File
import SchemaBeans.Uri.Host
import SchemaBeans.Uri.Parser
import SchemaBeans.Proofs.Generation.Keeps
import SchemaBeans.Proofs.Generation.Once
import SchemaBeans.Proofs.Generation.Faithful
import SchemaBeans.Proofs.Generation.OrderIndependence
import SchemaBeans.Proofs.Names.Free
import SchemaBeans.Proofs.Names.Distinct
import SchemaBeans.Proofs.Generator.Emission
import SchemaBeans.Proofs.Generation.Ownership
import SchemaBeans.Proofs.Generation.Setting
import SchemaBeans.Proofs.Generation.Closure
import SchemaBeans.Proofs.Generator.Failures
import SchemaBeans.Proofs.Generation.Leftovers
import SchemaBeans.Proofs.Java.Scoping
import SchemaBeans.Proofs.Output.SimpleNames
import SchemaBeans.Proofs.Generation.Moments
import SchemaBeans.Proofs.Generation.Circles
import SchemaBeans.Proofs.Generation.Tolerance
import SchemaBeans.Proofs.Java.Imports
import SchemaBeans.Proofs.Java.Literals
import SchemaBeans.Proofs.Generation.Invariants
import SchemaBeans.Proofs.Generation.Release
import SchemaBeans.Proofs.Generation.Collisions
import SchemaBeans.Proofs.Generation.Decision
import SchemaBeans.Proofs.Generation.Trails
import SchemaBeans.Proofs.Generation.Nulls
import SchemaBeans.Proofs.Generator.Members
import SchemaBeans.Proofs.Generator.Constants
import SchemaBeans.Proofs.Generator.Accessors
import SchemaBeans.Proofs.Paths.Joining
import SchemaBeans.Proofs.Output.SourcePaths
import SchemaBeans.Proofs.Text.Utf8
import SchemaBeans.Proofs.Paths.Following
import SchemaBeans.Proofs.Text.Percent
import SchemaBeans.Proofs.Uri.Hosts
import SchemaBeans.Proofs.Uri.Reading
import SchemaBeans.Proofs.Catalog.Serving
import SchemaBeans.Proofs.Uri.References
import SchemaBeans.Proofs.Catalog.Publishing
import SchemaBeans.Proofs.Text.Weight
import SchemaBeans.Proofs.Text.Categories
import SchemaBeans.Proofs.Uri.Weights
import SchemaBeans.Proofs.Java.Identifiers
import SchemaBeans.Proofs.Json.Tokens
import SchemaBeans.Proofs.Json.Children
import SchemaBeans.Proofs.Uri.Fragments
import SchemaBeans.Proofs.Uri.Canonical
import SchemaBeans.Proofs.Names.Segments
import SchemaBeans.Proofs.Features.Settings
import SchemaBeans.Proofs.Catalog.Asking
import SchemaBeans.Proofs.Generation.Frames
import SchemaBeans.Proofs.Generation.Surplus
import SchemaBeans.Proofs.Generation.Replacement
