import Scaffold.Artifact.Basic
import Scaffold.Artifact.Layout
import Scaffold.Artifact.Resolve
import Scaffold.Artifact.Structure
import Scaffold.Artifact.Write
import Scaffold.Backend
import Scaffold.CommandLine.Arguments
import Scaffold.CommandLine.Execution
import Scaffold.Console
import Scaffold.Console.Plain
import Scaffold.Distinct
import Scaffold.Duration
import Scaffold.Files.Access
import Scaffold.Files.Path
import Scaffold.Files.Tree
import Scaffold.Inference.Completion
import Scaffold.Inference.Models
import Scaffold.Inference.Server
import Scaffold.Json.Basic
import Scaffold.Json.Bytes
import Scaffold.Json.File
import Scaffold.Json.Order
import Scaffold.Json.Reader
import Scaffold.Json.Writer
import Scaffold.Main
import Scaffold.Naming.Case
import Scaffold.Naming.Convention
import Scaffold.Naming.Inflection
import Scaffold.Number.Binary
import Scaffold.Number.Decimal
import Scaffold.Ordered
import Scaffold.Pattern.Fill
import Scaffold.Pattern.Layout
import Scaffold.Pattern.Scan
import Scaffold.Php.Literal
import Scaffold.Php.Relation
import Scaffold.Php.Rule
import Scaffold.Prompt
import Scaffold.Proofs.Agreement
import Scaffold.Proofs.Artifact.Described
import Scaffold.Proofs.Artifact.Listed
import Scaffold.Proofs.Artifact.Namespaces
import Scaffold.Proofs.Artifact.Resolve
import Scaffold.Proofs.Artifact.Standard
import Scaffold.Proofs.Artifact.Structure
import Scaffold.Proofs.Artifact.Usable
import Scaffold.Proofs.Artifact.Write
import Scaffold.Proofs.Distinct
import Scaffold.Proofs.Files.Confined
import Scaffold.Proofs.Files.Directories
import Scaffold.Proofs.Files.Failures
import Scaffold.Proofs.Files.Growth
import Scaffold.Proofs.Files.Lines
import Scaffold.Proofs.Files.Outcome
import Scaffold.Proofs.Files.Passable
import Scaffold.Proofs.Files.Preservation
import Scaffold.Proofs.Files.Rooted
import Scaffold.Proofs.Files.Spelling
import Scaffold.Proofs.Inference.Completion
import Scaffold.Proofs.Inference.Models
import Scaffold.Proofs.Json.Bytes
import Scaffold.Proofs.Json.Given
import Scaffold.Proofs.Json.Numerals
import Scaffold.Proofs.Json.Quoting
import Scaffold.Proofs.Json.Reading
import Scaffold.Proofs.Json.Sorting
import Scaffold.Proofs.Json.Writing
import Scaffold.Proofs.Naming.Camel
import Scaffold.Proofs.Naming.Plural
import Scaffold.Proofs.Naming.Words
import Scaffold.Proofs.Ordered
import Scaffold.Proofs.Pattern.Filling
import Scaffold.Proofs.Pattern.Fills
import Scaffold.Proofs.Php.Arrays
import Scaffold.Proofs.Php.Literals
import Scaffold.Proofs.Php.Methods
import Scaffold.Proofs.Php.Resources
import Scaffold.Proofs.Program
import Scaffold.Proofs.Routes
import Scaffold.Proofs.Routes.Declaration
import Scaffold.Proofs.Routes.Listing
import Scaffold.Proofs.Routes.Normal
import Scaffold.Proofs.Routes.Sequence
import Scaffold.Proofs.Run.Abreast
import Scaffold.Proofs.Run.Accounts
import Scaffold.Proofs.Run.Batch
import Scaffold.Proofs.Run.Beside
import Scaffold.Proofs.Run.Breakdown
import Scaffold.Proofs.Run.Companions
import Scaffold.Proofs.Run.Completion
import Scaffold.Proofs.Run.Dangling
import Scaffold.Proofs.Run.Degradation
import Scaffold.Proofs.Run.Foretold
import Scaffold.Proofs.Run.Order
import Scaffold.Proofs.Run.Probe
import Scaffold.Proofs.Run.Rerun
import Scaffold.Proofs.Run.Resolution
import Scaffold.Proofs.Run.Routing
import Scaffold.Proofs.Run.Session
import Scaffold.Proofs.Run.Source
import Scaffold.Proofs.Run.Stages
import Scaffold.Proofs.Run.Table
import Scaffold.Proofs.Run.Unreadable
import Scaffold.Proofs.Run.Validation
import Scaffold.Proofs.Schema.Coherence
import Scaffold.Proofs.Schema.Inspection
import Scaffold.Proofs.Schema.Unique
import Scaffold.Proofs.Settings.RoundTrip
import Scaffold.Proofs.Settings.Sound
import Scaffold.Proofs.Source.Blocks
import Scaffold.Proofs.Source.Declaration
import Scaffold.Proofs.Source.Extraction
import Scaffold.Proofs.Source.Fences
import Scaffold.Proofs.Source.Runs
import Scaffold.Proofs.Stub.Fields
import Scaffold.Proofs.Stub.Parts
import Scaffold.Proofs.Stub.Pieces
import Scaffold.Proofs.Stub.Rendering
import Scaffold.Proofs.Stub.Resource
import Scaffold.Proofs.Stub.Substitution
import Scaffold.Proofs.Stub.TableName
import Scaffold.Proofs.Text.Digits
import Scaffold.Proofs.Text.Encoding
import Scaffold.Proofs.Text.Endings
import Scaffold.Proofs.Text.Search
import Scaffold.Routes
import Scaffold.Run.Batch
import Scaffold.Run.Report
import Scaffold.Run.Session
import Scaffold.Run.Source
import Scaffold.Run.Table
import Scaffold.Schema.Catalog
import Scaffold.Schema.Column
import Scaffold.Schema.Document
import Scaffold.Schema.Inspection
import Scaffold.Schema.Metadata
import Scaffold.Schema.SemanticType
import Scaffold.Schema.Snapshot
import Scaffold.Settings.Basic
import Scaffold.Settings.Checked
import Scaffold.Settings.Document
import Scaffold.Settings.Environment
import Scaffold.Source.Declaration
import Scaffold.Source.Extraction
import Scaffold.Stub.Bundled
import Scaffold.Stub.Installed
import Scaffold.Stub.Render
import Scaffold.Stub.Skeleton
import Scaffold.Stub.Template
import Scaffold.Text.Basic
import Scaffold.Text.Case
import Scaffold.Text.Class
import Scaffold.Text.CodePoint
import Scaffold.Text.Fold
import Scaffold.Text.Quoted
import Scaffold.Text.Table.Case
import Scaffold.Text.Table.Printable
import Scaffold.Text.Table.Word
import Scaffold.Text.Utf8
import Scaffold.Proofs.Naming.Stability
import Scaffold.Proofs.Source.Header
import Scaffold.Proofs.Json.Lines
import Scaffold.Proofs.Naming.Conventions
import Scaffold.Proofs.Prompt.Facts
import Scaffold.Proofs.Prompt.Names
import Scaffold.Proofs.Naming.LastWord
import Scaffold.Proofs.Naming.Namespace
