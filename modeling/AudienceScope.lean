import AudienceScope.CommandLine.Arguments
import AudienceScope.CommandLine.Files
import AudienceScope.CommandLine.Run
import AudienceScope.CommandLine.Usage
import AudienceScope.Config
import AudienceScope.Decimal.Binary64
import AudienceScope.Decimal.Shortest
import AudienceScope.Document.Declaration
import AudienceScope.Document.Decode
import AudienceScope.Document.Encode
import AudienceScope.Manifest
import AudienceScope.Generator
import AudienceScope.Graph.Basic
import AudienceScope.Graph.Closure
import AudienceScope.Ident
import AudienceScope.Json.Printer
import AudienceScope.Json.Reader
import AudienceScope.Json.Record
import AudienceScope.Json.Tree
import AudienceScope.Json.Value
import AudienceScope.Log.Event
import AudienceScope.Log.Filter
import AudienceScope.Log.Pattern
import AudienceScope.Main
import AudienceScope.Mismatch
import AudienceScope.OrderedMap
import AudienceScope.OrderedSet
import AudienceScope.Proofs.Identifiers
import AudienceScope.Proofs.Population
import AudienceScope.Proofs.Walk
import AudienceScope.Report
import AudienceScope.Sha256
import AudienceScope.Text.Character
import AudienceScope.Text.Quoted
import AudienceScope.Toml.Reader
import AudienceScope.Toml.Table
import AudienceScope.Proofs.Closure
import AudienceScope.Proofs.Pruning
import AudienceScope.Proofs.References
import AudienceScope.Proofs.Occurrence
import AudienceScope.Proofs.SelfContained
import AudienceScope.Proofs.Isolation
import AudienceScope.Proofs.Reordering
import AudienceScope.Proofs.Records
import AudienceScope.Proofs.Scanning
import AudienceScope.Proofs.Nesting
import AudienceScope.Proofs.Encoding
import AudienceScope.Proofs.RoundTrip
import AudienceScope.Proofs.Sorting
import AudienceScope.Proofs.Agreement
import AudienceScope.Proofs.Decoding
import AudienceScope.Proofs.Backing
import AudienceScope.Proofs.Growth
import AudienceScope.Proofs.Fingerprint
import AudienceScope.Proofs.Indifference
import AudienceScope.Proofs.Dangling
import AudienceScope.Proofs.Flags
import AudienceScope.Proofs.OutputPath
import AudienceScope.Proofs.Stages
import AudienceScope.Proofs.Workspace
import AudienceScope.Proofs.Runs
import AudienceScope.Proofs.Accounting
import AudienceScope.Proofs.Revisiting
import AudienceScope.Proofs.Intersection
import AudienceScope.Proofs.Inverse
import AudienceScope.Proofs.Editing
import AudienceScope.Proofs.KnownMembers
import AudienceScope.Proofs.Respecting
import AudienceScope.Proofs.Tolerance
