import ClientGen.CommandLine.FileTree
import ClientGen.Diagnostics.Report
import ClientGen.Diagnostics.Script
import ClientGen.Main
import ClientGen.Proofs.Diagnostics.Conduct
import ClientGen.Proofs.Diagnostics.Scripts
import ClientGen.Proofs.Diagnostics.Walk
import ClientGen.Proofs.Diagnostics.Reports
import ClientGen.Proofs.Model.Extraction
import ClientGen.Proofs.Ascending
import ClientGen.Proofs.Options
import ClientGen.Proofs.Related
import ClientGen.Proofs.Validation.Acceptance
import ClientGen.Proofs.Validation.PathBinding
import ClientGen.Proofs.Imports
import ClientGen.Proofs.Imports.Growth
import ClientGen.Proofs.Imports.Soundness
import ClientGen.Proofs.Json.Records
import ClientGen.Proofs.Text.Pieces
import ClientGen.Proofs.Text.Blank
import ClientGen.Proofs.Text.Packages
import ClientGen.Proofs.Path.Tokens
import ClientGen.Proofs.Client.Growth
import ClientGen.Proofs.Request.PathWriting
import ClientGen.Proofs.Client.Generation
import ClientGen.Proofs.Round.Quarantine
import ClientGen.Proofs.Diagnostics.Anticipation
import ClientGen.Proofs.Round.Accounting
import ClientGen.Proofs.Round.Checking
import ClientGen.Proofs.Client.Places
import ClientGen.Proofs.Round.Files
import ClientGen.Proofs.Round.Deferral
import ClientGen.Proofs.Request.Completeness
import ClientGen.Proofs.Client.Compliance
import ClientGen.Proofs.Client.Bridging
import ClientGen.Proofs.Round.Bridging
import ClientGen.Proofs.Client.Factories
import ClientGen.Proofs.Client.Enrollment
import ClientGen.Proofs.Round.Order
import ClientGen.Proofs.Client.Constructor
import ClientGen.Proofs.Client.ParameterNames
import ClientGen.Proofs.Code.Nesting
import ClientGen.Proofs.Request.Calm
import ClientGen.Proofs.Client.Coroutines
import ClientGen.Proofs.Client.Signatures
import ClientGen.Proofs.Round.Deduplication
import ClientGen.Proofs.Client.FactoryParameters
import ClientGen.Proofs.Client.OwnActuals
import ClientGen.Proofs.Declaration.RoundTrip
import ClientGen.Proofs.Round.Errors
import ClientGen.Proofs.Round.Reporting
import ClientGen.Proofs.Round.Abortion
import ClientGen.Proofs.Model.Foreign
import ClientGen.Proofs.Client.Propagation
import ClientGen.Proofs.CommandLine.FileTree
import ClientGen.Proofs.CommandLine.Terminal
import ClientGen.Proofs.CommandLine.Withholding
import ClientGen.Proofs.Code.Meaning
import ClientGen.Proofs.Request.Guards
import ClientGen.Proofs.Request.Entries
import ClientGen.Proofs.Request.Iteration
import ClientGen.Proofs.Request.Varargs
import ClientGen.Proofs.Request.Headers
import ClientGen.Proofs.Request.StaticHeaders
import ClientGen.Proofs.Client.Visibility
import ClientGen.Proofs.Code.Scoping
import ClientGen.Proofs.Client.Reference
import ClientGen.Proofs.Declaration.Nodes
import ClientGen.Proofs.Model.Resolution
import ClientGen.Proofs.Declaration.Comparison
import ClientGen.Proofs.Imports.Rendering
import ClientGen.Proofs.Request.Urls
import ClientGen.Proofs.Vocabulary.Steering
import ClientGen.Proofs.Code.Literals
import ClientGen.Proofs.Request.Literals
import ClientGen.Proofs.Code.Comments
import ClientGen.Proofs.Validation.Accumulation
import ClientGen.Proofs.Validation.MapRoles
import ClientGen.Proofs.Code.Indentation
import ClientGen.Proofs.Imports.Aliases
