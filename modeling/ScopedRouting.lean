import ScopedRouting.Cascade
import ScopedRouting.Config
import ScopedRouting.Converter
import ScopedRouting.Cursor
import ScopedRouting.Dictionary
import ScopedRouting.Lifecycle
import ScopedRouting.Number.Binary64
import ScopedRouting.Number.Decimal
import ScopedRouting.Number.Shortest
import ScopedRouting.Path
import ScopedRouting.Proofs.Cascade.Selection
import ScopedRouting.Proofs.Converter.NumberTokens
import ScopedRouting.Proofs.Converter.Rereading
import ScopedRouting.Proofs.Cursor.Progress
import ScopedRouting.Proofs.Cursor.Uses
import ScopedRouting.Proofs.Dictionary.Pairs
import ScopedRouting.Proofs.Number.Numerals
import ScopedRouting.Proofs.Number.Rereading
import ScopedRouting.Proofs.Number.Rounding
import ScopedRouting.Proofs.Path.Building
import ScopedRouting.Proofs.Path.Encoded
import ScopedRouting.Proofs.Path.Joining
import ScopedRouting.Proofs.Path.Reparsing
import ScopedRouting.Proofs.Path.Rereading
import ScopedRouting.Proofs.Query.Merging
import ScopedRouting.Proofs.Query.Rereading
import ScopedRouting.Proofs.Route.Alignment
import ScopedRouting.Proofs.Route.Constraints
import ScopedRouting.Proofs.Route.Consuming
import ScopedRouting.Proofs.Route.Defaults
import ScopedRouting.Proofs.Route.Hrefs
import ScopedRouting.Proofs.Route.Position
import ScopedRouting.Proofs.Route.Reading
import ScopedRouting.Proofs.Route.Tokens
import ScopedRouting.Proofs.Route.TruthValues
import ScopedRouting.Proofs.Scope.Absolute
import ScopedRouting.Proofs.Scope.Aftermath
import ScopedRouting.Proofs.Scope.Agreement
import ScopedRouting.Proofs.Scope.Alternation
import ScopedRouting.Proofs.Scope.Calls
import ScopedRouting.Proofs.Scope.Circles
import ScopedRouting.Proofs.Scope.Confinement
import ScopedRouting.Proofs.Scope.Conservation
import ScopedRouting.Proofs.Scope.Containment
import ScopedRouting.Proofs.Scope.Course
import ScopedRouting.Proofs.Scope.Deactivation
import ScopedRouting.Proofs.Scope.Declared
import ScopedRouting.Proofs.Scope.Descent
import ScopedRouting.Proofs.Scope.Evaluation
import ScopedRouting.Proofs.Scope.FailedMounts
import ScopedRouting.Proofs.Scope.Failing
import ScopedRouting.Proofs.Scope.Forest
import ScopedRouting.Proofs.Scope.Handover
import ScopedRouting.Proofs.Scope.History
import ScopedRouting.Proofs.Scope.Idempotence
import ScopedRouting.Proofs.Scope.Inheritance
import ScopedRouting.Proofs.Scope.Links
import ScopedRouting.Proofs.Scope.Mounting
import ScopedRouting.Proofs.Scope.Postorder
import ScopedRouting.Proofs.Scope.Preorder
import ScopedRouting.Proofs.Scope.Reach
import ScopedRouting.Proofs.Scope.Reading
import ScopedRouting.Proofs.Scope.RelativeQuery
import ScopedRouting.Proofs.Scope.Repetition
import ScopedRouting.Proofs.Scope.Resumption
import ScopedRouting.Proofs.Scope.Skipping
import ScopedRouting.Proofs.Scope.Spelling
import ScopedRouting.Proofs.Scope.Stopping
import ScopedRouting.Proofs.Scope.Teardown
import ScopedRouting.Proofs.Scope.Trees
import ScopedRouting.Proofs.Template.Clauses
import ScopedRouting.Proofs.Template.Grammar
import ScopedRouting.Proofs.Template.Segments
import ScopedRouting.Proofs.Template.WellFormed
import ScopedRouting.Proofs.Text.Percent
import ScopedRouting.Proofs.Text.Utf8
import ScopedRouting.Proofs.Url.Names
import ScopedRouting.Proofs.Url.References
import ScopedRouting.Proofs.Url.Spellings
import ScopedRouting.Proofs.Url.Words
import ScopedRouting.Query
import ScopedRouting.Regex.Basic
import ScopedRouting.Regex.CharClass
import ScopedRouting.Regex.Escape
import ScopedRouting.Regex.Reader
import ScopedRouting.Route
import ScopedRouting.Scope.Evaluation
import ScopedRouting.Scope.Mounting
import ScopedRouting.Scope.Outcome
import ScopedRouting.Scope.Program
import ScopedRouting.Scope.World
import ScopedRouting.Segment
import ScopedRouting.Table
import ScopedRouting.Template.Args
import ScopedRouting.Template.Clause
import ScopedRouting.Template.Compile
import ScopedRouting.Template.Error
import ScopedRouting.Text.Blank
import ScopedRouting.Text.Percent
import ScopedRouting.Text.Quoted
import ScopedRouting.Text.Utf8
import ScopedRouting.Toml.Basic
import ScopedRouting.Toml.Reader
import ScopedRouting.Toml.Scalar
import ScopedRouting.Unicode.CaseFold
import ScopedRouting.Unicode.Category
import ScopedRouting.Unicode.DecimalDigit
import ScopedRouting.Unicode.Named
import ScopedRouting.Unicode.Property
import ScopedRouting.Unicode.Ranges
import ScopedRouting.Unicode.Script
import ScopedRouting.Url.Address
import ScopedRouting.Url.Host
import ScopedRouting.Url.Location
import ScopedRouting.Url.Punycode
import ScopedRouting.Url.Reader
import ScopedRouting.Validator
import ScopedRouting.Value
