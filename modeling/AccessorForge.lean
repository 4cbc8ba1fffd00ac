import AccessorForge.Accessor
import AccessorForge.Annotation
import AccessorForge.Checks
import AccessorForge.CommandLine.Arguments
import AccessorForge.CommandLine.Clock
import AccessorForge.CommandLine.Nearest
import AccessorForge.CommandLine.Program
import AccessorForge.CommandLine.Reply
import AccessorForge.Commands
import AccessorForge.Container
import AccessorForge.Diagnostic
import AccessorForge.Failure
import AccessorForge.Files.Tree
import AccessorForge.Files.Workspace
import AccessorForge.Forest
import AccessorForge.GeneratedModule
import AccessorForge.Hosting.Action
import AccessorForge.Hosting.Ambient
import AccessorForge.Hosting.Attributes
import AccessorForge.Hosting.Calls
import AccessorForge.Hosting.Classes
import AccessorForge.Hosting.Datum
import AccessorForge.Hosting.Decoration
import AccessorForge.Hosting.Elements
import AccessorForge.Hosting.Equality
import AccessorForge.Hosting.Evaluation
import AccessorForge.Hosting.Frame
import AccessorForge.Hosting.Mixin
import AccessorForge.Hosting.Operation
import AccessorForge.Hosting.Reach
import AccessorForge.Hosting.Types
import AccessorForge.Hosting.World
import AccessorForge.Json
import AccessorForge.Ledger
import AccessorForge.Log
import AccessorForge.Main
import AccessorForge.Naming
import AccessorForge.Output
import AccessorForge.Pass
import AccessorForge.Path
import AccessorForge.Proofs.AccessorListings
import AccessorForge.Proofs.Aftermath
import AccessorForge.Proofs.CacheFields
import AccessorForge.Proofs.Calm
import AccessorForge.Proofs.Candidates
import AccessorForge.Proofs.CheckAgreement
import AccessorForge.Proofs.Clashes
import AccessorForge.Proofs.ClassChanges
import AccessorForge.Proofs.ClassNames
import AccessorForge.Proofs.ClassPaths
import AccessorForge.Proofs.Collisions
import AccessorForge.Proofs.Completion
import AccessorForge.Proofs.Decorators
import AccessorForge.Proofs.DottedNames
import AccessorForge.Proofs.DryRuns
import AccessorForge.Proofs.Encoding
import AccessorForge.Proofs.Expressions
import AccessorForge.Proofs.Faults
import AccessorForge.Proofs.Fields
import AccessorForge.Proofs.FileNames
import AccessorForge.Proofs.FixedPoint
import AccessorForge.Proofs.Footprints
import AccessorForge.Proofs.Forecasts
import AccessorForge.Proofs.Frames
import AccessorForge.Proofs.Gathering
import AccessorForge.Proofs.Guards
import AccessorForge.Proofs.HandWritten
import AccessorForge.Proofs.HiddenMarks
import AccessorForge.Proofs.HostReplays
import AccessorForge.Proofs.Hosts
import AccessorForge.Proofs.ImportBlocks
import AccessorForge.Proofs.InheritedRequirements
import AccessorForge.Proofs.Jobs
import AccessorForge.Proofs.Keeping
import AccessorForge.Proofs.Ledgers
import AccessorForge.Proofs.Lexing
import AccessorForge.Proofs.Linearization
import AccessorForge.Proofs.Listings
import AccessorForge.Proofs.Locality
import AccessorForge.Proofs.Lookups
import AccessorForge.Proofs.Markers
import AccessorForge.Proofs.Memoization
import AccessorForge.Proofs.Merging
import AccessorForge.Proofs.MixinClasses
import AccessorForge.Proofs.MixinHosts
import AccessorForge.Proofs.MixinText
import AccessorForge.Proofs.NameOwners
import AccessorForge.Proofs.NamesInScope
import AccessorForge.Proofs.Namesakes
import AccessorForge.Proofs.Orphans
import AccessorForge.Proofs.Outcomes
import AccessorForge.Proofs.PackageNames
import AccessorForge.Proofs.Parsing
import AccessorForge.Proofs.PartialScans
import AccessorForge.Proofs.Places
import AccessorForge.Proofs.Plans
import AccessorForge.Proofs.Predictions
import AccessorForge.Proofs.Quotation
import AccessorForge.Proofs.QuotedVisibilities
import AccessorForge.Proofs.Reading
import AccessorForge.Proofs.RealRuns
import AccessorForge.Proofs.Refusals
import AccessorForge.Proofs.Registrations
import AccessorForge.Proofs.Repetition
import AccessorForge.Proofs.Requirements
import AccessorForge.Proofs.Rereading
import AccessorForge.Proofs.Running
import AccessorForge.Proofs.Scans
import AccessorForge.Proofs.Setbacks
import AccessorForge.Proofs.Shadowing
import AccessorForge.Proofs.Statements
import AccessorForge.Proofs.Suppression
import AccessorForge.Proofs.Targets
import AccessorForge.Proofs.Upkeep
import AccessorForge.Proofs.Wildcards
import AccessorForge.Proofs.WordStarts
import AccessorForge.Proofs.Worlds
import AccessorForge.Proofs.Writing
import AccessorForge.Report
import AccessorForge.Schema
import AccessorForge.Settings
import AccessorForge.Syntax.Cursor
import AccessorForge.Syntax.Expression
import AccessorForge.Syntax.Literal
import AccessorForge.Syntax.Pattern
import AccessorForge.Syntax.Scope
import AccessorForge.Syntax.Statement
import AccessorForge.Syntax.Token
import AccessorForge.Syntax.Tree
import AccessorForge.Text.CharName
import AccessorForge.Text.CharName.Aliases
import AccessorForge.Text.CharName.Alphabets
import AccessorForge.Text.CharName.EastAsian
import AccessorForge.Text.CharName.Forms
import AccessorForge.Text.CharName.Historic
import AccessorForge.Text.CharName.Indic
import AccessorForge.Text.CharName.Notation
import AccessorForge.Text.CharName.Phonetic
import AccessorForge.Text.CharName.Pictographs
import AccessorForge.Text.CharName.Pictorial
import AccessorForge.Text.CharName.Punctuation
import AccessorForge.Text.CharName.Shapes
import AccessorForge.Text.CharName.Syllabaries
import AccessorForge.Text.CompatTable
import AccessorForge.Text.Compose
import AccessorForge.Text.Digits
import AccessorForge.Text.Identifier
import AccessorForge.Text.LineEnds
import AccessorForge.Text.Lower
import AccessorForge.Text.LowerTable
import AccessorForge.Text.Printable
import AccessorForge.Text.Quoted
import AccessorForge.Text.Ranges
import AccessorForge.Text.Surrogate
import AccessorForge.Text.Utf8
import AccessorForge.Unit
import AccessorForge.Value
import AccessorForge.Wildcard
import AccessorForge.Yaml.Document
import AccessorForge.Yaml.Node
import AccessorForge.Yaml.Scalar
import AccessorForge.Yaml.Tag
import AccessorForge.Yaml.Timestamp
import AccessorForge.Yaml.Token
