import Groupwise.Action
import Groupwise.Aggregate.Equality
import Groupwise.Aggregate.Expression
import Groupwise.Aggregate.Listing
import Groupwise.Aggregate.Nature
import Groupwise.Aggregate.Revision
import Groupwise.Aggregate.Simplify
import Groupwise.Aggregate.Stats
import Groupwise.Aggregate.Validation
import Groupwise.Base64
import Groupwise.CacheKey
import Groupwise.Catalog
import Groupwise.Command
import Groupwise.CommandLine.Folder
import Groupwise.CommandLine.Program
import Groupwise.CommandLine.Usage
import Groupwise.Compilation
import Groupwise.Computation
import Groupwise.Configuration.Basic
import Groupwise.Configuration.Loading
import Groupwise.Decimal.Binary
import Groupwise.Decimal.Layout
import Groupwise.Decimal.Numeral
import Groupwise.Decimal.Shortest
import Groupwise.Doc.Equality
import Groupwise.Doc.Expression
import Groupwise.Doc.Listing
import Groupwise.Doc.Pushes
import Groupwise.Doc.Qualification
import Groupwise.Doc.Query
import Groupwise.Doc.Revision
import Groupwise.Doc.Routing
import Groupwise.Doc.Simplify
import Groupwise.Doc.Truth
import Groupwise.Doc.Validation
import Groupwise.Error
import Groupwise.Evaluation.Columns
import Groupwise.Evaluation.GroupKeys
import Groupwise.Evaluation.Lowering
import Groupwise.Evaluation.Metric
import Groupwise.Evaluation.Report
import Groupwise.Evaluation.Walk
import Groupwise.FieldSet
import Groupwise.GroupPool
import Groupwise.Json.Basic
import Groupwise.Json.Decode
import Groupwise.Json.Draft
import Groupwise.Json.Reader
import Groupwise.Lucene.Basic
import Groupwise.Lucene.Reader
import Groupwise.Main
import Groupwise.Names
import Groupwise.Numeric
import Groupwise.Operator
import Groupwise.Pattern.Acceptance
import Groupwise.Pattern.Basic
import Groupwise.Pattern.Fault
import Groupwise.Pattern.Reader
import Groupwise.Pattern.Resolution
import Groupwise.Pattern.Size
import Groupwise.Pattern.Tree
import Groupwise.Plan
import Groupwise.Plan.Extraction
import Groupwise.Plan.Schedule
import Groupwise.Plan.Substitution
import Groupwise.Proofs.Action
import Groupwise.Proofs.Aggregate.Combination
import Groupwise.Proofs.Aggregate.Expansion
import Groupwise.Proofs.Aggregate.Joined
import Groupwise.Proofs.Aggregate.Nodes
import Groupwise.Proofs.Aggregate.Passes
import Groupwise.Proofs.Aggregate.Search
import Groupwise.Proofs.Aggregate.Simplification
import Groupwise.Proofs.Aggregate.Summation
import Groupwise.Proofs.Aggregate.Validation
import Groupwise.Proofs.CacheKey
import Groupwise.Proofs.Command
import Groupwise.Proofs.Compilation.Fitness
import Groupwise.Proofs.Compilation.SourceOrder
import Groupwise.Proofs.Compilation.Validation
import Groupwise.Proofs.Decimal.Numeral
import Groupwise.Proofs.Doc.ActionCount
import Groupwise.Proofs.Doc.Conditions
import Groupwise.Proofs.Doc.Constructors
import Groupwise.Proofs.Doc.Equality
import Groupwise.Proofs.Doc.Faults
import Groupwise.Proofs.Doc.Flattening
import Groupwise.Proofs.Doc.Idempotence
import Groupwise.Proofs.Doc.JoinedQueries
import Groupwise.Proofs.Doc.Meaning
import Groupwise.Proofs.Doc.Nodes
import Groupwise.Proofs.Doc.NormalForm
import Groupwise.Proofs.Doc.Programs
import Groupwise.Proofs.Doc.Pushes
import Groupwise.Proofs.Doc.QualifiedRouting
import Groupwise.Proofs.Doc.Revision
import Groupwise.Proofs.Doc.Routing
import Groupwise.Proofs.Doc.ScratchGroups
import Groupwise.Proofs.Doc.Settled
import Groupwise.Proofs.Doc.Simplify
import Groupwise.Proofs.Doc.StackMachine
import Groupwise.Proofs.Doc.Truth
import Groupwise.Proofs.Doc.ValidPrograms
import Groupwise.Proofs.Doc.Validation
import Groupwise.Proofs.Evaluation.Agreement
import Groupwise.Proofs.Evaluation.Exact
import Groupwise.Proofs.Evaluation.Pointwise
import Groupwise.Proofs.Evaluation.Questions
import Groupwise.Proofs.Evaluation.Report
import Groupwise.Proofs.Evaluation.RunningSums
import Groupwise.Proofs.Evaluation.Series
import Groupwise.Proofs.Evaluation.SiblingColumns
import Groupwise.Proofs.Evaluation.Unordered
import Groupwise.Proofs.Evaluation.Walks
import Groupwise.Proofs.Evaluation.Windows
import Groupwise.Proofs.GroupPool
import Groupwise.Proofs.Lucene.Meaning
import Groupwise.Proofs.Lucene.RoundTrip
import Groupwise.Proofs.Names
import Groupwise.Proofs.OrderedSet
import Groupwise.Proofs.Outcome
import Groupwise.Proofs.Parser
import Groupwise.Proofs.Plan.Commands
import Groupwise.Proofs.Plan.Completeness
import Groupwise.Proofs.Plan.Demand
import Groupwise.Proofs.Plan.Extraction
import Groupwise.Proofs.Plan.Fitness
import Groupwise.Proofs.Plan.ParentSums
import Groupwise.Proofs.Plan.Preparation
import Groupwise.Proofs.Plan.References
import Groupwise.Proofs.Plan.Runs
import Groupwise.Proofs.Plan.Timeliness
import Groupwise.Proofs.Plan.Timetable
import Groupwise.Proofs.Plan.Timing
import Groupwise.Proofs.Plan.TopTerms
import Groupwise.Proofs.Query.Ambiguity
import Groupwise.Proofs.Query.Dimensions
import Groupwise.Proofs.Query.FilterReading
import Groupwise.Proofs.Query.LiteralReading
import Groupwise.Proofs.Query.Literals
import Groupwise.Proofs.Query.Mentions
import Groupwise.Proofs.Query.MetricReading
import Groupwise.Proofs.Query.PlannedNumbers
import Groupwise.Proofs.Query.PlannedScales
import Groupwise.Proofs.Query.Printer
import Groupwise.Proofs.Query.Reading
import Groupwise.Proofs.Query.Recursion
import Groupwise.Proofs.Query.Resolution
import Groupwise.Proofs.Query.RoundTrip
import Groupwise.Proofs.Query.ScaleResolution
import Groupwise.Proofs.Query.Soundness
import Groupwise.Proofs.Query.Times
import Groupwise.Proofs.Query.Tokens
import Groupwise.Proofs.Query.Written
import Groupwise.Proofs.Scanner
import Groupwise.Proofs.Step.Batches
import Groupwise.Proofs.Step.Commands
import Groupwise.Proofs.Step.ListedTerms
import Groupwise.Proofs.Step.Programs
import Groupwise.Proofs.Step.Readiness
import Groupwise.Proofs.Step.TermWalk
import Groupwise.Proofs.Time.Calendar
import Groupwise.Query.Basic
import Groupwise.Query.DocumentResolution
import Groupwise.Query.Grammar
import Groupwise.Query.GroupResolution
import Groupwise.Query.Listing
import Groupwise.Query.Planning
import Groupwise.Query.Text
import Groupwise.Query.TimePoint
import Groupwise.Query.Token
import Groupwise.Regrouping
import Groupwise.Resolver
import Groupwise.Service
import Groupwise.Service.Form
import Groupwise.Service.MediaType
import Groupwise.Step
import Groupwise.Step.Merging
import Groupwise.Term
import Groupwise.Text.CodePoint
import Groupwise.Text.Letter
import Groupwise.Text.Outline
import Groupwise.Text.Parser
import Groupwise.Text.Quoted
import Groupwise.Text.Scan
import Groupwise.Text.Unprintable
import Groupwise.Time.Calendar
import Groupwise.Time.Timestamp
import Groupwise.Toml.Document
import Groupwise.Toml.Scalar
import Groupwise.Unicode.Age
import Groupwise.Unicode.CaseFolding
import Groupwise.Unicode.Category
import Groupwise.Unicode.Derived
import Groupwise.Unicode.Listed
import Groupwise.Unicode.Property
import Groupwise.Unicode.Script
import Groupwise.Unicode.Segmentation
import Groupwise.Unicode.Table
