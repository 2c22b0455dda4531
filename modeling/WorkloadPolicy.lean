import WorkloadPolicy.Access.ClusterPermissions
import WorkloadPolicy.Access.Grants
import WorkloadPolicy.Access.Level
import WorkloadPolicy.Access.Objects
import WorkloadPolicy.Access.Store
import WorkloadPolicy.Calendar.Date
import WorkloadPolicy.Calendar.Instant
import WorkloadPolicy.Calendar.Lenient
import WorkloadPolicy.Calendar.Rfc3339
import WorkloadPolicy.Check.Basic
import WorkloadPolicy.Check.Capability
import WorkloadPolicy.Check.Field
import WorkloadPolicy.Check.Linked
import WorkloadPolicy.Check.Permission
import WorkloadPolicy.Check.Scope
import WorkloadPolicy.Check.Standard
import WorkloadPolicy.Check.Tree
import WorkloadPolicy.Compile.Compiler
import WorkloadPolicy.Compile.Matcher
import WorkloadPolicy.Compile.Split
import WorkloadPolicy.Decimal.Layout
import WorkloadPolicy.Decimal.Number
import WorkloadPolicy.Decimal.Shortest
import WorkloadPolicy.Decimal.Written
import WorkloadPolicy.Entity.Deployment
import WorkloadPolicy.Entity.Image
import WorkloadPolicy.Entity.Process
import WorkloadPolicy.Field.Label
import WorkloadPolicy.Field.Registry
import WorkloadPolicy.Field.Values
import WorkloadPolicy.Json.Basic
import WorkloadPolicy.Json.Numeral
import WorkloadPolicy.Json.Reader
import WorkloadPolicy.Json.Writer
import WorkloadPolicy.Policy.Comparator
import WorkloadPolicy.Policy.Document
import WorkloadPolicy.Policy.Reading
import WorkloadPolicy.Policy.Source
import WorkloadPolicy.Predicate.Evaluation
import WorkloadPolicy.Predicate.Highlights
import WorkloadPolicy.Predicate.Query
import WorkloadPolicy.Record
import WorkloadPolicy.Regex.Atom
import WorkloadPolicy.Regex.Bracket
import WorkloadPolicy.Regex.Expr
import WorkloadPolicy.Regex.Flags
import WorkloadPolicy.Regex.Pattern
import WorkloadPolicy.Regex.Reader
import WorkloadPolicy.Regex.Size
import WorkloadPolicy.Report.Printer
import WorkloadPolicy.Report.Reading
import WorkloadPolicy.Report.Template
import WorkloadPolicy.Report.Violation
import WorkloadPolicy.Text
import WorkloadPolicy.Unicode.Age
import WorkloadPolicy.Unicode.BinaryProperty
import WorkloadPolicy.Unicode.CaseFold
import WorkloadPolicy.Unicode.CharSet
import WorkloadPolicy.Unicode.GeneralCategory
import WorkloadPolicy.Unicode.Property
import WorkloadPolicy.Unicode.Script
import WorkloadPolicy.Unicode.ScriptExtensions
import WorkloadPolicy.Unicode.Segmentation
import WorkloadPolicy.Yaml.Anchor
import WorkloadPolicy.Yaml.Cursor
import WorkloadPolicy.Yaml.Node
import WorkloadPolicy.Yaml.Reading
import WorkloadPolicy.Yaml.Scalar
import WorkloadPolicy.Yaml.Tag
import WorkloadPolicy.Yaml.Token
import WorkloadPolicy.Proofs.Verdict
import WorkloadPolicy.Proofs.Evaluation
import WorkloadPolicy.Proofs.Split
import WorkloadPolicy.Proofs.Outcome
import WorkloadPolicy.Proofs.Keying
import WorkloadPolicy.Proofs.Contribution
import WorkloadPolicy.Proofs.Tree
import WorkloadPolicy.Proofs.Compilation
import WorkloadPolicy.Proofs.Unsplit
import WorkloadPolicy.Proofs.Levels
import WorkloadPolicy.Proofs.Telling
import WorkloadPolicy.Proofs.Rekeying
import WorkloadPolicy.Proofs.Independence
import WorkloadPolicy.Proofs.CaseFold
import WorkloadPolicy.Proofs.Literal
import WorkloadPolicy.Proofs.Admission
import WorkloadPolicy.Proofs.Gating
import WorkloadPolicy.Proofs.Grants
import WorkloadPolicy.Proofs.Privilege
import WorkloadPolicy.Proofs.Firing
import WorkloadPolicy.Proofs.Columns
import WorkloadPolicy.Proofs.Narrowing
import WorkloadPolicy.Proofs.Accounts
import WorkloadPolicy.Proofs.Thresholds
import WorkloadPolicy.Proofs.Blanks
import WorkloadPolicy.Proofs.Rows
import WorkloadPolicy.Proofs.Records
import WorkloadPolicy.Proofs.Repetition
import WorkloadPolicy.Proofs.Justification
import WorkloadPolicy.Proofs.Consumption
import WorkloadPolicy.Proofs.Enclosure
import WorkloadPolicy.Proofs.Anchoring
import WorkloadPolicy.Proofs.Failure
import WorkloadPolicy.Proofs.Capabilities
import WorkloadPolicy.Proofs.Lookup
import WorkloadPolicy.Proofs.Snapshot
import WorkloadPolicy.Proofs.Spelling
import WorkloadPolicy.Proofs.Dropped
import WorkloadPolicy.Proofs.Blocks
import WorkloadPolicy.Proofs.Images
import WorkloadPolicy.Proofs.Values
import WorkloadPolicy.Proofs.Added
import WorkloadPolicy.Proofs.Entries
import WorkloadPolicy.Proofs.Required
import WorkloadPolicy.Proofs.Unscanned
import WorkloadPolicy.Proofs.Grouping
import WorkloadPolicy.Proofs.Breakage
import WorkloadPolicy.Proofs.Timestamps
import WorkloadPolicy.Proofs.Ages
import WorkloadPolicy.Proofs.Comparison
import WorkloadPolicy.Proofs.Insertion
import WorkloadPolicy.Proofs.Stored
