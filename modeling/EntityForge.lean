import EntityForge.Code.ClassFile
import EntityForge.Code.Member
import EntityForge.CommandLine.Argument
import EntityForge.CommandLine.Flag
import EntityForge.CommandLine.FlagGroup
import EntityForge.CommandLine.Help
import EntityForge.CommandLine.Invocation
import EntityForge.CommandLine.Outcome
import EntityForge.CommandLine.Run
import EntityForge.Data.Basic
import EntityForge.Data.Display
import EntityForge.Data.Keys
import EntityForge.Decimal.Double
import EntityForge.Decimal.Fixed
import EntityForge.Decimal.Numeral
import EntityForge.Decimal.Shortest
import EntityForge.Files.Device
import EntityForge.Files.Path
import EntityForge.Files.Tree
import EntityForge.Files.Write
import EntityForge.Generation.Generator
import EntityForge.Generation.Outcome
import EntityForge.Generation.Report
import EntityForge.Identifier
import EntityForge.Json.Reader
import EntityForge.Layout.Writer
import EntityForge.Log
import EntityForge.Main
import EntityForge.Model.Basic
import EntityForge.Model.Describe
import EntityForge.Model.Dump
import EntityForge.Model.Edit
import EntityForge.Model.Override
import EntityForge.Model.Reader
import EntityForge.ModelFile.Content
import EntityForge.ModelFile.Load
import EntityForge.ModelFile.References
import EntityForge.Proofs.Code.Synthesis
import EntityForge.Proofs.Generation.Process
import EntityForge.Proofs.Identifier.Alphabet
import EntityForge.Proofs.Layout.Line
import EntityForge.Proofs.Code.Lines
import EntityForge.Proofs.Layout.Comment
import EntityForge.Proofs.Layout.Physical
import EntityForge.Proofs.Text.Lines
import EntityForge.Proofs.Traversal
import EntityForge.Proofs.TypeName.Alphabet
import EntityForge.Schema.Checked
import EntityForge.Schema.Issue
import EntityForge.Schema.Record
import EntityForge.Schema.Scalar
import EntityForge.Stopwatch
import EntityForge.Text.Basic
import EntityForge.Text.Blank
import EntityForge.Text.Cased
import EntityForge.Text.DecimalDigits
import EntityForge.Text.IdentifierChars
import EntityForge.Text.LowerCase
import EntityForge.Text.Newlines
import EntityForge.Text.Point
import EntityForge.Text.Printable
import EntityForge.Text.Quoted
import EntityForge.Text.Ranges
import EntityForge.Text.Split
import EntityForge.Text.Units
import EntityForge.Text.Utf8
import EntityForge.TypeName.Basic
import EntityForge.TypeName.Error
import EntityForge.TypeName.Projection
import EntityForge.TypeName.Reader
import EntityForge.Validation.Diagnostic
import EntityForge.Validation.Entity
import EntityForge.Validation.Finding
import EntityForge.Validation.Model
import EntityForge.Yaml.Block
import EntityForge.Yaml.Cursor
import EntityForge.Yaml.Document
import EntityForge.Yaml.Fault
import EntityForge.Yaml.Node
import EntityForge.Yaml.Plain
import EntityForge.Yaml.Quoted
import EntityForge.Yaml.Reader
import EntityForge.Yaml.Scalar
import EntityForge.Yaml.Tag
import EntityForge.Yaml.Timestamp
import EntityForge.Yaml.Token
import EntityForge.Yaml.TokenStream
import EntityForge.Proofs.Layout.Characters
import EntityForge.Proofs.Layout.Levels
import EntityForge.Proofs.Layout.Printing
import EntityForge.Proofs.Code.Annotation
import EntityForge.Proofs.Code.Rendering
import EntityForge.Proofs.Code.Documentation
import EntityForge.Proofs.Generation.Outcomes
import EntityForge.Proofs.Generation.Bookkeeping
import EntityForge.Proofs.Generation.Verdict
import EntityForge.Proofs.Data.Entries
import EntityForge.Proofs.Model.Reader
import EntityForge.Proofs.ModelFile.References
import EntityForge.Proofs.ModelFile.Parse
import EntityForge.Proofs.Files.Plain
import EntityForge.Proofs.Files.Writing
import EntityForge.Proofs.Generation.FromFile
import EntityForge.Proofs.Text.Trim
import EntityForge.Proofs.Text.Brackets
import EntityForge.Proofs.Layout.Structure
import EntityForge.Proofs.Validation.Entity
import EntityForge.Proofs.Identifier.Legal
import EntityForge.Proofs.TypeName.Spelling
import EntityForge.Proofs.TypeName.Arguments
import EntityForge.Proofs.TypeName.Reading
import EntityForge.Proofs.TypeName.Canonical
import EntityForge.Proofs.Code.MemberNames
import EntityForge.Proofs.Code.Outcome
import EntityForge.Proofs.Code.Structure
import EntityForge.Proofs.Text.Units
import EntityForge.Proofs.Code.Encoding
import EntityForge.Proofs.Code.Reordering
import EntityForge.Proofs.Code.Indentation
import EntityForge.Proofs.Code.Reading
import EntityForge.Proofs.Code.Initialization
import EntityForge.Proofs.Sorting
import EntityForge.Proofs.Code.Listing
import EntityForge.Proofs.Code.Nullability
import EntityForge.Proofs.Files.Places
import EntityForge.Proofs.Files.Temporary
import EntityForge.Proofs.Files.Batches
import EntityForge.Proofs.Files.Steps
import EntityForge.Proofs.Files.Putting
import EntityForge.Proofs.Files.Arrival
import EntityForge.Proofs.Files.Delivery
import EntityForge.Proofs.Generation.FileNames
import EntityForge.Proofs.Generation.Export
import EntityForge.Proofs.Layout.Transcript
import EntityForge.Proofs.Validation.Targets
import EntityForge.Proofs.ModelFile.Canonical
import EntityForge.Proofs.CommandLine.ExitCodes
import EntityForge.Proofs.TypeName.Names
import EntityForge.Proofs.TypeName.Rereading
import EntityForge.Proofs.Code.TypeKeywords
import EntityForge.Proofs.CommandLine.RejectedFiles
import EntityForge.Proofs.ModelFile.Resolution
import EntityForge.Proofs.Text.Utf8
import EntityForge.Proofs.Files.Views
import EntityForge.Proofs.Files.Drafts
import EntityForge.Proofs.Files.Trees
import EntityForge.Proofs.Files.Failure
import EntityForge.Proofs.Files.Modes
import EntityForge.Proofs.Model.Duplicates
import EntityForge.Proofs.Validation.Identity
import EntityForge.Proofs.Validation.Members
import EntityForge.Proofs.Data.Merging
import EntityForge.Proofs.Model.Override
import EntityForge.Proofs.CommandLine.Flags
import EntityForge.Proofs.CommandLine.Overrides
import EntityForge.Proofs.Model.Editing
import EntityForge.Proofs.Identifier.Qualified
import EntityForge.Proofs.Model.DottedNames
import EntityForge.Proofs.Validation.ForeignKeys
import EntityForge.Proofs.Layout.Chunks
import EntityForge.Proofs.TypeName.Separation
