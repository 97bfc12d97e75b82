import SchemaViews.CommandLine.Argument
import SchemaViews.CommandLine.Help
import SchemaViews.CommandLine.Outcome
import SchemaViews.CommandLine.Request
import SchemaViews.CommandLine.Run
import SchemaViews.Data.Basic
import SchemaViews.Data.Json
import SchemaViews.Data.Toml
import SchemaViews.Data.Toml.Key
import SchemaViews.Data.Toml.Moment
import SchemaViews.Data.Toml.Number
import SchemaViews.Data.Toml.Table
import SchemaViews.Data.Violation
import SchemaViews.Declaration.Basic
import SchemaViews.Declaration.Reader
import SchemaViews.Declaration.Source
import SchemaViews.Directive.Annotation
import SchemaViews.Directive.Argument
import SchemaViews.Directive.Basic
import SchemaViews.Directive.Token
import SchemaViews.Document.Basic
import SchemaViews.Document.Lexeme
import SchemaViews.Document.Literal
import SchemaViews.Document.Reader
import SchemaViews.Entity.Basic
import SchemaViews.Entity.Declared
import SchemaViews.FileTree.Basic
import SchemaViews.FileTree.Path
import SchemaViews.GoSource.Extraction
import SchemaViews.GoSource.Line
import SchemaViews.Issue
import SchemaViews.Main
import SchemaViews.Naming
import SchemaViews.Pipeline
import SchemaViews.Policy.Basic
import SchemaViews.Policy.Option
import SchemaViews.Proofs.CommandLine.Writing
import SchemaViews.Proofs.Declaration.Provenance
import SchemaViews.Proofs.Declaration.Writing
import SchemaViews.Proofs.Directive.Advance
import SchemaViews.Proofs.Directive.Attribution
import SchemaViews.Proofs.Directive.Balance
import SchemaViews.Proofs.Directive.Behind
import SchemaViews.Proofs.Directive.Closing
import SchemaViews.Proofs.Directive.Duplicates
import SchemaViews.Proofs.Directive.Forms
import SchemaViews.Proofs.Directive.Frame
import SchemaViews.Proofs.Directive.Grammar
import SchemaViews.Proofs.Directive.KeyCase
import SchemaViews.Proofs.Directive.Lines
import SchemaViews.Proofs.Directive.ListForms
import SchemaViews.Proofs.Directive.Pieces
import SchemaViews.Proofs.Directive.Positions
import SchemaViews.Proofs.Directive.Printing
import SchemaViews.Proofs.Directive.ReadBack
import SchemaViews.Proofs.Directive.Remainder
import SchemaViews.Proofs.Directive.Scan
import SchemaViews.Proofs.Directive.Spelling
import SchemaViews.Proofs.Directive.Tiling
import SchemaViews.Proofs.Document.Descriptions
import SchemaViews.Proofs.Document.Escapes
import SchemaViews.Proofs.Document.Lexing
import SchemaViews.Proofs.Document.Literals
import SchemaViews.Proofs.Document.Reading
import SchemaViews.Proofs.Document.Types
import SchemaViews.Proofs.Entity.AnnotationForms
import SchemaViews.Proofs.Entity.Built
import SchemaViews.Proofs.Entity.Faults
import SchemaViews.Proofs.Entity.FieldNames
import SchemaViews.Proofs.Entity.Ignored
import SchemaViews.Proofs.Entity.KeyCase
import SchemaViews.Proofs.Entity.Notes
import SchemaViews.Proofs.Entity.PositionalNames
import SchemaViews.Proofs.Entity.Rules
import SchemaViews.Proofs.Entity.ValueNames
import SchemaViews.Proofs.Entity.WellKinded
import SchemaViews.Proofs.GoSource.Attachment
import SchemaViews.Proofs.GoSource.Comments
import SchemaViews.Proofs.GoSource.ConstantBlocks
import SchemaViews.Proofs.GoSource.ConstantLines
import SchemaViews.Proofs.GoSource.Feeding
import SchemaViews.Proofs.GoSource.FieldLines
import SchemaViews.Proofs.GoSource.LineParts
import SchemaViews.Proofs.GoSource.Steps
import SchemaViews.Proofs.GoSource.StructBodies
import SchemaViews.Proofs.GoSource.Texts
import SchemaViews.Proofs.Naming.Cases
import SchemaViews.Proofs.Pipeline.Agreement
import SchemaViews.Proofs.Pipeline.Bindings
import SchemaViews.Proofs.Pipeline.Building
import SchemaViews.Proofs.Pipeline.DefinedNames
import SchemaViews.Proofs.Pipeline.Emission
import SchemaViews.Proofs.Pipeline.FieldNames
import SchemaViews.Proofs.Pipeline.Gathering
import SchemaViews.Proofs.Pipeline.Headers
import SchemaViews.Proofs.Pipeline.Ignored
import SchemaViews.Proofs.Pipeline.Kinds
import SchemaViews.Proofs.Pipeline.Moving
import SchemaViews.Proofs.Pipeline.Reordering
import SchemaViews.Proofs.Policy.Aspect
import SchemaViews.Proofs.Policy.Order
import SchemaViews.Proofs.Related
import SchemaViews.Proofs.Repetitions
import SchemaViews.Proofs.Results
import SchemaViews.Proofs.Schema.Addition
import SchemaViews.Proofs.Schema.Collisions
import SchemaViews.Proofs.Schema.Conflicts
import SchemaViews.Proofs.Schema.Deprecations
import SchemaViews.Proofs.Schema.Echo
import SchemaViews.Proofs.Schema.Names
import SchemaViews.Proofs.Schema.Occurrences
import SchemaViews.Proofs.Schema.Outline
import SchemaViews.Proofs.Schema.Placed
import SchemaViews.Proofs.Schema.Plain
import SchemaViews.Proofs.Schema.Projection
import SchemaViews.Proofs.Schema.ReadBack
import SchemaViews.Proofs.Schema.References
import SchemaViews.Proofs.Schema.RuleScope
import SchemaViews.Proofs.Schema.Splitting
import SchemaViews.Proofs.Schema.Surrogates
import SchemaViews.Proofs.Schema.Tokens
import SchemaViews.Proofs.Schema.TypeParts
import SchemaViews.Proofs.Schema.Views
import SchemaViews.Proofs.TypeMapping.Expressions
import SchemaViews.Schema.Basic
import SchemaViews.Schema.Issues
import SchemaViews.Schema.Resolved
import SchemaViews.Schema.Text
import SchemaViews.Settings
import SchemaViews.Settings.File
import SchemaViews.Settings.Number
import SchemaViews.Text.CodePoint
import SchemaViews.Text.LetterCase
import SchemaViews.Text.LetterCase.Tables
import SchemaViews.Text.Numeral
import SchemaViews.Text.Printable
import SchemaViews.Text.Split
import SchemaViews.Text.Word
import SchemaViews.TypeMapping
