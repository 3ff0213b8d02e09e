import Literate.Assignment
import Literate.Block
import Literate.Cleaning.Basic
import Literate.Cleaning.File
import Literate.CommandLine.Invocation
import Literate.CommandLine.Option
import Literate.CommandLine.Run
import Literate.Decimal
import Literate.Destination
import Literate.Dictionary
import Literate.Document.Basic
import Literate.Document.Line
import Literate.Document.Scan
import Literate.Emission
import Literate.Expansion
import Literate.Failure
import Literate.FileSystem.Basic
import Literate.FileSystem.Fault
import Literate.Header
import Literate.Host
import Literate.Journal
import Literate.Language
import Literate.Main
import Literate.Params
import Literate.Path
import Literate.Reference
import Literate.Settings
import Literate.Tangle
import Literate.Template.Basic
import Literate.Template.Constant
import Literate.Template.Expr
import Literate.Template.Literal
import Literate.Template.Token
import Literate.Text.Basic
import Literate.Text.Blank
import Literate.Text.Case
import Literate.Text.CodePoints
import Literate.Text.Dedent
import Literate.Text.Digit
import Literate.Text.Identifier
import Literate.Text.Keyword
import Literate.Text.Lines
import Literate.Text.Name.Aliases
import Literate.Text.Name.Basic
import Literate.Text.Name.Run
import Literate.Text.Name.Scripts
import Literate.Text.Name.Supplementary
import Literate.Text.Name.Symbols
import Literate.Text.Numeral
import Literate.Text.Printable
import Literate.Text.Quoted
import Literate.Text.Ranges
import Literate.Text.Utf8
import Literate.Text.Word
import Literate.Transformer
import Literate.Yaml.Construction
import Literate.Yaml.Lexer
import Literate.Yaml.Node
import Literate.Yaml.Scalar
import Literate.Yaml.Tag
import Literate.Yaml.Timestamp
import Literate.Yaml.Token
import Literate.Yaml.Value
import Literate.Proofs.Reference
import Literate.Proofs.Expansion.Bodies
import Literate.Proofs.Expansion.Insertion
import Literate.Proofs.Expansion.Plain
import Literate.Proofs.Expansion.Trail
import Literate.Proofs.Expansion.Memory
import Literate.Proofs.Expansion.Outcome
import Literate.Proofs.Dictionary
import Literate.Proofs.Header
import Literate.Proofs.Header.Merging
import Literate.Proofs.Header.Quoting
import Literate.Proofs.Assignment
import Literate.Proofs.Text.Lines
import Literate.Proofs.Document.Escaping
import Literate.Proofs.Document.Printing
import Literate.Proofs.Path
import Literate.Proofs.FileSystem.Edits
import Literate.Proofs.FileSystem.Access
import Literate.Proofs.Host
import Literate.Proofs.Emission.Content
import Literate.Proofs.Emission.Steps
import Literate.Proofs.Emission.Run
import Literate.Proofs.Emission.Replay
import Literate.Proofs.Emission.Directories
import Literate.Proofs.Emission.Deposits
import Literate.Proofs.Grouping
import Literate.Proofs.Tangle.Run
import Literate.Proofs.Tangle.Frame
import Literate.Proofs.Tangle.Repeat
import Literate.Proofs.Document.Scanning
import Literate.Proofs.Document.Outline
import Literate.Proofs.Document.Indentation
import Literate.Proofs.Document.Inheritance
import Literate.Proofs.Document.Opacity
import Literate.Proofs.Journal
import Literate.Proofs.Tangle.Preparation
import Literate.Proofs.Tangle.Accounts
import Literate.Proofs.Document.Sections
import Literate.Proofs.Cleaning.Markers
import Literate.Proofs.Cleaning.File
import Literate.Proofs.Emission.Decoration
import Literate.Proofs.Cleaning.Undo
import Literate.Proofs.Emission.Failures
import Literate.Proofs.Tangle.Outcome
import Literate.Proofs.Tangle.Load
import Literate.Proofs.Transformer.Layout
import Literate.Proofs.Transformer.Python
import Literate.Proofs.Transformer.Shell
import Literate.Proofs.Transformer.ElispReader
import Literate.Proofs.Transformer.Elisp
import Literate.Proofs.Grouping.Rejection
import Literate.Proofs.Path.Spelling
import Literate.Proofs.Document.Patterns
import Literate.Proofs.Document.Regions
import Literate.Proofs.Document.Extents
import Literate.Proofs.Document.Naming
import Literate.Proofs.Document.Positions
import Literate.Proofs.Cleaning.Repeat
import Literate.Proofs.Document.Labels
import Literate.Proofs.Cleaning.Recognition
import Literate.Proofs.Emission.Bookkeeping
import Literate.Proofs.Grouping.Identity
import Literate.Proofs.Yaml
import Literate.Proofs.Settings
