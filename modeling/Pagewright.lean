import Pagewright.App
import Pagewright.App.Listing
import Pagewright.Artifact.Document
import Pagewright.Artifact.Fragment
import Pagewright.Artifact.Generated
import Pagewright.Artifact.Html
import Pagewright.Artifact.Markup
import Pagewright.Artifact.Script
import Pagewright.Artifact.Script.Display
import Pagewright.Artifact.Script.Form
import Pagewright.Artifact.Script.Model
import Pagewright.Artifact.Script.Page
import Pagewright.Artifact.ScriptLiteral
import Pagewright.Artifact.Stylesheet
import Pagewright.Calendar
import Pagewright.Check.Issue
import Pagewright.Check.Payload
import Pagewright.Check.Reading
import Pagewright.Check.Tree
import Pagewright.Compile
import Pagewright.Config
import Pagewright.Console.Arguments
import Pagewright.Console.Command
import Pagewright.Console.Emoji
import Pagewright.Console.Emoji.Names
import Pagewright.Console.Host
import Pagewright.Console.Markup
import Pagewright.Console.Piped
import Pagewright.Console.Plain
import Pagewright.Console.Style
import Pagewright.Console.Wrap
import Pagewright.Files.Disk
import Pagewright.Files.Path
import Pagewright.Files.TextFile
import Pagewright.Files.Tree
import Pagewright.Grammar
import Pagewright.Grammar.Declaration
import Pagewright.Grammar.Operation
import Pagewright.Json.Encoding
import Pagewright.Json.Reader
import Pagewright.Json.Value
import Pagewright.Json.Writer
import Pagewright.Location
import Pagewright.Log.Event
import Pagewright.Log.Level
import Pagewright.Log.Place
import Pagewright.Log.Record
import Pagewright.Log.Sink
import Pagewright.Log.Template
import Pagewright.Main
import Pagewright.Name
import Pagewright.Number.Binary64
import Pagewright.Number.Lenient
import Pagewright.Number.Numeral
import Pagewright.Number.Rounded
import Pagewright.Number.Shortest
import Pagewright.Number.Word
import Pagewright.Options
import Pagewright.Proofs.App.FreeText
import Pagewright.Proofs.App.Names
import Pagewright.Proofs.Artifact.Calls
import Pagewright.Proofs.Artifact.Closing
import Pagewright.Proofs.Artifact.Code
import Pagewright.Proofs.Artifact.CommentStart
import Pagewright.Proofs.Artifact.Constants
import Pagewright.Proofs.Artifact.Container
import Pagewright.Proofs.Artifact.Definitions
import Pagewright.Proofs.Artifact.Entities
import Pagewright.Proofs.Artifact.Handlers
import Pagewright.Proofs.Artifact.Ids
import Pagewright.Proofs.Artifact.InForce
import Pagewright.Proofs.Artifact.Literal
import Pagewright.Proofs.Artifact.LiteralValue
import Pagewright.Proofs.Artifact.Margin
import Pagewright.Proofs.Artifact.Marks
import Pagewright.Proofs.Artifact.Nesting
import Pagewright.Proofs.Artifact.Outline
import Pagewright.Proofs.Artifact.Pieces
import Pagewright.Proofs.Artifact.Placement
import Pagewright.Proofs.Artifact.Query
import Pagewright.Proofs.Artifact.Sound
import Pagewright.Proofs.Artifact.Success
import Pagewright.Proofs.Artifact.Tags
import Pagewright.Proofs.Artifact.Uses
import Pagewright.Proofs.Artifact.Warnings
import Pagewright.Proofs.Check.Names
import Pagewright.Proofs.Check.Reading
import Pagewright.Proofs.Compile.Concatenation
import Pagewright.Proofs.Compile.Expressible
import Pagewright.Proofs.Compile.Layout
import Pagewright.Proofs.Compile.Outcome
import Pagewright.Proofs.Compile.Shadowing
import Pagewright.Proofs.Compile.Strictness
import Pagewright.Proofs.Console.ControlSequence
import Pagewright.Proofs.Console.Excerpt
import Pagewright.Proofs.Console.OptionsFile
import Pagewright.Proofs.Console.Output
import Pagewright.Proofs.Console.Reporting
import Pagewright.Proofs.Console.Styled
import Pagewright.Proofs.Files.Writing
import Pagewright.Proofs.Grammar.CorrectPrefix
import Pagewright.Proofs.Grammar.Correspondence
import Pagewright.Proofs.Grammar.Declared
import Pagewright.Proofs.Grammar.Derivation
import Pagewright.Proofs.Grammar.Erasure
import Pagewright.Proofs.Grammar.Faults
import Pagewright.Proofs.Grammar.Language
import Pagewright.Proofs.Grammar.Printing
import Pagewright.Proofs.Grammar.Progress
import Pagewright.Proofs.Grammar.Repetition
import Pagewright.Proofs.Grammar.Rule
import Pagewright.Proofs.Grammar.Strictness
import Pagewright.Proofs.Json.Bytes
import Pagewright.Proofs.Json.Joined
import Pagewright.Proofs.Json.Members
import Pagewright.Proofs.Json.Text
import Pagewright.Proofs.Json.Written
import Pagewright.Proofs.Log.Lines
import Pagewright.Proofs.Number.Numeral
import Pagewright.Proofs.Reference
import Pagewright.Proofs.Server.Effect
import Pagewright.Proofs.Server.Failure
import Pagewright.Proofs.Server.Origin
import Pagewright.Proofs.Server.Schema
import Pagewright.Proofs.Store.Changes
import Pagewright.Proofs.Store.History
import Pagewright.Proofs.Store.Shelf
import Pagewright.Proofs.Text.Lines
import Pagewright.Proofs.Text.Occurrence
import Pagewright.Proofs.Text.Reading
import Pagewright.Proofs.Text.Wide
import Pagewright.Proofs.Token.Concatenation
import Pagewright.Proofs.Token.Decomposition
import Pagewright.Proofs.Token.FirstFault
import Pagewright.Proofs.Token.Lexeme
import Pagewright.Proofs.Token.Position
import Pagewright.Proofs.Token.Writing
import Pagewright.Proofs.Toml.Integer
import Pagewright.Proofs.Toml.Unreadable
import Pagewright.Reference
import Pagewright.Server.Handler
import Pagewright.Server.Route
import Pagewright.Server.Usual
import Pagewright.Store.Basic
import Pagewright.Store.Record
import Pagewright.Store.Shown
import Pagewright.Text.Blank
import Pagewright.Text.CellWidth
import Pagewright.Text.Cells
import Pagewright.Text.Digit
import Pagewright.Text.Lines
import Pagewright.Text.Lower
import Pagewright.Text.Printable
import Pagewright.Text.Quoted
import Pagewright.Text.Ranges
import Pagewright.Text.Upper
import Pagewright.Text.Utf8
import Pagewright.Text.Wide
import Pagewright.Token
import Pagewright.Token.Cursor
import Pagewright.Token.Lexer
import Pagewright.Token.Session
import Pagewright.Toml.Reader
import Pagewright.Toml.Scalar
import Pagewright.Toml.Table
import Pagewright.Toml.Text
import Pagewright.Version
