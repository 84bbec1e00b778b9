import LocaleRegistrar.Text.Interval
import LocaleRegistrar.Text.Identifier
import LocaleRegistrar.Text.Word
import LocaleRegistrar.Text.Blank
import LocaleRegistrar.Text.LowerCase
import LocaleRegistrar.Text.Quoted
import LocaleRegistrar.Locale.Id
import LocaleRegistrar.Locale.Resolution
import LocaleRegistrar.Python.Tree
import LocaleRegistrar.Python.Statement
import LocaleRegistrar.Python.Render
import LocaleRegistrar.Python.Lexeme
import LocaleRegistrar.Python.Literal
import LocaleRegistrar.Python.Layout
import LocaleRegistrar.Python.Grammar.Parser
import LocaleRegistrar.Python.Grammar.Target
import LocaleRegistrar.Python.Grammar.Expression
import LocaleRegistrar.Python.Grammar.Pattern
import LocaleRegistrar.Python.Grammar.Knot
import LocaleRegistrar.Python.Grammar.Small
import LocaleRegistrar.Python.Grammar.Compound
import LocaleRegistrar.Python.Parse
import LocaleRegistrar.Python.Part
import LocaleRegistrar.Text.Fields
import LocaleRegistrar.Python.DottedName
import LocaleRegistrar.Bootstrap.Site
import LocaleRegistrar.Bootstrap.Prologue
import LocaleRegistrar.Bootstrap.Entry
import LocaleRegistrar.Registration.Edit
import LocaleRegistrar.Registration.Note
import LocaleRegistrar.Registration.Plan
import LocaleRegistrar.Registration.Outcome
import LocaleRegistrar.Text.Utf8
import LocaleRegistrar.Files.Path
import LocaleRegistrar.Files.Tree
import LocaleRegistrar.Data.Binary64
import LocaleRegistrar.Data.Value
import LocaleRegistrar.Toml.Reader
import LocaleRegistrar.Toml.Document
import LocaleRegistrar.Files.Package
import LocaleRegistrar.Locale.Catalog
import LocaleRegistrar.Configuration.Check
import LocaleRegistrar.Configuration.Injection
import LocaleRegistrar.Configuration.Load
import LocaleRegistrar.Text.Width
import LocaleRegistrar.Text.Digit
import LocaleRegistrar.Console.Style
import LocaleRegistrar.Console.Markup
import LocaleRegistrar.Console.Screen
import LocaleRegistrar.Console.Session
import LocaleRegistrar.Command.Arguments
import LocaleRegistrar.Command.Run
import LocaleRegistrar.Command.Register
import LocaleRegistrar.Command.Locales
import LocaleRegistrar.Command.Line
import LocaleRegistrar.Main
import LocaleRegistrar.Proofs.Address
import LocaleRegistrar.Proofs.Matching
import LocaleRegistrar.Proofs.Planning
import LocaleRegistrar.Proofs.Completion
import LocaleRegistrar.Proofs.Spelling.Parser
import LocaleRegistrar.Proofs.Spelling.Expression
import LocaleRegistrar.Proofs.Spelling.Statement
import LocaleRegistrar.Proofs.Spelling.Reading
import LocaleRegistrar.Proofs.Spelling.Joining
import LocaleRegistrar.Proofs.Lexing.Ahead
import LocaleRegistrar.Proofs.Lexing.Strings
import LocaleRegistrar.Proofs.Lexing.Step
import LocaleRegistrar.Proofs.Lexing.Line
import LocaleRegistrar.Proofs.Lexing.Words
import LocaleRegistrar.Proofs.Lexing.Rows
import LocaleRegistrar.Proofs.Layout.Lines
import LocaleRegistrar.Proofs.Layout.Nesting
import LocaleRegistrar.Proofs.Layout.Soundness
import LocaleRegistrar.Proofs.Reparse.Acceptance
import LocaleRegistrar.Proofs.Reparse.Text
import LocaleRegistrar.Proofs.Reparse.Chunks
import LocaleRegistrar.Proofs.Reparse.Splitting
import LocaleRegistrar.Proofs.Reparse.Names
import LocaleRegistrar.Proofs.Reparse.Imports
import LocaleRegistrar.Proofs.Reparse.Insertion
import LocaleRegistrar.Proofs.Wording
import LocaleRegistrar.Proofs.TextInsertion
import LocaleRegistrar.Proofs.Passes
import LocaleRegistrar.Proofs.Resolution
import LocaleRegistrar.Proofs.Enumeration
import LocaleRegistrar.Proofs.Reparse.Output
import LocaleRegistrar.Proofs.Markup
import LocaleRegistrar.Proofs.Files.Writing
import LocaleRegistrar.Proofs.Files.Outline
import LocaleRegistrar.Proofs.Command.Upshot
import LocaleRegistrar.Proofs.Command.Messages
import LocaleRegistrar.Proofs.Command.Settlement
import LocaleRegistrar.Proofs.Command.InPlace
import LocaleRegistrar.Proofs.Command.Sources
import LocaleRegistrar.Proofs.Command.Unresolved
import LocaleRegistrar.Proofs.Command.Isolation
import LocaleRegistrar.Proofs.Command.Destinations
import LocaleRegistrar.Proofs.Layout.Letters
import LocaleRegistrar.Proofs.Growth
import LocaleRegistrar.Proofs.Command.DryRun
import LocaleRegistrar.Proofs.Inert
import LocaleRegistrar.Proofs.FlatOrder
import LocaleRegistrar.Proofs.Prologue
import LocaleRegistrar.Proofs.Layout.Characters
import LocaleRegistrar.Proofs.LineEnds
import LocaleRegistrar.Proofs.Command.Delivery
import LocaleRegistrar.Proofs.Command.Flags
import LocaleRegistrar.Proofs.Command.Notes
import LocaleRegistrar.Proofs.Command.Verbosity
import LocaleRegistrar.Proofs.FutureImports
import LocaleRegistrar.Proofs.Splicing
import LocaleRegistrar.Proofs.Batches
import LocaleRegistrar.Proofs.Respelling
import LocaleRegistrar.Proofs.Naming
import LocaleRegistrar.Proofs.Untouched
import LocaleRegistrar.Proofs.Catalog
import LocaleRegistrar.Proofs.Trivia
import LocaleRegistrar.Proofs.Reference
import LocaleRegistrar.Proofs.Configuration.NormalForm
import LocaleRegistrar.Proofs.Configuration.Settings
import LocaleRegistrar.Proofs.Configuration.Precedence
import LocaleRegistrar.Proofs.Command.Misconfiguration
import LocaleRegistrar.Proofs.Symbols
import LocaleRegistrar.Proofs.Listing
