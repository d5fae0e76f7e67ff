import RouteHighlight.Config.Decode
import RouteHighlight.Config.Directory
import RouteHighlight.Config.Error
import RouteHighlight.Config.Key
import RouteHighlight.Config.Loader
import RouteHighlight.Config.Merge
import RouteHighlight.Config.Value
import RouteHighlight.Decimal.Basic
import RouteHighlight.Decimal.Nearest
import RouteHighlight.Decimal.Shortest
import RouteHighlight.Glob
import RouteHighlight.Json.Parser
import RouteHighlight.Json.Printer
import RouteHighlight.Json.Value
import RouteHighlight.Lexer.Basic
import RouteHighlight.Lexer.Event
import RouteHighlight.Lexer.Rule
import RouteHighlight.Lexer.Stream
import RouteHighlight.Path
import RouteHighlight.Pattern.Basic
import RouteHighlight.Pattern.Match
import RouteHighlight.Pattern.Printer
import RouteHighlight.Proofs.Lexer.Coverage
import RouteHighlight.Proofs.Lexer.Keyword
import RouteHighlight.Proofs.Lexer.Piece
import RouteHighlight.Proofs.Lexer.Reading
import RouteHighlight.Proofs.Lexer.Run
import RouteHighlight.Proofs.Lexer.Scan
import RouteHighlight.Proofs.Pattern.Search
import RouteHighlight.Proofs.Text.Bytes
import RouteHighlight.Proofs.Text.Runs
import RouteHighlight.Registry.Basic
import RouteHighlight.Registry.Highlighter
import RouteHighlight.Registry.Session
import RouteHighlight.Text.Blank
import RouteHighlight.Text.Lowercase
import RouteHighlight.Text.Printable
import RouteHighlight.Text.Quoted
import RouteHighlight.Text.Ranges
import RouteHighlight.Text.Reader
import RouteHighlight.Text.Span
import RouteHighlight.Text.Word
import RouteHighlight.Token
import RouteHighlight.Token.Document
import RouteHighlight.Token.Merge
import RouteHighlight.Token.Tagged
import RouteHighlight.Toml.DateTime
import RouteHighlight.Toml.Document
import RouteHighlight.Toml.Lexical
import RouteHighlight.Toml.Number
import RouteHighlight.Toml.Table
import RouteHighlight.Toml.Tagged
import RouteHighlight.Proofs.Token.Merge
import RouteHighlight.Proofs.Lexer.Labels
import RouteHighlight.Proofs.Lexer.Grammar
import RouteHighlight.Proofs.Lexer.Classified
import RouteHighlight.Proofs.Lexer.Lines
import RouteHighlight.Proofs.Lexer.Reset
import RouteHighlight.Proofs.Lexer.Automaton
import RouteHighlight.Proofs.Registry.Routes
import RouteHighlight.Proofs.Text.Reader
import RouteHighlight.Proofs.Toml.Distinct
import RouteHighlight.Proofs.Config.Decode
import RouteHighlight.Proofs.Config.Layers
import RouteHighlight.Proofs.Lexer.Origin
import RouteHighlight.Proofs.Lexer.Events
import RouteHighlight.Proofs.Lexer.Lexeme
import RouteHighlight.Proofs.Lexer.Word
import RouteHighlight.Proofs.Lexer.Edit
import RouteHighlight.Proofs.Lexer.Crossing
import RouteHighlight.Proofs.Lexer.RuleMatch
import RouteHighlight.Proofs.Token.Blocks
import RouteHighlight.Proofs.Token.Loop
import RouteHighlight.Proofs.Lexer.Merged
import RouteHighlight.Proofs.Glob.Splitting
import RouteHighlight.Proofs.Registry.Registration
import RouteHighlight.Proofs.Lexer.Trace
import RouteHighlight.Proofs.Registry.Defaults
import RouteHighlight.Proofs.Path.Name
import RouteHighlight.Proofs.Registry.BaseName
import RouteHighlight.Proofs.Token.Tagged
import RouteHighlight.Proofs.Text.Taking
import RouteHighlight.Proofs.Json.Lexemes
import RouteHighlight.Proofs.Json.RoundTrip
import RouteHighlight.Proofs.Token.Document
import RouteHighlight.Proofs.Config.Alike
import RouteHighlight.Proofs.Config.Answers
import RouteHighlight.Proofs.Config.Apart
import RouteHighlight.Proofs.Config.Order
import RouteHighlight.Proofs.Config.Reordered
