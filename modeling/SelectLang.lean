import SelectLang.CommandLine.Arguments
import SelectLang.CommandLine.Outcome
import SelectLang.Dialect
import SelectLang.Json.Basic
import SelectLang.Main
import SelectLang.Proofs.CommandLine.Agreement
import SelectLang.Proofs.CommandLine.Arguments
import SelectLang.Proofs.CommandLine.Batch
import SelectLang.Proofs.CommandLine.Check
import SelectLang.Proofs.CommandLine.Invocation
import SelectLang.Proofs.Grammar.Derivation
import SelectLang.Proofs.Grammar.InStep
import SelectLang.Proofs.Grammar.Reads
import SelectLang.Proofs.Grammar.Recognition
import SelectLang.Proofs.Grammar.Tokens
import SelectLang.Proofs.Json.Grammar
import SelectLang.Proofs.Json.Reader
import SelectLang.Proofs.Lexical.Characters
import SelectLang.Proofs.Lexical.Concatenation
import SelectLang.Proofs.Lexical.Errors
import SelectLang.Proofs.Lexical.Grammar
import SelectLang.Proofs.Lexical.Incremental
import SelectLang.Proofs.Lexical.Layout
import SelectLang.Proofs.Lexical.Pull
import SelectLang.Proofs.Lexical.QuoteStyles
import SelectLang.Proofs.Lexical.Scan
import SelectLang.Proofs.Lexical.Session
import SelectLang.Proofs.Outline.Legible
import SelectLang.Proofs.Outline.Nodes
import SelectLang.Proofs.Query.Depth
import SelectLang.Proofs.Query.Document
import SelectLang.Proofs.Query.Grouping
import SelectLang.Proofs.Query.Similar
import SelectLang.Proofs.Query.Spellable
import SelectLang.Proofs.Rendering.Labels
import SelectLang.Proofs.Rendering.Lines
import SelectLang.Proofs.Rendering.Normalize
import SelectLang.Proofs.Rendering.Operands
import SelectLang.Proofs.Rendering.Relex
import SelectLang.Proofs.Rendering.Reparse
import SelectLang.Proofs.Rendering.Strings
import SelectLang.Proofs.Rendering.Written
import SelectLang.Proofs.Statement.Cursor
import SelectLang.Proofs.Statement.Ending
import SelectLang.Proofs.Statement.Groups
import SelectLang.Proofs.Statement.Image
import SelectLang.Proofs.Statement.Outcome
import SelectLang.Proofs.Statement.Repeated
import SelectLang.Proofs.Statement.Terminator
import SelectLang.Proofs.Statement.Texts
import SelectLang.Proofs.Statement.Trimmed
import SelectLang.Proofs.Text.Entries
import SelectLang.Proofs.Text.Quoted
import SelectLang.Proofs.Text.Splitting
import SelectLang.Proofs.Token.Display
import SelectLang.Proofs.Token.Listing
import SelectLang.Query.Basic
import SelectLang.Query.Condition
import SelectLang.Query.Document
import SelectLang.Query.Outline
import SelectLang.Query.Render
import SelectLang.Statement.Cursor
import SelectLang.Statement.Grammar
import SelectLang.Statement.Parse
import SelectLang.Statement.Production
import SelectLang.Statement.Reader
import SelectLang.Statement.SyntaxError
import SelectLang.Text.Alphabetic
import SelectLang.Text.Blank
import SelectLang.Text.Bytes
import SelectLang.Text.Extender
import SelectLang.Text.Numeric
import SelectLang.Text.Printable
import SelectLang.Text.Quoted
import SelectLang.Text.Ranges
import SelectLang.Token.Basic
import SelectLang.Token.Comparator
import SelectLang.Token.Keyword
import SelectLang.Token.Kind
import SelectLang.Token.Lexeme
import SelectLang.Token.LexicalError
import SelectLang.Token.Span
import SelectLang.Token.Stream
