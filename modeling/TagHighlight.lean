import TagHighlight.Json.Reader
import TagHighlight.Json.Display
import TagHighlight.Json.Writer
import TagHighlight.Token.Partition
import TagHighlight.Token.Record
import TagHighlight.Config.Encoding
import TagHighlight.Lexer.Run
import TagHighlight.Text.Basic
import TagHighlight.Cache.LineCache
import TagHighlight.Html.Render
import TagHighlight.Session.Script
import TagHighlight.Report
import TagHighlight.Proofs.Lexer.Partition
import TagHighlight.Proofs.Config.Separators
import TagHighlight.Proofs.Cache.Lru
import TagHighlight.Proofs.Cache.Transparency
import TagHighlight.Proofs.Json.Legible
import TagHighlight.Proofs.Json.RoundTrip
import TagHighlight.Proofs.Token.Storing
import TagHighlight.Proofs.Lexer.Boundary
import TagHighlight.Proofs.Lexer.Delimited
import TagHighlight.Proofs.Lexer.Branches
import TagHighlight.Proofs.Lexer.Grammar
import TagHighlight.Proofs.Lexer.WrittenTag
import TagHighlight.Proofs.Lexer.Positions
import TagHighlight.Proofs.Html.Entities
import TagHighlight.Proofs.Html.Attributes
import TagHighlight.Proofs.Html.PlainText
import TagHighlight.Proofs.Html.Markup
import TagHighlight.Proofs.Lexer.Restart
import TagHighlight.Proofs.Lexer.StepBound
import TagHighlight.Proofs.Cache.History
import TagHighlight.Proofs.Html.Structure
import TagHighlight.Proofs.Json.Oversized
import TagHighlight.Proofs.Token.Refusals
import TagHighlight.Proofs.Lexer.Appending
import TagHighlight.Proofs.Lexer.LoneQuote
import TagHighlight.Proofs.Lexer.Recoloring
import TagHighlight.Proofs.Session.Scoping
import TagHighlight.Proofs.Lexer.Placement
import TagHighlight.Proofs.Lexer.StatementText
import TagHighlight.Proofs.Lexer.TagText
import TagHighlight.Proofs.Token.Acceptance
import TagHighlight.Proofs.Html.Stylesheet
import TagHighlight.Proofs.Token.FirstDefect
import TagHighlight.Proofs.Cache.Moments
import TagHighlight.Proofs.Cache.Edits
import TagHighlight.Proofs.Cache.Inclusion
import TagHighlight.Proofs.Theme.Items
import TagHighlight.Proofs.Text.Lines
import TagHighlight.Proofs.Unicode.Lowering
import TagHighlight.Proofs.Config.Canonical
import TagHighlight.Proofs.Html.Warnings
import TagHighlight.Proofs.Html.Rules
import TagHighlight.Proofs.Unicode.FinalSigma
import TagHighlight.Proofs.Lexer.ElementNames
import TagHighlight.Proofs.Lexer.Renaming
import TagHighlight.Proofs.Lexer.Braces
import TagHighlight.Proofs.Html.Replacements
