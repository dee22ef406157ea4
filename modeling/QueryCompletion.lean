import QueryCompletion.Json.Writer
import QueryCompletion.LogSetup
import QueryCompletion.Main
import QueryCompletion.Proofs.Suggestion.Rest
import QueryCompletion.Proofs.Lexer.Parts
import QueryCompletion.Proofs.Lexer.Coverage
import QueryCompletion.Proofs.Lexer.Escapes
import QueryCompletion.Proofs.Context.Connector
import QueryCompletion.Proofs.Context.Route
import QueryCompletion.Proofs.Context.Reading
import QueryCompletion.Proofs.Values.Cache
import QueryCompletion.Proofs.Values.Pages
import QueryCompletion.Proofs.Session.Events
import QueryCompletion.Proofs.Session.Pages
import QueryCompletion.Proofs.Session.Requests
import QueryCompletion.Proofs.Session.Loads
import QueryCompletion.Proofs.Session.Offers
import QueryCompletion.Proofs.Suggestion.Operator
import QueryCompletion.Proofs.Suggestion.Guided
import QueryCompletion.Proofs.Suggestion.Quoting
import QueryCompletion.Proofs.Lexer.Rendering
import QueryCompletion.Proofs.Settings.Recovery
import QueryCompletion.Proofs.Values.Recency
import QueryCompletion.Proofs.Session.Installation
import QueryCompletion.Proofs.Schema.Composition
import QueryCompletion.Proofs.Lexer.Words
import QueryCompletion.Proofs.Lexer.Literals
import QueryCompletion.Proofs.Session.LoadMore
import QueryCompletion.Proofs.Lexer.Numbers
import QueryCompletion.Proofs.Lexer.Lines
import QueryCompletion.Proofs.Suggestion.Mark
import QueryCompletion.Proofs.Suggestion.Narrowing
import QueryCompletion.Proofs.Values.Keys
import QueryCompletion.Proofs.Session.Selection
import QueryCompletion.Proofs.Session.Unsent
import QueryCompletion.Proofs.Session.Closing
import QueryCompletion.Proofs.Suggestion.Choice
import QueryCompletion.Proofs.Suggestion.Emphasis
import QueryCompletion.Proofs.Session.Repeats
