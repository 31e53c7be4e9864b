import Reckoner.Feed.Desk
import Reckoner.Gateway.Reply
import Reckoner.Log.Interpolation
import Reckoner.Solver.Course
import Reckoner.Stage.Schema
import Reckoner.Web.Service.Handling
import Reckoner.Web.Address
import Reckoner.Proofs.Arithmetic.Grammar
import Reckoner.Proofs.Arithmetic.LongestMatch
import Reckoner.Proofs.Arithmetic.Derivation
import Reckoner.Proofs.Arithmetic.Viability
import Reckoner.Proofs.Arithmetic.Places
import Reckoner.Proofs.Arithmetic.WholeNumbers
import Reckoner.Proofs.Chat.Switchboard
import Reckoner.Proofs.Chat.InFlight
import Reckoner.Proofs.Chat.SequentialLog
import Reckoner.Proofs.Chat.LostMessages
import Reckoner.Proofs.Chat.FailedTurns
import Reckoner.Proofs.Chat.Replies
import Reckoner.Proofs.Feed.Settling
import Reckoner.Proofs.Feed.Waits
import Reckoner.Proofs.Feed.Delivery
import Reckoner.Proofs.Feed.Overtaking
import Reckoner.Proofs.Feed.Calls
import Reckoner.Proofs.Feed.Listeners
import Reckoner.Proofs.Feed.Alike
import Reckoner.Proofs.Prompt.PlainFields
import Reckoner.Proofs.Prompt.Renderings
import Reckoner.Proofs.Solver.Graph
import Reckoner.Proofs.Solver.PublishedTrace
import Reckoner.Proofs.Solver.DataFlow
import Reckoner.Proofs.Stage.Sequencing
import Reckoner.Proofs.Chat.Journal
import Reckoner.Proofs.Chat.TurnWords
import Reckoner.Proofs.Chat.EventLog
import Reckoner.Proofs.Chat.Occurrences
import Reckoner.Proofs.Chat.Separation
import Reckoner.Proofs.Chat.Isolation
import Reckoner.Proofs.Text.Numerals
import Reckoner.Proofs.Text.Utf8
import Reckoner.Proofs.Json.Scalars
import Reckoner.Proofs.Json.RoundTrip
import Reckoner.Proofs.Feed.EventStream
import Reckoner.Proofs.Web.Breakdowns
import Reckoner.Proofs.Web.RequestIds
import Reckoner.Proofs.Feed.Rounds
import Reckoner.Proofs.Feed.UntilReply
import Reckoner.Proofs.Feed.DueEvents
import Reckoner.Proofs.Feed.Accounting
import Reckoner.Proofs.Decimal.Magnitudes
import Reckoner.Proofs.Arithmetic.Conversions
import Reckoner.Proofs.Arithmetic.Display
import Reckoner.Proofs.Arithmetic.Unfailing
import Reckoner.Proofs.Chat.TurnOutline
import Reckoner.Proofs.Chat.TruthfulReplies
import Reckoner.Proofs.Chat.Verbosity
import Reckoner.Proofs.Outcomes
import Reckoner.Proofs.Prompt.Margins
import Reckoner.Proofs.Prompt.Substitution
import Reckoner.Proofs.Decimal.ReadingBack
import Reckoner.Proofs.Decimal.FewestDigits
import Reckoner.Proofs.Decimal.SixDecimals
import Reckoner.Proofs.Arithmetic.DecimalTexts
import Reckoner.Proofs.Arithmetic.ShownNumbers
import Reckoner.Proofs.Json.Grammar
import Reckoner.Proofs.Json.Parsing
import Reckoner.Proofs.Json.Depth
import Reckoner.Proofs.Gateway.Replies
import Reckoner.Proofs.Text.Trimming
import Reckoner.Proofs.Text.LowerCase
import Reckoner.Proofs.Chat.Requests
import Reckoner.Proofs.Questions
import Reckoner.Proofs.Config.ResolvedOrigins
import Reckoner.Proofs.Arithmetic.Tokenization
import Reckoner.Proofs.Arithmetic.SanitizedText
