import Exposition.Answer
import Exposition.Browse.Browser
import Exposition.Browse.Command
import Exposition.Browse.Debouncer
import Exposition.Catalogue
import Exposition.CommandError
import Exposition.Command
import Exposition.Command.Run
import Exposition.CommandLine.Grammar
import Exposition.CommandLine.Reader
import Exposition.Config
import Exposition.Display.Catalogue
import Exposition.Display.History
import Exposition.Display.Record
import Exposition.Environment
import Exposition.Environment.File
import Exposition.Explaining
import Exposition.Filter
import Exposition.History
import Exposition.History.Action
import Exposition.Http.Exchange
import Exposition.Http.Status
import Exposition.Json
import Exposition.Json.Members
import Exposition.Json.Reader
import Exposition.Json.Token
import Exposition.Json.Writer
import Exposition.Language
import Exposition.Level
import Exposition.Main
import Exposition.Markup
import Exposition.Notification
import Exposition.Number.Binary64
import Exposition.Paging
import Exposition.Program
import Exposition.Record
import Exposition.Sample
import Exposition.Service
import Exposition.Service.Remote
import Exposition.Service.Scripted
import Exposition.Service.Store
import Exposition.Session
import Exposition.Text.Alphanumeric
import Exposition.Text.Blank
import Exposition.Text.Casing
import Exposition.Text.Line
import Exposition.Text.Lowercase
import Exposition.Text.Numeral
import Exposition.Text.Utf8
import Exposition.Text.Visible
import Exposition.Time.Calendar
import Exposition.Time.Instant
import Exposition.Time.Timestamp
import Exposition.Url
import Exposition.Url.Address
import Exposition.Url.Domain
import Exposition.Url.Form
import Exposition.Url.Parser
import Exposition.Url.Punycode
import Exposition.Wire.Body
import Exposition.Proofs.Paging.Pages
import Exposition.Proofs.Session.Effect
import Exposition.Proofs.History.Effect
import Exposition.Proofs.History.Run
import Exposition.Proofs.History.Tracks
import Exposition.Proofs.Archive
import Exposition.Proofs.History.Latest
import Exposition.Proofs.History.Landing
import Exposition.Proofs.History.Course
import Exposition.Proofs.History.Footing
import Exposition.Proofs.History.Keeps
import Exposition.Proofs.History.Account
import Exposition.Proofs.History.Failure
import Exposition.Proofs.History.Selection
import Exposition.Proofs.History.Queries
import Exposition.Proofs.Browse.Effect
import Exposition.Proofs.Browse.Order
import Exposition.Proofs.History.Controls
import Exposition.Proofs.Browse.Beat
import Exposition.Proofs.Browse.Bounds
import Exposition.Proofs.Display.Listing
import Exposition.Proofs.Browse.Cards
import Exposition.Proofs.Browse.Reading
import Exposition.Proofs.Each
import Exposition.Proofs.Text.Utf8
import Exposition.Proofs.Text.Split
import Exposition.Proofs.Text.Numeral
import Exposition.Proofs.Url.Percent
import Exposition.Proofs.Url.Form
import Exposition.Proofs.Url.Join
import Exposition.Proofs.Service.Endpoint
import Exposition.Proofs.Service.Parameters
import Exposition.Proofs.Json.Spelling
import Exposition.Proofs.Json.Tokens
import Exposition.Proofs.Json.Reading
import Exposition.Proofs.Json.Writing
import Exposition.Proofs.Json.Shape
import Exposition.Proofs.Wire.Shape
import Exposition.Proofs.Service.Hearing
import Exposition.Proofs.Service.Rejection
import Exposition.Proofs.Time.Calendar
import Exposition.Proofs.Time.Timestamp
import Exposition.Proofs.Level
import Exposition.Proofs.Wire.Record
import Exposition.Proofs.Wire.Listing
import Exposition.Proofs.Wire.Telling
import Exposition.Proofs.Service.Listing
import Exposition.Proofs.Url.Domain
import Exposition.Proofs.Url.Authority
import Exposition.Proofs.Url.Path
import Exposition.Proofs.Url.Parts
import Exposition.Proofs.Url.Slash
import Exposition.Proofs.Service.Address
import Exposition.Proofs.Browse.Settling
import Exposition.Proofs.History.Favorites
import Exposition.Proofs.Command.Effect
import Exposition.Proofs.Command.Unanswered
import Exposition.Proofs.Program.Overriding
import Exposition.Proofs.CommandLine.Piece
import Exposition.Proofs.CommandLine.RoundTrip
import Exposition.Proofs.Command.OnePage
import Exposition.Proofs.Command.Change
import Exposition.Proofs.Markup.Replace
import Exposition.Proofs.Text.Trim
import Exposition.Proofs.Markup.Tidy
import Exposition.Proofs.Markup.Items
import Exposition.Proofs.History.Turning
import Exposition.Proofs.Paging.Partition
import Exposition.Proofs.Display.CardLines
import Exposition.Proofs.Markup.Normal
import Exposition.Proofs.Browse.Grammar
import Exposition.Proofs.Markup.Entities
import Exposition.Proofs.Time.Forms
import Exposition.Proofs.Service.Detail
