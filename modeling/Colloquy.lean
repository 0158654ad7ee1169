import Colloquy.Text.Utf8
import Colloquy.Text.Blank
import Colloquy.Text.Lowercase
import Colloquy.Text.Quoted
import Colloquy.Decimal.Notation
import Colloquy.Json.Printer
import Colloquy.Json.ValueReader
import Colloquy.Json.Record
import Colloquy.Uuid
import Colloquy.Time.Timestamp
import Colloquy.Error
import Colloquy.Message
import Colloquy.Settings
import Colloquy.Files.SettingsFile
import Colloquy.LogFilter.Basic
import Colloquy.Stream.Body
import Colloquy.Url.Basic
import Colloquy.Provider.Basic
import Colloquy.Provider.Call
import Colloquy.Notice.Audience
import Colloquy.Service.Send
import Colloquy.Scenario.Play
import Colloquy.Proofs.Stream.Lines
import Colloquy.Proofs.Stream.Events
import Colloquy.Proofs.Stream.Body
import Colloquy.Proofs.Provider.Outcome
import Colloquy.Proofs.Provider.Stopping
import Colloquy.Proofs.Provider.CutShort
import Colloquy.Proofs.Session.Moves
import Colloquy.Proofs.Session.Transcript
import Colloquy.Proofs.Session.Shape
import Colloquy.Proofs.Session.Directory
import Colloquy.Proofs.Session.Requests
import Colloquy.Proofs.Session.Notices
import Colloquy.Proofs.Session.Callbacks
import Colloquy.Proofs.Session.Null
import Colloquy.Proofs.Session.Alike
import Colloquy.Proofs.Assistant.Roster
import Colloquy.Proofs.Assistant.Calls
import Colloquy.Proofs.Service.Docket
import Colloquy.Proofs.Service.Balance
import Colloquy.Proofs.Service.Changes
import Colloquy.Proofs.Service.Stops
import Colloquy.Proofs.Service.Acts
import Colloquy.Proofs.Scenario.Reach
import Colloquy.Proofs.Scenario.Sessions
import Colloquy.Proofs.Scenario.Ended
import Colloquy.Proofs.Scenario.Answering
import Colloquy.Proofs.Scenario.Interrupted
import Colloquy.Proofs.Scenario.Responses
import Colloquy.Proofs.Service.Refusal
import Colloquy.Proofs.Service.Hearing
import Colloquy.Proofs.Service.Sent
import Colloquy.Proofs.Service.Observers
import Colloquy.Proofs.Service.Acting
import Colloquy.Proofs.Service.Attendance
import Colloquy.Proofs.Service.Assembly
import Colloquy.Proofs.Service.Deeds
import Colloquy.Proofs.Service.SessionCalls
import Colloquy.Proofs.Scenario.Sending
import Colloquy.Proofs.Scenario.Drafts
import Colloquy.Proofs.Scenario.Observed
import Colloquy.Proofs.Scenario.Listeners
import Colloquy.Proofs.Scenario.Cancelled
import Colloquy.Proofs.Scenario.Independence
import Colloquy.Proofs.Scenario.Order
import Colloquy.Proofs.Scenario.NullSession
import Colloquy.Proofs.Scenario.Quiet
import Colloquy.Proofs.Scenario.Conversation
import Colloquy.Proofs.Scenario.Listed
import Colloquy.Proofs.Service.Consultation
import Colloquy.Proofs.Assistant.Registrations
import Colloquy.Proofs.Assistant.Selections
import Colloquy.Proofs.Scenario.Selections
import Colloquy.Proofs.Notice.Delivery
import Colloquy.Proofs.Notice.Audiences
import Colloquy.Proofs.Json.Numbers
import Colloquy.Proofs.Json.Spelling
import Colloquy.Proofs.Text.Utf8
import Colloquy.Proofs.Json.Passing
import Colloquy.Proofs.Json.Layouts
import Colloquy.Proofs.Json.Printing
import Colloquy.Proofs.Json.Records
import Colloquy.Proofs.Stream.Encoding
import Colloquy.Proofs.Provider.Carrying
import Colloquy.Proofs.Provider.OpenAiEvents
import Colloquy.Proofs.Provider.AnthropicEvents
import Colloquy.Proofs.Provider.Transmission
import Colloquy.Proofs.Provider.Replies
import Colloquy.Proofs.Assistant.Batches
import Colloquy.Proofs.Provider.Configured
import Colloquy.Proofs.Provider.Vendors
import Colloquy.Proofs.Service.Loading
import Colloquy.Proofs.Settings.Text
import Colloquy.Proofs.Files.Written
import Colloquy.Proofs.Settings.Saved
import Colloquy.Proofs.Stream.Endings
import Colloquy.Proofs.Time.Calendar
import Colloquy.Proofs.Time.Digits
import Colloquy.Proofs.Time.Timestamps
import Colloquy.Proofs.Json.Slots
import Colloquy.Proofs.Json.Values
import Colloquy.Proofs.Json.Forms
import Colloquy.Proofs.Message.Identifiers
import Colloquy.Proofs.Message.Text
import Colloquy.Proofs.Message.Lines
import Colloquy.Proofs.Message.Requests
import Colloquy.Proofs.Provider.Bodies
import Colloquy.Proofs.Stream.Buffers
import Colloquy.Proofs.Text.Lossy
import Colloquy.Proofs.Stream.Framing
import Colloquy.Proofs.Text.Blank
import Colloquy.Proofs.Text.Lowercase
import Colloquy.Proofs.Settings.Identifiers
import Colloquy.Proofs.LogFilter.Directives
import Colloquy.Proofs.LogFilter.Building
