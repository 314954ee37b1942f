import Lobby.Config.Toml
import Lobby.Config.Validation
import Lobby.Listener
import Lobby.Packet.Text
import Lobby.Proofs.Record.Label
import Lobby.Proofs.Record.Nesting
import Lobby.Proofs.Record.Varint
import Lobby.Proofs.Record.Reader
import Lobby.Proofs.Record.RoundTrip
import Lobby.Proofs.Record.NormalForm
import Lobby.Proofs.Packet.Stream
import Lobby.Proofs.Server.Frame
import Lobby.Proofs.Server.Membership
import Lobby.Proofs.Server.Matchmaking
import Lobby.Proofs.Request.Handler
import Lobby.Proofs.Request.Moves
import Lobby.Proofs.Server.Run
import Lobby.Proofs.Server.Stage
import Lobby.Proofs.Server.Conduct
import Lobby.Proofs.Request.Checks
import Lobby.Proofs.Request.Deeds
import Lobby.Proofs.Request.Refusal
import Lobby.Proofs.Server.History
import Lobby.Proofs.Server.Identity
import Lobby.Proofs.Game.News
import Lobby.Proofs.Server.Crew
import Lobby.Proofs.Server.Replica
import Lobby.Proofs.Game.Size
import Lobby.Proofs.Server.Modest
import Lobby.Proofs.Request.Replies
import Lobby.Proofs.Server.Sendable
import Lobby.Proofs.Packet.RoundTrip
import Lobby.Proofs.Record.Grammar
import Lobby.Proofs.Record.Acceptance
import Lobby.Proofs.Record.Parsing
import Lobby.Proofs.Game.Roster
import Lobby.Proofs.Game.Bench
import Lobby.Proofs.Server.Meter
import Lobby.Proofs.Request.Counters
import Lobby.Proofs.Connection.Conversation
import Lobby.Proofs.Connection.Visit
import Lobby.Proofs.Server.Balance
import Lobby.Proofs.Request.Pairing
import Lobby.Proofs.Server.Settings
import Lobby.Proofs.Server.Waiting
import Lobby.Proofs.Server.Search
import Lobby.Proofs.Server.Profile
import Lobby.Proofs.Request.Credentials
import Lobby.Proofs.Server.Provenance
import Lobby.Proofs.Game.Belonging
import Lobby.Proofs.Server.Joining
import Lobby.Proofs.Server.Unmarked
import Lobby.Proofs.Server.Offer
import Lobby.Proofs.Request.FirstFit
import Lobby.Proofs.Game.Rules
import Lobby.Proofs.Server.Leaving
import Lobby.Proofs.Server.Numbering
import Lobby.Proofs.Game.Announcement
import Lobby.Proofs.Server.Delivery
import Lobby.Proofs.Record.Loops
import Lobby.Proofs.Record.Steady
import Lobby.Proofs.Record.Extension
import Lobby.Proofs.Record.Weight
import Lobby.Proofs.Record.Bounded
import Lobby.Proofs.Request.Guard
import Lobby.Proofs.Game.Addresses
import Lobby.Proofs.Server.Portrait
import Lobby.Proofs.Request.Portrait
import Lobby.Proofs.Server.Addresses
import Lobby.Proofs.Record.Digits
import Lobby.Proofs.Record.Name
import Lobby.Proofs.Connection.Consumption
