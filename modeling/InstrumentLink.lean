import InstrumentLink.Main
import InstrumentLink.Settings.Writer
import InstrumentLink.Proofs.Act
import InstrumentLink.Proofs.Settings
import InstrumentLink.Proofs.Devices
import InstrumentLink.Proofs.Ledger
import InstrumentLink.Proofs.Network.View
import InstrumentLink.Proofs.Network.Opening
import InstrumentLink.Proofs.Network.Sound
import InstrumentLink.Proofs.Network.Ending
import InstrumentLink.Proofs.Network.Operations
import InstrumentLink.Proofs.Network.Ownership
import InstrumentLink.Proofs.Network.Routes
import InstrumentLink.Proofs.World
import InstrumentLink.Proofs.Talk
import InstrumentLink.Proofs.Request
import InstrumentLink.Proofs.Closing
import InstrumentLink.Proofs.Network.Frame
import InstrumentLink.Proofs.Network.Room
import InstrumentLink.Proofs.Endpoint.Holding
import InstrumentLink.Proofs.Endpoint.Liveness
import InstrumentLink.Proofs.Endpoint.Exchange
import InstrumentLink.Proofs.Endpoint.Peer
import InstrumentLink.Proofs.Endpoint.Swap
import InstrumentLink.Proofs.Connection.Place
import InstrumentLink.Proofs.Connection.Order
import InstrumentLink.Proofs.Connection.BringUp
import InstrumentLink.Proofs.Connection.Apart
import InstrumentLink.Proofs.Connection.Verdict
import InstrumentLink.Proofs.Connection.Ready
import InstrumentLink.Proofs.History
import InstrumentLink.Proofs.Targets
import InstrumentLink.Proofs.Conservation
import InstrumentLink.Proofs.Report
import InstrumentLink.Proofs.Recovery
import InstrumentLink.Proofs.Connection.Settings
import InstrumentLink.Proofs.LastSettings
import InstrumentLink.Proofs.Copies
import InstrumentLink.Proofs.Unsupported
import InstrumentLink.Proofs.Network.Around
import InstrumentLink.Proofs.Network.Onward
import InstrumentLink.Proofs.Lasting
import InstrumentLink.Proofs.Outward
import InstrumentLink.Proofs.Inward
import InstrumentLink.Proofs.Connection.Beside
import InstrumentLink.Proofs.Connection.Aside
import InstrumentLink.Proofs.Undisturbed
import InstrumentLink.Proofs.Status
import InstrumentLink.Proofs.Transitions
import InstrumentLink.Proofs.Endpoint.Settled
import InstrumentLink.Proofs.Endpoint.Attached
import InstrumentLink.Proofs.Connection.Settled
import InstrumentLink.Proofs.Connection.Served
import InstrumentLink.Proofs.Settling
import InstrumentLink.Proofs.Endpoint.Prospect
import InstrumentLink.Proofs.Noninterference
import InstrumentLink.Proofs.Text.Digits
import InstrumentLink.Proofs.Toml.Numbers
import InstrumentLink.Proofs.Toml.Strings
import InstrumentLink.Proofs.Toml.Lines
import InstrumentLink.Proofs.Toml.Tables
import InstrumentLink.Proofs.Toml.Sound
import InstrumentLink.Proofs.RoundTrip
import InstrumentLink.Proofs.Endpoint.EagerChange
import InstrumentLink.Proofs.Views
import InstrumentLink.Proofs.Connection.Parting
import InstrumentLink.Proofs.Stopping
import InstrumentLink.Proofs.Startup
import InstrumentLink.Proofs.Endpoint.Taking
import InstrumentLink.Proofs.InLine
import InstrumentLink.Proofs.Connection.Streams
import InstrumentLink.Proofs.Handshake
import InstrumentLink.Proofs.Network.Ends
import InstrumentLink.Proofs.Source
import InstrumentLink.Proofs.Conversation
import InstrumentLink.Proofs.Network.Likeness
import InstrumentLink.Proofs.Likeness
import InstrumentLink.Proofs.Looking
import InstrumentLink.Proofs.Endpoint.Fault
import InstrumentLink.Proofs.Endpoint.History
import InstrumentLink.Proofs.Failures
import InstrumentLink.Proofs.BrokenListener
import InstrumentLink.Proofs.ClosingLines
import InstrumentLink.Proofs.Options.Arguments
import InstrumentLink.Proofs.Overrides
import InstrumentLink.Proofs.Address.IPv4
import InstrumentLink.Proofs.Address.IPv6
import InstrumentLink.Proofs.Literals
import InstrumentLink.Proofs.Toml.Order
import InstrumentLink.Proofs.Acceptance
