import GroundLink.Command.Startup
import GroundLink.Main
import GroundLink.Proofs.Router.Slots
import GroundLink.Proofs.Router.Held
import GroundLink.Proofs.Router.Traffic
import GroundLink.Proofs.Router.Calls
import GroundLink.Proofs.Router.Race
import GroundLink.Proofs.Router.Trace
import GroundLink.Proofs.Router.Provenance
import GroundLink.Proofs.Router.Deadlines
import GroundLink.Proofs.Router.Stale
import GroundLink.Proofs.Router.Conservation
import GroundLink.Proofs.Router.Refusal
import GroundLink.Proofs.Router.Projection
import GroundLink.Proofs.Router.Independence
import GroundLink.Proofs.Router.Teardown
import GroundLink.Proofs.Link.Arrival
import GroundLink.Proofs.Link.Noise
import GroundLink.Proofs.Link.Remainder
import GroundLink.Proofs.Link.Burst
import GroundLink.Proofs.Link.Sending
import GroundLink.Proofs.Reading
import GroundLink.Proofs.Telemetry.RoundTrip
import GroundLink.Proofs.Telemetry.Dependence
import GroundLink.Proofs.Text.Numeral
import GroundLink.Proofs.Text.Pieces
import GroundLink.Proofs.Telemetry.Golden
import GroundLink.Proofs.Text.Utf8
import GroundLink.Proofs.Uplink
import GroundLink.Proofs.Downlink
import GroundLink.Proofs.Link.Packet
import GroundLink.Proofs.Command.Template
import GroundLink.Proofs.Command.Grammar
import GroundLink.Proofs.Command.Usage
import GroundLink.Proofs.Command.Rendering
import GroundLink.Proofs.Command.Strictness
import GroundLink.Proofs.Router.Operations
import GroundLink.Proofs.Command.Hearing
import GroundLink.Proofs.Router.Alone
import GroundLink.Proofs.Command.Desk
import GroundLink.Proofs.Router.Sends
import GroundLink.Proofs.Link.Readers
import GroundLink.Proofs.Link.Shares
import GroundLink.Proofs.Router.Numbers
import GroundLink.Proofs.Command.Startup
import GroundLink.Proofs.Attempts
import GroundLink.Proofs.Telemetry.Construction
import GroundLink.Proofs.Telemetry.Consistency
import GroundLink.Proofs.Telemetry.Parsing
import GroundLink.Proofs.Telemetry.Cursor
import GroundLink.Proofs.Telemetry.Writer
import GroundLink.Proofs.Telemetry.ByteOrder
import GroundLink.Proofs.Telemetry.Showing
import GroundLink.Proofs.Text.Lines
import GroundLink.Proofs.Command.Listing
import GroundLink.Proofs.Timer.Thread
import GroundLink.Proofs.Timer.Queue
import GroundLink.Proofs.Timer.Expiry
