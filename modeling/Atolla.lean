import Atolla.Link.EndToEnd
import Atolla.Link.FlowControl
import Atolla.Link.Handshake
import Atolla.Link.Lifecycle
import Atolla.Link.Progress
import Atolla.Link.Refines
import Atolla.Link.Sentinel
import Atolla.Link.Unknown
import Atolla.Mem.Drain
import Atolla.Mem.Transfers
import Atolla.Msg.History
import Atolla.Sink.Duplicate
import Atolla.Sink.Exclusive
import Atolla.Sink.History
import Atolla.Sink.Lengths
import Atolla.Sink.Placement
import Atolla.Sink.Playback
import Atolla.Sink.Refines
import Atolla.Sink.Replies
import Atolla.Sink.Sessions
import Atolla.Sink.Timeout
import Atolla.Source.Division
import Atolla.Source.Leftover
import Atolla.Source.Make
import Atolla.Source.Pacing
import Atolla.Source.Ready
import Atolla.Source.Refines
import Atolla.Source.Runs
import Atolla.Source.Slots
import Atolla.Source.Standing
import Atolla.Udp.Handles
