import SocketSL.Lib.Transition
import SocketSL.Lib.LittleEndian
import SocketSL.Lib.Segments
import SocketSL.Lib.SteadyTimer
import SocketSL.Lib.Log
import SocketSL.Lib.Interleaving
import SocketSL.Endian
import SocketSL.Serialisation
import SocketSL.Message.Frame
import SocketSL.Message.Receive
import SocketSL.Message.Grammar
import SocketSL.Message.RoundTrip
import SocketSL.Message.Rejection
import SocketSL.Connection.Session
import SocketSL.Connection.Agreement
import SocketSL.Message.Lengths
import SocketSL.Router
import SocketSL.Message.Typed
import SocketSL.Network.WriteQueue
import SocketSL.Network.Discipline
import SocketSL.Network.Handlers
import SocketSL.Network.Wire
import SocketSL.Network.Transmission
import SocketSL.Connection.Delivery
import SocketSL.Connection.Manager
import SocketSL.Connection.Effects
import SocketSL.Connection.Registry
import SocketSL.Connection.Admission
import SocketSL.Connection.Shutdown
import SocketSL.Connection.Exceptions
import SocketSL.Connection.Reconnect
import SocketSL.Connection.Retry
import SocketSL.Connection.Backoff
import SocketSL.Connection.Lifecycle
import SocketSL.Connection.Notifications
import SocketSL.Network.Timers
import SocketSL.Network.Deadlines
import SocketSL.Network.Heartbeat
import SocketSL.Connection.Activity
import SocketSL.Connection.Conversation
import SocketSL.Connection.Exchange
import SocketSL.Connection.ClientServer
import SocketSL.Network.Drain
import SocketSL.Connection.KeepAlive
import SocketSL.Network.Stalls
import SocketSL.Connection.Limits
import SocketSL.Connection.Winddown
import SocketSL.Connection.Schedule
import SocketSL.Connection.Broadcast
import SocketSL.Connection.Latency
import SocketSL.Connection.Companions
import SocketSL.Connection.Blocking
import SocketSL.Connection.Answering
import SocketSL.Connection.Completion
