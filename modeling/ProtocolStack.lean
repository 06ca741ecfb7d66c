import ProtocolStack.Library.OnesComplement
import ProtocolStack.Library.ByteOrder
import ProtocolStack.Util
import ProtocolStack.Library.Run
import ProtocolStack.Ip.Addr
import ProtocolStack.Tcp.Pcb
import ProtocolStack.Tcp.Output
import ProtocolStack.Tcp.SegmentArrives
import ProtocolStack.Tcp.User
import ProtocolStack.Tcp.System
import ProtocolStack.Tcp.ReceiveStream
import ProtocolStack.Tcp.Acknowledge
import ProtocolStack.Tcp.Sender
import ProtocolStack.Tcp.StateMachine
import ProtocolStack.Tcp.Demux
import ProtocolStack.Tcp.Input
import ProtocolStack.Ip.Datagram
import ProtocolStack.Tcp.Open
import ProtocolStack.Tcp.Close
import ProtocolStack.Library.HeapList
import ProtocolStack.Util.Queue
import ProtocolStack.Udp.Datagram
import ProtocolStack.Udp.Pcb
import ProtocolStack.Udp.Bindings
import ProtocolStack.Udp.Receive
import ProtocolStack.Net.Core
import ProtocolStack.Ether.Frame
import ProtocolStack.Arp.Message
import ProtocolStack.Library.Slots
import ProtocolStack.Arp.Cache
import ProtocolStack.Arp.Exchange
import ProtocolStack.Net.Loopback
import ProtocolStack.Net.Frames
import ProtocolStack.Library.CText
import ProtocolStack.Ip.Text
import ProtocolStack.Ether.Text
import ProtocolStack.Ip.Route
import ProtocolStack.Icmp.Echo
import ProtocolStack.Ip.Device
import ProtocolStack.Tcp.Backoff
import ProtocolStack.Library.Periodic
import ProtocolStack.Net.Timer
import ProtocolStack.Arp.Announce
import ProtocolStack.Udp.Host
import ProtocolStack.Tcp.Link
import ProtocolStack.Tcp.Stream
import ProtocolStack.Tcp.Recovery
