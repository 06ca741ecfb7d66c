import Mathlib
import ProtocolStack.Ip.Addr

/-!
# TCP protocol control blocks

The data model of {lit}`tcp.c`: connection states, the protocol control
block with its receive buffer and retransmission queue, the segment
information {lit}`tcp_input` hands to {lit}`tcp_segment_arrives`, the
segments the stack emits, and the pcb table with {lit}`tcp_pcb_alloc`,
{lit}`tcp_pcb_release`, {lit}`tcp_pcb_select` and {lit}`tcp_pcb_get`.

The receive buffer {lit}`buf[65535]` is a function from offsets to bytes;
only offsets below 65535 are ever read.  The retransmission queue is the
list of entries in queue order.  Fields that no function of {lit}`tcp.c`
reads ({lit}`mtu`, {lit}`mss`, {lit}`snd.up`, {lit}`rcv.up}) and the
condition variable {lit}`ctx` are left out.
-/

namespace ProtocolStack

/-- The connection states {lit}`TCP_PCB_STATE_*`. -/
inductive TcpState
  | free
  | closed
  | listen
  | synSent
  | synReceived
  | established
  | finWait1
  | finWait2
  | closing
  | timeWait
  | closeWait
  | lastAck
  deriving DecidableEq, Repr

def TCP_FLG_FIN : UInt8 := 0x01

def TCP_FLG_SYN : UInt8 := 0x02

def TCP_FLG_RST : UInt8 := 0x04

def TCP_FLG_PSH : UInt8 := 0x08

def TCP_FLG_ACK : UInt8 := 0x10

def TCP_FLG_URG : UInt8 := 0x20

/-- {lit}`TCP_FLG_ISSET(x, y)`. -/
def tcpFlgIsset (x y : UInt8) : Bool :=
  (x &&& 0x3f) &&& y != 0

/-- {lit}`sizeof(pcb->buf)`. -/
def TCP_BUF_SIZE : Nat := 65535

def TCP_PCB_SIZE : Nat := 16

/-- {lit}`TCP_DEFAULT_RTO`, in microseconds. -/
def TCP_DEFAULT_RTO : UInt32 := 200000

/-- {lit}`TCP_RETRANSMIT_DEADLINE`, in seconds. -/
def TCP_RETRANSMIT_DEADLINE : Nat := 12

/-- A retransmission queue entry; times are in microseconds. -/
structure TcpQueueEntry where
  first : Nat
  last : Nat
  rto : UInt32
  seq : UInt32
  flg : UInt8
  data : List UInt8
  deriving DecidableEq, Repr

/-- The protocol control block {lit}`struct tcp_pcb`. -/
structure TcpPcb where
  state : TcpState
  localEp : IpEndpoint
  foreign : IpEndpoint
  sndNxt : UInt32
  sndUna : UInt32
  sndWnd : UInt16
  sndWl1 : UInt32
  sndWl2 : UInt32
  iss : UInt32
  rcvNxt : UInt32
  rcvWnd : UInt16
  irs : UInt32
  buf : Nat → UInt8
  queue : List TcpQueueEntry

/-- A zero-filled pcb: the static initial value and what {lit}`tcp_pcb_release` leaves. -/
def TcpPcb.zero : TcpPcb where
  state := .free
  localEp := ⟨0, 0⟩
  foreign := ⟨0, 0⟩
  sndNxt := 0
  sndUna := 0
  sndWnd := 0
  sndWl1 := 0
  sndWl2 := 0
  iss := 0
  rcvNxt := 0
  rcvWnd := 0
  irs := 0
  buf := fun _ => 0
  queue := []

/-- {lit}`struct tcp_segment_info`, as {lit}`tcp_input` fills it. -/
structure TcpSegmentInfo where
  seq : UInt32
  ack : UInt32
  len : UInt16
  wnd : UInt16
  up : UInt16
  deriving DecidableEq, Repr

/-- The arguments of one call of {lit}`tcp_output_segment`. -/
structure TcpSegmentOut where
  seq : UInt32
  ack : UInt32
  flg : UInt8
  wnd : UInt16
  data : List UInt8
  localEp : IpEndpoint
  foreign : IpEndpoint
  deriving DecidableEq, Repr

/-!
## The pcb table
-/

/--
{lit}`tcp_pcb_release`.  {lit}`sched_ctx_destroy` returns what
{lit}`pthread_cond_destroy` returns, zero or a positive error number, so the
early return on {lit}`-1` is never taken and the pcb is always zero-filled.
-/
def tcpPcbRelease (_pcb : TcpPcb) : TcpPcb :=
  TcpPcb.zero

/-- The pcb {lit}`tcp_pcb_alloc` hands out: a free pcb moved to CLOSED. -/
def TcpPcb.alloc (pcb : TcpPcb) : TcpPcb :=
  { pcb with state := .closed }

/-- {lit}`tcp_pcb_alloc`: the index of the first FREE pcb. -/
def tcpPcbAlloc (pcbs : List TcpPcb) : Option Nat :=
  pcbs.findIdx? (fun pcb => pcb.state == .free)

/-- Whether a pcb's local endpoint accepts a segment addressed to {lit}`localEp`. -/
def TcpPcb.localMatches (pcb : TcpPcb) (localEp : IpEndpoint) : Bool :=
  (pcb.localEp.addr == IP_ADDR_ANY || pcb.localEp.addr == localEp.addr) &&
    pcb.localEp.port == localEp.port

/-- Whether a pcb is a LISTEN pcb with wildcard foreign address and port. -/
def TcpPcb.isWildcardListen (pcb : TcpPcb) : Bool :=
  pcb.state == .listen && pcb.foreign.addr == IP_ADDR_ANY && pcb.foreign.port == 0

/--
The scan of {lit}`tcp_pcb_select` from index {lit}`i` with the LISTEN
candidate {lit}`listenPcb` remembered so far.
-/
def tcpPcbSelectFrom (localEp : IpEndpoint) (foreign : Option IpEndpoint) :
    Nat → Option Nat → List TcpPcb → Option Nat
  | _, listenPcb, [] => listenPcb
  | i, listenPcb, pcb :: rest =>
      if pcb.localMatches localEp then
        match foreign with
        | none => some i
        | some f =>
            if pcb.foreign.addr == f.addr && pcb.foreign.port == f.port then some i
            else if pcb.isWildcardListen then
              tcpPcbSelectFrom localEp foreign (i + 1) (some i) rest
            else tcpPcbSelectFrom localEp foreign (i + 1) listenPcb rest
      else tcpPcbSelectFrom localEp foreign (i + 1) listenPcb rest

/-- {lit}`tcp_pcb_select`: the index of the selected pcb. -/
def tcpPcbSelect (pcbs : List TcpPcb) (localEp : IpEndpoint)
    (foreign : Option IpEndpoint) : Option Nat :=
  tcpPcbSelectFrom localEp foreign 0 none pcbs

/-- {lit}`tcp_pcb_get`: the pcb with id {lit}`id` unless out of range or FREE. -/
def tcpPcbGet (pcbs : List TcpPcb) (id : Int) : Option TcpPcb :=
  if id < 0 ∨ TCP_PCB_SIZE ≤ id then none
  else
    match pcbs[id.toNat]? with
    | none => none
    | some pcb => if pcb.state = .free then none else some pcb

end ProtocolStack
