import Mathlib
import ProtocolStack.Tcp.Pcb

/-!
# TCP output and the retransmission queue

{lit}`tcp_output_segment`, {lit}`tcp_output` and the three functions of the
retransmission queue.  A step of the stack reads the clock
({lit}`gettimeofday`), draws initial sequence numbers ({lit}`random`) and
learns whether {lit}`ip_output` accepted each segment; {lit}`TcpEnv` carries
these.  Memory allocation in {lit}`tcp_retransmit_queue_add` is taken to
succeed.

The segment record {lit}`TcpSegmentOut` is what the state machine emits; the
bytes {lit}`tcp_output_segment` hands to {lit}`ip_output` for it are
{lit}`tcpOutputSegmentBytes`.
-/

namespace ProtocolStack

open ByteOrder

/-- What one step of the stack learns from its environment. -/
structure TcpEnv where
  /-- {lit}`gettimeofday`, in microseconds. -/
  now : Nat
  /-- The value {lit}`random` returns. -/
  random : UInt32
  /-- Whether {lit}`ip_output` accepts a segment. -/
  ipOutput : TcpSegmentOut → Bool

/-!
## Segment encoding
-/

/-- {lit}`struct tcp_hdr`, field values as stored. -/
structure TcpHdr where
  src : UInt16
  dst : UInt16
  seq : UInt32
  ack : UInt32
  off : UInt8
  flg : UInt8
  wnd : UInt16
  sum : UInt16
  up : UInt16
  deriving DecidableEq, Repr

/-- The memory image of a {lit}`struct tcp_hdr`. -/
def TcpHdr.bytes (e : Endian) (h : TcpHdr) : List UInt8 :=
  e.store16 h.src ++ e.store16 h.dst ++ e.store32 h.seq ++ e.store32 h.ack ++
    [h.off, h.flg] ++ e.store16 h.wnd ++ e.store16 h.sum ++ e.store16 h.up

/-- The header fields read through a {lit}`struct tcp_hdr` pointer to {lit}`data`. -/
def TcpHdr.read (e : Endian) (data : List UInt8) : TcpHdr where
  src := e.read16 data 0
  dst := e.read16 data 2
  seq := e.read32 data 4
  ack := e.read32 data 8
  off := data.getD 12 0
  flg := data.getD 13 0
  wnd := e.read16 data 14
  sum := e.read16 data 16
  up := e.read16 data 18

@[simp] theorem TcpHdr.length_bytes (e : Endian) (h : TcpHdr) :
    (h.bytes e).length = 20 := by
  simp [TcpHdr.bytes]

theorem TcpHdr.read_bytes_append (e : Endian) (h : TcpHdr) (rest : List UInt8) :
    TcpHdr.read e (h.bytes e ++ rest) = h := by
  simp only [TcpHdr.read, TcpHdr.bytes, List.append_assoc]
  congr 1 <;>
    simp [Endian.read16_append_of_le, Endian.read32_append_of_le,
      List.getElem?_append_right]

/-- {lit}`struct pseudo_hdr` as it lies in memory. -/
def pseudoHdrBytes (e : Endian) (src dst : IpAddr) (protocol : UInt8)
    (len : UInt16) : List UInt8 :=
  e.store32 src ++ e.store32 dst ++ [0, protocol] ++ e.store16 len

/--
The bytes {lit}`tcp_output_segment` hands to {lit}`ip_output`: the header
with its checksum over the pseudo header, header and payload, followed by
the payload, cut at the 16-bit {lit}`total`.
-/
def tcpOutputSegmentBytes (e : Endian) (seq ack : UInt32) (flg : UInt8)
    (wnd : UInt16) (data : List UInt8) (localEp foreign : IpEndpoint) :
    List UInt8 :=
  let total : UInt16 := UInt16.ofNat (20 + data.length)
  let psum : UInt16 :=
    ~~~(cksum16 e (pseudoHdrBytes e localEp.addr foreign.addr IP_PROTOCOL_TCP
      (hton16 e total)) 12 0)
  let hdr : TcpHdr :=
    { src := localEp.port, dst := foreign.port, seq := hton32 e seq,
      ack := hton32 e ack, off := ((20 : UInt8) >>> 2) <<< 4, flg := flg,
      wnd := hton16 e wnd, sum := 0, up := 0 }
  let sum := cksum16 e (hdr.bytes e ++ data) total psum.toUInt32
  (({ hdr with sum := sum } : TcpHdr).bytes e ++ data).take total.toNat

/-- The bytes sent for an emitted segment. -/
def TcpSegmentOut.bytes (e : Endian) (s : TcpSegmentOut) : List UInt8 :=
  tcpOutputSegmentBytes e s.seq s.ack s.flg s.wnd s.data s.localEp s.foreign

/-!
## Retransmission queue
-/

/-- {lit}`tcp_retransmit_queue_add`. -/
def tcpRetransmitQueueAdd (env : TcpEnv) (pcb : TcpPcb) (seq : UInt32)
    (flg : UInt8) (data : List UInt8) : TcpPcb :=
  { pcb with
    queue := pcb.queue ++
      [{ first := env.now, last := env.now, rto := TCP_DEFAULT_RTO, seq := seq,
         flg := flg, data := data }] }

/--
The loop of {lit}`tcp_retransmit_queue_cleanup`: pop the head entry while its
sequence number is below {lit}`una`.
-/
def tcpRetransmitQueueCleanupLoop (una : UInt32) :
    List TcpQueueEntry → List TcpQueueEntry
  | [] => []
  | entry :: rest =>
      if entry.seq >= una then entry :: rest
      else tcpRetransmitQueueCleanupLoop una rest

/-- {lit}`tcp_retransmit_queue_cleanup`. -/
def tcpRetransmitQueueCleanup (pcb : TcpPcb) : TcpPcb :=
  { pcb with queue := tcpRetransmitQueueCleanupLoop pcb.sndUna pcb.queue }

/--
{lit}`tcp_retransmit_queue_emit` for one entry: the pcb, the entry as updated
and the retransmitted segment, if any.
-/
def tcpRetransmitQueueEmit (env : TcpEnv) (pcb : TcpPcb) (entry : TcpQueueEntry) :
    TcpPcb × TcpQueueEntry × List TcpSegmentOut :=
  if TCP_RETRANSMIT_DEADLINE ≤ (env.now - entry.first) / 1000000 then
    ({ pcb with state := .closed }, entry, [])
  else if entry.last + entry.rto.toNat < env.now then
    (pcb, { entry with last := env.now, rto := entry.rto * 2 },
      [{ seq := entry.seq, ack := pcb.rcvNxt, flg := entry.flg, wnd := pcb.rcvWnd,
         data := entry.data, localEp := pcb.localEp, foreign := pcb.foreign }])
  else (pcb, entry, [])

/-- {lit}`queue_foreach` of {lit}`tcp_retransmit_queue_emit` over the entries. -/
def tcpRetransmitQueueEmitAll (env : TcpEnv) :
    TcpPcb → List TcpQueueEntry → TcpPcb × List TcpQueueEntry × List TcpSegmentOut
  | pcb, [] => (pcb, [], [])
  | pcb, entry :: rest =>
      match tcpRetransmitQueueEmit env pcb entry with
      | (pcb1, entry1, out1) =>
          match tcpRetransmitQueueEmitAll env pcb1 rest with
          | (pcb2, rest2, out2) => (pcb2, entry1 :: rest2, out1 ++ out2)

/-!
## tcp_output
-/

/-- The sequence number {lit}`tcp_output` sends from. -/
def tcpOutputSeq (pcb : TcpPcb) (flg : UInt8) : UInt32 :=
  if tcpFlgIsset flg TCP_FLG_SYN then pcb.iss else pcb.sndNxt

/-- Whether {lit}`tcp_output` queues a retransmission entry. -/
def tcpOutputQueues (flg : UInt8) (data : List UInt8) : Bool :=
  tcpFlgIsset flg (TCP_FLG_SYN ||| TCP_FLG_FIN) || data.length != 0

/--
{lit}`tcp_output`: the pcb with the retransmission entry queued, the segment
sent, and whether {lit}`ip_output` accepted it.
-/
def tcpOutput (env : TcpEnv) (pcb : TcpPcb) (flg : UInt8) (data : List UInt8) :
    TcpPcb × TcpSegmentOut × Bool :=
  let seq := tcpOutputSeq pcb flg
  let pcb' :=
    if tcpOutputQueues flg data then tcpRetransmitQueueAdd env pcb seq flg data
    else pcb
  let s : TcpSegmentOut :=
    { seq := seq, ack := pcb'.rcvNxt, flg := flg, wnd := pcb'.rcvWnd, data := data,
      localEp := pcb'.localEp, foreign := pcb'.foreign }
  (pcb', s, env.ipOutput s)

/-- {lit}`tcp_output` changes nothing but the retransmission queue. -/
theorem tcpOutput_fst (env : TcpEnv) (pcb : TcpPcb) (flg : UInt8)
    (data : List UInt8) :
    (tcpOutput env pcb flg data).1 =
      { pcb with
        queue :=
          if tcpOutputQueues flg data then
            pcb.queue ++
              [{ first := env.now, last := env.now, rto := TCP_DEFAULT_RTO,
                 seq := tcpOutputSeq pcb flg, flg := flg, data := data }]
          else pcb.queue } := by
  unfold tcpOutput tcpRetransmitQueueAdd
  split <;> rfl

/-- A bare ACK is not queued for retransmission. -/
@[simp] theorem tcpOutput_ack_fst (env : TcpEnv) (pcb : TcpPcb) :
    (tcpOutput env pcb TCP_FLG_ACK []).1 = pcb := by
  have hq : tcpOutputQueues TCP_FLG_ACK [] = false := by decide
  simp [tcpOutput_fst, hq]

theorem tcpOutput_segment (env : TcpEnv) (pcb : TcpPcb) (flg : UInt8)
    (data : List UInt8) :
    (tcpOutput env pcb flg data).2.1 =
      { seq := tcpOutputSeq pcb flg, ack := pcb.rcvNxt, flg := flg,
        wnd := pcb.rcvWnd, data := data, localEp := pcb.localEp,
        foreign := pcb.foreign } := by
  unfold tcpOutput tcpRetransmitQueueAdd
  split <;> rfl

end ProtocolStack
