import Mathlib
import ProtocolStack.Library.Run
import ProtocolStack.Util.Queue
import ProtocolStack.Ip.Datagram
import ProtocolStack.Udp.Datagram

/-!
# The UDP pcb table

The sixteen {lit}`udp_pcb`s under the user commands and {lit}`udp_input`,
each critical section one step.  {lit}`udp_sendto` chooses the local address
and a free port inside its section and hands the datagram to
{lit}`ip_output` outside it; a pass of the loop of {lit}`udp_recvfrom` pops
the queue, and a sleeping call, once woken, makes the CLOSING check and
another pass without {lit}`udp_pcb_get`.  An interrupted sleep returns -1 and
changes nothing.

{lit}`sched_ctx_destroy` returns what {lit}`pthread_cond_destroy` returns,
zero or an error number, never -1: {lit}`udp_pcb_release` always goes on to
free the pcb, so no pcb is left CLOSING.
-/

namespace ProtocolStack

open ByteOrder

def UDP_PCB_SIZE : Nat := 16

def UDP_SOURCE_PORT_MIN : Nat := 49152

def UDP_SOURCE_PORT_MAX : Nat := 65535

inductive UdpPcbState
  | free
  | «open»
  | closing
  deriving DecidableEq, Repr

structure UdpPcb where
  state : UdpPcbState
  localEp : IpEndpoint
  queue : QueueHead UdpQueueEntry
  deriving DecidableEq, Repr

def UdpPcb.zero : UdpPcb :=
  { state := .free, localEp := ⟨IP_ADDR_ANY, 0⟩, queue := QueueHead.zero }

def udpPcbsInit : List UdpPcb :=
  List.replicate UDP_PCB_SIZE UdpPcb.zero

def udpPcbAlloc (pcbs : List UdpPcb) : Option Nat :=
  pcbs.findIdx? (·.state == .free)

/-- The loop of {lit}`udp_pcb_release` that pops until {lit}`queue_pop` returns NULL. -/
def udpPcbDiscard : Nat → QueueHead UdpQueueEntry → QueueHead UdpQueueEntry
  | 0, q => q
  | fuel + 1, q =>
      match queuePop q with
      | (q', none) => q'
      | (q', some _) => udpPcbDiscard fuel q'

def udpPcbRelease (pcb : UdpPcb) : UdpPcb :=
  { pcb with
    state := .free
    localEp := ⟨IP_ADDR_ANY, 0⟩
    queue := udpPcbDiscard (pcb.queue.num + 1) pcb.queue }

/-- The address and port test of {lit}`udp_pcb_select`. -/
def UdpPcb.localMatches (pcb : UdpPcb) (addr : IpAddr) (port : UInt16) : Bool :=
  (pcb.localEp.addr == IP_ADDR_ANY || addr == IP_ADDR_ANY || pcb.localEp.addr == addr) &&
    pcb.localEp.port == port

def udpPcbSelect (pcbs : List UdpPcb) (addr : IpAddr) (port : UInt16) : Option Nat :=
  pcbs.findIdx? fun pcb => pcb.state == .open && pcb.localMatches addr port

def udpPcbGet (pcbs : List UdpPcb) (id : Int) : Option UdpPcb :=
  if id < 0 ∨ UDP_PCB_SIZE ≤ id then none
  else
    match pcbs[id.toNat]? with
    | none => none
    | some pcb => if pcb.state = .open then some pcb else none

def UdpPcb.enqueue (pcb : UdpPcb) (entry : UdpQueueEntry) : UdpPcb :=
  { pcb with queue := queuePush pcb.queue entry }

/-- A pass of the loop of {lit}`udp_recvfrom`: the pcb and the entry {lit}`queue_pop` returns. -/
def UdpPcb.recvfromPass (pcb : UdpPcb) : UdpPcb × Option UdpQueueEntry :=
  match queuePop pcb.queue with
  | (q, entry) => ({ pcb with queue := q }, entry)

/-- What {lit}`udp_recvfrom` returns for an entry: its sender and its first {lit}`MIN(size, len)` bytes. -/
def udpRecvfromCopy (entry : UdpQueueEntry) (size : Nat) : IpEndpoint × List UInt8 :=
  (entry.foreign, entry.data.take (min size entry.len.toNat))

/-- An entry whose length field is its payload's length is cut by the buffer size alone. -/
theorem udpRecvfromCopy_of_length (foreign : IpEndpoint) (data : List UInt8) (size : Nat)
    (hlen : data.length < 65536) :
    udpRecvfromCopy ⟨foreign, UInt16.ofNat data.length, data⟩ size = (foreign, data.take size) := by
  have hlen16 : (UInt16.ofNat data.length).toNat = data.length := by
    rw [UInt16.toNat_ofNat']
    omega
  have htake : data.take (min size data.length) = data.take size :=
    List.take_eq_take_iff.mpr (by omega)
  rw [udpRecvfromCopy]
  dsimp only
  rw [hlen16, htake]

/-! ## The intr thread and the user commands -/

/-- {lit}`udp_input` on the {lit}`len` bytes at {lit}`data` from {lit}`src` to {lit}`dst`. -/
def udpInput (e : Endian) (pcbs : List UdpPcb) (data : List UInt8) (len : Nat) (src dst : IpAddr) :
    List UdpPcb :=
  match udpInputEntry e data len src dst with
  | none => pcbs
  | some (port, entry) =>
      match udpPcbSelect pcbs dst port with
      | none => pcbs
      | some i => pcbs.modify i (·.enqueue entry)

def udpOpen (pcbs : List UdpPcb) : List UdpPcb × Int :=
  match udpPcbAlloc pcbs with
  | none => (pcbs, -1)
  | some i => (pcbs.modify i fun pcb => { pcb with state := .open }, i)

def udpClose (pcbs : List UdpPcb) (id : Int) : List UdpPcb × Int :=
  match udpPcbGet pcbs id with
  | none => (pcbs, -1)
  | some pcb => (pcbs.set id.toNat (udpPcbRelease pcb), 0)

def udpBind (pcbs : List UdpPcb) (id : Int) (localEp : IpEndpoint) : List UdpPcb × Int :=
  match udpPcbGet pcbs id with
  | none => (pcbs, -1)
  | some pcb =>
      match udpPcbSelect pcbs localEp.addr localEp.port with
      | some _ => (pcbs, -1)
      | none => (pcbs.set id.toNat { pcb with localEp := localEp }, 0)

/-- The port the search of {lit}`udp_sendto` assigns: the first from 49152 on that no OPEN pcb uses with {lit}`addr`. -/
def udpSourcePort (e : Endian) (pcbs : List UdpPcb) (addr : IpAddr) : Option UInt16 :=
  ((List.range' UDP_SOURCE_PORT_MIN (UDP_SOURCE_PORT_MAX + 1 - UDP_SOURCE_PORT_MIN)).find?
      fun p => (udpPcbSelect pcbs addr (hton16 e (UInt16.ofNat p))).isNone).map
    fun p => hton16 e (UInt16.ofNat p)

/--
The critical section of {lit}`udp_sendto`: the table and the local endpoint
it sends from, or none where it returns -1.  A pcb bound to ANY sends from
the unicast address of the interface towards {lit}`foreign` and stays bound
to ANY.
-/
def udpSendtoLocal (e : Endian) (routes : List IpRoute) (pcbs : List UdpPcb) (id : Int)
    (foreign : IpEndpoint) : List UdpPcb × Option IpEndpoint :=
  match udpPcbGet pcbs id with
  | none => (pcbs, none)
  | some pcb =>
      let addr? :=
        if pcb.localEp.addr = IP_ADDR_ANY then
          (ipRouteGetIface e routes foreign.addr).map (·.unicast)
        else some pcb.localEp.addr
      match addr? with
      | none => (pcbs, none)
      | some addr =>
          if pcb.localEp.port = 0 then
            match udpSourcePort e pcbs addr with
            | none => (pcbs, none)
            | some port =>
                (pcbs.set id.toNat { pcb with localEp := { pcb.localEp with port := port } },
                  some ⟨addr, port⟩)
          else (pcbs, some ⟨addr, pcb.localEp.port⟩)

/-- The first section of {lit}`udp_recvfrom` and its first pass. -/
def udpRecvfrom (pcbs : List UdpPcb) (id : Int) (size : Nat) :
    List UdpPcb × Option (IpEndpoint × List UInt8) :=
  match udpPcbGet pcbs id with
  | none => (pcbs, none)
  | some pcb =>
      match pcb.recvfromPass with
      | (pcb', entry) => (pcbs.set id.toNat pcb', entry.map (udpRecvfromCopy · size))

/-- A sleeping {lit}`udp_recvfrom` on the pcb at {lit}`id`, woken: the CLOSING check and another pass. -/
def udpRecvfromWake (pcbs : List UdpPcb) (id : Nat) (size : Nat) :
    List UdpPcb × Option (IpEndpoint × List UInt8) :=
  match pcbs[id]? with
  | none => (pcbs, none)
  | some pcb =>
      if pcb.state = .closing then (pcbs.set id (udpPcbRelease pcb), none)
      else
        match pcb.recvfromPass with
        | (pcb', entry) => (pcbs.set id pcb', entry.map (udpRecvfromCopy · size))

/-! ## The table as a system -/

inductive UdpEvent
  | openCall
  | close (id : Int)
  | bind (id : Int) (localEp : IpEndpoint)
  | sendto (id : Int) (data : List UInt8) (foreign : IpEndpoint)
  | recvfrom (id : Int) (size : Nat)
  | recvfromWake (id : Nat) (size : Nat)
  | input (data : List UInt8) (len : Nat) (src dst : IpAddr)

/-- What a step shows: a datagram handed to {lit}`ip_output`, or what {lit}`udp_recvfrom` returns. -/
inductive UdpObs
  | none
  | output (src dst : IpAddr) (datagram : List UInt8)
  | received (foreign : IpEndpoint) (data : List UInt8)
  deriving DecidableEq, Repr

def UdpObs.ofReceived : Option (IpEndpoint × List UInt8) → UdpObs
  | Option.none => UdpObs.none
  | Option.some (foreign, data) => UdpObs.received foreign data

def udpStep (e : Endian) (routes : List IpRoute) : UdpEvent → List UdpPcb → List UdpPcb × UdpObs
  | .openCall, pcbs => ((udpOpen pcbs).1, .none)
  | .close id, pcbs => ((udpClose pcbs id).1, .none)
  | .bind id localEp, pcbs => ((udpBind pcbs id localEp).1, .none)
  | .sendto id data foreign, pcbs =>
      match udpSendtoLocal e routes pcbs id foreign with
      | (pcbs', none) => (pcbs', .none)
      | (pcbs', some localEp) =>
          match udpOutput e localEp foreign data with
          | none => (pcbs', .none)
          | some datagram => (pcbs', .output localEp.addr foreign.addr datagram)
  | .recvfrom id size, pcbs =>
      match udpRecvfrom pcbs id size with
      | (pcbs', r) => (pcbs', UdpObs.ofReceived r)
  | .recvfromWake id size, pcbs =>
      match udpRecvfromWake pcbs id size with
      | (pcbs', r) => (pcbs', UdpObs.ofReceived r)
  | .input data len src dst, pcbs => (udpInput e pcbs data len src dst, .none)

/-- A send changes the table as its critical section does. -/
theorem udpStep_sendto_fst (e : Endian) (routes : List IpRoute) (id : Int) (data : List UInt8)
    (foreign : IpEndpoint) (pcbs : List UdpPcb) :
    (udpStep e routes (.sendto id data foreign) pcbs).1 =
      (udpSendtoLocal e routes pcbs id foreign).1 := by
  simp only [udpStep]
  split
  · rename_i h
    rw [h]
  · rename_i h
    rw [h]
    split <;> rfl

def udpRun (e : Endian) (routes : List IpRoute) (evs : List UdpEvent) :
    List UdpPcb × List UdpObs :=
  Run.run (udpStep e routes) udpPcbsInit evs

/-! ## From udp_output to udp_input -/

theorem UdpPcb.enqueue_holds {pcb : UdpPcb} {xs : List UdpQueueEntry} (h : pcb.queue.Holds xs)
    (entry : UdpQueueEntry) : (pcb.enqueue entry).queue.Holds (xs ++ [entry]) :=
  h.push entry

theorem udpPcbSelect_eq_some {pcbs : List UdpPcb} {addr : IpAddr} {port : UInt16} {i : Nat}
    (h : udpPcbSelect pcbs addr port = some i) :
    ∃ pcb, pcbs[i]? = some pcb ∧ pcb.state = .open := by
  obtain ⟨hi, hsel, -⟩ := List.findIdx?_eq_some_iff_getElem.mp h
  refine ⟨pcbs[i], List.getElem?_eq_getElem hi, ?_⟩
  simp only [Bool.and_eq_true, beq_iff_eq] at hsel
  exact hsel.1

/--
The datagram of {lit}`udp_output` passes the checks of {lit}`udp_input`,
which finds the sender's endpoint and the payload in it; the OPEN pcb that
{lit}`udp_pcb_select` picks then holds what it held followed by that entry,
and no other pcb changes.
-/
theorem udp_datagram_round_trip (e : Endian) (src dst : IpEndpoint) (data : List UInt8)
    (hlen : data.length ≤ IP_PAYLOAD_SIZE_MAX - 8) (pcbs : List UdpPcb) :
    ∃ bytes, udpOutput e src dst data = some bytes ∧
      udpInputEntry e bytes bytes.length src.addr dst.addr =
        some (dst.port, { foreign := src, len := UInt16.ofNat data.length, data := data }) ∧
      (udpPcbSelect pcbs dst.addr dst.port = none →
        udpInput e pcbs bytes bytes.length src.addr dst.addr = pcbs) ∧
      ∀ i pcb xs, udpPcbSelect pcbs dst.addr dst.port = some i → pcbs[i]? = some pcb →
        pcb.queue.Holds xs →
        ∃ pcb', (udpInput e pcbs bytes bytes.length src.addr dst.addr)[i]? = some pcb' ∧
          pcb'.state = UdpPcbState.open ∧ pcb'.localEp = pcb.localEp ∧
          pcb'.queue.Holds (xs ++ [{ foreign := src, len := UInt16.ofNat data.length, data := data }]) ∧
          ∀ j, j ≠ i → (udpInput e pcbs bytes bytes.length src.addr dst.addr)[j]? = pcbs[j]? := by
  obtain ⟨bytes, hout, -, hentry⟩ := udpInputEntry_udpOutput e src dst data hlen
  refine ⟨bytes, hout, hentry, fun hnone => by simp only [udpInput, hentry, hnone], ?_⟩
  intro i pcb xs hsel hp hq
  -- udp_input pushes the entry on the queue of the pcb it selects
  have hin : udpInput e pcbs bytes bytes.length src.addr dst.addr =
      pcbs.modify i (·.enqueue ⟨src, UInt16.ofNat data.length, data⟩) := by
    simp only [udpInput, hentry, hsel]
  obtain ⟨p, hp', hopen⟩ := udpPcbSelect_eq_some hsel
  rw [hp, Option.some.injEq] at hp'
  subst hp'
  refine ⟨pcb.enqueue ⟨src, UInt16.ofNat data.length, data⟩, by simp [hin, hp], hopen, rfl,
    UdpPcb.enqueue_holds hq _, fun j hj => ?_⟩
  simp [hin, Ne.symm hj]

/-- The table after {lit}`udp_open` and {lit}`udp_bind` of 10.0.0.1:7 on a big-endian host. -/
def udpPcbsEcho : List UdpPcb :=
  (udpRun .big [] [UdpEvent.openCall, UdpEvent.bind 0 ⟨0x0a000001, 7⟩]).1

/-- Three bytes from 10.0.0.2:7 to 10.0.0.1:7, where pcb 0 is bound: its empty queue then holds the one datagram. -/
theorem udp_datagram_round_trip_echo :
    ([1, 2, 3] : List UInt8).length ≤ IP_PAYLOAD_SIZE_MAX - 8 ∧
      udpPcbSelect udpPcbsEcho 0x0a000001 7 = some 0 ∧
      ∃ bytes, udpOutput .big ⟨0x0a000002, 7⟩ ⟨0x0a000001, 7⟩ [1, 2, 3] = some bytes ∧
        ∃ pcb', (udpInput .big udpPcbsEcho bytes bytes.length 0x0a000002 0x0a000001)[0]? = some pcb' ∧
          pcb'.queue.Holds [{ foreign := ⟨0x0a000002, 7⟩, len := UInt16.ofNat 3, data := [1, 2, 3] }] := by
  have hlen : ([1, 2, 3] : List UInt8).length ≤ IP_PAYLOAD_SIZE_MAX - 8 := by decide
  have hsel : udpPcbSelect udpPcbsEcho 0x0a000001 7 = some 0 := by decide
  have hp : udpPcbsEcho[0]? = some ⟨UdpPcbState.open, ⟨0x0a000001, 7⟩, QueueHead.zero⟩ := by decide
  obtain ⟨bytes, hout, -, -, hdeliver⟩ :=
    udp_datagram_round_trip .big ⟨0x0a000002, 7⟩ ⟨0x0a000001, 7⟩ [1, 2, 3] hlen udpPcbsEcho
  obtain ⟨pcb', hp', -, -, hq, -⟩ := hdeliver 0 _ [] hsel hp QueueHead.holds_zero
  exact ⟨hlen, hsel, bytes, hout, pcb', hp', hq⟩

end ProtocolStack
