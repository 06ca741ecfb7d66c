import Mathlib
import ProtocolStack.Ip.Device
import ProtocolStack.Udp.Receive

/-!
# UDP between two hosts

{lit}`udp_sendto` ends in a call of {lit}`udp_output`, which hands the
datagram to {lit}`ip_output`, which hands the frame to the driver: one call
on the sending host, threading its pcb table, its ARP cache and the counter
of {lit}`ip_generate_id`.  On the receiving host {lit}`ip_input` calls the
handler registered for the protocol, and only the call of
{lit}`udp_input` is modelled here: the other handlers leave the UDP table
as it is.  {lit}`ip_input` passes the buffer with whatever padding the
Ethernet frame had behind the datagram, and {lit}`udp_input` reads only the
length it is passed.
-/

namespace ProtocolStack

open ByteOrder

/-- The handlers {lit}`icmp_init`, {lit}`udp_init` and {lit}`tcp_init` register with {lit}`ip_protocol_register`. -/
inductive IpHandler
  | icmpInput
  | udpInput
  | tcpInput
  deriving DecidableEq, Repr

/-- What a UDP send reaches on a host: the pcb table, the ARP cache and the counter of {lit}`ip_generate_id`. -/
structure UdpHost where
  pcbs : List UdpPcb
  caches : List ArpCache
  id : UInt16

/-- What {lit}`udp_sendto` leaves: the host, the ARP request sent, what the driver transmitted and the value it returns. -/
structure UdpSendtoResult (β : Type) where
  host : UdpHost
  request : Option (List UInt8)
  sent : Option β
  ret : Int

/-- {lit}`udp_sendto`: its critical section and {lit}`udp_output`, whose datagram goes to {lit}`ip_output`. -/
def udpHostSendto {β : Type} (e : Endian)
    (transmit : NetDevice → UInt16 → List UInt8 → Vector UInt8 NET_DEVICE_ADDR_LEN → β)
    (routes : List IpRoute) (devOf : IpIface → NetDevice × Nat) (host : UdpHost) (id : Int)
    (data : List UInt8) (foreign : IpEndpoint) (now : Timeval) : UdpSendtoResult β :=
  match udpStep e routes (.sendto id data foreign) host.pcbs with
  | (pcbs, .output src dst datagram) =>
      match ipHostOutput e transmit routes devOf host.caches host.id IP_PROTOCOL_UDP datagram src dst
          now with
      | r => ⟨⟨pcbs, r.caches, r.id⟩, r.request, r.sent, if r.ret = -1 then -1 else data.length⟩
  | (pcbs, _) => ⟨{ host with pcbs := pcbs }, none, none, -1⟩

/-- A frame reaches a host: the UDP table after {lit}`ip_input` and the handler it calls. -/
def udpHostInput (e : Endian) (protocols : List (IpProtocol IpHandler)) (dev : NetDevice)
    (pcbs : List UdpPcb) (frame : List UInt8) : List UdpPcb :=
  match ipHostInput e protocols dev frame with
  | some d => if d.handler = .udpInput then udpInput e pcbs d.data d.len d.src d.dst else pcbs
  | none => pcbs

/-! ## The sending host -/

/-- The address {lit}`udp_sendto` sends from: the pcb's, or for a pcb bound to ANY the unicast address of the route's interface. -/
theorem udpSendtoLocal_addr {e : Endian} {routes : List IpRoute} {pcbs : List UdpPcb} {id : Int}
    {foreign localEp : IpEndpoint} {pcb : UdpPcb} (hget : udpPcbGet pcbs id = some pcb)
    (h : (udpSendtoLocal e routes pcbs id foreign).2 = some localEp) :
    (if pcb.localEp.addr = IP_ADDR_ANY then (ipRouteGetIface e routes foreign.addr).map (·.unicast)
      else some pcb.localEp.addr) = some localEp.addr := by
  unfold udpSendtoLocal at h
  rw [hget] at h
  dsimp only at h
  split at h
  · cases h
  · rename_i addr haddr
    rw [haddr]
    split_ifs at h
    · split at h
      · cases h
      · cases h
        rfl
    · cases h
      rfl

/-- The critical section of {lit}`udp_sendto` finds a local endpoint wherever the route lookup does: the port search cannot fail on a table of sixteen pcbs. -/
theorem udpSendtoLocal_isSome {e : Endian} {routes : List IpRoute} {pcbs : List UdpPcb} {id : Int}
    {foreign : IpEndpoint} {pcb : UdpPcb} {iface : IpIface} (hsize : pcbs.length ≤ UDP_PCB_SIZE)
    (hget : udpPcbGet pcbs id = some pcb) (hiface : ipRouteGetIface e routes foreign.addr = some iface) :
    (udpSendtoLocal e routes pcbs id foreign).2.isSome := by
  unfold udpSendtoLocal
  rw [hget]
  dsimp only
  split
  · -- no source address: impossible, the route lookup succeeds
    rename_i haddr
    split_ifs at haddr
    simp [hiface] at haddr
  · rename_i addr _
    split_ifs
    · split
      · rename_i hnone
        have hsome := udpSourcePort_isSome e hsize addr
        rw [hnone] at hsome
        cases hsome
      · rfl
    · rfl

/-- An A pcb bound to ANY or to the address of the interface towards {lit}`foreign` sends from that address. -/
theorem udpSendtoLocal_addr_of_route {e : Endian} {routes : List IpRoute} {pcbs : List UdpPcb}
    {id : Int} {foreign localEp : IpEndpoint} {pcb : UdpPcb} {iface : IpIface}
    (hget : udpPcbGet pcbs id = some pcb)
    (haddr : pcb.localEp.addr = IP_ADDR_ANY ∨ pcb.localEp.addr = iface.unicast)
    (hiface : ipRouteGetIface e routes foreign.addr = some iface)
    (h : (udpSendtoLocal e routes pcbs id foreign).2 = some localEp) :
    localEp.addr = iface.unicast := by
  have hif := udpSendtoLocal_addr hget h
  split_ifs at hif with hany
  · rw [hiface, Option.map_some, Option.some.injEq] at hif
    exact hif.symm
  · rcases haddr with h' | h'
    · exact absurd h' hany
    · rw [← h']
      exact (Option.some.inj hif).symm

theorem udpStep_sendto_output {e : Endian} {routes : List IpRoute} {pcbs pcbs' : List UdpPcb}
    {id : Int} {data datagram : List UInt8} {foreign localEp : IpEndpoint}
    (hlocal : udpSendtoLocal e routes pcbs id foreign = (pcbs', some localEp))
    (hout : udpOutput e localEp foreign data = some datagram) :
    udpStep e routes (.sendto id data foreign) pcbs =
      (pcbs', .output localEp.addr foreign.addr datagram) := by
  simp only [udpStep, hlocal, hout]

/-- Where the critical section finds a local endpoint and {lit}`udp_output` a datagram, {lit}`ip_output` sends it from the local address. -/
theorem udpHostSendto_output {β : Type} (e : Endian)
    (transmit : NetDevice → UInt16 → List UInt8 → Vector UInt8 NET_DEVICE_ADDR_LEN → β)
    {routes : List IpRoute} (devOf : IpIface → NetDevice × Nat) {host : UdpHost} {id : Int}
    {data datagram : List UInt8} {foreign localEp : IpEndpoint} {pcbs : List UdpPcb}
    (hlocal : udpSendtoLocal e routes host.pcbs id foreign = (pcbs, some localEp))
    (hout : udpOutput e localEp foreign data = some datagram) (now : Timeval) :
    udpHostSendto e transmit routes devOf host id data foreign now =
      match ipHostOutput e transmit routes devOf host.caches host.id IP_PROTOCOL_UDP datagram
          localEp.addr foreign.addr now with
      | r => ⟨⟨pcbs, r.caches, r.id⟩, r.request, r.sent, if r.ret = -1 then -1 else data.length⟩ := by
  rw [udpHostSendto, udpStep_sendto_output hlocal hout]

/-- To a destination resolved on A's link, {lit}`udp_sendto` transmits the datagram of {lit}`udp_output` in one frame and returns the payload's length. -/
theorem udpHostSendto_direct_found {β : Type} (e : Endian)
    (transmit : NetDevice → UInt16 → List UInt8 → Vector UInt8 NET_DEVICE_ADDR_LEN → β)
    {devA : NetDevice} {ifaceA : NetIface} (hA : ArpEtherDevice devA ifaceA)
    (hneedA : devA.flags &&& NET_DEVICE_FLAG_NEED_ARP ≠ 0) {routes : List IpRoute}
    (devOf : IpIface → NetDevice × Nat) {network netmask : IpAddr} {foreign localEp : IpEndpoint}
    (hroute : ipRouteLookup e routes foreign.addr = some ⟨network, netmask, IP_ADDR_ANY, ifaceA.ip⟩)
    (hdevOf : devOf ifaceA.ip = (devA, ETHER_ADDR_LEN))
    (hnb : foreign.addr ≠ ifaceA.ip.broadcast ∧ foreign.addr ≠ IP_ADDR_BROADCAST)
    {pcbs pcbs' : List UdpPcb} {id : Int}
    (hsend : udpSendtoLocal e routes pcbs id foreign = (pcbs', some localEp))
    (hsrc : localEp.addr = ifaceA.ip.unicast) {data datagram : List UInt8}
    (hout : udpOutput e localEp foreign data = some datagram)
    (hmtu : IP_HDR_SIZE_MIN + datagram.length ≤ devA.mtu.toNat) {caches : List ArpCache}
    {c : ArpCache} (hfind : caches.find? (fun a => arpCacheLive a && a.pa == foreign.addr) = some c)
    (hst : c.state ≠ ARP_CACHE_STATE_INCOMPLETE) (ipId : UInt16) (now : Timeval) :
    udpHostSendto e transmit routes devOf ⟨pcbs, caches, ipId⟩ id data foreign now =
      ⟨⟨pcbs', caches, ipId + 1⟩, none,
        some (transmit devA NET_PROTOCOL_TYPE_IP
          (ipOutputCore e IP_PROTOCOL_UDP datagram ifaceA.ip.unicast foreign.addr ipId 0)
          (hwaddrOf c.ha.toList)), data.length⟩ := by
  rw [udpHostSendto_output e transmit devOf hsend hout now,
    ipHostOutput_direct_found e transmit hA hneedA hroute hdevOf hnb hmtu (.inr hsrc) hfind hst ipId
      now]
  dsimp only
  rw [if_neg (by omega)]

/-! ## The receiving host -/

theorem UdpHdr.read_append_of_le (e : Endian) {data : List UInt8} (rest : List UInt8)
    (h : 8 ≤ data.length) : UdpHdr.read e (data ++ rest) = UdpHdr.read e data := by
  simp (disch := omega) only [UdpHdr.read, Endian.read16, List.getD_append]

/-- {lit}`udp_input` reads only the {lit}`len` bytes it is passed. -/
theorem udpInputEntry_append (e : Endian) {data : List UInt8} (rest : List UInt8) {len : Nat}
    (hlen : len ≤ data.length) (src dst : IpAddr) :
    udpInputEntry e (data ++ rest) len src dst = udpInputEntry e data len src dst := by
  unfold udpInputEntry
  by_cases hshort : len < 8
  · rw [if_pos hshort, if_pos hshort]
  · have h8 : 8 ≤ data.length := by omega
    have hcount : (UInt16.ofNat len).toNat ≤ data.length := by
      rw [UInt16.toNat_ofNat']
      exact le_trans (Nat.mod_le _ _) hlen
    rw [if_neg hshort, if_neg hshort, UdpHdr.read_append_of_le e rest h8,
      cksum16_append_of_le e data rest _ _ hcount, List.drop_append_of_le_length h8,
      List.take_append_of_le_length (by rw [List.length_drop]; omega)]

/-- A datagram {lit}`ip_input` hands to {lit}`udp_input`, padding and all, is what {lit}`udp_input` makes of the datagram alone. -/
theorem udpHostInput_udpInput {e : Endian} {protocols : List (IpProtocol IpHandler)}
    {dev : NetDevice} {frame datagram padding : List UInt8} {src dst : IpAddr} {iface : IpIface}
    (h : ipHostInput e protocols dev frame =
      some ⟨.udpInput, datagram ++ padding, datagram.length, src, dst, iface⟩)
    (pcbs : List UdpPcb) :
    udpHostInput e protocols dev pcbs frame = udpInput e pcbs datagram datagram.length src dst := by
  rw [udpHostInput, h]
  dsimp only
  rw [if_pos rfl]
  unfold udpInput
  rw [udpInputEntry_append e padding le_rfl]

theorem udpHostInput_selected {e : Endian} {protocols : List (IpProtocol IpHandler)}
    {dev : NetDevice} {frame datagram padding : List UInt8} {src dst : IpAddr} {iface : IpIface}
    (h : ipHostInput e protocols dev frame =
      some ⟨.udpInput, datagram ++ padding, datagram.length, src, dst, iface⟩)
    {port : UInt16} {entry : UdpQueueEntry}
    (hentry : udpInputEntry e datagram datagram.length src dst = some (port, entry))
    {pcbs : List UdpPcb} {i : Nat} (hsel : udpPcbSelect pcbs dst port = some i) :
    udpHostInput e protocols dev pcbs frame = pcbs.modify i (·.enqueue entry) := by
  rw [udpHostInput_udpInput h, udpInput_selected hentry hsel]
  rfl

theorem udpPcbGet_of_getElem? {pcbs : List UdpPcb} {i : Nat} {pcb : UdpPcb}
    (hi : i < UDP_PCB_SIZE) (hp : pcbs[i]? = some pcb) (hopen : pcb.state = .open) :
    udpPcbGet pcbs i = some pcb := by
  have hrange : ¬((i : Int) < 0 ∨ UDP_PCB_SIZE ≤ (i : Int)) := by omega
  rw [udpPcbGet, if_neg hrange, Int.toNat_natCast, hp]
  dsimp only
  rw [if_pos hopen]

/-- An entry pushed on an empty queue is what the next {lit}`udp_recvfrom` returns. -/
theorem udpRecvfrom_modify_enqueue {pcbs : List UdpPcb} {i : Nat} {pcb : UdpPcb}
    (hi : i < UDP_PCB_SIZE) (hp : pcbs[i]? = some pcb) (hopen : pcb.state = .open)
    (hq : pcb.queue.Holds []) (entry : UdpQueueEntry) (size : Nat) :
    (udpRecvfrom (pcbs.modify i (·.enqueue entry)) i size).2 = some (udpRecvfromCopy entry size) := by
  have hp' : (pcbs.modify i (·.enqueue entry))[i]? = some (pcb.enqueue entry) := by
    simp [hp]
  rw [udpRecvfrom_of_get size (udpPcbGet_of_getElem? hi hp' hopen)]
  exact (udpRecvStep_refines (UdpPcb.enqueue_holds hq entry) (.recvfrom size)).1

/-! ## From one host to the other -/

/--
Two hosts on one Ethernet link, B on A's subnet and resolved in A's ARP
cache.  {lit}`udp_sendto` on an A pcb bound to ANY or to A's address, to the
port of an OPEN pcb at B, finds a local endpoint at A's address (a port
search on A's table of sixteen pcbs always succeeds), returns the payload's
length and transmits a frame.  Taken in at B, the frame puts the datagram, from A's address, behind
what B's pcb held, and on an empty queue B's next {lit}`udp_recvfrom`
returns A's endpoint and the payload.
-/
theorem udp_sendto_delivery (e : Endian) {devA devB : NetDevice} {ifaceA ifaceB : NetIface}
    (hA : ArpEtherDevice devA ifaceA) (hB : ArpEtherDevice devB ifaceB)
    (hneedA : devA.flags &&& NET_DEVICE_FLAG_NEED_ARP ≠ 0) {routes : List IpRoute}
    {devOf : IpIface → NetDevice × Nat} {network netmask : IpAddr}
    (hroute : ipRouteLookup e routes ifaceB.ip.unicast =
      some ⟨network, netmask, IP_ADDR_ANY, ifaceA.ip⟩)
    (hdevOf : devOf ifaceA.ip = (devA, ETHER_ADDR_LEN))
    (hnb : ifaceB.ip.unicast ≠ ifaceA.ip.broadcast ∧ ifaceB.ip.unicast ≠ IP_ADDR_BROADCAST)
    {caches : List ArpCache} {c : ArpCache}
    (hfind : caches.find? (fun a => arpCacheLive a && a.pa == ifaceB.ip.unicast) = some c)
    (hst : c.state ≠ ARP_CACHE_STATE_INCOMPLETE) (hha : c.ha = etherAddrOf devB.addr)
    {pcbsA : List UdpPcb} {idA : Int} {pcbA : UdpPcb} (hsizeA : pcbsA.length ≤ UDP_PCB_SIZE)
    (hgetA : udpPcbGet pcbsA idA = some pcbA)
    (haddrA : pcbA.localEp.addr = IP_ADDR_ANY ∨ pcbA.localEp.addr = ifaceA.ip.unicast)
    {portB : UInt16}
    {protocols : List (IpProtocol IpHandler)} (hnodup : (protocols.map (·.type)).Nodup)
    (hreg : ⟨IP_PROTOCOL_UDP, IpHandler.udpInput⟩ ∈ protocols)
    {pcbsB : List UdpPcb} {idB : Nat} {pcbB : UdpPcb} {xs : List UdpQueueEntry}
    (hsizeB : pcbsB.length ≤ UDP_PCB_SIZE)
    (hsel : udpPcbSelect pcbsB ifaceB.ip.unicast portB = some idB)
    (hpcbB : pcbsB[idB]? = some pcbB) (hq : pcbB.queue.Holds xs) {data : List UInt8}
    (hmtu : IP_HDR_SIZE_MIN + (8 + data.length) ≤ devA.mtu.toNat) (id : UInt16) (now : Timeval)
    (size : Nat) :
    let r := udpHostSendto e (etherTapTransmit e) routes devOf ⟨pcbsA, caches, id⟩ idA data
      ⟨ifaceB.ip.unicast, portB⟩ now
    ∃ localA, (udpSendtoLocal e routes pcbsA idA ⟨ifaceB.ip.unicast, portB⟩).2 = some localA ∧
      localA.addr = ifaceA.ip.unicast ∧ r.ret = data.length ∧ r.request = none ∧
      ∃ frame, r.sent = some frame ∧
        (∃ pcb, (udpHostInput e protocols devB pcbsB frame)[idB]? = some pcb ∧
          pcb.queue.Holds (xs ++ [⟨localA, UInt16.ofNat data.length, data⟩])) ∧
        (xs = [] → (udpRecvfrom (udpHostInput e protocols devB pcbsB frame) idB size).2 =
          some (localA, data.take size)) := by
  -- the device MTU is a 16-bit value, so neither length wraps
  have hlen : IP_HDR_SIZE_MIN + (8 + data.length) ≤ 65535 :=
    le_trans hmtu (Nat.le_of_lt_succ devA.mtu.toNat_lt)
  have hpayload : data.length ≤ IP_PAYLOAD_SIZE_MAX - 8 := by
    simp only [IP_PAYLOAD_SIZE_MAX, IP_TOTAL_SIZE_MAX, IP_HDR_SIZE_MIN] at hlen ⊢
    omega
  have hiface : ipRouteGetIface e routes (⟨ifaceB.ip.unicast, portB⟩ : IpEndpoint).addr =
      some ifaceA.ip := by
    rw [ipRouteGetIface, hroute]
    rfl
  obtain ⟨localA, hlocal⟩ := Option.isSome_iff_exists.mp (udpSendtoLocal_isSome hsizeA hgetA hiface)
  have haddr : localA.addr = ifaceA.ip.unicast :=
    udpSendtoLocal_addr_of_route hgetA haddrA hiface hlocal
  obtain ⟨datagram, hout, hlength, hentry⟩ :=
    udpInputEntry_udpOutput e localA ⟨ifaceB.ip.unicast, portB⟩ data hpayload
  rw [haddr] at hentry
  have hsend : udpSendtoLocal e routes pcbsA idA ⟨ifaceB.ip.unicast, portB⟩ =
      ((udpSendtoLocal e routes pcbsA idA ⟨ifaceB.ip.unicast, portB⟩).1, some localA) := by
    rw [← hlocal]
  have hr := udpHostSendto_direct_found e (etherTapTransmit e) hA hneedA devOf hroute hdevOf hnb
    hsend haddr hout (by rw [hlength]; exact hmtu) hfind hst id now
  -- B's ip_input hands the datagram to udp_input, which queues it on the pcb it selects
  obtain ⟨padding, hin⟩ := ipHostInput_etherTapTransmit e hnodup hreg hB devA
    (by rw [hlength]; exact hlen) ifaceA.ip.unicast id
  have hpcbs := udpHostInput_selected hin hentry hsel
  obtain ⟨pcb, hp, hopen⟩ := udpPcbSelect_eq_some hsel
  rw [hpcbB, Option.some.injEq] at hp
  subst hp
  have hi : idB < UDP_PCB_SIZE := lt_of_lt_of_le (List.getElem?_eq_some_iff.mp hpcbB).1 hsizeB
  rw [hr, hha]
  refine ⟨localA, hlocal, haddr, rfl, rfl, _, rfl, ?_⟩
  rw [hpcbs]
  refine ⟨⟨_, by simp [hpcbB], UdpPcb.enqueue_holds hq _⟩, ?_⟩
  rintro rfl
  -- the payload's length fits the entry's 16-bit field, so nothing is cut but by size
  have hlen16 : data.length < 65536 := by
    simp only [IP_HDR_SIZE_MIN] at hlen
    omega
  rw [udpRecvfrom_modify_enqueue hi hpcbB hopen hq, udpRecvfromCopy_of_length localA data size hlen16]

/-- The protocol list {lit}`icmp_init`, {lit}`udp_init` and {lit}`tcp_init` leave, each pushing its entry at the head. -/
def ipProtocolsNet : List (IpProtocol IpHandler) :=
  [⟨IP_PROTOCOL_TCP, .tcpInput⟩, ⟨IP_PROTOCOL_UDP, .udpInput⟩, ⟨IP_PROTOCOL_ICMP, .icmpInput⟩]

example :
    ipProtocolRegisterAll []
        [(IP_PROTOCOL_ICMP, IpHandler.icmpInput), (IP_PROTOCOL_UDP, IpHandler.udpInput),
          (IP_PROTOCOL_TCP, IpHandler.tcpInput)] = some ipProtocolsNet := by
  decide

/-- A's table after {lit}`udp_open`: pcb 0 OPEN and bound to nothing. -/
def udpPcbsHostA : List UdpPcb := (udpRun .little [ipRouteA] [UdpEvent.openCall]).1

/-- B's table after {lit}`udp_open` and {lit}`udp_bind` of 10.0.0.2:7. -/
def udpPcbsHostB : List UdpPcb :=
  (udpRun .little [] [UdpEvent.openCall, UdpEvent.bind 0 ⟨arpIfaceB.ip.unicast, hton16 .little 7⟩]).1

/-- The device under A's interface, and its address length. -/
def udpDevOfHostA : IpIface → NetDevice × Nat := fun _ => (ipHostA, ETHER_ADDR_LEN)

/-- B's entry in A's ARP cache, resolved. -/
def udpCacheHostB : ArpCache :=
  ⟨ARP_CACHE_STATE_RESOLVED, arpIfaceB.ip.unicast, etherAddrOf arpHostB.addr, ⟨1, 0⟩⟩

/-- Three bytes from an unbound pcb of 10.0.0.1 to the echo port of 10.0.0.2: A takes the first free port, and B's recvfrom returns them. -/
theorem udp_sendto_delivery_echo :
    (udpSendtoLocal .little [ipRouteA] udpPcbsHostA 0 ⟨arpIfaceB.ip.unicast, hton16 .little 7⟩).2 =
      some ⟨arpIfaceA.ip.unicast, hton16 .little 49152⟩ ∧
    let r := udpHostSendto .little (etherTapTransmit .little) [ipRouteA] udpDevOfHostA
      ⟨udpPcbsHostA, [udpCacheHostB], 0⟩ 0 [1, 2, 3]
      ⟨arpIfaceB.ip.unicast, hton16 .little 7⟩ ⟨5, 0⟩
    r.ret = 3 ∧ r.request = none ∧ ∃ frame, r.sent = some frame ∧
      (udpRecvfrom (udpHostInput .little ipProtocolsNet arpHostB udpPcbsHostB frame) 0 16).2 =
        some (⟨arpIfaceA.ip.unicast, hton16 .little 49152⟩, [1, 2, 3]) := by
  have hA : ArpEtherDevice ipHostA arpIfaceA := ⟨rfl, by decide, by decide, by decide, rfl⟩
  have hlocal : (udpSendtoLocal .little [ipRouteA] udpPcbsHostA 0
      ⟨arpIfaceB.ip.unicast, hton16 .little 7⟩).2 =
      some ⟨arpIfaceA.ip.unicast, hton16 .little 49152⟩ := by
    decide
  obtain ⟨localA, hlocalA, -, hret, hreq, frame, hsent, -, hrecv⟩ :=
    udp_sendto_delivery .little hA arpHostB_device (by decide)
      (by decide : ipRouteLookup .little [ipRouteA] arpIfaceB.ip.unicast = some ipRouteA)
      (rfl : udpDevOfHostA arpIfaceA.ip = (ipHostA, ETHER_ADDR_LEN))
      (by decide) (by decide : [udpCacheHostB].find? (fun a => arpCacheLive a &&
        a.pa == arpIfaceB.ip.unicast) = some udpCacheHostB) (by decide) rfl
      (by decide : udpPcbsHostA.length ≤ UDP_PCB_SIZE)
      (by decide : udpPcbGet udpPcbsHostA 0 = some ⟨.open, ⟨IP_ADDR_ANY, 0⟩, QueueHead.zero⟩)
      (.inl rfl) (by decide : (ipProtocolsNet.map (·.type)).Nodup) (by decide) (by decide)
      (by decide : udpPcbSelect udpPcbsHostB arpIfaceB.ip.unicast (hton16 .little 7) = some 0)
      (by decide : udpPcbsHostB[0]? =
        some ⟨.open, ⟨arpIfaceB.ip.unicast, hton16 .little 7⟩, QueueHead.zero⟩)
      QueueHead.holds_zero (by decide : IP_HDR_SIZE_MIN + (8 + ([1, 2, 3] : List UInt8).length) ≤
        ipHostA.mtu.toNat)
      0 ⟨5, 0⟩ 16
  -- the endpoint the theorem finds is the one the search computes
  rw [hlocal, Option.some.injEq] at hlocalA
  subst hlocalA
  exact ⟨hlocal, hret, hreq, frame, hsent, hrecv rfl⟩

end ProtocolStack
