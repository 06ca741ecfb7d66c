import Mathlib
import ProtocolStack.Arp.Exchange
import ProtocolStack.Ip.Route

/-!
# ip_output_device and the output path of a host

{lit}`ip_output_device` hands a datagram to the device under the interface.
On a device that needs ARP, a datagram for a broadcast address goes to the
device's broadcast address, and any other to the hardware address
{lit}`arp_resolve` finds for the next hop; where the resolution is not
complete, it returns what {lit}`arp_resolve` returned and the datagram is
not handed on.  {lit}`ip_output` takes only -1 from it as a failure, so a
datagram dropped for want of an ARP entry is reported as sent.

The IP output state of a host is its ARP cache and the counter of
{lit}`ip_generate_id`.  The device under an interface, with the address
length {lit}`dev->alen` that the device record does not keep, is a
parameter.  A host takes a frame off the link with
{lit}`ether_input_helper`, and the input queue and the soft interrupt hand
an IP frame's data to {lit}`ip_input` as it is (the pipeline of
{lit}`net_input_handler` and {lit}`net_softirq_handler` is modelled in
{lit}`Net.Frames`).
-/

namespace ProtocolStack

open ByteOrder

def NET_DEVICE_FLAG_BROADCAST : UInt16 := 0x0020

def NET_DEVICE_FLAG_NEED_ARP : UInt16 := 0x0100

/-- The buffer {lit}`hwaddr[NET_DEVICE_ADDR_LEN] = {}` with the bytes {lit}`b` copied to its start. -/
def hwaddrOf (b : List UInt8) : Vector UInt8 NET_DEVICE_ADDR_LEN :=
  Vector.ofFn fun i => b.getD i 0

/--
What {lit}`ip_output_device` leaves: the ARP cache, the request
{lit}`arp_resolve` sent, what the driver transmitted, and the value it
returns.
-/
structure IpOutputDevice (β : Type) where
  caches : List ArpCache
  request : Option (List UInt8)
  sent : Option β
  ret : Int

/-- The call of {lit}`net_device_output` that ends {lit}`ip_output_device`, to {lit}`hwaddr`. -/
def ipOutputDeviceTransmit {β : Type}
    (transmit : NetDevice → UInt16 → List UInt8 → Vector UInt8 NET_DEVICE_ADDR_LEN → β)
    (dev : NetDevice) (caches : List ArpCache) (request : Option (List UInt8)) (data : List UInt8)
    (hwaddr : Vector UInt8 NET_DEVICE_ADDR_LEN) : IpOutputDevice β :=
  match netDeviceOutput transmit dev NET_PROTOCOL_TYPE_IP data hwaddr with
  | none => ⟨caches, request, none, -1⟩
  | some sent => ⟨caches, request, some sent, 0⟩

/--
{lit}`ip_output_device` on the device {lit}`dev` under {lit}`iface`, whose
address length is {lit}`alen`, with the ARP cache {lit}`caches` at the time
{lit}`now`.
-/
def ipOutputDevice {β : Type} (e : Endian)
    (transmit : NetDevice → UInt16 → List UInt8 → Vector UInt8 NET_DEVICE_ADDR_LEN → β)
    (dev : NetDevice) (alen : Nat) (iface : NetIface) (caches : List ArpCache) (data : List UInt8)
    (dst : IpAddr) (now : Timeval) : IpOutputDevice β :=
  if dev.flags &&& NET_DEVICE_FLAG_NEED_ARP ≠ 0 then
    if dst = iface.ip.broadcast ∨ dst = IP_ADDR_BROADCAST then
      ipOutputDeviceTransmit transmit dev caches none data (hwaddrOf (dev.broadcast.toList.take alen))
    else
      let r := arpResolve e dev iface caches dst now
      if r.ret ≠ ARP_RESOLVE_FOUND then ⟨r.caches, r.request, none, r.ret⟩
      -- arp_resolve writes the address into hwaddr only when it finds one
      else ipOutputDeviceTransmit transmit dev r.caches r.request data
        (hwaddrOf ((r.ha.map Vector.toList).getD []))
  else ipOutputDeviceTransmit transmit dev caches none data (hwaddrOf [])

/-- The first value of the counter of {lit}`ip_generate_id`. -/
def ipIdInit : UInt16 := 128

/-- {lit}`ip_generate_id` on the counter {lit}`id`: the id it returns and the counter after it. -/
def ipGenerateId (id : UInt16) : UInt16 × UInt16 :=
  (id, id + 1)

/--
What {lit}`ip_output` leaves: the ARP cache, the counter of
{lit}`ip_generate_id`, the ARP request sent, what the driver transmitted,
and the value it returns.
-/
structure IpOutputResult (β : Type) where
  caches : List ArpCache
  id : UInt16
  request : Option (List UInt8)
  sent : Option β
  ret : Int

/--
{lit}`ip_output` on a host: {lit}`devOf` gives the device under an
interface and its {lit}`alen`; {lit}`caches` and {lit}`id` are the ARP
cache and the counter of {lit}`ip_generate_id`.
-/
def ipHostOutput {β : Type} (e : Endian)
    (transmit : NetDevice → UInt16 → List UInt8 → Vector UInt8 NET_DEVICE_ADDR_LEN → β)
    (routes : List IpRoute) (devOf : IpIface → NetDevice × Nat) (caches : List ArpCache)
    (id : UInt16) (protocol : UInt8) (data : List UInt8) (src dst : IpAddr) (now : Timeval) :
    IpOutputResult β :=
  -- the checks of ip_output come before ip_generate_id, whose value is the counter's
  match ipOutput e routes (fun iface => (devOf iface).1.mtu) (ipGenerateId id).1 protocol data
      src dst with
  | none => ⟨caches, id, none, none, -1⟩
  | some (iface, nexthop, datagram) =>
      match ipOutputDevice e transmit (devOf iface).1 (devOf iface).2 ⟨NET_IFACE_FAMILY_IP, iface⟩
          caches datagram nexthop now with
      | r => ⟨r.caches, (ipGenerateId id).2, r.request, r.sent, if r.ret = -1 then -1 else data.length⟩

/--
{lit}`ether_tap_transmit`: the frame {lit}`ether_transmit_helper` hands to
the tap's write, addressed to the first {lit}`ETHER_ADDR_LEN` bytes of
{lit}`dst`.
-/
def etherTapTransmit (e : Endian) (dev : NetDevice) (type : UInt16) (data : List UInt8)
    (dst : Vector UInt8 NET_DEVICE_ADDR_LEN) : List UInt8 :=
  etherTransmitHelper e dev type data (etherAddrOf dst)

/-- A host takes a frame off the link: the handler call {lit}`ip_input` makes of an IP frame. -/
def ipHostInput {H : Type} (e : Endian) (protocols : List (IpProtocol H)) (dev : NetDevice)
    (frame : List UInt8) : Option (IpDelivery H) :=
  match etherInputHelper e dev frame with
  | none => none
  | some (type, data, _) =>
      if type = NET_PROTOCOL_TYPE_IP then
        ipInput e protocols ((netDeviceGetIface dev NET_IFACE_FAMILY_IP).map (·.ip)) data
      else none

/-! ## The hardware address -/

theorem etherAddrOf_hwaddrOf (a : EtherAddr) : etherAddrOf (hwaddrOf a.toList) = a := by
  ext i hi
  simp [etherAddrOf, hwaddrOf]

/-! ## arp_resolve, as ip_output_device uses it -/

/-- Where the first live entry for {lit}`pa` is not INCOMPLETE, {lit}`arp_resolve` finds its address and changes nothing. -/
theorem arpResolve_eq_found (e : Endian) {dev : NetDevice} {iface : NetIface}
    (hdev : dev.type = NET_DEVICE_TYPE_ETHERNET) (hfam : iface.family = NET_IFACE_FAMILY_IP)
    {caches : List ArpCache} {pa : IpAddr} {c : ArpCache}
    (hfind : caches.find? (fun a => arpCacheLive a && a.pa == pa) = some c)
    (hst : c.state ≠ ARP_CACHE_STATE_INCOMPLETE) (now : Timeval) :
    arpResolve e dev iface caches pa now = ⟨caches, ARP_RESOLVE_FOUND, some c.ha, none⟩ := by
  rw [← arpCacheSelect_find?] at hfind
  obtain ⟨i, hsel, hc⟩ := Option.bind_eq_some_iff.mp hfind
  unfold arpResolve
  rw [if_neg (fun h => h hdev), if_neg (fun h => h hfam)]
  simp only [hsel, hc, if_neg hst]

/-- With no live entry for {lit}`pa`, the frame {lit}`arp_resolve` sends is the request of {lit}`arp_request`. -/
theorem arpResolve_request_of_not_mem (e : Endian) {dev : NetDevice} {iface : NetIface}
    (hdev : dev.type = NET_DEVICE_TYPE_ETHERNET) (hfam : iface.family = NET_IFACE_FAMILY_IP)
    {caches : List ArpCache} {pa : IpAddr} (hpa : pa ∉ Slots.keys arpCacheLive ArpCache.pa caches)
    (now : Timeval) :
    (arpResolve e dev iface caches pa now).request = arpRequest e dev iface pa := by
  unfold arpResolve
  rw [if_neg (fun h => h hdev), if_neg (fun h => h hfam), arpCacheSelect_eq_none_of_not_mem hpa]

/-! ## ip_output_device -/

section OutputDevice

variable {β : Type} (e : Endian)
  (transmit : NetDevice → UInt16 → List UInt8 → Vector UInt8 NET_DEVICE_ADDR_LEN → β)

theorem ipOutputDeviceTransmit_eq {dev : NetDevice} (hup : dev.flags &&& NET_DEVICE_FLAG_UP ≠ 0)
    {data : List UInt8} (hmtu : data.length ≤ dev.mtu.toNat) (caches : List ArpCache)
    (request : Option (List UInt8)) (hwaddr : Vector UInt8 NET_DEVICE_ADDR_LEN) :
    ipOutputDeviceTransmit transmit dev caches request data hwaddr =
      ⟨caches, request, some (transmit dev NET_PROTOCOL_TYPE_IP data hwaddr), 0⟩ := by
  rw [ipOutputDeviceTransmit, netDeviceOutput_eq_some transmit hup hmtu]

variable {dev : NetDevice} {alen : Nat} {iface : NetIface} {dst : IpAddr}

/-- A datagram for a broadcast address goes to the device's broadcast address, with no ARP. -/
theorem ipOutputDevice_broadcast (hneed : dev.flags &&& NET_DEVICE_FLAG_NEED_ARP ≠ 0)
    (hbcast : dst = iface.ip.broadcast ∨ dst = IP_ADDR_BROADCAST)
    (hup : dev.flags &&& NET_DEVICE_FLAG_UP ≠ 0) {data : List UInt8}
    (hmtu : data.length ≤ dev.mtu.toNat) (caches : List ArpCache) (now : Timeval) :
    ipOutputDevice e transmit dev alen iface caches data dst now =
      ⟨caches, none,
        some (transmit dev NET_PROTOCOL_TYPE_IP data (hwaddrOf (dev.broadcast.toList.take alen))), 0⟩ := by
  unfold ipOutputDevice
  rw [if_pos hneed, if_pos hbcast]
  exact ipOutputDeviceTransmit_eq transmit hup hmtu _ _ _

variable (hneed : dev.flags &&& NET_DEVICE_FLAG_NEED_ARP ≠ 0)
  (hdev : dev.type = NET_DEVICE_TYPE_ETHERNET) (hfam : iface.family = NET_IFACE_FAMILY_IP)
  (hbcast : ¬(dst = iface.ip.broadcast ∨ dst = IP_ADDR_BROADCAST))
include hneed hdev hfam hbcast

/-- To a next hop with no live ARP entry, the request goes out, the datagram does not, and INCOMPLETE is returned. -/
theorem ipOutputDevice_pending {caches : List ArpCache}
    (hpa : dst ∉ Slots.keys arpCacheLive ArpCache.pa caches) (data : List UInt8) (now : Timeval) :
    ipOutputDevice e transmit dev alen iface caches data dst now =
      ⟨(arpResolve e dev iface caches dst now).caches, arpRequest e dev iface dst, none,
        ARP_RESOLVE_INCOMPLETE⟩ := by
  obtain ⟨hret, -, -⟩ := arpResolve_pending e hdev hfam hpa now
  have hreq := arpResolve_request_of_not_mem e hdev hfam hpa now
  unfold ipOutputDevice
  rw [if_pos hneed, if_neg hbcast]
  dsimp only
  rw [if_pos (by rw [hret]; decide), hret, hreq]

/-- To a next hop whose entry is resolved, the datagram goes to the address the entry holds. -/
theorem ipOutputDevice_found {caches : List ArpCache} {c : ArpCache}
    (hfind : caches.find? (fun a => arpCacheLive a && a.pa == dst) = some c)
    (hst : c.state ≠ ARP_CACHE_STATE_INCOMPLETE) (hup : dev.flags &&& NET_DEVICE_FLAG_UP ≠ 0)
    {data : List UInt8} (hmtu : data.length ≤ dev.mtu.toNat) (now : Timeval) :
    ipOutputDevice e transmit dev alen iface caches data dst now =
      ⟨caches, none, some (transmit dev NET_PROTOCOL_TYPE_IP data (hwaddrOf c.ha.toList)), 0⟩ := by
  have hres := arpResolve_eq_found e hdev hfam hfind hst now
  unfold ipOutputDevice
  rw [if_pos hneed, if_neg hbcast]
  dsimp only
  rw [hres]
  exact ipOutputDeviceTransmit_eq transmit hup hmtu _ _ _

end OutputDevice

/-! ## ip_output on a host -/

/-- Where its checks pass, {lit}`ip_output` hands the datagram of {lit}`ip_output_core` to the route's interface and next hop. -/
theorem ipOutput_eq_some_of_route {e : Endian} {routes : List IpRoute} {devMtu : IpIface → UInt16}
    {id : UInt16} {protocol : UInt8} {data : List UInt8} {src dst : IpAddr} {route : IpRoute}
    (hbcast : ¬(src = IP_ADDR_ANY ∧ dst = IP_ADDR_BROADCAST))
    (hroute : ipRouteLookup e routes dst = some route)
    (hsrc : src = IP_ADDR_ANY ∨ src = route.iface.unicast)
    (hmtu : IP_HDR_SIZE_MIN + data.length ≤ (devMtu route.iface).toNat) :
    ipOutput e routes devMtu id protocol data src dst =
      some (route.iface, if route.nexthop ≠ IP_ADDR_ANY then route.nexthop else dst,
        ipOutputCore e protocol data route.iface.unicast dst id 0) := by
  have hsrc' : ¬(src ≠ IP_ADDR_ANY ∧ src ≠ route.iface.unicast) := by
    rintro ⟨hany, huni⟩
    rcases hsrc with h | h
    exacts [hany h, huni h]
  rw [ipOutput, if_neg hbcast, hroute]
  dsimp only
  rw [if_neg hsrc', if_neg (Nat.not_lt.mpr hmtu)]

/-- The datagram of {lit}`ip_output_core` is its 20-byte header and the payload, when the total fits 16 bits. -/
theorem length_ipOutputCore (e : Endian) (protocol : UInt8) (data : List UInt8) (src dst : IpAddr)
    (id offset : UInt16) (hlen : IP_HDR_SIZE_MIN + data.length ≤ 65535) :
    (ipOutputCore e protocol data src dst id offset).length = IP_HDR_SIZE_MIN + data.length := by
  have htotal : (UInt16.ofNat IP_HDR_SIZE_MIN + UInt16.ofNat data.length).toNat =
      IP_HDR_SIZE_MIN + data.length := by
    rw [UInt16.toNat_add, UInt16.toNat_ofNat', UInt16.toNat_ofNat']
    simp only [IP_HDR_SIZE_MIN] at hlen ⊢
    omega
  simp only [ipOutputCore, List.length_take, List.length_append, IpHdr.length_bytes, htotal]
  simp only [IP_HDR_SIZE_MIN]
  omega

/-- A datagram whose payload fits a device's MTU fits it with its header too. -/
theorem length_ipOutputCore_le_mtu {mtu : UInt16} (e : Endian) (protocol : UInt8) (data : List UInt8)
    (src dst : IpAddr) (id offset : UInt16) (hmtu : IP_HDR_SIZE_MIN + data.length ≤ mtu.toNat) :
    (ipOutputCore e protocol data src dst id offset).length ≤ mtu.toNat := by
  -- the device MTU is a 16-bit value, so the datagram's total length does not wrap
  have hlen : IP_HDR_SIZE_MIN + data.length ≤ 65535 := le_trans hmtu (Nat.le_of_lt_succ mtu.toNat_lt)
  rw [length_ipOutputCore e protocol data src dst id offset hlen]
  exact hmtu

section HostOutput

variable {β : Type} (e : Endian)
  (transmit : NetDevice → UInt16 → List UInt8 → Vector UInt8 NET_DEVICE_ADDR_LEN → β)
  {routes : List IpRoute} {devOf : IpIface → NetDevice × Nat} {route : IpRoute}
  {protocol : UInt8} {data : List UInt8} {src dst : IpAddr}
  (hbcast : ¬(src = IP_ADDR_ANY ∧ dst = IP_ADDR_BROADCAST))
  (hroute : ipRouteLookup e routes dst = some route)
  (hsrc : src = IP_ADDR_ANY ∨ src = route.iface.unicast)
  (hmtu : IP_HDR_SIZE_MIN + data.length ≤ (devOf route.iface).1.mtu.toNat)
include hbcast hroute hsrc hmtu

/-- What {lit}`ip_output` does once its checks pass: {lit}`ip_output_device` on the route's device, and the length where it does not return -1. -/
theorem ipHostOutput_eq (caches : List ArpCache) (id : UInt16) (now : Timeval) :
    ipHostOutput e transmit routes devOf caches id protocol data src dst now =
      match ipOutputDevice e transmit (devOf route.iface).1 (devOf route.iface).2
          ⟨NET_IFACE_FAMILY_IP, route.iface⟩ caches
          (ipOutputCore e protocol data route.iface.unicast dst id 0)
          (if route.nexthop ≠ IP_ADDR_ANY then route.nexthop else dst) now with
      | r => ⟨r.caches, id + 1, r.request, r.sent, if r.ret = -1 then -1 else data.length⟩ := by
  rw [ipHostOutput, ipOutput_eq_some_of_route hbcast hroute hsrc hmtu]
  rfl

/-- To a broadcast next hop, {lit}`ip_output` hands the datagram to the device for its broadcast address, with no ARP. -/
theorem ipHostOutput_broadcast (hneed : (devOf route.iface).1.flags &&& NET_DEVICE_FLAG_NEED_ARP ≠ 0)
    (hnext : (if route.nexthop ≠ IP_ADDR_ANY then route.nexthop else dst) = route.iface.broadcast ∨
      (if route.nexthop ≠ IP_ADDR_ANY then route.nexthop else dst) = IP_ADDR_BROADCAST)
    (hup : (devOf route.iface).1.flags &&& NET_DEVICE_FLAG_UP ≠ 0) (caches : List ArpCache)
    (id : UInt16) (now : Timeval) :
    ipHostOutput e transmit routes devOf caches id protocol data src dst now =
      ⟨caches, id + 1, none,
        some (transmit (devOf route.iface).1 NET_PROTOCOL_TYPE_IP
          (ipOutputCore e protocol data route.iface.unicast dst id 0)
          (hwaddrOf ((devOf route.iface).1.broadcast.toList.take (devOf route.iface).2))),
        data.length⟩ := by
  have hfits := length_ipOutputCore_le_mtu e protocol data route.iface.unicast dst id 0 hmtu
  rw [ipHostOutput_eq e transmit hbcast hroute hsrc hmtu,
    ipOutputDevice_broadcast e transmit hneed hnext hup hfits]
  rfl

variable (hneed : (devOf route.iface).1.flags &&& NET_DEVICE_FLAG_NEED_ARP ≠ 0)
  (hdev : (devOf route.iface).1.type = NET_DEVICE_TYPE_ETHERNET)
  (hnext : ¬((if route.nexthop ≠ IP_ADDR_ANY then route.nexthop else dst) = route.iface.broadcast ∨
    (if route.nexthop ≠ IP_ADDR_ANY then route.nexthop else dst) = IP_ADDR_BROADCAST))
include hneed hdev hnext

/--
To a next hop with no live ARP entry, {lit}`ip_output` returns the
datagram's length, hands nothing to the device, and sends the ARP request
for the next hop.
-/
theorem ipHostOutput_pending {caches : List ArpCache}
    (hpa : (if route.nexthop ≠ IP_ADDR_ANY then route.nexthop else dst) ∉
      Slots.keys arpCacheLive ArpCache.pa caches) (id : UInt16) (now : Timeval) :
    ipHostOutput e transmit routes devOf caches id protocol data src dst now =
      ⟨(arpResolve e (devOf route.iface).1 ⟨NET_IFACE_FAMILY_IP, route.iface⟩ caches
          (if route.nexthop ≠ IP_ADDR_ANY then route.nexthop else dst) now).caches, id + 1,
        arpRequest e (devOf route.iface).1 ⟨NET_IFACE_FAMILY_IP, route.iface⟩
          (if route.nexthop ≠ IP_ADDR_ANY then route.nexthop else dst),
        none, data.length⟩ := by
  rw [ipHostOutput_eq e transmit hbcast hroute hsrc hmtu,
    ipOutputDevice_pending e transmit hneed hdev rfl hnext hpa]
  rfl

/-- To a next hop whose ARP entry is resolved, {lit}`ip_output` hands the datagram to the device for the entry's address. -/
theorem ipHostOutput_found {caches : List ArpCache} {c : ArpCache}
    (hfind : caches.find? (fun a => arpCacheLive a &&
      a.pa == if route.nexthop ≠ IP_ADDR_ANY then route.nexthop else dst) = some c)
    (hst : c.state ≠ ARP_CACHE_STATE_INCOMPLETE)
    (hup : (devOf route.iface).1.flags &&& NET_DEVICE_FLAG_UP ≠ 0) (id : UInt16) (now : Timeval) :
    ipHostOutput e transmit routes devOf caches id protocol data src dst now =
      ⟨caches, id + 1, none,
        some (transmit (devOf route.iface).1 NET_PROTOCOL_TYPE_IP
          (ipOutputCore e protocol data route.iface.unicast dst id 0) (hwaddrOf c.ha.toList)),
        data.length⟩ := by
  have hfits := length_ipOutputCore_le_mtu e protocol data route.iface.unicast dst id 0 hmtu
  rw [ipHostOutput_eq e transmit hbcast hroute hsrc hmtu,
    ipOutputDevice_found e transmit hneed hdev rfl hnext hfind hst hup hfits]
  rfl

end HostOutput

/-! ## ip_input on a host -/

/-- An IP frame for the device's address, or for the broadcast address, reaches {lit}`ip_input` with the Ethernet padding after the datagram. -/
theorem ipHostInput_etherTransmitHelper {H : Type} (e : Endian) (protocols : List (IpProtocol H))
    {dev : NetDevice} {iface : NetIface} (hiface : netDeviceGetIface dev NET_IFACE_FAMILY_IP = some iface)
    (dev' : NetDevice) (datagram : List UInt8) {dst : EtherAddr}
    (hdst : etherAddrOf dev.addr = dst ∨ dst = ETHER_ADDR_BROADCAST) :
    ipHostInput e protocols dev (etherTransmitHelper e dev' NET_PROTOCOL_TYPE_IP datagram dst) =
      ipInput e protocols (some iface.ip)
        (datagram ++ List.replicate (ETHER_PAYLOAD_SIZE_MIN - datagram.length) 0) := by
  unfold ipHostInput
  rw [etherInputHelper_etherTransmitHelper e dev' dev _ _ _ hdst]
  dsimp only
  rw [if_pos rfl, hiface]
  rfl

/-! ## Two hosts on one link -/

section DirectRoute

/-
A's datagrams to {lit}`dst` take a route with no gateway out of A's Ethernet
interface, and {lit}`dst` is no broadcast address of it.
-/
variable {β : Type} (e : Endian)
  (transmit : NetDevice → UInt16 → List UInt8 → Vector UInt8 NET_DEVICE_ADDR_LEN → β)
  {devA : NetDevice} {ifaceA : NetIface} (hA : ArpEtherDevice devA ifaceA)
  (hneedA : devA.flags &&& NET_DEVICE_FLAG_NEED_ARP ≠ 0) {routes : List IpRoute}
  {devOf : IpIface → NetDevice × Nat} {network netmask dst : IpAddr}
  (hroute : ipRouteLookup e routes dst = some ⟨network, netmask, IP_ADDR_ANY, ifaceA.ip⟩)
  (hdevOf : devOf ifaceA.ip = (devA, ETHER_ADDR_LEN))
  (hnb : dst ≠ ifaceA.ip.broadcast ∧ dst ≠ IP_ADDR_BROADCAST)
  {protocol : UInt8} {data : List UInt8} {src : IpAddr}
  (hmtu : IP_HDR_SIZE_MIN + data.length ≤ devA.mtu.toNat)
  (hsrc : src = IP_ADDR_ANY ∨ src = ifaceA.ip.unicast)
include hA hroute hdevOf hnb hmtu hsrc

/-- Without a gateway, {lit}`ip_output` resolves the destination itself, on A's device. -/
theorem ipHostOutput_direct (caches : List ArpCache) (id : UInt16) (now : Timeval) :
    ipHostOutput e transmit routes devOf caches id protocol data src dst now =
      match ipOutputDevice e transmit devA ETHER_ADDR_LEN ifaceA caches
          (ipOutputCore e protocol data ifaceA.ip.unicast dst id 0) dst now with
      | r => ⟨r.caches, id + 1, r.request, r.sent, if r.ret = -1 then -1 else data.length⟩ := by
  have hbcast : ¬(src = IP_ADDR_ANY ∧ dst = IP_ADDR_BROADCAST) := fun h => hnb.2 h.2
  have hmtu' : IP_HDR_SIZE_MIN + data.length ≤ (devOf ifaceA.ip).1.mtu.toNat := by
    rw [hdevOf]
    exact hmtu
  have hifaceA : (⟨NET_IFACE_FAMILY_IP, ifaceA.ip⟩ : NetIface) = ifaceA := by
    rw [← hA.family]
  rw [ipHostOutput_eq e transmit hbcast hroute hsrc hmtu']
  dsimp only
  rw [hdevOf, hifaceA, if_neg (fun h : IP_ADDR_ANY ≠ IP_ADDR_ANY => h rfl)]

include hneedA

/-- To a destination with no live ARP entry, only the request for it goes out. -/
theorem ipHostOutput_direct_pending {caches : List ArpCache}
    (hpending : dst ∉ Slots.keys arpCacheLive ArpCache.pa caches) (id : UInt16) (now : Timeval) :
    ipHostOutput e transmit routes devOf caches id protocol data src dst now =
      ⟨(arpResolve e devA ifaceA caches dst now).caches, id + 1, arpRequest e devA ifaceA dst, none,
        data.length⟩ := by
  have hnext : ¬(dst = ifaceA.ip.broadcast ∨ dst = IP_ADDR_BROADCAST) := not_or.mpr hnb
  rw [ipHostOutput_direct e transmit hA hroute hdevOf hnb hmtu hsrc,
    ipOutputDevice_pending e transmit hneedA hA.ethernet hA.family hnext hpending]
  rfl

/-- To a destination whose entry is resolved, the datagram leaves for the entry's address. -/
theorem ipHostOutput_direct_found {caches : List ArpCache} {c : ArpCache}
    (hfind : caches.find? (fun a => arpCacheLive a && a.pa == dst) = some c)
    (hst : c.state ≠ ARP_CACHE_STATE_INCOMPLETE) (id : UInt16) (now : Timeval) :
    ipHostOutput e transmit routes devOf caches id protocol data src dst now =
      ⟨caches, id + 1, none,
        some (transmit devA NET_PROTOCOL_TYPE_IP (ipOutputCore e protocol data ifaceA.ip.unicast dst id 0)
          (hwaddrOf c.ha.toList)), data.length⟩ := by
  have hnext : ¬(dst = ifaceA.ip.broadcast ∨ dst = IP_ADDR_BROADCAST) := not_or.mpr hnb
  have hfits := length_ipOutputCore_le_mtu e protocol data ifaceA.ip.unicast dst id 0 hmtu
  rw [ipHostOutput_direct e transmit hA hroute hdevOf hnb hmtu hsrc,
    ipOutputDevice_found e transmit hneedA hA.ethernet hA.family hnext hfind hst hA.up hfits]
  rfl

end DirectRoute

/-- A datagram for B's address, sent to B's hardware address, reaches the handler of its protocol at B with the Ethernet padding behind it. -/
theorem ipHostInput_etherTapTransmit {H : Type} (e : Endian) {protocols : List (IpProtocol H)}
    (hnodup : (protocols.map (·.type)).Nodup) {protocol : UInt8} {handler : H}
    (hreg : ⟨protocol, handler⟩ ∈ protocols) {devB : NetDevice} {ifaceB : NetIface}
    (hB : ArpEtherDevice devB ifaceB) (devA : NetDevice) {data : List UInt8}
    (hlen : IP_HDR_SIZE_MIN + data.length ≤ 65535) (src : IpAddr) (id : UInt16) :
    ∃ padding, ipHostInput e protocols devB (etherTapTransmit e devA NET_PROTOCOL_TYPE_IP
        (ipOutputCore e protocol data src ifaceB.ip.unicast id 0) (hwaddrOf (etherAddrOf devB.addr).toList)) =
      some { handler := handler, data := data ++ padding, len := data.length, src := src,
             dst := ifaceB.ip.unicast, iface := ifaceB.ip } := by
  rw [etherTapTransmit, etherAddrOf_hwaddrOf,
    ipHostInput_etherTransmitHelper e protocols hB.iface devA _ (Or.inl rfl),
    ipInput_ipOutputCore e protocols hnodup protocol handler hreg data src ifaceB.ip.unicast id
      ifaceB.ip (Or.inl rfl) hlen]
  exact ⟨_, rfl⟩

/-- A's ARP request for B's address reaches B, and B's reply, back at A, leaves B's hardware address in A's cache. -/
theorem arpHostExchange_resolved (e : Endian) {devA devB : NetDevice} {ifaceA ifaceB : NetIface}
    (hA : ArpEtherDevice devA ifaceA) (hB : ArpEtherDevice devB ifaceB) {cachesA cachesB : List ArpCache}
    (hneA : cachesA ≠ []) (hneB : cachesB ≠ []) (t2 t3 : Timeval) :
    ∃ reply, (arpHostInput e devB cachesB (etherTransmitHelper e devA ETHER_TYPE_ARP
          ((arpMessage e devA ifaceA ARP_OP_REQUEST ETHER_ADDR_ANY ifaceB.ip.unicast).bytes e)
          ETHER_ADDR_BROADCAST) t2).2 = some reply ∧
      ∃ c, (arpHostInput e devA cachesA reply t3).1.find?
          (fun a => arpCacheLive a && a.pa == ifaceB.ip.unicast) = some c ∧
        c.state = ARP_CACHE_STATE_RESOLVED ∧ c.ha = etherAddrOf devB.addr := by
  obtain ⟨-, hreply⟩ :=
    arpHostInput_arpMessage e hB.iface hneB devA ifaceA ARP_OP_REQUEST ETHER_ADDR_ANY (Or.inr rfl) t2
  rw [arpInputReply_request, arpReply_eq e hB] at hreply
  refine ⟨_, hreply, ?_⟩
  obtain ⟨hrecord, -⟩ :=
    arpHostInput_arpMessage e hA.iface hneA devB ifaceB ARP_OP_REPLY (etherAddrOf devA.addr) (Or.inl rfl) t3
  exact hrecord

/--
Two hosts on one Ethernet link, B on A's subnet and not yet live in A's ARP
cache.  The first datagram A's {lit}`ip_output` sends to B is reported as
sent, and only the ARP request goes out; once B's reply is in, the next
datagram leaves for B's hardware address, and B's {lit}`ip_input` hands its
payload to the handler of its protocol.
-/
theorem ip_output_arp_delivery {H : Type} (e : Endian) {devA devB : NetDevice}
    {ifaceA ifaceB : NetIface} (hA : ArpEtherDevice devA ifaceA) (hB : ArpEtherDevice devB ifaceB)
    (hneedA : devA.flags &&& NET_DEVICE_FLAG_NEED_ARP ≠ 0) {routes : List IpRoute}
    {devOf : IpIface → NetDevice × Nat} {network netmask : IpAddr}
    (hroute : ipRouteLookup e routes ifaceB.ip.unicast =
      some ⟨network, netmask, IP_ADDR_ANY, ifaceA.ip⟩)
    (hdevOf : devOf ifaceA.ip = (devA, ETHER_ADDR_LEN))
    (hnb : ifaceB.ip.unicast ≠ ifaceA.ip.broadcast ∧ ifaceB.ip.unicast ≠ IP_ADDR_BROADCAST)
    {cachesA cachesB : List ArpCache} (hsizeA : cachesA.length = ARP_CACHE_SIZE)
    (hsizeB : cachesB.length = ARP_CACHE_SIZE)
    (hpending : ifaceB.ip.unicast ∉ Slots.keys arpCacheLive ArpCache.pa cachesA)
    {protocols : List (IpProtocol H)} (hnodup : (protocols.map (·.type)).Nodup)
    {protocol : UInt8} {handler : H} (hreg : ⟨protocol, handler⟩ ∈ protocols) {data : List UInt8}
    (hmtu : IP_HDR_SIZE_MIN + data.length ≤ devA.mtu.toNat) {src : IpAddr}
    (hsrc : src = IP_ADDR_ANY ∨ src = ifaceA.ip.unicast) (id : UInt16) (t1 t2 t3 t4 : Timeval) :
    let s1 := ipHostOutput e (etherTapTransmit e) routes devOf cachesA id protocol data src
      ifaceB.ip.unicast t1
    s1.ret = data.length ∧ s1.sent = none ∧
      ∃ request, s1.request = some request ∧
        ∃ reply, (arpHostInput e devB cachesB request t2).2 = some reply ∧
          let s2 := ipHostOutput e (etherTapTransmit e) routes devOf
            (arpHostInput e devA s1.caches reply t3).1 s1.id protocol data src ifaceB.ip.unicast t4
          s2.ret = data.length ∧ s2.request = none ∧
            ∃ frame, s2.sent = some frame ∧
              (ipHostInput e protocols devB frame).map IpDelivery.view =
                some { handler := handler, data := data, len := data.length,
                       src := ifaceA.ip.unicast, dst := ifaceB.ip.unicast, iface := ifaceB.ip } := by
  intro s1
  -- the device MTU is a 16-bit value, so the datagram's total length does not wrap
  have hlen : IP_HDR_SIZE_MIN + data.length ≤ 65535 :=
    le_trans hmtu (Nat.le_of_lt_succ devA.mtu.toNat_lt)
  -- the first send: B is not live in A's cache, so only the ARP request goes out
  have hs1 : s1 = ⟨(arpResolve e devA ifaceA cachesA ifaceB.ip.unicast t1).caches, id + 1,
      arpRequest e devA ifaceA ifaceB.ip.unicast, none, data.length⟩ :=
    ipHostOutput_direct_pending e (etherTapTransmit e) hA hneedA hroute hdevOf hnb hmtu hsrc hpending
      id t1
  have hneA : (arpResolve e devA ifaceA cachesA ifaceB.ip.unicast t1).caches ≠ [] := by
    rw [ne_eq, ← List.length_eq_zero_iff, arpResolve_length, hsizeA]
    decide
  have hneB : cachesB ≠ [] := by
    rw [ne_eq, ← List.length_eq_zero_iff, hsizeB]
    decide
  -- the request reaches B, and B's reply, back at A, resolves B
  obtain ⟨reply, hreply, c, hc, hst, hha⟩ := arpHostExchange_resolved e hA hB hneA hneB t2 t3
  rw [hs1]
  refine ⟨rfl, rfl, _, arpRequest_eq e hA ifaceB.ip.unicast, reply, hreply, ?_⟩
  intro s2
  -- the second send: the entry is resolved, so the datagram leaves for B's address
  have hs2 : s2 = ⟨_, id + 1 + 1, none,
      some (etherTapTransmit e devA NET_PROTOCOL_TYPE_IP
        (ipOutputCore e protocol data ifaceA.ip.unicast ifaceB.ip.unicast (id + 1) 0)
        (hwaddrOf c.ha.toList)), data.length⟩ :=
    ipHostOutput_direct_found e (etherTapTransmit e) hA hneedA hroute hdevOf hnb hmtu hsrc hc
      (by rw [hst]; decide) (id + 1) t4
  rw [hs2, hha]
  refine ⟨rfl, rfl, _, rfl, ?_⟩
  -- at B: ip_input passes the payload with the padding, and the handler sees the payload
  obtain ⟨padding, hin⟩ :=
    ipHostInput_etherTapTransmit e hnodup hreg hB devA hlen ifaceA.ip.unicast (id + 1)
  rw [hin]
  simp [IpDelivery.view]

/-- Host A of the ARP exchange with the flags ether_setup_helper and net_device_open give it. -/
def ipHostA : NetDevice :=
  { arpHostA with
    flags := NET_DEVICE_FLAG_UP ||| NET_DEVICE_FLAG_BROADCAST ||| NET_DEVICE_FLAG_NEED_ARP }

/-- The route ip_iface_register adds for 10.0.0.1/24. -/
def ipRouteA : IpRoute := ⟨0x0000000a, 0x00ffffff, IP_ADDR_ANY, arpIfaceA.ip⟩

/-- Three bytes of UDP from 10.0.0.1 to 10.0.0.2, with empty ARP tables on both hosts. -/
theorem ip_output_arp_delivery_init :
    ArpEtherDevice ipHostA arpIfaceA ∧ ipHostA.flags &&& NET_DEVICE_FLAG_NEED_ARP ≠ 0 ∧
      ipRouteLookup .little [ipRouteA] arpIfaceB.ip.unicast = some ipRouteA ∧
      arpIfaceB.ip.unicast ∉ Slots.keys arpCacheLive ArpCache.pa arpCachesInit ∧
      let s1 := ipHostOutput .little (etherTapTransmit .little) [ipRouteA]
        (fun _ => (ipHostA, ETHER_ADDR_LEN)) arpCachesInit 0 IP_PROTOCOL_UDP [1, 2, 3] IP_ADDR_ANY
        arpIfaceB.ip.unicast ⟨1, 0⟩
      s1.ret = 3 ∧ s1.sent = none ∧
        ∃ request, s1.request = some request ∧
          ∃ reply, (arpHostInput .little arpHostB arpCachesInit request ⟨2, 0⟩).2 = some reply ∧
            let s2 := ipHostOutput .little (etherTapTransmit .little) [ipRouteA]
              (fun _ => (ipHostA, ETHER_ADDR_LEN))
              (arpHostInput .little ipHostA s1.caches reply ⟨3, 0⟩).1 s1.id IP_PROTOCOL_UDP [1, 2, 3]
              IP_ADDR_ANY arpIfaceB.ip.unicast ⟨4, 0⟩
            s2.ret = 3 ∧ s2.request = none ∧
              ∃ frame, s2.sent = some frame ∧
                (ipHostInput .little [(⟨IP_PROTOCOL_UDP, 17⟩ : IpProtocol Nat)] arpHostB frame).map
                    IpDelivery.view =
                  some { handler := 17, data := [1, 2, 3], len := 3, src := arpIfaceA.ip.unicast,
                         dst := arpIfaceB.ip.unicast, iface := arpIfaceB.ip } := by
  have hA : ArpEtherDevice ipHostA arpIfaceA := ⟨rfl, by decide, by decide, by decide, rfl⟩
  have hneed : ipHostA.flags &&& NET_DEVICE_FLAG_NEED_ARP ≠ 0 := by decide
  have hroute : ipRouteLookup .little [ipRouteA] arpIfaceB.ip.unicast = some ipRouteA := by decide
  have hpending : arpIfaceB.ip.unicast ∉ Slots.keys arpCacheLive ArpCache.pa arpCachesInit :=
    List.not_mem_nil
  exact ⟨hA, hneed, hroute, hpending,
    ip_output_arp_delivery .little hA arpHostB_device hneed hroute rfl (by decide) rfl rfl hpending
      (by decide) (List.mem_singleton_self _) (by decide) (.inl rfl) 0 ⟨1, 0⟩ ⟨2, 0⟩ ⟨3, 0⟩ ⟨4, 0⟩⟩

/--
What {lit}`ip_output` does with a datagram that passes its checks and leaves
by an Ethernet device that needs ARP, by its next hop: to a broadcast
address it transmits the datagram to the device's broadcast address; to an
address with a resolved ARP entry, to the entry's hardware address; to an
address with no live entry it transmits nothing and sends the ARP request
for it.  It returns the datagram's length and takes one id in every case.
-/
theorem ip_output_outcomes {β : Type} (e : Endian)
    (transmit : NetDevice → UInt16 → List UInt8 → Vector UInt8 NET_DEVICE_ADDR_LEN → β)
    (routes : List IpRoute) (devOf : IpIface → NetDevice × Nat) {route : IpRoute}
    (protocol : UInt8) (data : List UInt8) (src dst : IpAddr)
    (hbcast : ¬(src = IP_ADDR_ANY ∧ dst = IP_ADDR_BROADCAST))
    (hroute : ipRouteLookup e routes dst = some route)
    (hsrc : src = IP_ADDR_ANY ∨ src = route.iface.unicast)
    (hmtu : IP_HDR_SIZE_MIN + data.length ≤ (devOf route.iface).1.mtu.toNat)
    (hneed : (devOf route.iface).1.flags &&& NET_DEVICE_FLAG_NEED_ARP ≠ 0)
    (hdev : (devOf route.iface).1.type = NET_DEVICE_TYPE_ETHERNET)
    (hup : (devOf route.iface).1.flags &&& NET_DEVICE_FLAG_UP ≠ 0)
    (caches : List ArpCache) (id : UInt16) (now : Timeval) :
    ((if route.nexthop ≠ IP_ADDR_ANY then route.nexthop else dst) = route.iface.broadcast ∨
        (if route.nexthop ≠ IP_ADDR_ANY then route.nexthop else dst) = IP_ADDR_BROADCAST →
      ipHostOutput e transmit routes devOf caches id protocol data src dst now =
        ⟨caches, id + 1, none,
          some (transmit (devOf route.iface).1 NET_PROTOCOL_TYPE_IP
            (ipOutputCore e protocol data route.iface.unicast dst id 0)
            (hwaddrOf ((devOf route.iface).1.broadcast.toList.take (devOf route.iface).2))),
          data.length⟩) ∧
    (¬((if route.nexthop ≠ IP_ADDR_ANY then route.nexthop else dst) = route.iface.broadcast ∨
        (if route.nexthop ≠ IP_ADDR_ANY then route.nexthop else dst) = IP_ADDR_BROADCAST) →
      ∀ c : ArpCache, caches.find? (fun a => arpCacheLive a &&
          a.pa == if route.nexthop ≠ IP_ADDR_ANY then route.nexthop else dst) = some c →
        c.state ≠ ARP_CACHE_STATE_INCOMPLETE →
        ipHostOutput e transmit routes devOf caches id protocol data src dst now =
          ⟨caches, id + 1, none,
            some (transmit (devOf route.iface).1 NET_PROTOCOL_TYPE_IP
              (ipOutputCore e protocol data route.iface.unicast dst id 0) (hwaddrOf c.ha.toList)),
            data.length⟩) ∧
    (¬((if route.nexthop ≠ IP_ADDR_ANY then route.nexthop else dst) = route.iface.broadcast ∨
        (if route.nexthop ≠ IP_ADDR_ANY then route.nexthop else dst) = IP_ADDR_BROADCAST) →
      (if route.nexthop ≠ IP_ADDR_ANY then route.nexthop else dst) ∉
          Slots.keys arpCacheLive ArpCache.pa caches →
        ipHostOutput e transmit routes devOf caches id protocol data src dst now =
          ⟨(arpResolve e (devOf route.iface).1 ⟨NET_IFACE_FAMILY_IP, route.iface⟩ caches
              (if route.nexthop ≠ IP_ADDR_ANY then route.nexthop else dst) now).caches, id + 1,
            arpRequest e (devOf route.iface).1 ⟨NET_IFACE_FAMILY_IP, route.iface⟩
              (if route.nexthop ≠ IP_ADDR_ANY then route.nexthop else dst),
            none, data.length⟩) :=
  ⟨fun hnext => ipHostOutput_broadcast e transmit hbcast hroute hsrc hmtu hneed hnext hup caches id now,
    fun hnext _ hfind hst =>
      ipHostOutput_found e transmit hbcast hroute hsrc hmtu hneed hdev hnext hfind hst hup id now,
    fun hnext hpa => ipHostOutput_pending e transmit hbcast hroute hsrc hmtu hneed hdev hnext hpa id now⟩

/-- Three bytes from A to the broadcast address of its subnet go out at once, with no ARP request. -/
theorem ip_output_outcomes_broadcast :
    (ipHostOutput .little (etherTapTransmit .little) [ipRouteA] (fun _ => (ipHostA, ETHER_ADDR_LEN))
        [] 0 IP_PROTOCOL_UDP [1, 2, 3] IP_ADDR_ANY arpIfaceA.ip.broadcast ⟨1, 0⟩).request = none ∧
      (ipHostOutput .little (etherTapTransmit .little) [ipRouteA] (fun _ => (ipHostA, ETHER_ADDR_LEN))
        [] 0 IP_PROTOCOL_UDP [1, 2, 3] IP_ADDR_ANY arpIfaceA.ip.broadcast ⟨1, 0⟩).sent.isSome = true := by
  have hroute : ipRouteLookup .little [ipRouteA] arpIfaceA.ip.broadcast = some ipRouteA := by decide
  rw [(ip_output_outcomes .little (etherTapTransmit .little) [ipRouteA]
    (fun _ => (ipHostA, ETHER_ADDR_LEN)) IP_PROTOCOL_UDP [1, 2, 3] IP_ADDR_ANY arpIfaceA.ip.broadcast
    (by decide) hroute (.inl rfl) (by decide) (by decide) (by decide) (by decide) [] 0 ⟨1, 0⟩).1
      (.inl (by decide))]
  exact ⟨rfl, rfl⟩

end ProtocolStack
