import Mathlib
import ProtocolStack.Arp.Cache

/-!
# An ARP exchange between two hosts

Two hosts on one Ethernet link, each with the ARP cache of arp.c.  A host
takes a frame off the link with {lit}`ether_input_helper`, and
{lit}`net_input_handler` hands an ARP frame, padding included, to
{lit}`arp_input`.  When {lit}`arp_input` takes a message for its interface,
afterwards the first entry for the sender that is not FREE is RESOLVED with
the sender's hardware address, whether the update found an entry or the
insert made one: so the request records the requester at the responder, and
the reply records the responder at the requester, whatever the caches held
before.
-/

namespace ProtocolStack

open ByteOrder

/-- An Ethernet device that is up, with the broadcast address {lit}`ether_setup_helper` gives it, and with the IP interface {lit}`iface`. -/
structure ArpEtherDevice (dev : NetDevice) (iface : NetIface) : Prop where
  ethernet : dev.type = NET_DEVICE_TYPE_ETHERNET
  up : dev.flags &&& NET_DEVICE_FLAG_UP ≠ 0
  mtu : 28 ≤ dev.mtu.toNat
  broadcast : etherAddrOf dev.broadcast = ETHER_ADDR_BROADCAST
  iface : netDeviceGetIface dev NET_IFACE_FAMILY_IP = some iface

/-- A host takes a frame off the link: the cache after it and the frame it answers with. -/
def arpHostInput (e : Endian) (dev : NetDevice) (caches : List ArpCache) (frame : List UInt8)
    (now : Timeval) : List ArpCache × Option (List UInt8) :=
  match etherInputHelper e dev frame with
  | none => (caches, none)
  | some (type, data, len) =>
      if type = NET_PROTOCOL_TYPE_ARP then arpInput e caches data len dev now else (caches, none)

section Device

variable {dev : NetDevice} {iface : NetIface}

theorem ArpEtherDevice.family (h : ArpEtherDevice dev iface) : iface.family = NET_IFACE_FAMILY_IP := by
  have hfind := List.find?_some h.iface
  simpa using hfind

/-- An ARP message always fits the device. -/
theorem ArpEtherDevice.output_eq (h : ArpEtherDevice dev iface) (e : Endian) (m : ArpEtherIp)
    (dst : EtherAddr) :
    netDeviceOutput (etherTransmitHelper e) dev ETHER_TYPE_ARP (m.bytes e) dst =
      some (etherTransmitHelper e dev ETHER_TYPE_ARP (m.bytes e) dst) :=
  netDeviceOutput_eq_some _ h.up (by rw [ArpEtherIp.length_bytes]; exact h.mtu) _ _

theorem arpRequest_eq (e : Endian) (h : ArpEtherDevice dev iface) (tpa : IpAddr) :
    arpRequest e dev iface tpa =
      some (etherTransmitHelper e dev ETHER_TYPE_ARP
        ((arpMessage e dev iface ARP_OP_REQUEST ETHER_ADDR_ANY tpa).bytes e) ETHER_ADDR_BROADCAST) := by
  rw [arpRequest, h.output_eq, h.broadcast]

theorem arpReply_eq (e : Endian) (h : ArpEtherDevice dev iface) (tha : EtherAddr) (tpa : IpAddr)
    (dst : EtherAddr) :
    arpReply e dev iface tha tpa dst =
      some (etherTransmitHelper e dev ETHER_TYPE_ARP ((arpMessage e dev iface ARP_OP_REPLY tha tpa).bytes e) dst) := by
  rw [arpReply, h.output_eq]

end Device

/-! ## What arp_input takes in -/

theorem arpInputMessage_arpMessage (e : Endian) (dev : NetDevice) (iface : NetIface) (op : UInt16)
    (tha : EtherAddr) (tpa : IpAddr) (pad : List UInt8) {len : Nat} (hlen : 28 ≤ len) :
    arpInputMessage e ((arpMessage e dev iface op tha tpa).bytes e ++ pad) len =
      some (arpMessage e dev iface op tha tpa) := by
  unfold arpInputMessage
  rw [if_neg (Nat.not_lt.mpr hlen)]
  dsimp only
  rw [ArpEtherIp.read_bytes_append]
  simp [arpMessage, ntoh16_hton16, ETHER_ADDR_LEN, IP_ADDR_LEN]

theorem arpCacheAllocLoop_ne_none :
    ∀ (l : List ArpCache) (k : Nat) (o : Nat × ArpCache), arpCacheAllocLoop l k (some o) ≠ none
  | [], _, _ => by simp [arpCacheAllocLoop]
  | entry :: rest, k, o => by
      unfold arpCacheAllocLoop
      split_ifs
      · simp
      · dsimp only
        split
        · exact arpCacheAllocLoop_ne_none rest (k + 1) _
        · exact arpCacheAllocLoop_ne_none rest (k + 1) _

/-- A table with an entry always has one to hand out. -/
theorem arpCacheAlloc_isSome {caches : List ArpCache} (hne : caches ≠ []) :
    ∃ i, (arpCacheAlloc caches).1 = some i := by
  obtain ⟨entry, rest, rfl⟩ := List.exists_cons_of_ne_nil hne
  have hloop : arpCacheAllocLoop (entry :: rest) 0 none ≠ none := by
    unfold arpCacheAllocLoop
    split_ifs
    · simp
    · exact arpCacheAllocLoop_ne_none rest 1 _
  unfold arpCacheAlloc
  split
  · contradiction
  · exact ⟨_, rfl⟩
  · exact ⟨_, rfl⟩

theorem arpResolve_length (e : Endian) (dev : NetDevice) (iface : NetIface) (caches : List ArpCache)
    (pa : IpAddr) (now : Timeval) : (arpResolve e dev iface caches pa now).caches.length = caches.length :=
  (arpResolve_shrinks e dev iface caches pa now).length_eq.symm

theorem arpResolve_request {e : Endian} {dev : NetDevice} {iface : NetIface} {caches : List ArpCache}
    {pa : IpAddr} {now : Timeval} {frame : List UInt8}
    (h : (arpResolve e dev iface caches pa now).request = some frame) :
    arpRequest e dev iface pa = some frame := by
  unfold arpResolve at h
  split_ifs at h
  split at h
  · exact h
  · split at h
    · cases h
    · split at h
      · exact h
      · cases h

/-- Where the first entry for {lit}`pa` that is not FREE is resolved, {lit}`arp_resolve` finds its address. -/
theorem arpResolve_found (e : Endian) {dev : NetDevice} {iface : NetIface} (hdev : dev.type = NET_DEVICE_TYPE_ETHERNET)
    (hfam : iface.family = NET_IFACE_FAMILY_IP) {caches : List ArpCache} {pa : IpAddr} {c : ArpCache}
    (hfind : caches.find? (fun a => arpCacheLive a && a.pa == pa) = some c)
    (hst : c.state ≠ ARP_CACHE_STATE_INCOMPLETE) (now : Timeval) :
    (arpResolve e dev iface caches pa now).ret = ARP_RESOLVE_FOUND ∧
      (arpResolve e dev iface caches pa now).ha = some c.ha := by
  rw [← arpCacheSelect_find?] at hfind
  obtain ⟨i, hsel, hc⟩ := Option.bind_eq_some_iff.mp hfind
  unfold arpResolve
  rw [if_neg (fun h => h hdev), if_neg (fun h => h hfam)]
  simp only [hsel, hc, if_neg hst, and_self]

/-- With no live entry for {lit}`pa`, {lit}`arp_resolve` answers INCOMPLETE, and the entry it allocates is FREE: it leaves none. -/
theorem arpResolve_pending (e : Endian) {dev : NetDevice} {iface : NetIface}
    (hdev : dev.type = NET_DEVICE_TYPE_ETHERNET) (hfam : iface.family = NET_IFACE_FAMILY_IP)
    {caches : List ArpCache} {pa : IpAddr} (hpa : pa ∉ Slots.keys arpCacheLive ArpCache.pa caches)
    (now : Timeval) :
    (arpResolve e dev iface caches pa now).ret = ARP_RESOLVE_INCOMPLETE ∧
      (arpResolve e dev iface caches pa now).ha = none ∧
      pa ∉ Slots.keys arpCacheLive ArpCache.pa (arpResolve e dev iface caches pa now).caches := by
  have hres : (arpResolve e dev iface caches pa now).ret = ARP_RESOLVE_INCOMPLETE ∧
      (arpResolve e dev iface caches pa now).ha = none := by
    unfold arpResolve
    rw [if_neg (fun h => h hdev), if_neg (fun h => h hfam), arpCacheSelect_eq_none_of_not_mem hpa]
    exact ⟨rfl, rfl⟩
  exact ⟨hres.1, hres.2, fun hmem => hpa ((arpResolve_keys e dev iface caches pa now).subset hmem)⟩

/-- After {lit}`arp_input` takes a message for its interface, the sender's first live entry is resolved with its address. -/
theorem arpInput_records (e : Endian) {caches : List ArpCache} (hne : caches ≠ []) {data : List UInt8}
    {len : Nat} {dev : NetDevice} {msg : ArpEtherIp} {iface : NetIface}
    (hmsg : arpInputMessage e data len = some msg) (htarget : arpInputTarget dev msg = some iface)
    (now : Timeval) :
    (∃ c, (arpInput e caches data len dev now).1.find? (fun a => arpCacheLive a && a.pa == msg.spa) = some c ∧
        c.state = ARP_CACHE_STATE_RESOLVED ∧ c.ha = msg.sha) ∧
      (arpInput e caches data len dev now).2 = arpInputReply e dev iface msg := by
  unfold arpInput
  simp only [hmsg, htarget, and_true]
  cases hupd : (arpCacheUpdate caches msg.spa msg.sha now).1 with
  | some i =>
      -- the update resolved the first live entry for the sender
      have hsel : arpCacheSelect caches msg.spa = some i := by
        unfold arpCacheUpdate at hupd
        split at hupd
        · cases hupd
        · rename_i j hj
          cases hupd
          exact hj
      obtain ⟨c, hc, -, -⟩ := arpCacheSelect_eq_some hsel
      have hres : (arpCacheUpdate caches msg.spa msg.sha now).2 = caches.modify i fun cache =>
          { cache with state := ARP_CACHE_STATE_RESOLVED, ha := msg.sha, timestamp := now } := by
        simp only [arpCacheUpdate, hsel]
      rw [if_pos Option.isSome_some, hres,
        Slots.find?_modify_of_findIdx? (p := fun a => arpCacheLive a && a.pa == msg.spa) (fun a ha => ?_) hsel, hc]
      · exact ⟨_, rfl, rfl, rfl⟩
      · simp only [arpCacheLive, Bool.and_eq_true, beq_iff_eq] at ha ⊢
        exact ⟨by decide, ha.2⟩
  | none =>
      -- no live entry for the sender: the insert fills the entry alloc hands out
      obtain ⟨hsame, hspa⟩ := arpCacheUpdate_eq_none hupd
      simp only [Option.isSome_none, Bool.false_eq_true, if_false]
      rw [hsame]
      obtain ⟨i, hi⟩ := arpCacheAlloc_isSome hne
      obtain ⟨c, hc, hdead⟩ := (arpCacheAlloc_spec caches).2 i hi
      have hins : (arpCacheInsert caches msg.spa msg.sha now).2 =
          ((arpCacheAlloc caches).2).modify i fun cache =>
            { cache with state := ARP_CACHE_STATE_RESOLVED, pa := msg.spa, ha := msg.sha, timestamp := now } := by
        unfold arpCacheInsert
        split
        · rename_i caches' halloc
          rw [halloc] at hi
          cases hi
        · rename_i j caches' halloc
          rw [halloc] at hi ⊢
          cases hi
          rfl
      have hlt : i < ((arpCacheAlloc caches).2).length := (List.getElem?_eq_some_iff.mp hc).1
      have hfresh : msg.spa ∉ Slots.keys arpCacheLive ArpCache.pa (arpCacheAlloc caches).2 :=
        fun hmem => hspa ((arpCacheAlloc_keys caches).subset hmem)
      rw [hins, Slots.modify_eq_set_of_getElem? _ hc, Slots.find?_set_of_not_mem_keys hlt hfresh rfl rfl]
      exact ⟨_, rfl, rfl, rfl⟩

/-- A message for another address, from a sender with no live entry, leaves the table as it was and is not answered. -/
theorem arpInput_not_target (e : Endian) {caches : List ArpCache} {data : List UInt8} {len : Nat}
    {dev : NetDevice} {msg : ArpEtherIp} (hmsg : arpInputMessage e data len = some msg)
    (htarget : arpInputTarget dev msg = none)
    (hspa : msg.spa ∉ Slots.keys arpCacheLive ArpCache.pa caches) (now : Timeval) :
    arpInput e caches data len dev now = (caches, none) := by
  have hupd : arpCacheUpdate caches msg.spa msg.sha now = (none, caches) := by
    rw [arpCacheUpdate, arpCacheSelect_eq_none_of_not_mem hspa]
  unfold arpInput
  simp only [hmsg, hupd, htarget]

/-! ## The two hosts -/

theorem arpInputTarget_eq {dev : NetDevice} {iface : NetIface}
    (h : netDeviceGetIface dev NET_IFACE_FAMILY_IP = some iface) {msg : ArpEtherIp}
    (htpa : msg.tpa = iface.ip.unicast) : arpInputTarget dev msg = some iface := by
  rw [arpInputTarget, h]
  dsimp only
  rw [if_pos htpa.symm]

theorem arpInputTarget_eq_none {dev : NetDevice} {iface : NetIface}
    (h : netDeviceGetIface dev NET_IFACE_FAMILY_IP = some iface) {msg : ArpEtherIp}
    (htpa : msg.tpa ≠ iface.ip.unicast) : arpInputTarget dev msg = none := by
  rw [arpInputTarget, h]
  dsimp only
  rw [if_neg (fun h => htpa h.symm)]

/-- A host takes an ARP message off the link, with the padding {lit}`ether_transmit_helper` put after it. -/
theorem arpHostInput_etherTransmitHelper (e : Endian) (dev : NetDevice) (caches : List ArpCache)
    (dev' : NetDevice) (m : ArpEtherIp) {dst : EtherAddr}
    (hdst : etherAddrOf dev.addr = dst ∨ dst = ETHER_ADDR_BROADCAST) (now : Timeval) :
    arpHostInput e dev caches (etherTransmitHelper e dev' ETHER_TYPE_ARP (m.bytes e) dst) now =
      arpInput e caches (m.bytes e ++ List.replicate (ETHER_PAYLOAD_SIZE_MIN - 28) 0)
        (max ETHER_PAYLOAD_SIZE_MIN 28) dev now := by
  have htype : ETHER_TYPE_ARP = NET_PROTOCOL_TYPE_ARP := rfl
  unfold arpHostInput
  rw [etherInputHelper_etherTransmitHelper e dev' dev _ _ _ hdst]
  dsimp only
  rw [if_pos htype, ArpEtherIp.length_bytes]

theorem arpInputReply_request (e : Endian) (dev dev' : NetDevice) (iface iface' : NetIface)
    (tha : EtherAddr) (tpa : IpAddr) :
    arpInputReply e dev iface (arpMessage e dev' iface' ARP_OP_REQUEST tha tpa) =
      arpReply e dev iface (etherAddrOf dev'.addr) iface'.ip.unicast (etherAddrOf dev'.addr) := by
  have hop : ntoh16 e (arpMessage e dev' iface' ARP_OP_REQUEST tha tpa).hdr.op = ARP_OP_REQUEST :=
    ntoh16_hton16 e ARP_OP_REQUEST
  rw [arpInputReply, if_pos hop]
  rfl

/--
A host takes an ARP message for the address of its interface off the link,
with the padding {lit}`ether_transmit_helper` put after it: it records the
sender, and answers as {lit}`arp_input` does.
-/
theorem arpHostInput_arpMessage (e : Endian) {dev : NetDevice} {iface : NetIface}
    (hiface : netDeviceGetIface dev NET_IFACE_FAMILY_IP = some iface) {caches : List ArpCache}
    (hne : caches ≠ []) (dev' : NetDevice) (iface' : NetIface) (op : UInt16) (tha : EtherAddr) {dst : EtherAddr}
    (hdst : etherAddrOf dev.addr = dst ∨ dst = ETHER_ADDR_BROADCAST) (now : Timeval) :
    (∃ c, (arpHostInput e dev caches (etherTransmitHelper e dev' ETHER_TYPE_ARP
          ((arpMessage e dev' iface' op tha iface.ip.unicast).bytes e) dst) now).1.find?
          (fun a => arpCacheLive a && a.pa == iface'.ip.unicast) = some c ∧
        c.state = ARP_CACHE_STATE_RESOLVED ∧ c.ha = etherAddrOf dev'.addr) ∧
      (arpHostInput e dev caches (etherTransmitHelper e dev' ETHER_TYPE_ARP
          ((arpMessage e dev' iface' op tha iface.ip.unicast).bytes e) dst) now).2 =
        arpInputReply e dev iface (arpMessage e dev' iface' op tha iface.ip.unicast) := by
  have hmsg := arpInputMessage_arpMessage e dev' iface' op tha iface.ip.unicast
    (List.replicate (ETHER_PAYLOAD_SIZE_MIN - 28) 0) (le_max_right ETHER_PAYLOAD_SIZE_MIN 28)
  rw [arpHostInput_etherTransmitHelper e dev caches dev' _ hdst]
  exact arpInput_records e hne hmsg (arpInputTarget_eq hiface rfl) now

theorem arp_exchange_resolves (e : Endian) {devA devB : NetDevice} {ifaceA ifaceB : NetIface}
    (hA : ArpEtherDevice devA ifaceA) (hB : ArpEtherDevice devB ifaceB)
    {cachesA cachesB : List ArpCache} (hsizeA : cachesA.length = ARP_CACHE_SIZE)
    (hsizeB : cachesB.length = ARP_CACHE_SIZE) {t1 : Timeval} {request : List UInt8}
    (hreq : (arpResolve e devA ifaceA cachesA ifaceB.ip.unicast t1).request = some request)
    (t2 t3 t4 : Timeval) :
    let atB := arpHostInput e devB cachesB request t2
    ∃ reply, atB.2 = some reply ∧
      arpReply e devB ifaceB (etherAddrOf devA.addr) ifaceA.ip.unicast (etherAddrOf devA.addr) =
        some reply ∧
      (∃ c, (arpCacheSelect atB.1 ifaceA.ip.unicast).bind (atB.1[·]?) = some c ∧
        c.state = ARP_CACHE_STATE_RESOLVED ∧ c.ha = etherAddrOf devA.addr) ∧
      let atA := arpHostInput e devA (arpResolve e devA ifaceA cachesA ifaceB.ip.unicast t1).caches
        reply t3
      (arpResolve e devA ifaceA atA.1 ifaceB.ip.unicast t4).ret = ARP_RESOLVE_FOUND ∧
        (arpResolve e devA ifaceA atA.1 ifaceB.ip.unicast t4).ha = some (etherAddrOf devB.addr) := by
  intro atB
  -- the request A sent is the broadcast frame of arp_request
  have hsent := arpResolve_request hreq
  rw [arpRequest_eq e hA] at hsent
  cases hsent
  have hneB : cachesB ≠ [] := by
    rintro rfl
    cases hsizeB
  obtain ⟨⟨c, hc, hst, hha⟩, hreply⟩ :=
    arpHostInput_arpMessage e hB.iface hneB devA ifaceA ARP_OP_REQUEST ETHER_ADDR_ANY (Or.inr rfl) t2
  rw [arpInputReply_request, arpReply_eq e hB] at hreply
  refine ⟨_, hreply, arpReply_eq e hB _ _ _, ⟨c, ?_, hst, hha⟩, ?_⟩
  · rw [arpCacheSelect_find?]
    exact hc
  -- the reply reaches A, whatever arp_resolve left in its table
  intro atA
  have hneA : (arpResolve e devA ifaceA cachesA ifaceB.ip.unicast t1).caches ≠ [] := by
    rw [ne_eq, ← List.length_eq_zero_iff, arpResolve_length, hsizeA]
    decide
  obtain ⟨⟨c', hc', hst', hha'⟩, -⟩ :=
    arpHostInput_arpMessage e hA.iface hneA devB ifaceB ARP_OP_REPLY (etherAddrOf devA.addr) (Or.inl rfl) t3
  rw [← hha']
  exact arpResolve_found e hA.ethernet hA.family hc' (by rw [hst']; decide) t4

def arpIfaceA : NetIface := ⟨NET_IFACE_FAMILY_IP, ⟨0x0100000a, 0x00ffffff, 0xff00000a⟩⟩

def arpIfaceB : NetIface := ⟨NET_IFACE_FAMILY_IP, ⟨0x0200000a, 0x00ffffff, 0xff00000a⟩⟩

def arpHostA : NetDevice :=
  ⟨0, NET_DEVICE_TYPE_ETHERNET, 1500, NET_DEVICE_FLAG_UP, Vector.replicate NET_DEVICE_ADDR_LEN 0xaa,
    Vector.replicate NET_DEVICE_ADDR_LEN 0xff, [arpIfaceA]⟩

def arpHostB : NetDevice :=
  ⟨0, NET_DEVICE_TYPE_ETHERNET, 1500, NET_DEVICE_FLAG_UP, Vector.replicate NET_DEVICE_ADDR_LEN 0xbb,
    Vector.replicate NET_DEVICE_ADDR_LEN 0xff, [arpIfaceB]⟩

theorem arpHostA_device : ArpEtherDevice arpHostA arpIfaceA :=
  ⟨rfl, by decide, by decide, by decide, rfl⟩

theorem arpHostB_device : ArpEtherDevice arpHostB arpIfaceB :=
  ⟨rfl, by decide, by decide, by decide, rfl⟩

theorem arp_exchange_resolves_init :
    ArpEtherDevice arpHostA arpIfaceA ∧ ArpEtherDevice arpHostB arpIfaceB ∧
      arpCachesInit.length = ARP_CACHE_SIZE ∧
      (arpResolve .little arpHostA arpIfaceA arpCachesInit arpIfaceB.ip.unicast ⟨1, 0⟩).request =
        some (etherTransmitHelper .little arpHostA ETHER_TYPE_ARP
          ((arpMessage .little arpHostA arpIfaceA ARP_OP_REQUEST ETHER_ADDR_ANY arpIfaceB.ip.unicast).bytes
            .little) ETHER_ADDR_BROADCAST) ∧
      let atB := arpHostInput .little arpHostB arpCachesInit
        (etherTransmitHelper .little arpHostA ETHER_TYPE_ARP
          ((arpMessage .little arpHostA arpIfaceA ARP_OP_REQUEST ETHER_ADDR_ANY arpIfaceB.ip.unicast).bytes
            .little) ETHER_ADDR_BROADCAST) ⟨2, 0⟩
      ∃ reply, atB.2 = some reply ∧
        arpReply .little arpHostB arpIfaceB (etherAddrOf arpHostA.addr) arpIfaceA.ip.unicast
          (etherAddrOf arpHostA.addr) = some reply ∧
        (∃ c, (arpCacheSelect atB.1 arpIfaceA.ip.unicast).bind (atB.1[·]?) = some c ∧
          c.state = ARP_CACHE_STATE_RESOLVED ∧ c.ha = etherAddrOf arpHostA.addr) ∧
        let atA := arpHostInput .little arpHostA
          (arpResolve .little arpHostA arpIfaceA arpCachesInit arpIfaceB.ip.unicast ⟨1, 0⟩).caches reply ⟨3, 0⟩
        (arpResolve .little arpHostA arpIfaceA atA.1 arpIfaceB.ip.unicast ⟨4, 0⟩).ret = ARP_RESOLVE_FOUND ∧
          (arpResolve .little arpHostA arpIfaceA atA.1 arpIfaceB.ip.unicast ⟨4, 0⟩).ha =
            some (etherAddrOf arpHostB.addr) := by
  have hreq : (arpResolve .little arpHostA arpIfaceA arpCachesInit arpIfaceB.ip.unicast ⟨1, 0⟩).request =
      some (etherTransmitHelper .little arpHostA ETHER_TYPE_ARP
        ((arpMessage .little arpHostA arpIfaceA ARP_OP_REQUEST ETHER_ADDR_ANY arpIfaceB.ip.unicast).bytes
          .little) ETHER_ADDR_BROADCAST) := by
    decide
  exact ⟨arpHostA_device, arpHostB_device, rfl, hreq,
    arp_exchange_resolves .little arpHostA_device arpHostB_device rfl rfl hreq ⟨2, 0⟩ ⟨3, 0⟩ ⟨4, 0⟩⟩

/-! ## A resolution left pending -/

theorem arpHostInput_not_target (e : Endian) {dev : NetDevice} {iface : NetIface}
    (hiface : netDeviceGetIface dev NET_IFACE_FAMILY_IP = some iface) {caches : List ArpCache}
    (dev' : NetDevice) (iface' : NetIface) (op : UInt16) (tha : EtherAddr) (tpa : IpAddr)
    (htpa : tpa ≠ iface.ip.unicast) {dst : EtherAddr}
    (hdst : etherAddrOf dev.addr = dst ∨ dst = ETHER_ADDR_BROADCAST)
    (hspa : iface'.ip.unicast ∉ Slots.keys arpCacheLive ArpCache.pa caches) (now : Timeval) :
    arpHostInput e dev caches (etherTransmitHelper e dev' ETHER_TYPE_ARP
      ((arpMessage e dev' iface' op tha tpa).bytes e) dst) now = (caches, none) := by
  have hmsg := arpInputMessage_arpMessage e dev' iface' op tha tpa
    (List.replicate (ETHER_PAYLOAD_SIZE_MIN - 28) 0) (le_max_right ETHER_PAYLOAD_SIZE_MIN 28)
  rw [arpHostInput_etherTransmitHelper e dev caches dev' _ hdst]
  exact arpInput_not_target e hmsg (arpInputTarget_eq_none hiface htpa) hspa now

/--
A resolution left pending stays pending: a message from the address to
another address of the link leaves the table as it was, and resolving the
address again answers INCOMPLETE with no hardware address.
-/
theorem arpResolve_pending_unrecorded (e : Endian) {dev : NetDevice} {iface : NetIface}
    (h : ArpEtherDevice dev iface) {caches : List ArpCache} {pa : IpAddr}
    (hpa : pa ∉ Slots.keys arpCacheLive ArpCache.pa caches) (t1 : Timeval)
    (dev' : NetDevice) (iface' : NetIface) (hspa : iface'.ip.unicast = pa) (op : UInt16)
    (tha : EtherAddr) (tpa : IpAddr) (htpa : tpa ≠ iface.ip.unicast) {dst : EtherAddr}
    (hdst : etherAddrOf dev.addr = dst ∨ dst = ETHER_ADDR_BROADCAST) (t2 t3 : Timeval) :
    let r1 := arpResolve e dev iface caches pa t1
    let atA := arpHostInput e dev r1.caches (etherTransmitHelper e dev' ETHER_TYPE_ARP
      ((arpMessage e dev' iface' op tha tpa).bytes e) dst) t2
    r1.ret = ARP_RESOLVE_INCOMPLETE ∧ atA = (r1.caches, none) ∧
      (arpResolve e dev iface atA.1 pa t3).ret = ARP_RESOLVE_INCOMPLETE ∧
      (arpResolve e dev iface atA.1 pa t3).ha = none := by
  intro r1 atA
  obtain ⟨hret1, -, hfree⟩ := arpResolve_pending e h.ethernet h.family hpa t1
  -- the entry arp_resolve allocated is FREE, so the update misses it and the message is not for us
  have hinput : atA = (r1.caches, none) :=
    arpHostInput_not_target e h.iface dev' iface' op tha tpa htpa hdst (by rw [hspa]; exact hfree) t2
  have hfree' : pa ∉ Slots.keys arpCacheLive ArpCache.pa atA.1 := by
    rw [hinput]
    exact hfree
  obtain ⟨hret3, hha3, -⟩ := arpResolve_pending e h.ethernet h.family hfree' t3
  exact ⟨hret1, hinput, hret3, hha3⟩

/-- A request from 10.0.0.2 for 10.0.0.3, broadcast on the link. -/
def arpRequestBToC : List UInt8 :=
  etherTransmitHelper .little arpHostB ETHER_TYPE_ARP
    ((arpMessage .little arpHostB arpIfaceB ARP_OP_REQUEST ETHER_ADDR_ANY 0x0300000a).bytes .little)
    ETHER_ADDR_BROADCAST

/-- Host A resolves 10.0.0.2 at time 1 on an empty table. -/
def arpPendingResolve : ArpResolved :=
  arpResolve .little arpHostA arpIfaceA arpCachesInit arpIfaceB.ip.unicast ⟨1, 0⟩

/--
Host A resolves 10.0.0.2 on an empty table: the entry it allocates holds the
address with the state 0, which is FREE, so no entry for the address is live.
The request 10.0.0.2 then broadcasts for 10.0.0.3 leaves the table as it was,
and resolving 10.0.0.2 again still answers INCOMPLETE.
-/
theorem arp_resolve_pending_entry_free :
    arpPendingResolve.ret = ARP_RESOLVE_INCOMPLETE ∧
      arpPendingResolve.caches[0]? =
        some ⟨ARP_CACHE_STATE_FREE, arpIfaceB.ip.unicast, ETHER_ADDR_ANY, ⟨1, 0⟩⟩ ∧
      arpCacheSelect arpPendingResolve.caches arpIfaceB.ip.unicast = none ∧
      arpHostInput .little arpHostA arpPendingResolve.caches arpRequestBToC ⟨2, 0⟩ =
        (arpPendingResolve.caches, none) ∧
      (arpResolve .little arpHostA arpIfaceA
        (arpHostInput .little arpHostA arpPendingResolve.caches arpRequestBToC ⟨2, 0⟩).1
        arpIfaceB.ip.unicast ⟨3, 0⟩).ret = ARP_RESOLVE_INCOMPLETE := by
  have hnil : Slots.keys arpCacheLive ArpCache.pa arpCachesInit = [] := rfl
  have hinit : arpIfaceB.ip.unicast ∉ Slots.keys arpCacheLive ArpCache.pa arpCachesInit := by
    rw [hnil]
    exact List.not_mem_nil
  obtain ⟨-, -, hfree⟩ := arpResolve_pending .little arpHostA_device.ethernet arpHostA_device.family hinit ⟨1, 0⟩
  obtain ⟨hret1, hinput, hret3, -⟩ := arpResolve_pending_unrecorded .little arpHostA_device hinit ⟨1, 0⟩
    arpHostB arpIfaceB rfl ARP_OP_REQUEST ETHER_ADDR_ANY 0x0300000a (by decide) (Or.inr rfl) ⟨2, 0⟩ ⟨3, 0⟩
  have hentry : arpPendingResolve.caches[0]? = some ⟨ARP_CACHE_STATE_FREE, arpIfaceB.ip.unicast, ETHER_ADDR_ANY, ⟨1, 0⟩⟩ := by
    decide
  exact ⟨hret1, hentry, arpCacheSelect_eq_none_of_not_mem hfree, hinput, hret3⟩

end ProtocolStack
