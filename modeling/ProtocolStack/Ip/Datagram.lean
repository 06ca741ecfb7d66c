import Mathlib
import ProtocolStack.Util
import ProtocolStack.Ip.Addr

/-!
# IP datagrams: ip_output and ip_input

{lit}`ip_output` looks up the route with the longest matching netmask,
checks the source address and the device MTU, and has
{lit}`ip_output_core` lay out the 20-byte header with its checksum in front
of the payload.  {lit}`ip_input` checks the version, the header and total
lengths, the header checksum and the fragment bits, accepts the datagram
for the interface's unicast or a broadcast address, and calls the handler
of the first registered protocol of its type.

The network device and the link layer are not modelled: a device is its
MTU, and the datagram {lit}`ip_output` hands to {lit}`ip_output_device` is
what {lit}`ip_input` is given, possibly with link-layer padding after it.
The handlers are values of an arbitrary type.
-/

namespace ProtocolStack

open ByteOrder

def IP_VERSION_IPV4 : UInt8 := 4

/-! # The header -/

/-- {lit}`struct ip_hdr` without options, field values as stored. -/
structure IpHdr where
  vhl : UInt8
  tos : UInt8
  total : UInt16
  id : UInt16
  offset : UInt16
  ttl : UInt8
  protocol : UInt8
  sum : UInt16
  src : IpAddr
  dst : IpAddr
  deriving DecidableEq, Repr

/-- The memory image of a {lit}`struct ip_hdr`. -/
def IpHdr.bytes (e : Endian) (h : IpHdr) : List UInt8 :=
  [h.vhl, h.tos] ++ e.store16 h.total ++ e.store16 h.id ++ e.store16 h.offset ++
    [h.ttl, h.protocol] ++ e.store16 h.sum ++ e.store32 h.src ++ e.store32 h.dst

/-- The header fields read through a {lit}`struct ip_hdr` pointer to {lit}`data`. -/
def IpHdr.read (e : Endian) (data : List UInt8) : IpHdr where
  vhl := data.getD 0 0
  tos := data.getD 1 0
  total := e.read16 data 2
  id := e.read16 data 4
  offset := e.read16 data 6
  ttl := data.getD 8 0
  protocol := data.getD 9 0
  sum := e.read16 data 10
  src := e.read32 data 12
  dst := e.read32 data 16

@[simp] theorem IpHdr.length_bytes (e : Endian) (h : IpHdr) : (h.bytes e).length = 20 := by
  simp [IpHdr.bytes]

theorem IpHdr.read_bytes_append (e : Endian) (h : IpHdr) (rest : List UInt8) :
    IpHdr.read e (h.bytes e ++ rest) = h := by
  simp only [IpHdr.read, IpHdr.bytes, List.append_assoc]
  congr 1 <;>
    simp [Endian.read16_append_of_le, Endian.read32_append_of_le, List.getElem?_append_right]

/-- The header split around its checksum field. -/
theorem IpHdr.bytes_eq_sum (e : Endian) (h : IpHdr) :
    h.bytes e = ([h.vhl, h.tos] ++ e.store16 h.total ++ e.store16 h.id ++ e.store16 h.offset ++
      [h.ttl, h.protocol]) ++ e.store16 h.sum ++ (e.store32 h.src ++ e.store32 h.dst) := by
  simp [IpHdr.bytes, List.append_assoc]

/-- The checksum law for the header: with its checksum stored, the header checks to zero. -/
theorem cksum16_ipHdr_sum (e : Endian) (h : IpHdr) :
    cksum16 e (IpHdr.bytes e { h with sum := cksum16 e (IpHdr.bytes e { h with sum := 0 }) 20 0 })
      20 0 = 0 := by
  have hlaw := cksum16_store_cksum16 e
    ([h.vhl, h.tos] ++ e.store16 h.total ++ e.store16 h.id ++ e.store16 h.offset ++
      [h.ttl, h.protocol]) (e.store32 h.src ++ e.store32 h.dst) 0 (by simp) (by simp) (by simp)
  have h20 : UInt16.ofNat ((([h.vhl, h.tos] ++ e.store16 h.total ++ e.store16 h.id ++
      e.store16 h.offset ++ [h.ttl, h.protocol]).length + 2 +
      (e.store32 h.src ++ e.store32 h.dst).length)) = 20 := by
    simp
  rw [h20, ← Endian.store16_zero e] at hlaw
  simpa only [IpHdr.bytes_eq_sum] using hlaw

/-! # Output -/

/--
{lit}`ip_output_core`: the datagram it hands to {lit}`ip_output_device`, the
header with its checksum followed by the payload, cut at the 16-bit
{lit}`total`.
-/
def ipOutputCore (e : Endian) (protocol : UInt8) (data : List UInt8) (src dst : IpAddr)
    (id offset : UInt16) : List UInt8 :=
  let hlen : UInt16 := UInt16.ofNat IP_HDR_SIZE_MIN
  let total : UInt16 := hlen + UInt16.ofNat data.length
  let hdr : IpHdr :=
    { vhl := ((IP_VERSION_IPV4 <<< 4) &&& (0xf0 : UInt8)) ||| ((hlen >>> 2).toUInt8 &&& (0x0f : UInt8)),
      tos := 0,
      total := hton16 e total, id := hton16 e id, offset := hton16 e offset, ttl := 255,
      protocol := protocol, sum := 0, src := src, dst := dst }
  let sum := cksum16 e (hdr.bytes e) hlen 0
  (IpHdr.bytes e { hdr with sum := sum } ++ data).take total.toNat

/-- {lit}`struct ip_route`. -/
structure IpRoute where
  network : IpAddr
  netmask : IpAddr
  nexthop : IpAddr
  iface : IpIface
  deriving DecidableEq, Repr

/--
{lit}`ip_route_lookup`: over the route list, the matching route with the
longest netmask, the first of equally long ones.
-/
def ipRouteLookup (e : Endian) (routes : List IpRoute) (dst : IpAddr) : Option IpRoute :=
  routes.foldl
    (fun candidate route =>
      if dst &&& route.netmask = route.network then
        match candidate with
        | none => some route
        | some c => if ntoh32 e c.netmask < ntoh32 e route.netmask then some route else candidate
      else candidate)
    none

/-- {lit}`ip_route_get_iface`: the interface of the route to {lit}`dst`. -/
def ipRouteGetIface (e : Endian) (routes : List IpRoute) (dst : IpAddr) : Option IpIface :=
  (ipRouteLookup e routes dst).map (·.iface)

/--
{lit}`ip_output` with the id {lit}`ip_generate_id` returns: the interface,
the next hop and the datagram it hands to {lit}`ip_output_device`, or none
where it fails.  {lit}`devMtu` is the MTU of the device under an interface.
-/
def ipOutput (e : Endian) (routes : List IpRoute) (devMtu : IpIface → UInt16) (id : UInt16)
    (protocol : UInt8) (data : List UInt8) (src dst : IpAddr) :
    Option (IpIface × IpAddr × List UInt8) :=
  if src = IP_ADDR_ANY ∧ dst = IP_ADDR_BROADCAST then none
  else
    match ipRouteLookup e routes dst with
    | none => none
    | some route =>
        if src ≠ IP_ADDR_ANY ∧ src ≠ route.iface.unicast then none
        else
          let nexthop := if route.nexthop ≠ IP_ADDR_ANY then route.nexthop else dst
          if (devMtu route.iface).toNat < IP_HDR_SIZE_MIN + data.length then none
          else
            some (route.iface, nexthop,
              ipOutputCore e protocol data route.iface.unicast dst id 0)

/-! # Input -/

/-- An entry of the protocol list: its type and its handler. -/
structure IpProtocol (H : Type) where
  type : UInt8
  handler : H
  deriving DecidableEq, Repr

/--
{lit}`ip_protocol_register`: the list with the new entry in front, or none
where the type is registered already.
-/
def ipProtocolRegister {H : Type} (protocols : List (IpProtocol H)) (type : UInt8)
    (handler : H) : Option (List (IpProtocol H)) :=
  if protocols.any (·.type == type) then none else some (⟨type, handler⟩ :: protocols)

/--
The protocol list after {lit}`ip_protocol_register` has been called for each
entry of {lit}`regs` in turn, as the init functions {lit}`net_init` runs
call it; none where a call returns -1.
-/
def ipProtocolRegisterAll {H : Type} :
    List (IpProtocol H) → List (UInt8 × H) → Option (List (IpProtocol H))
  | protocols, [] => some protocols
  | protocols, (type, handler) :: regs =>
      (ipProtocolRegister protocols type handler).bind fun protocols' =>
        ipProtocolRegisterAll protocols' regs

/--
The call {lit}`ip_input` makes: the handler, the buffer from the end of the
header on, the length it passes (a {lit}`size_t`), the addresses and the
interface.
-/
structure IpDelivery (H : Type) where
  handler : H
  data : List UInt8
  len : Nat
  src : IpAddr
  dst : IpAddr
  iface : IpIface
  deriving DecidableEq, Repr

/--
{lit}`ip_input` on the bytes {lit}`data` a device received, whose IP
interface is {lit}`iface?`: the handler call it makes, or none where it
drops the datagram.
-/
def ipInput {H : Type} (e : Endian) (protocols : List (IpProtocol H)) (iface? : Option IpIface)
    (data : List UInt8) : Option (IpDelivery H) :=
  if data.length < IP_HDR_SIZE_MIN then none
  else
    let hdr := IpHdr.read e data
    if hdr.vhl >>> 4 ≠ IP_VERSION_IPV4 then none
    else
      let hlen : UInt16 := (hdr.vhl &&& 0x0f).toUInt16 <<< 2
      if data.length < hlen.toNat then none
      else
        let total := ntoh16 e hdr.total
        if data.length < total.toNat then none
        else if cksum16 e data hlen 0 ≠ 0 then none
        else
          let offset := ntoh16 e hdr.offset
          if offset &&& 0x2000 ≠ 0 ∨ offset &&& 0x1fff ≠ 0 then none
          else
            match iface? with
            | none => none
            | some iface =>
                if hdr.dst ≠ iface.unicast ∧ hdr.dst ≠ IP_ADDR_BROADCAST ∧
                    hdr.dst ≠ iface.broadcast then none
                else
                  match protocols.find? (·.type == hdr.protocol) with
                  | none => none
                  | some p =>
                      -- total - hlen is computed in int and passed as a size_t
                      some
                        { handler := p.handler, data := data.drop hlen.toNat,
                          len := (total.toUInt64 - hlen.toUInt64).toNat, src := hdr.src,
                          dst := hdr.dst, iface := iface }

/-! # The protocol list -/

/-- Registration keeps the types of the protocol list distinct. -/
theorem ipProtocolRegister_nodup {H : Type} {protocols protocols' : List (IpProtocol H)}
    {type : UInt8} {handler : H} (hnodup : (protocols.map (·.type)).Nodup)
    (h : ipProtocolRegister protocols type handler = some protocols') :
    (protocols'.map (·.type)).Nodup := by
  unfold ipProtocolRegister at h
  split at h
  · cases h
  · rename_i hnew
    cases h
    rw [List.map_cons, List.nodup_cons]
    refine ⟨fun hmem => hnew ?_, hnodup⟩
    obtain ⟨p, hp, hpt⟩ := List.mem_map.mp hmem
    exact List.any_eq_true.mpr ⟨p, hp, by simp [hpt]⟩

theorem ipProtocolRegister_eq_some {H : Type} {protocols protocols' : List (IpProtocol H)}
    {type : UInt8} {handler : H} (h : ipProtocolRegister protocols type handler = some protocols') :
    protocols' = ⟨type, handler⟩ :: protocols := by
  unfold ipProtocolRegister at h
  split at h
  · cases h
  · exact (Option.some.inj h).symm

/-- A run of registrations keeps the types distinct and holds exactly the entries registered. -/
theorem ipProtocolRegisterAll_spec {H : Type} :
    ∀ {protocols protocols' : List (IpProtocol H)} {regs : List (UInt8 × H)},
      (protocols.map (·.type)).Nodup → ipProtocolRegisterAll protocols regs = some protocols' →
      (protocols'.map (·.type)).Nodup ∧
        ∀ p, p ∈ protocols' ↔ p ∈ protocols ∨ (p.type, p.handler) ∈ regs
  | _, _, [], hnodup, h => by
      cases h
      exact ⟨hnodup, fun p => by simp⟩
  | protocols, protocols', (type, handler) :: regs, hnodup, h => by
      cases hreg : ipProtocolRegister protocols type handler with
      | none => simp [ipProtocolRegisterAll, hreg] at h
      | some ps =>
          simp only [ipProtocolRegisterAll, hreg, Option.bind_some] at h
          -- the call pushed the new entry, and the rest of the run goes on from there
          have hps := ipProtocolRegister_eq_some hreg
          obtain ⟨hnodup', hmem⟩ := ipProtocolRegisterAll_spec (ipProtocolRegister_nodup hnodup hreg) h
          refine ⟨hnodup', fun p => ?_⟩
          obtain ⟨pt, ph⟩ := p
          rw [hmem, hps]
          simp only [List.mem_cons, IpProtocol.mk.injEq, Prod.mk.injEq]
          tauto

/-- Where the types are distinct, the lookup of a registered type finds its entry. -/
theorem find?_type_of_mem {H : Type} {protocols : List (IpProtocol H)}
    (hnodup : (protocols.map (·.type)).Nodup) {type : UInt8} {handler : H}
    (hmem : ⟨type, handler⟩ ∈ protocols) :
    protocols.find? (·.type == type) = some ⟨type, handler⟩ := by
  cases hfind : protocols.find? (·.type == type) with
  | none =>
      have := List.find?_eq_none.mp hfind _ hmem
      simp at this
  | some p =>
      -- the entry found has the registered type, and only one entry does
      have hp := List.mem_of_find?_eq_some hfind
      have hpt : p.type = type := by simpa using List.find?_some hfind
      rw [List.inj_on_of_nodup_map hnodup hp hmem hpt]

/-! # The round trip -/

/-- Where every check of {lit}`ip_input` passes, the handler call it makes. -/
theorem ipInput_eq_some {H : Type} {e : Endian} {protocols : List (IpProtocol H)}
    {iface : IpIface} {data : List UInt8} {hdr : IpHdr} {hlen : UInt16} {p : IpProtocol H}
    (hhdr : IpHdr.read e data = hdr) (hmin : IP_HDR_SIZE_MIN ≤ data.length)
    (hv : hdr.vhl >>> 4 = IP_VERSION_IPV4) (hhl : (hdr.vhl &&& 0x0f).toUInt16 <<< 2 = hlen)
    (hhlen : hlen.toNat ≤ data.length) (htotal : (ntoh16 e hdr.total).toNat ≤ data.length)
    (hcksum : cksum16 e data hlen 0 = 0)
    (hfrag : ntoh16 e hdr.offset &&& 0x2000 = 0 ∧ ntoh16 e hdr.offset &&& 0x1fff = 0)
    (hdst : hdr.dst = iface.unicast ∨ hdr.dst = IP_ADDR_BROADCAST ∨ hdr.dst = iface.broadcast)
    (hfind : protocols.find? (·.type == hdr.protocol) = some p) :
    ipInput e protocols (some iface) data =
      some { handler := p.handler, data := data.drop hlen.toNat,
             len := ((ntoh16 e hdr.total).toUInt64 - hlen.toUInt64).toNat, src := hdr.src,
             dst := hdr.dst, iface := iface } := by
  have hdstOk : ¬(hdr.dst ≠ iface.unicast ∧ hdr.dst ≠ IP_ADDR_BROADCAST ∧
      hdr.dst ≠ iface.broadcast) := by
    rintro ⟨hu, hb, hbc⟩
    rcases hdst with h | h | h
    exacts [hu h, hb h, hbc h]
  unfold ipInput
  rw [if_neg (Nat.not_lt.mpr hmin)]
  dsimp only
  rw [hhdr, hhl, if_neg (fun h => h hv), if_neg (Nat.not_lt.mpr hhlen),
    if_neg (Nat.not_lt.mpr htotal), if_neg (fun h => h hcksum), if_neg (by simp [hfrag]),
    if_neg hdstOk, hfind]

/-- A delivery of {lit}`ip_input` passed every check, and is the handler call {lit}`ipInput_eq_some` builds. -/
theorem ipInput_eq_some_inv {H : Type} {e : Endian} {protocols : List (IpProtocol H)}
    {iface? : Option IpIface} {data : List UInt8} {d : IpDelivery H}
    (h : ipInput e protocols iface? data = some d) :
    ∃ iface p, iface? = some iface ∧ IP_HDR_SIZE_MIN ≤ data.length ∧
      (IpHdr.read e data).vhl >>> 4 = IP_VERSION_IPV4 ∧
      (((IpHdr.read e data).vhl &&& 0x0f).toUInt16 <<< 2).toNat ≤ data.length ∧
      (ntoh16 e (IpHdr.read e data).total).toNat ≤ data.length ∧
      cksum16 e data (((IpHdr.read e data).vhl &&& 0x0f).toUInt16 <<< 2) 0 = 0 ∧
      (ntoh16 e (IpHdr.read e data).offset &&& 0x2000 = 0 ∧
        ntoh16 e (IpHdr.read e data).offset &&& 0x1fff = 0) ∧
      ((IpHdr.read e data).dst = iface.unicast ∨ (IpHdr.read e data).dst = IP_ADDR_BROADCAST ∨
        (IpHdr.read e data).dst = iface.broadcast) ∧
      protocols.find? (·.type == (IpHdr.read e data).protocol) = some p ∧
      d = { handler := p.handler,
            data := data.drop (((IpHdr.read e data).vhl &&& 0x0f).toUInt16 <<< 2).toNat,
            len := ((ntoh16 e (IpHdr.read e data).total).toUInt64 -
              (((IpHdr.read e data).vhl &&& 0x0f).toUInt16 <<< 2).toUInt64).toNat,
            src := (IpHdr.read e data).src, dst := (IpHdr.read e data).dst, iface := iface } := by
  unfold ipInput at h
  dsimp only at h
  split_ifs at h with hmin hv hhlen htotal hck hfrag
  cases iface? with
  | none => cases h
  | some iface =>
      dsimp only at h
      split_ifs at h with hdst
      cases hfind : protocols.find? (·.type == (IpHdr.read e data).protocol) with
      | none =>
          rw [hfind] at h
          cases h
      | some p =>
          rw [hfind] at h
          cases h
          -- each check that did not reject, read as the condition it tests
          have hfrag' : ntoh16 e (IpHdr.read e data).offset &&& 0x2000 = 0 ∧
              ntoh16 e (IpHdr.read e data).offset &&& 0x1fff = 0 := by
            simpa only [not_or, not_not] using hfrag
          have hdst' : (IpHdr.read e data).dst = iface.unicast ∨
              (IpHdr.read e data).dst = IP_ADDR_BROADCAST ∨
              (IpHdr.read e data).dst = iface.broadcast := by
            by_contra hnot
            exact hdst ⟨fun h => hnot (.inl h), fun h => hnot (.inr (.inl h)),
              fun h => hnot (.inr (.inr h))⟩
          exact ⟨iface, p, rfl, by omega, not_not.mp hv, by omega, by omega, not_not.mp hck,
            hfrag', hdst', rfl, rfl⟩

/-- What {lit}`ip_output` hands on is the datagram of {lit}`ip_output_core` from the route's interface, within the device MTU. -/
theorem ipOutput_eq_some {e : Endian} {routes : List IpRoute} {devMtu : IpIface → UInt16}
    {id : UInt16} {protocol : UInt8} {data : List UInt8} {src dst : IpAddr} {iface : IpIface}
    {nexthop : IpAddr} {datagram : List UInt8}
    (h : ipOutput e routes devMtu id protocol data src dst = some (iface, nexthop, datagram)) :
    datagram = ipOutputCore e protocol data iface.unicast dst id 0 ∧
      IP_HDR_SIZE_MIN + data.length ≤ (devMtu iface).toNat := by
  unfold ipOutput at h
  split at h
  · cases h
  · split at h
    · cases h
    · split at h
      · cases h
      · dsimp only at h
        split at h
        · cases h
        · rename_i hmtu
          cases h
          exact ⟨rfl, by omega⟩

/--
{lit}`ip_input` on the datagram {lit}`ip_output_core` builds, with any
padding after it, calls the handler registered for its protocol once, with
the payload, its length and the two addresses.
-/
theorem ipInput_ipOutputCore {H : Type} (e : Endian) (protocols : List (IpProtocol H))
    (hnodup : (protocols.map (·.type)).Nodup) (protocol : UInt8) (handler : H)
    (hreg : ⟨protocol, handler⟩ ∈ protocols) (data : List UInt8) (src dst : IpAddr)
    (id : UInt16) (iface : IpIface) (hdst : dst = iface.unicast ∨ dst = IP_ADDR_BROADCAST)
    (hlen : IP_HDR_SIZE_MIN + data.length ≤ 65535) (padding : List UInt8) :
    ipInput e protocols (some iface) (ipOutputCore e protocol data src dst id 0 ++ padding) =
      some { handler := handler, data := data ++ padding, len := data.length, src := src,
             dst := dst, iface := iface } := by
  -- the header ip_output_core lays out, its checksum field zero
  obtain ⟨hdr, hhdr⟩ : ∃ hdr : IpHdr, hdr =
      { vhl := ((IP_VERSION_IPV4 <<< 4) &&& (0xf0 : UInt8)) |||
          ((UInt16.ofNat IP_HDR_SIZE_MIN >>> 2).toUInt8 &&& (0x0f : UInt8)),
        tos := 0, total := hton16 e (UInt16.ofNat IP_HDR_SIZE_MIN + UInt16.ofNat data.length),
        id := hton16 e id, offset := hton16 e 0, ttl := 255, protocol := protocol, sum := 0,
        src := src, dst := dst } :=
    ⟨_, rfl⟩
  obtain ⟨sum, hsum⟩ : ∃ sum : UInt16, sum = cksum16 e (hdr.bytes e) 20 0 := ⟨_, rfl⟩
  have htotalNat : (UInt16.ofNat IP_HDR_SIZE_MIN + UInt16.ofNat data.length).toNat =
      20 + data.length := by
    rw [UInt16.toNat_add, UInt16.toNat_ofNat', UInt16.toNat_ofNat']
    simp only [IP_HDR_SIZE_MIN] at hlen ⊢
    omega
  have hdatagram : ipOutputCore e protocol data src dst id 0 =
      IpHdr.bytes e { hdr with sum := sum } ++ data := by
    rw [hsum, hhdr]
    exact List.take_of_length_le (by simp [htotalNat])
  -- the checks of ip_input pass
  have hread : IpHdr.read e (IpHdr.bytes e { hdr with sum := sum } ++ (data ++ padding)) =
      { hdr with sum := sum } :=
    IpHdr.read_bytes_append e _ _
  have hcksum : cksum16 e (IpHdr.bytes e { hdr with sum := sum } ++ (data ++ padding)) 20 0 = 0 := by
    have hsum0 : hdr = { hdr with sum := 0 } := by rw [hhdr]
    rw [cksum16_append_of_le e _ _ _ _ (by simp), hsum, hsum0]
    exact cksum16_ipHdr_sum e hdr
  have hlength : (IpHdr.bytes e { hdr with sum := sum } ++ (data ++ padding)).length =
      20 + data.length + padding.length := by
    simp
    omega
  -- the fields ip_input reads back
  have hv : hdr.vhl >>> 4 = IP_VERSION_IPV4 := by
    rw [hhdr]
    dsimp only
    decide
  have hhlen : (hdr.vhl &&& 0x0f).toUInt16 <<< 2 = 20 := by
    rw [hhdr]
    dsimp only
    decide
  have htotal : ntoh16 e hdr.total = UInt16.ofNat IP_HDR_SIZE_MIN + UInt16.ofNat data.length := by
    rw [hhdr, ntoh16_hton16]
  have hoffset : ntoh16 e hdr.offset = 0 := by rw [hhdr, ntoh16_hton16]
  have hfields : hdr.protocol = protocol ∧ hdr.src = src ∧ hdr.dst = dst := by
    rw [hhdr]
    exact ⟨rfl, rfl, rfl⟩
  have hlenDelivered : ((UInt16.ofNat IP_HDR_SIZE_MIN + UInt16.ofNat data.length).toUInt64 -
      (20 : UInt16).toUInt64).toNat = data.length := by
    rw [UInt64.toNat_sub_of_le _ _ ?_, UInt16.toNat_toUInt64, UInt16.toNat_toUInt64, htotalNat]
    · simp
    · rw [UInt64.le_iff_toNat_le, UInt16.toNat_toUInt64, UInt16.toNat_toUInt64, htotalNat]
      exact Nat.le_add_right _ _
  have h20 : (20 : UInt16).toNat = 20 := rfl
  have hdst' : hdr.dst = iface.unicast ∨ hdr.dst = IP_ADDR_BROADCAST ∨
      hdr.dst = iface.broadcast := by
    rw [hfields.2.2]
    rcases hdst with h | h
    exacts [.inl h, .inr (.inl h)]
  have hfind := find?_type_of_mem hnodup hreg
  rw [← hfields.1] at hfind
  rw [hdatagram, List.append_assoc,
    ipInput_eq_some hread (by rw [hlength]; simp only [IP_HDR_SIZE_MIN]; omega) hv hhlen
      (by rw [hlength, h20]; omega) (by rw [htotal, htotalNat, hlength]; omega) hcksum
      (by rw [hoffset]; decide) hdst' hfind,
    htotal, hlenDelivered, h20, List.drop_left' (IpHdr.length_bytes e _), hfields.2.1, hfields.2.2]

/--
The datagram {lit}`ip_output` hands to its device, given to {lit}`ip_input`
on an interface it is addressed to, with or without padding, reaches the
handler registered for its protocol once, with the payload, its length, the
address of the sending interface and the destination.
-/
theorem ip_datagram_round_trip {H : Type} (e : Endian) (routes : List IpRoute)
    (devMtu : IpIface → UInt16) (id : UInt16) (protocol : UInt8) (data : List UInt8)
    (src dst : IpAddr) (iface : IpIface) (nexthop : IpAddr) (datagram : List UInt8)
    (hout : ipOutput e routes devMtu id protocol data src dst = some (iface, nexthop, datagram))
    (protocols : List (IpProtocol H)) (hnodup : (protocols.map (·.type)).Nodup) (handler : H)
    (hreg : ⟨protocol, handler⟩ ∈ protocols) (riface : IpIface)
    (hdst : dst = riface.unicast ∨ dst = IP_ADDR_BROADCAST) (padding : List UInt8) :
    ipInput e protocols (some riface) (datagram ++ padding) =
      some { handler := handler, data := data ++ padding, len := data.length,
             src := iface.unicast, dst := dst, iface := riface } := by
  obtain ⟨rfl, hmtu⟩ := ipOutput_eq_some hout
  -- the device MTU is a 16-bit value, so the total length does not wrap
  have hlen : IP_HDR_SIZE_MIN + data.length ≤ 65535 :=
    le_trans hmtu (Nat.le_of_lt_succ (devMtu iface).toNat_lt)
  exact ipInput_ipOutputCore e protocols hnodup protocol handler hreg data iface.unicast dst id
    riface hdst hlen padding

/-- The loopback interface 127.0.0.1/8, its addresses as they lie in memory on a little-endian host. -/
def ipLoopbackIface : IpIface :=
  ⟨0x0100007f, 0x000000ff, 0x0000007f⟩

/-- Three bytes of ICMP from 127.0.0.1 to itself over its route, received with two bytes of padding. -/
theorem ip_datagram_round_trip_loopback :
    ipOutput .little [⟨0x0000007f, 0x000000ff, IP_ADDR_ANY, ipLoopbackIface⟩] (fun _ => 65535) 128
        IP_PROTOCOL_ICMP [1, 2, 3] IP_ADDR_ANY 0x0100007f =
        some (ipLoopbackIface, 0x0100007f,
          ipOutputCore .little IP_PROTOCOL_ICMP [1, 2, 3] 0x0100007f 0x0100007f 128 0) ∧
      ([(⟨IP_PROTOCOL_ICMP, 1⟩ : IpProtocol Nat), ⟨IP_PROTOCOL_TCP, 6⟩].map (·.type)).Nodup ∧
      ipInput .little [(⟨IP_PROTOCOL_ICMP, 1⟩ : IpProtocol Nat), ⟨IP_PROTOCOL_TCP, 6⟩]
          (some ipLoopbackIface)
          (ipOutputCore .little IP_PROTOCOL_ICMP [1, 2, 3] 0x0100007f 0x0100007f 128 0 ++ [0, 0]) =
        some { handler := 1, data := [1, 2, 3, 0, 0], len := 3, src := 0x0100007f,
               dst := 0x0100007f, iface := ipLoopbackIface } := by
  have hout : ipOutput .little [⟨0x0000007f, 0x000000ff, IP_ADDR_ANY, ipLoopbackIface⟩]
      (fun _ => 65535) 128 IP_PROTOCOL_ICMP [1, 2, 3] IP_ADDR_ANY 0x0100007f =
      some (ipLoopbackIface, 0x0100007f,
        ipOutputCore .little IP_PROTOCOL_ICMP [1, 2, 3] 0x0100007f 0x0100007f 128 0) := by
    decide
  have hnodup : ([(⟨IP_PROTOCOL_ICMP, 1⟩ : IpProtocol Nat), ⟨IP_PROTOCOL_TCP, 6⟩].map
      (·.type)).Nodup := by
    decide
  exact ⟨hout, hnodup, ip_datagram_round_trip .little _ _ 128 IP_PROTOCOL_ICMP [1, 2, 3] IP_ADDR_ANY
    0x0100007f ipLoopbackIface 0x0100007f _ hout _ hnodup 1 (by simp) ipLoopbackIface (.inl rfl)
    [0, 0]⟩

/-! # Bytes after the datagram -/

theorem IpHdr.read_append_of_le (e : Endian) {data : List UInt8} (rest : List UInt8)
    (h : IP_HDR_SIZE_MIN ≤ data.length) : IpHdr.read e (data ++ rest) = IpHdr.read e data := by
  have h20 : 20 ≤ data.length := h
  simp (disch := omega) only [IpHdr.read, Endian.read16, Endian.read32, List.getD_append]

/-- The call as the handler sees it: the buffer up to the length passed. -/
def IpDelivery.view {H : Type} (d : IpDelivery H) : IpDelivery H :=
  { d with data := d.data.take d.len }

/-- Bytes after a datagram whose header and total length lie within it change only the buffer passed on. -/
theorem ipInput_append {H : Type} (e : Endian) (protocols : List (IpProtocol H))
    (iface? : Option IpIface) {data : List UInt8} (rest : List UInt8)
    (hmin : IP_HDR_SIZE_MIN ≤ data.length)
    (hhlen : (((IpHdr.read e data).vhl &&& 0x0f).toUInt16 <<< 2).toNat ≤ data.length)
    (htotal : (ntoh16 e (IpHdr.read e data).total).toNat ≤ data.length) :
    ipInput e protocols iface? (data ++ rest) =
      (ipInput e protocols iface? data).map fun d => { d with data := d.data ++ rest } := by
  have hread := IpHdr.read_append_of_le e rest hmin
  have hck := cksum16_append_of_le e data rest _ 0 hhlen
  have hlen : (data ++ rest).length = data.length + rest.length := List.length_append
  unfold ipInput
  have h1 : ¬(data ++ rest).length < IP_HDR_SIZE_MIN := by omega
  have h2 : ¬data.length < IP_HDR_SIZE_MIN := by omega
  rw [if_neg h1, if_neg h2]
  dsimp only
  rw [hread, hck]
  have h3 : ¬(data ++ rest).length < (((IpHdr.read e data).vhl &&& 0x0f).toUInt16 <<< 2).toNat := by omega
  have h4 : ¬data.length < (((IpHdr.read e data).vhl &&& 0x0f).toUInt16 <<< 2).toNat := by omega
  have h5 : ¬(data ++ rest).length < (ntoh16 e (IpHdr.read e data).total).toNat := by omega
  have h6 : ¬data.length < (ntoh16 e (IpHdr.read e data).total).toNat := by omega
  simp only [h3, h4, h5, h6, if_false]
  rw [List.drop_append_of_le_length hhlen]
  split_ifs
  · rfl
  · rfl
  · rfl
  · cases iface? with
    | none => rfl
    | some iface =>
        dsimp only
        split_ifs
        · rfl
        · cases protocols.find? (·.type == (IpHdr.read e data).protocol) <;> rfl

theorem ipInput_delivery {H : Type} {e : Endian} {protocols : List (IpProtocol H)}
    {iface? : Option IpIface} {data : List UInt8} {d : IpDelivery H}
    (h : ipInput e protocols iface? data = some d) :
    d.data = data.drop (((IpHdr.read e data).vhl &&& 0x0f).toUInt16 <<< 2).toNat ∧
      d.len = ((ntoh16 e (IpHdr.read e data).total).toUInt64 -
        (((IpHdr.read e data).vhl &&& 0x0f).toUInt16 <<< 2).toUInt64).toNat := by
  obtain ⟨_, _, -, -, -, -, -, -, -, -, -, rfl⟩ := ipInput_eq_some_inv h
  exact ⟨rfl, rfl⟩

/--
The lengths in the header of {lit}`data` are consistent: the header has at
least its fixed part, lies within the total length, and the total length
within the bytes.
-/
def ipDatagramWellFormed (e : Endian) (data : List UInt8) : Prop :=
  IP_HDR_SIZE_MIN ≤ (((IpHdr.read e data).vhl &&& 0x0f).toUInt16 <<< 2).toNat ∧
    (((IpHdr.read e data).vhl &&& 0x0f).toUInt16 <<< 2).toNat ≤
      (ntoh16 e (IpHdr.read e data).total).toNat ∧
    (ntoh16 e (IpHdr.read e data).total).toNat ≤ data.length

instance (e : Endian) (data : List UInt8) : Decidable (ipDatagramWellFormed e data) :=
  inferInstanceAs (Decidable (_ ∧ _ ∧ _))

/-- A datagram whose header is consistent passes the handler its payload length without wrapping. -/
theorem ipInput_len_of_wellFormed {H : Type} {e : Endian} {protocols : List (IpProtocol H)}
    {iface? : Option IpIface} {data : List UInt8} {d : IpDelivery H}
    (h : ipInput e protocols iface? data = some d) (hwf : ipDatagramWellFormed e data) :
    d.len = (ntoh16 e (IpHdr.read e data).total).toNat -
      (((IpHdr.read e data).vhl &&& 0x0f).toUInt16 <<< 2).toNat := by
  obtain ⟨-, hle, -⟩ := hwf
  rw [(ipInput_delivery h).2, UInt64.toNat_sub_of_le _ _ (by simpa [UInt64.le_iff_toNat_le] using hle),
    UInt16.toNat_toUInt64, UInt16.toNat_toUInt64]

/-- For a datagram whose header is consistent, the length the handler gets lies within the buffer it gets. -/
theorem ipInput_len_le_length {H : Type} {e : Endian} {protocols : List (IpProtocol H)}
    {iface? : Option IpIface} {data : List UInt8} {d : IpDelivery H}
    (h : ipInput e protocols iface? data = some d) (hwf : ipDatagramWellFormed e data) :
    d.len ≤ d.data.length := by
  have hdata := (ipInput_delivery h).1
  have hsub := ipInput_len_of_wellFormed h hwf
  obtain ⟨-, -, htotal⟩ := hwf
  rw [hdata, List.length_drop]
  omega

theorem ipInput_append_view {H : Type} (e : Endian) (protocols : List (IpProtocol H))
    (iface? : Option IpIface) {data : List UInt8} (hwf : ipDatagramWellFormed e data)
    (rest : List UInt8) :
    (ipInput e protocols iface? (data ++ rest)).map IpDelivery.view =
      (ipInput e protocols iface? data).map IpDelivery.view := by
  obtain ⟨hmin, hle, htotal⟩ := id hwf
  rw [ipInput_append e protocols iface? rest (by omega) (by omega) htotal]
  cases hd : ipInput e protocols iface? data with
  | none => rfl
  | some d =>
      have hfits := ipInput_len_le_length hd hwf
      simp only [Option.map_some, IpDelivery.view, List.take_append_of_le_length hfits]

/-! # The destination filter -/

/--
The destination filter is the one check of {lit}`ip_input` that depends on
the interface: a datagram some interface accepts is accepted by an interface
exactly when it is addressed to that interface's unicast address, to the
limited broadcast address or to the interface's broadcast address.
-/
theorem ipInput_isSome_iff_dst {H : Type} {e : Endian} {protocols : List (IpProtocol H)}
    {data : List UInt8} {iface' : IpIface} {d' : IpDelivery H}
    (h' : ipInput e protocols (some iface') data = some d') (iface : IpIface) :
    (ipInput e protocols (some iface) data).isSome ↔
      ((IpHdr.read e data).dst = iface.unicast ∨ (IpHdr.read e data).dst = IP_ADDR_BROADCAST ∨
        (IpHdr.read e data).dst = iface.broadcast) := by
  -- every check but the destination passed for iface', and none of them reads the interface
  obtain ⟨_, p, -, hmin, hv, hhlen, htotal, hck, hfrag, -, hfind, -⟩ := ipInput_eq_some_inv h'
  constructor
  · intro hsome
    obtain ⟨d, hd⟩ := Option.isSome_iff_exists.mp hsome
    obtain ⟨_, _, hiface, -, -, -, -, -, -, hdst, -⟩ := ipInput_eq_some_inv hd
    cases hiface
    exact hdst
  · intro hdst
    rw [ipInput_eq_some rfl hmin hv rfl hhlen htotal hck hfrag hdst hfind]
    rfl

/-! # What ip_input checks of the lengths -/

/-- A header whose total length, 0, is below its header length, 20. -/
def ipHdrTotalZero : IpHdr :=
  { vhl := 0x45, tos := 0, total := 0, id := 0, offset := 0, ttl := 64,
    protocol := IP_PROTOCOL_UDP, sum := 0, src := 0x0100000a, dst := 0x0200000a }

def ipHdrTotalZeroDatagram : List UInt8 :=
  IpHdr.bytes .little
    { ipHdrTotalZero with sum := cksum16 .little (IpHdr.bytes .little ipHdrTotalZero) 20 0 }

/-- A header of 16 bytes (vhl 0x44) in a datagram of 20, its checksum over those 16 bytes. -/
def ipHdrShort : IpHdr :=
  { ipHdrTotalZero with vhl := 0x44, total := hton16 .little 20 }

def ipHdrShortDatagram : List UInt8 :=
  IpHdr.bytes .little
    { ipHdrShort with sum := cksum16 .little (IpHdr.bytes .little ipHdrShort) 16 0 }

/--
{lit}`ip_input` calls the handler for a header whose total length is below
its header length, passing 0 - 20 as a {lit}`size_t`, and for a header
shorter than the fixed 20 bytes, passing the last four bytes of the fixed
header as payload.
-/
theorem ip_input_header_length_unchecked :
    (((IpHdr.read .little ipHdrTotalZeroDatagram).vhl &&& 0x0f).toUInt16 <<< 2).toNat = 20 ∧
      (ntoh16 .little (IpHdr.read .little ipHdrTotalZeroDatagram).total).toNat = 0 ∧
      (ipInput .little [(⟨IP_PROTOCOL_UDP, 17⟩ : IpProtocol Nat)]
          (some ⟨0x0200000a, 0x00ffffff, 0xff00000a⟩) ipHdrTotalZeroDatagram).map (·.len) =
        some (2 ^ 64 - 20) ∧
      (((IpHdr.read .little ipHdrShortDatagram).vhl &&& 0x0f).toUInt16 <<< 2).toNat = 16 ∧
      (ipInput .little [(⟨IP_PROTOCOL_UDP, 17⟩ : IpProtocol Nat)]
          (some ⟨0x0200000a, 0x00ffffff, 0xff00000a⟩) ipHdrShortDatagram).map
          (fun d => (d.data, d.len)) =
        some (ipHdrShortDatagram.drop 16, 4) := by
  decide

end ProtocolStack
