import Mathlib
import ProtocolStack.Ip.Datagram
import ProtocolStack.Ip.Text

/-!
# Interfaces and routes

{lit}`ip_iface_alloc` reads an interface's unicast address and netmask from
text and computes its broadcast address; {lit}`ip_iface_register` adds the
route to the interface's network and {lit}`ip_route_set_default_gateway` a
default route.  Routes are prepended, so the list runs from the most recent
route to the oldest, and {lit}`ip_route_lookup` keeps its candidate unless a
strictly longer netmask comes: it picks the first, that is the most recent,
of the matching routes with the longest netmask ({lit}`IpRouteLongestMatch`).

{lit}`ip_iface_alloc` writes the logical not {lit}`!netmask_addr` where the
subnet-directed broadcast address needs the complement: for every netmask but
0 the broadcast address it sets is the network address.  {lit}`ip_input`
then accepts datagrams to the network address and drops those to the
subnet's broadcast address.

{lit}`ip_iface_register` first has {lit}`net_device_add_iface` attach the
interface to its device; the routes are those after that succeeds.
-/

namespace ProtocolStack

open ByteOrder

/-- {lit}`ip_route_add`: the new route in front of the list. -/
def ipRouteAdd (routes : List IpRoute) (network netmask nexthop : IpAddr) (iface : IpIface) :
    List IpRoute :=
  { network := network, netmask := netmask, nexthop := nexthop, iface := iface } :: routes

/-- The routes after {lit}`ip_iface_register`: the route to the interface's own network. -/
def ipIfaceRegister (routes : List IpRoute) (iface : IpIface) : List IpRoute :=
  ipRouteAdd routes (iface.unicast &&& iface.netmask) iface.netmask IP_ADDR_ANY iface

/-- {lit}`ip_route_set_default_gateway`: the routes after it, or none where the gateway does not read as an address. -/
def ipRouteSetDefaultGateway (e : Endian) (routes : List IpRoute) (iface : IpIface)
    (gateway : List Char) : Option (List IpRoute) :=
  match ipAddrPton e gateway with
  | none => none
  | some gw => some (ipRouteAdd routes IP_ADDR_ANY IP_ADDR_ANY gw iface)

/-- {lit}`ip_iface_alloc`: the interface, or none where an address does not read. -/
def ipIfaceAlloc (e : Endian) (unicast netmask : List Char) : Option IpIface :=
  match ipAddrPton e unicast with
  | none => none
  | some unicastAddr =>
      match ipAddrPton e netmask with
      | none => none
      | some netmaskAddr =>
          -- the logical not of C: 1 for the zero netmask, 0 for every other
          some { unicast := unicastAddr, netmask := netmaskAddr,
                 broadcast := (unicastAddr &&& netmaskAddr) ||| (if netmaskAddr = 0 then 1 else 0) }

/-! ## Longest-prefix match -/

/--
The route a longest-prefix match picks for {lit}`dst`: it matches, the
matching routes before it have shorter netmasks and those after it no longer
ones, netmasks compared in host order.
-/
def IpRouteLongestMatch (e : Endian) (routes : List IpRoute) (dst : IpAddr) (r : IpRoute) : Prop :=
  dst &&& r.netmask = r.network ∧
    ∃ pre post, routes = pre ++ r :: post ∧
      (∀ r' ∈ pre, dst &&& r'.netmask = r'.network → ntoh32 e r'.netmask < ntoh32 e r.netmask) ∧
      (∀ r' ∈ post, dst &&& r'.netmask = r'.network → ntoh32 e r'.netmask ≤ ntoh32 e r.netmask)

/-- The loop of {lit}`ip_route_lookup` over {lit}`routes` from the candidate so far. -/
def ipRouteLookupFrom (e : Endian) (routes : List IpRoute) (dst : IpAddr)
    (candidate : Option IpRoute) : Option IpRoute :=
  routes.foldl
    (fun candidate route =>
      if dst &&& route.netmask = route.network then
        match candidate with
        | none => some route
        | some c => if ntoh32 e c.netmask < ntoh32 e route.netmask then some route else candidate
      else candidate)
    candidate

theorem ipRouteLookup_eq_from (e : Endian) (routes : List IpRoute) (dst : IpAddr) :
    ipRouteLookup e routes dst = ipRouteLookupFrom e routes dst none :=
  rfl

section LongestMatch

variable {e : Endian} {dst : IpAddr}

theorem IpRouteLongestMatch.le_of_mem {routes : List IpRoute} {r r' : IpRoute}
    (h : IpRouteLongestMatch e routes dst r) (hmem : r' ∈ routes)
    (hmatch : dst &&& r'.netmask = r'.network) : ntoh32 e r'.netmask ≤ ntoh32 e r.netmask := by
  obtain ⟨-, pre, post, rfl, hpre, hpost⟩ := h
  rcases List.mem_append.mp hmem with hin | hin
  · exact UInt32.le_of_lt (hpre r' hin hmatch)
  · rcases List.mem_cons.mp hin with rfl | hin
    · exact UInt32.le_refl _
    · exact hpost r' hin hmatch

theorem IpRouteLongestMatch.singleton {c : IpRoute} (hc : dst &&& c.netmask = c.network) :
    IpRouteLongestMatch e [c] dst c :=
  ⟨hc, [], [], rfl, by simp, by simp⟩

/-- A matching route in front with a shorter netmask than every match that follows. -/
theorem IpRouteLongestMatch.cons_lt {routes : List IpRoute} {r c route : IpRoute}
    (h : IpRouteLongestMatch e (route :: routes) dst r) (hc : dst &&& c.netmask = c.network)
    (hroute : dst &&& route.netmask = route.network)
    (hlt : ntoh32 e c.netmask < ntoh32 e route.netmask) :
    IpRouteLongestMatch e (c :: route :: routes) dst r := by
  have hle := h.le_of_mem List.mem_cons_self hroute
  obtain ⟨hr, pre, post, hsplit, hpre, hpost⟩ := h
  refine ⟨hr, c :: pre, post, by rw [hsplit, List.cons_append], ?_, hpost⟩
  intro r' hr' hmatch
  rcases List.mem_cons.mp hr' with rfl | hr'
  · exact UInt32.lt_of_lt_of_le hlt hle
  · exact hpre r' hr' hmatch

/-- A route after the first that is not a longer match than the first. -/
theorem IpRouteLongestMatch.insert_second {routes : List IpRoute} {r c route : IpRoute}
    (h : IpRouteLongestMatch e (c :: routes) dst r) (hc : dst &&& c.netmask = c.network)
    (hroute : dst &&& route.netmask = route.network → ntoh32 e route.netmask ≤ ntoh32 e c.netmask) :
    IpRouteLongestMatch e (c :: route :: routes) dst r := by
  obtain ⟨hr, pre, post, hsplit, hpre, hpost⟩ := h
  cases pre with
  | nil =>
      -- the first route is the one picked
      obtain ⟨rfl, rfl⟩ := List.cons.inj hsplit
      refine ⟨hr, [], route :: routes, rfl, by simp, ?_⟩
      intro r' hr' hmatch
      rcases List.mem_cons.mp hr' with rfl | hr'
      · exact hroute hmatch
      · exact hpost r' hr' hmatch
  | cons c' pre =>
      obtain ⟨rfl, rfl⟩ := List.cons.inj hsplit
      have hclt : ntoh32 e c.netmask < ntoh32 e r.netmask := hpre c List.mem_cons_self hc
      refine ⟨hr, c :: route :: pre, post, rfl, ?_, hpost⟩
      intro r' hr' hmatch
      rcases List.mem_cons.mp hr' with rfl | hr'
      · exact hclt
      · rcases List.mem_cons.mp hr' with rfl | hr'
        · exact UInt32.lt_of_le_of_lt (hroute hmatch) hclt
        · exact hpre r' (List.mem_cons_of_mem _ hr') hmatch

/-- A route in front that does not match changes nothing. -/
theorem IpRouteLongestMatch.cons_of_not_match {routes : List IpRoute} {r route : IpRoute}
    (h : IpRouteLongestMatch e routes dst r) (hroute : dst &&& route.netmask ≠ route.network) :
    IpRouteLongestMatch e (route :: routes) dst r := by
  obtain ⟨hr, pre, post, rfl, hpre, hpost⟩ := h
  refine ⟨hr, route :: pre, post, rfl, ?_, hpost⟩
  intro r' hr' hmatch
  rcases List.mem_cons.mp hr' with rfl | hr'
  · exact absurd hmatch hroute
  · exact hpre r' hr' hmatch

/-- From a matching candidate, the loop ends at the longest match of the candidate and the routes. -/
theorem ipRouteLookupFrom_some :
    ∀ (routes : List IpRoute) (c : IpRoute), dst &&& c.netmask = c.network →
      ∃ r, ipRouteLookupFrom e routes dst (some c) = some r ∧
        IpRouteLongestMatch e (c :: routes) dst r
  | [], c, hc => ⟨c, rfl, IpRouteLongestMatch.singleton hc⟩
  | route :: routes, c, hc => by
      by_cases hroute : dst &&& route.netmask = route.network
      · by_cases hlt : ntoh32 e c.netmask < ntoh32 e route.netmask
        · -- a strictly longer netmask displaces the candidate
          have hstep : ipRouteLookupFrom e (route :: routes) dst (some c) =
              ipRouteLookupFrom e routes dst (some route) := by
            simp only [ipRouteLookupFrom, List.foldl_cons, if_pos hroute, if_pos hlt]
          obtain ⟨r, hr, hmatch⟩ := ipRouteLookupFrom_some routes route hroute
          exact ⟨r, by rw [hstep, hr], hmatch.cons_lt hc hroute hlt⟩
        · have hstep : ipRouteLookupFrom e (route :: routes) dst (some c) =
              ipRouteLookupFrom e routes dst (some c) := by
            simp only [ipRouteLookupFrom, List.foldl_cons, if_pos hroute, if_neg hlt]
          obtain ⟨r, hr, hmatch⟩ := ipRouteLookupFrom_some routes c hc
          exact ⟨r, by rw [hstep, hr], hmatch.insert_second hc fun _ => UInt32.not_lt.mp hlt⟩
      · have hstep : ipRouteLookupFrom e (route :: routes) dst (some c) =
            ipRouteLookupFrom e routes dst (some c) := by
          simp only [ipRouteLookupFrom, List.foldl_cons, if_neg hroute]
        obtain ⟨r, hr, hmatch⟩ := ipRouteLookupFrom_some routes c hc
        exact ⟨r, by rw [hstep, hr], hmatch.insert_second hc fun h => absurd h hroute⟩

/-- From no candidate, the loop finds nothing where no route matches, and the longest match otherwise. -/
theorem ipRouteLookupFrom_none :
    ∀ routes : List IpRoute,
      (ipRouteLookupFrom e routes dst none = none ∧ ∀ r ∈ routes, dst &&& r.netmask ≠ r.network) ∨
        ∃ r, ipRouteLookupFrom e routes dst none = some r ∧ IpRouteLongestMatch e routes dst r
  | [] => .inl ⟨rfl, by simp⟩
  | route :: routes => by
      by_cases hroute : dst &&& route.netmask = route.network
      · -- the first match becomes the candidate
        have hstep : ipRouteLookupFrom e (route :: routes) dst none =
            ipRouteLookupFrom e routes dst (some route) := by
          simp only [ipRouteLookupFrom, List.foldl_cons, if_pos hroute]
        obtain ⟨r, hr, hmatch⟩ := ipRouteLookupFrom_some routes route hroute
        exact .inr ⟨r, by rw [hstep, hr], hmatch⟩
      · have hstep : ipRouteLookupFrom e (route :: routes) dst none =
            ipRouteLookupFrom e routes dst none := by
          simp only [ipRouteLookupFrom, List.foldl_cons, if_neg hroute]
        rcases ipRouteLookupFrom_none routes with ⟨hnone, hall⟩ | ⟨r, hr, hmatch⟩
        · refine .inl ⟨by rw [hstep, hnone], ?_⟩
          intro r' hr'
          rcases List.mem_cons.mp hr' with rfl | hr'
          · exact hroute
          · exact hall r' hr'
        · exact .inr ⟨r, by rw [hstep, hr], hmatch.cons_of_not_match hroute⟩

end LongestMatch

/-- {lit}`ip_output` sends through the interface of the route the lookup picks, to its next hop or else to the destination. -/
theorem ipOutput_route {e : Endian} {routes : List IpRoute} {devMtu : IpIface → UInt16}
    {id : UInt16} {protocol : UInt8} {data : List UInt8} {src dst : IpAddr} {iface : IpIface}
    {nexthop : IpAddr} {datagram : List UInt8}
    (h : ipOutput e routes devMtu id protocol data src dst = some (iface, nexthop, datagram)) :
    ∃ r, ipRouteLookup e routes dst = some r ∧ iface = r.iface ∧
      nexthop = if r.nexthop ≠ IP_ADDR_ANY then r.nexthop else dst := by
  unfold ipOutput at h
  split at h
  · cases h
  · cases hr : ipRouteLookup e routes dst with
    | none =>
        rw [hr] at h
        cases h
    | some r =>
        rw [hr] at h
        dsimp only at h
        split at h
        · cases h
        · split at h
          · cases h
          · cases h
            exact ⟨r, rfl, rfl, rfl⟩

theorem ip_route_lookup_longest_prefix (e : Endian) (routes : List IpRoute) (dst : IpAddr) :
    (ipRouteLookup e routes dst = none ↔ ∀ r ∈ routes, dst &&& r.netmask ≠ r.network) ∧
      (∀ r, ipRouteLookup e routes dst = some r → IpRouteLongestMatch e routes dst r) ∧
      ∀ (devMtu : IpIface → UInt16) (id : UInt16) (protocol : UInt8) (data : List UInt8)
        (src : IpAddr) (iface : IpIface) (nexthop : IpAddr) (datagram : List UInt8),
        ipOutput e routes devMtu id protocol data src dst = some (iface, nexthop, datagram) →
          ∃ r, ipRouteLookup e routes dst = some r ∧ iface = r.iface ∧
            nexthop = if r.nexthop ≠ IP_ADDR_ANY then r.nexthop else dst := by
  rw [ipRouteLookup_eq_from]
  have hcases : (ipRouteLookupFrom e routes dst none = none ∧
      ∀ r ∈ routes, dst &&& r.netmask ≠ r.network) ∨
      ∃ r, ipRouteLookupFrom e routes dst none = some r ∧ IpRouteLongestMatch e routes dst r :=
    ipRouteLookupFrom_none routes
  refine ⟨?_, ?_, fun _ _ _ _ _ _ _ _ h => ipOutput_route h⟩
  · rcases hcases with ⟨hnone, hall⟩ | ⟨r, hr, hmatch⟩
    · exact ⟨fun _ => hall, fun _ => hnone⟩
    · rw [hr]
      refine ⟨fun h => ?_, fun hall => ?_⟩
      · cases h
      · -- the route found matches, so not every route fails to
        obtain ⟨hmatchr, pre, post, hsplit, -, -⟩ := hmatch
        exact absurd hmatchr (hall r (by rw [hsplit]; simp))
  · intro r hr
    rcases hcases with ⟨hnone, -⟩ | ⟨r', hr', hmatch⟩
    · rw [hnone] at hr
      cases hr
    · rw [hr'] at hr
      cases hr
      exact hmatch

/-! ## The broadcast address of an interface -/

theorem ipIfaceAlloc_ipAddrText (e : Endian) (u m : IpAddr) :
    ipIfaceAlloc e (ipAddrText e u) (ipAddrText e m) =
      some { unicast := u, netmask := m, broadcast := (u &&& m) ||| (if m = 0 then 1 else 0) } := by
  simp only [ipIfaceAlloc, ipAddrPton_ipAddrText]

/-- For every netmask but 0, the broadcast address {lit}`ip_iface_alloc` sets is the network address. -/
theorem ipIfaceAlloc_broadcast {e : Endian} {unicast netmask : List Char} {iface : IpIface}
    (h : ipIfaceAlloc e unicast netmask = some iface) (hm : iface.netmask ≠ 0) :
    iface.broadcast = iface.unicast &&& iface.netmask := by
  unfold ipIfaceAlloc at h
  cases hu : ipAddrPton e unicast with
  | none =>
      rw [hu] at h
      cases h
  | some u =>
      cases hmask : ipAddrPton e netmask with
      | none =>
          rw [hu, hmask] at h
          cases h
      | some m =>
          rw [hu, hmask] at h
          cases h
          dsimp only at hm ⊢
          rw [if_neg hm, UInt32.or_zero]

/-- 192.0.2.1 with netmask 255.255.255.0, as a little-endian host holds them, and the broadcast address {lit}`ip_iface_alloc` gives it. -/
def ipIfaceDoc : IpIface :=
  ⟨0x010200c0, 0x00ffffff, 0x000200c0⟩

/-- An empty UDP datagram from 192.0.2.2 to {lit}`dst`. -/
def ipDatagramDocTo (dst : IpAddr) : List UInt8 :=
  ipOutputCore .little IP_PROTOCOL_UDP [] 0x020200c0 dst 0 0

/--
The interface 192.0.2.1/24 gets the broadcast address 192.0.2.0, so
{lit}`ip_input` drops a datagram to the subnet's broadcast address
192.0.2.255 and accepts one to the network address.
-/
theorem ip_iface_broadcast_network_address :
    ipAddrText .little 0x010200c0 = ['1', '9', '2', '.', '0', '.', '2', '.', '1'] ∧
      ipAddrText .little 0x00ffffff =
        ['2', '5', '5', '.', '2', '5', '5', '.', '2', '5', '5', '.', '0'] ∧
      ipIfaceAlloc .little (ipAddrText .little 0x010200c0) (ipAddrText .little 0x00ffffff) =
        some ipIfaceDoc ∧
      ipAddrText .little ipIfaceDoc.broadcast = ['1', '9', '2', '.', '0', '.', '2', '.', '0'] ∧
      ipAddrText .little 0xff0200c0 = ['1', '9', '2', '.', '0', '.', '2', '.', '2', '5', '5'] ∧
      ipInput .little [(⟨IP_PROTOCOL_UDP, 17⟩ : IpProtocol Nat)] (some ipIfaceDoc)
          (ipDatagramDocTo 0xff0200c0) = none ∧
      (ipInput .little [(⟨IP_PROTOCOL_UDP, 17⟩ : IpProtocol Nat)] (some ipIfaceDoc)
          (ipDatagramDocTo 0x000200c0)).isSome := by
  refine ⟨by decide, by decide, ?_, by decide, by decide, by decide, by decide⟩
  rw [ipIfaceAlloc_ipAddrText]
  decide

/--
An interface {lit}`ip_iface_alloc` made with a netmask other than 0 takes,
of the datagrams that pass the other checks of {lit}`ip_input`, exactly those
addressed to its unicast address, to 255.255.255.255, or to its network
address.
-/
theorem ip_iface_accepts {H : Type} (e : Endian) {unicast netmask : List Char} {iface : IpIface}
    (halloc : ipIfaceAlloc e unicast netmask = some iface) (hm : iface.netmask ≠ 0)
    {protocols : List (IpProtocol H)} {data : List UInt8} {iface' : IpIface} {d' : IpDelivery H}
    (h' : ipInput e protocols (some iface') data = some d') :
    (ipInput e protocols (some iface) data).isSome ↔
      ((IpHdr.read e data).dst = iface.unicast ∨ (IpHdr.read e data).dst = IP_ADDR_BROADCAST ∨
        (IpHdr.read e data).dst = iface.unicast &&& iface.netmask) := by
  rw [ipInput_isSome_iff_dst h' iface, ipIfaceAlloc_broadcast halloc hm]

/-- The datagram to 192.0.2.255 that an interface with that broadcast address takes is dropped by the interface of {lit}`ip_iface_alloc`. -/
theorem ip_iface_accepts_doc :
    (ipInput .little [(⟨IP_PROTOCOL_UDP, 17⟩ : IpProtocol Nat)] (some ⟨0x010200c0, 0x00ffffff, 0xff0200c0⟩)
        (ipDatagramDocTo 0xff0200c0)).isSome = true ∧
      (ipInput .little [(⟨IP_PROTOCOL_UDP, 17⟩ : IpProtocol Nat)] (some ipIfaceDoc)
        (ipDatagramDocTo 0xff0200c0)).isSome = false := by
  have halloc : ipIfaceAlloc .little (ipAddrText .little 0x010200c0) (ipAddrText .little 0x00ffffff) =
      some ipIfaceDoc := by
    rw [ipIfaceAlloc_ipAddrText]
    decide
  have hsome : (ipInput .little [(⟨IP_PROTOCOL_UDP, 17⟩ : IpProtocol Nat)]
      (some ⟨0x010200c0, 0x00ffffff, 0xff0200c0⟩) (ipDatagramDocTo 0xff0200c0)).isSome = true := by
    decide
  have hiff := ip_iface_accepts .little halloc (by decide) (Option.some_get hsome).symm
  refine ⟨hsome, Bool.eq_false_iff.mpr fun h => ?_⟩
  -- 192.0.2.255 is none of 192.0.2.1, 255.255.255.255 and 192.0.2.0
  have hdst := hiff.mp h
  revert hdst
  decide

end ProtocolStack
